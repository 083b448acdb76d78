import FusionDesk.Network.NetworkManagerRuns

/-!
# Video against the side traffic of its channel

The screen channel carries video frames next to acknowledgements, cursor changes and watermarks.  A
frame is enqueued with a depth of two and may push out the oldest frame that is no key frame, so
what is left to refuse it should be key frames only.

The depth counts every packet of the channel, whatever its priority, while the packet to push out is
looked for in the realtime queue, which holds the video frames and nothing else
(`effectiveIndex_eq_realtime_iff`).  Two packets of the side traffic therefore refuse every frame.

* `rejected_video_iff`: when a frame is refused.
* `video_admitted`: at every step of every run, frames are refused by key frames only exactly when
  the side traffic leaves room.
-/

namespace FusionDesk
namespace Network

open Protocol Lanes PriorityScheduler

namespace NetworkManager

/-! ## When a frame is refused -/

/-- The realtime queue is the one of the video frames. -/
theorem effectiveIndex_eq_realtime_iff (packet : PacketEnvelope) :
    effectiveIndex packet = priorityIndex .realtime ↔ packet.packetType = .video := by
  unfold effectiveIndex defaultSendOptions
  split_ifs with hcritical hvideo hbulk hinteractive hbulkType
  · refine iff_of_false (by decide) ?_
    intro hvideo
    rw [hvideo] at hcritical
    revert hcritical
    decide
  · exact iff_of_true rfl hvideo
  · exact iff_of_false (by decide) hvideo
  · exact iff_of_false (by decide) hvideo
  · exact iff_of_false (by decide) hvideo
  · exact iff_of_false (by decide) hvideo

/-- The default options of a video frame. -/
theorem defaultSendOptions_video {packet : PacketEnvelope} (h : packet.packetType = .video) :
    defaultSendOptions packet =
      { priority := .realtime, dropPolicy := .keepLatestNonKeyFrame, maxQueueDepth := 2 } := by
  unfold defaultSendOptions
  rw [h, if_neg (by decide), if_pos rfl]

/-- A packet of the channel that is queued, at any priority. -/
def QueuedOn (manager : NetworkManager) (key : ChannelKey) (queued : PacketEnvelope) : Prop :=
  keyOf queued = key ∧ ∃ index, queued ∈ manager.scheduler.queues index

def IsKeyFrame (packet : PacketEnvelope) : Prop := hasFlag packet.flags packetFlagKeyFrame

/-- **When a frame is refused**: two packets of its channel are queued, and the frames among them
are key frames. -/
theorem rejected_video_iff {manager : NetworkManager} (hlanes : manager.LanesAgree)
    {packet : PacketEnvelope} (hvideo : packet.packetType = .video)
    (hvalid : (manager.registry.validatePacket packet).ok) :
    (manager.enqueue packet).1.status = .rejected ↔
      2 ≤ manager.scheduler.queuedCount (keyOf packet) ∧
        ∀ queued, manager.QueuedOn (keyOf packet) queued → queued.packetType = .video →
          IsKeyFrame queued := by
  have hoptions := defaultSendOptions_video hvideo
  rw [enqueue_of_valid hvalid, rejected_enqueue_iff _ _ (by rw [hoptions]; simp), hoptions]
  constructor
  · rintro ⟨hfull, hkept⟩
    refine ⟨hfull.2, ?_⟩
    rintro queued ⟨hkey, index, hqueued⟩ hqueuedVideo
    have hindex : index = priorityIndex .realtime := by
      rw [← hlanes index queued hqueued]
      exact (effectiveIndex_eq_realtime_iff queued).mpr hqueuedVideo
    have hnot := hkept queued (hindex ▸ hqueued)
    simpa [droppable, hkey, IsKeyFrame] using hnot
  · rintro ⟨hcount, hkey⟩
    refine ⟨⟨by decide, hcount⟩, ?_⟩
    intro queued hqueued hgoes
    have hsame := keyOf_of_droppable hgoes
    have hqueuedVideo : queued.packetType = .video := by
      rw [← effectiveIndex_eq_realtime_iff]
      exact hlanes _ queued hqueued
    have hframe := hkey queued ⟨hsame, _, hqueued⟩ hqueuedVideo
    have hnot := (Bool.and_eq_true_iff.mp hgoes).2
    unfold IsKeyFrame at hframe
    rw [hframe] at hnot
    cases hnot

/-! ## Every step of every run -/

/-- The step does not enqueue a video frame that is refused, unless what is queued on its channel
are key frames. -/
def VideoAdmitted (manager : NetworkManager) (moment : Transport × ManagerOp) : Prop :=
  ∀ packet, moment.2 = .enqueue packet → packet.packetType = .video →
    (manager.registry.validatePacket packet).ok → (manager.enqueue packet).1.status = .rejected →
      ∀ queued, manager.QueuedOn (keyOf packet) queued →
        queued.packetType = .video ∧ IsKeyFrame queued

/-- When the step enqueues a video frame, its channel has fewer than two packets queued, or a frame
among them that may go, or nothing but frames. -/
def SideTrafficLeavesRoom (manager : NetworkManager) (moment : Transport × ManagerOp) : Prop :=
  ∀ packet, moment.2 = .enqueue packet → packet.packetType = .video →
    (manager.registry.validatePacket packet).ok →
      manager.scheduler.queuedCount (keyOf packet) < 2 ∨
        (∃ queued, manager.QueuedOn (keyOf packet) queued ∧ queued.packetType = .video ∧
          ¬ IsKeyFrame queued) ∨
        ∀ queued, manager.QueuedOn (keyOf packet) queued → queued.packetType = .video

theorem videoAdmitted_iff {manager : NetworkManager} (hlanes : manager.LanesAgree)
    (moment : Transport × ManagerOp) :
    manager.VideoAdmitted moment ↔ manager.SideTrafficLeavesRoom moment := by
  constructor
  · intro h packet hop hvideo hvalid
    by_contra hno
    rw [not_or, not_or] at hno
    obtain ⟨hcount, hstale, hside⟩ := hno
    have hkeys : ∀ queued, manager.QueuedOn (keyOf packet) queued → queued.packetType = .video →
        IsKeyFrame queued := by
      intro queued hqueued hqueuedVideo
      by_contra hframe
      exact hstale ⟨queued, hqueued, hqueuedVideo, hframe⟩
    have hrejected := (rejected_video_iff hlanes hvideo hvalid).mpr ⟨Nat.le_of_not_lt hcount, hkeys⟩
    exact hside fun queued hqueued => (h packet hop hvideo hvalid hrejected queued hqueued).1
  · intro h packet hop hvideo hvalid hrejected queued hqueued
    obtain ⟨hcount, hkeys⟩ := (rejected_video_iff hlanes hvideo hvalid).mp hrejected
    rcases h packet hop hvideo hvalid with hfew | ⟨stale, hstale, hstaleVideo, hframe⟩ | hall
    · exact absurd hfew (Nat.not_lt.mpr hcount)
    · exact absurd (hkeys stale hstale hstaleVideo) hframe
    · exact ⟨hall queued hqueued, hkeys queued hqueued (hall queued hqueued)⟩

/-- **Video is refused by key frames only exactly when the side traffic leaves room**: the two come
to the same at every step of every run, so a run refuses no frame otherwise exactly when all its
steps leave room. -/
theorem video_admitted (capabilities : NegotiatedCapabilities)
    (moments : List (Transport × ManagerOp)) :
    Runs.EveryStep step
        (fun manager moment => manager.VideoAdmitted moment ↔ manager.SideTrafficLeavesRoom moment)
        (make capabilities) moments ∧
      (Runs.EveryStep step VideoAdmitted (make capabilities) moments ↔
        Runs.EveryStep step SideTrafficLeavesRoom (make capabilities) moments) := by
  have hsteps : Runs.EveryStep step
      (fun manager moment => manager.VideoAdmitted moment ↔ manager.SideTrafficLeavesRoom moment)
      (make capabilities) moments :=
    Runs.everyStep_of_forall (C := fun _ => True) (lanesAgree_make capabilities)
      (fun _ moment h _ => h.step moment) (fun _ moment h _ => videoAdmitted_iff h moment)
      fun _ _ => trivial
  exact ⟨hsteps, Runs.everyStep_congr hsteps⟩

/-- Two cursor changes are queued, and the first video frame of all is refused. -/
theorem video_refused_by_cursors :
    let cursor : PacketEnvelope :=
      { channelId := ChannelIdValue.desktopScreen, channelType := .video,
        packetType := .cursorChange }
    let frame : PacketEnvelope :=
      { channelId := ChannelIdValue.desktopScreen, channelType := .video, packetType := .video }
    let manager := run ⟨[.video], [.video, .cursorChange], [.event]⟩
      (bringUp defaultMvpChannelSpecs ++
        [(.allOpen, .enqueue cursor), (.allOpen, .enqueue cursor)])
    (manager.registry.validatePacket frame).ok ∧ manager.QueuedOn (keyOf frame) cursor ∧
      cursor.packetType ≠ .video ∧ (manager.enqueue frame).1.status = .rejected := by
  intro cursor frame manager
  refine ⟨by decide +kernel, ⟨rfl, priorityIndex .normal, by decide +kernel⟩, by decide,
    by decide +kernel⟩

end NetworkManager
end Network
end FusionDesk
