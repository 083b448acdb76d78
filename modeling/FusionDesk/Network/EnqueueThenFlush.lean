import FusionDesk.Network.NetworkManagerRuns

/-!
# Flushing the packet just enqueued

The modules send a packet by an `enqueue` and a `flushPacket` of it.  The flush looks the packet up
twice, under the priority it carries and under that of its default options, and compares eight
fields of the header: a packet queued earlier that agrees on them is taken in its place.

* `takeQueued_eq`: the lookups come to one, in the queue the packet was put in.
* `flushesEnqueued_iff`: the flush takes the packet itself, and nothing else moves, exactly when
  from the first packet that agrees on, the queue holds copies of it only.
* `enqueue_then_flush`: that at every step of every run.
-/

namespace FusionDesk
namespace Network

open Protocol Lanes PriorityScheduler

namespace NetworkManager

/-! ## The two lookups -/

theorem matchesPacket_self (packet : PacketEnvelope) : matchesPacket packet packet := by
  simp [matchesPacket]

/-- The priority is not compared. -/
theorem matchesPacket_effective (packet : PacketEnvelope) :
    matchesPacket (effective packet) = matchesPacket packet := rfl

theorem packetType_of_matches {packet queued : PacketEnvelope} (h : matchesPacket packet queued) :
    queued.packetType = packet.packetType := by
  unfold matchesPacket at h
  simp only [Bool.and_eq_true, beq_iff_eq] at h
  obtain ⟨⟨⟨⟨⟨⟨-, htype⟩, -⟩, -⟩, -⟩, -⟩, -⟩ := h
  exact htype

/-- Away from the clipboard the queue of the default options depends on the type alone. -/
theorem effectiveIndex_congr {packet queued : PacketEnvelope}
    (htype : queued.packetType = packet.packetType) (hclipboard : packet.packetType ≠ .clipboard) :
    effectiveIndex queued = effectiveIndex packet := by
  have hbulk : ∀ priority : PacketPriority,
      ¬ (packet.packetType = .clipboard ∧ priority = .bulk) := fun _ h => hclipboard h.1
  unfold effectiveIndex defaultSendOptions
  rw [htype, if_neg (hbulk _), if_neg (hbulk _)]

theorem effectiveIndex_clipboard {packet : PacketEnvelope} (h : packet.packetType = .clipboard) :
    effectiveIndex packet =
      if packet.priority = .bulk then priorityIndex .bulk else priorityIndex .interactive := by
  unfold effectiveIndex defaultSendOptions
  rw [h, if_neg (by decide), if_neg (by decide)]
  by_cases hbulk : packet.priority = .bulk
  · rw [if_pos ⟨rfl, hbulk⟩, if_pos hbulk]
  · rw [if_neg fun h => hbulk h.2, if_neg hbulk, if_pos (by decide)]

/-- The bulk queue is not shared. -/
theorem eq_bulk_of_priorityIndex {priority : PacketPriority}
    (h : priorityIndex .bulk = priorityIndex priority) : priority = .bulk := by
  obtain ⟨raw⟩ := priority
  have hval : 4 = (priorityIndex ⟨raw⟩).val := congrArg Fin.val h
  unfold priorityIndex at hval
  by_cases hraw : raw.toNat < kPriorityCount
  · rw [dif_pos hraw] at hval
    exact congrArg PacketPriority.mk (UInt8.toNat_inj.mp hval.symm)
  · rw [dif_neg hraw] at hval
    exact absurd hval (by decide)

/-- What the first lookup finds is in the queue of the default options. -/
theorem effectiveIndex_of_found {packet queued : PacketEnvelope}
    (hlane : effectiveIndex queued = priorityIndex packet.priority)
    (htype : queued.packetType = packet.packetType) :
    effectiveIndex packet = priorityIndex packet.priority := by
  by_cases hclipboard : packet.packetType = .clipboard
  · rw [effectiveIndex_clipboard (htype.trans hclipboard)] at hlane
    rw [effectiveIndex_clipboard hclipboard]
    by_cases hbulk : packet.priority = .bulk
    · rw [if_pos hbulk, hbulk]
    · rw [if_neg hbulk]
      by_cases hqueued : queued.priority = .bulk
      · rw [if_pos hqueued] at hlane
        exact absurd (eq_bulk_of_priorityIndex hlane) hbulk
      · rw [if_neg hqueued] at hlane
        exact hlane
  · rw [← hlane]
    exact (effectiveIndex_congr htype hclipboard).symm

/-- **The two lookups come to one**, in the queue of the default options. -/
theorem takeQueued_eq {manager : NetworkManager} (h : manager.LanesAgree)
    (packet : PacketEnvelope) :
    takeQueued manager.scheduler packet = manager.scheduler.takePacket (effective packet) := by
  rcases takeQueued_cases manager.scheduler packet with ⟨htake, hfound⟩ | ⟨htake, -⟩
  · rw [htake]
    rcases manager.scheduler.takePacket_cases packet with
      ⟨hnone, -⟩ | ⟨found, front, back, hlane, hmatches, -, -⟩
    · rw [hnone] at hfound
      exact absurd rfl hfound
    · have hqueued : found ∈ manager.scheduler.queues (priorityIndex packet.priority) := by
        rw [hlane]
        exact List.mem_append_right _ List.mem_cons_self
      have hindex := effectiveIndex_of_found (h _ found hqueued) (packetType_of_matches hmatches)
      show manager.scheduler.eraseFirst (priorityIndex packet.priority) (matchesPacket packet) =
        manager.scheduler.eraseFirst (effectiveIndex packet) (matchesPacket (effective packet))
      rw [hindex, matchesPacket_effective]
  · exact htake

/-! ## The packet and the queue it was put in -/

/-- A packet that gets in is the last of its queue. -/
theorem queues_enqueue_self {scheduler : PriorityScheduler} {packet : PacketEnvelope}
    {options : SendOptions} (h : (scheduler.enqueue packet options).1.status = .queued) :
    packet ∈ (scheduler.enqueue packet options).2.queues (priorityIndex options.priority) := by
  have houtcome := scheduler.enqueue_outcome packet options
  generalize (scheduler.enqueue packet options).1 = result,
    (scheduler.enqueue packet options).2 = after at houtcome h ⊢
  cases houtcome with
  | refused full kept status => exact absurd h (refused_ne_queued status)
  | appended => simp
  | replaced => simp

/-- A list is its own beginning behind `a` exactly when it holds `a` only. -/
theorem eq_dropLast_cons_iff {α : Type*} {a : α} {l : List α} :
    l = (a :: l).dropLast ↔ ∀ b ∈ l, b = a := by
  induction l with
  | nil => simp
  | cons b l ih =>
    rw [List.dropLast_cons_cons, List.cons.injEq, List.forall_mem_cons]
    refine and_congr_right fun hb => ?_
    rw [hb, ih]

/-- The step does not enqueue a packet that gets in, or a flush of it takes that packet and leaves
every other one in its place. -/
def FlushesEnqueued (manager : NetworkManager) (moment : Transport × ManagerOp) : Prop :=
  ∀ packet, moment.2 = .enqueue packet → (manager.enqueue packet).1.status = .queued →
    ∀ transport,
      let after := (manager.enqueue packet).2
      let flush := after.flushPacket transport packet
      flush.packet = some packet ∧
        flush.manager.scheduler.queues =
          Function.update after.scheduler.queues (effectiveIndex packet)
            (after.scheduler.queues (effectiveIndex packet)).dropLast

/-- From the first packet that agrees with the one the step enqueues on, its queue then holds copies
of it only. -/
def CopiesOnly (manager : NetworkManager) (moment : Transport × ManagerOp) : Prop :=
  ∀ packet, moment.2 = .enqueue packet → (manager.enqueue packet).1.status = .queued →
    ∀ queued ∈ ((manager.enqueue packet).2.scheduler.queues (effectiveIndex packet)).dropWhile
        (fun queued => !matchesPacket packet queued), queued = packet

/-- **When the flush takes the packet just enqueued**, at one step. -/
theorem flushesEnqueued_iff {manager : NetworkManager} (h : manager.LanesAgree)
    (moment : Transport × ManagerOp) :
    manager.FlushesEnqueued moment ↔ manager.CopiesOnly moment := by
  refine forall_congr' fun packet => imp_congr_right fun hop => imp_congr_right fun hqueued => ?_
  have hlanes : (manager.enqueue packet).2.LanesAgree := h.step (.allOpen, .enqueue packet)
  have hself : packet ∈ (manager.enqueue packet).2.scheduler.queues (effectiveIndex packet) := by
    by_cases hvalid : (manager.registry.validatePacket packet).ok
    · rw [enqueue_of_valid hvalid] at hqueued ⊢
      exact queues_enqueue_self hqueued
    · rw [enqueue_of_not_valid hvalid] at hqueued
      cases hqueued
  generalize (manager.enqueue packet).2 = after at hlanes hself ⊢
  rcases after.scheduler.takePacket_cases (effective packet) with
    ⟨-, hnone⟩ | ⟨found, front, back, hlane, hmatches, hfront, htake⟩
  · exact absurd (matchesPacket_self packet) (hnone packet hself)
  · have hflush : ∀ transport, (after.flushPacket transport packet) =
        after.sendTaken transport found
          ⟨Function.update after.scheduler.queues (effectiveIndex packet) (front ++ back)⟩ := by
      intro transport
      unfold flushPacket
      rw [takeQueued_eq hlanes, htake]
      rfl
    rw [matchesPacket_effective] at hmatches hfront
    change after.scheduler.queues (effectiveIndex packet) = front ++ found :: back at hlane
    have hdrop : (after.scheduler.queues (effectiveIndex packet)).dropWhile
        (fun queued => !matchesPacket packet queued) = found :: back := by
      rw [hlane, List.dropWhile_append_of_pos fun queued hq => by simpa using hfront queued hq,
        List.dropWhile_cons_of_neg (by simpa using hmatches)]
    have hlast : (after.scheduler.queues (effectiveIndex packet)).dropLast =
        front ++ (found :: back).dropLast := by
      rw [hlane, List.dropLast_append_cons]
    rw [hdrop, List.forall_mem_cons]
    simp only [hflush, hlast]
    constructor
    · intro hall
      obtain ⟨hpacket, hqueues⟩ := hall .allOpen
      obtain rfl := Option.some.inj hpacket
      have hback : front ++ back = front ++ (found :: back).dropLast :=
        Function.update_injective after.scheduler.queues (effectiveIndex found) hqueues
      exact ⟨rfl, eq_dropLast_cons_iff.mp (List.append_cancel_left hback)⟩
    · rintro ⟨rfl, hcopies⟩ transport
      rw [← eq_dropLast_cons_iff.mpr hcopies]
      exact ⟨rfl, rfl⟩

/-! ## Every step of every run -/

/-- **An `enqueue` and a flush send the packet** exactly when nothing queued earlier is taken for
it: the two come to the same at every step of every run, and so they do for the whole of it. -/
theorem enqueue_then_flush (capabilities : NegotiatedCapabilities)
    (moments : List (Transport × ManagerOp)) :
    Runs.EveryStep step
        (fun manager moment => manager.FlushesEnqueued moment ↔ manager.CopiesOnly moment)
        (make capabilities) moments ∧
      (Runs.EveryStep step FlushesEnqueued (make capabilities) moments ↔
        Runs.EveryStep step CopiesOnly (make capabilities) moments) := by
  have hsteps : Runs.EveryStep step
      (fun manager moment => manager.FlushesEnqueued moment ↔ manager.CopiesOnly moment)
      (make capabilities) moments :=
    Runs.everyStep_of_forall (C := fun _ => True) (lanesAgree_make capabilities)
      (fun _ moment h _ => h.step moment) (fun _ moment h _ => flushesEnqueued_iff h moment)
      fun _ _ => trivial
  exact ⟨hsteps, Runs.everyStep_congr hsteps⟩

/-- Two heartbeats that differ in their payload: the flush of the second sends the first. -/
theorem flushPacket_sends_earlier :
    let first := { heartbeat with payload := [1] }
    let second := { heartbeat with payload := [2] }
    let manager := run ⟨[.control], [.heartbeat], [.event]⟩
      (bringUp [makeControlSpec] ++ [(.allOpen, .enqueue first)])
    let after := (manager.enqueue second).2
    let flush := after.flushPacket .allOpen second
    (manager.enqueue second).1.status = .queued ∧ flush.packet = some first ∧ first ≠ second ∧
      flush.manager.scheduler.queues (effectiveIndex second) = [second] := by
  decide +kernel

end NetworkManager
end Network
end FusionDesk
