import FusionDesk.Network.NetworkManagerRuns

/-!
# Readiness at the moment of a flush

A packet is validated when it is enqueued, and from then on its channel may degrade, fail or be
unbound while it waits.  `writeTransportBytes` validates the packet it writes; a flush does not, and
the router it sends by keeps the instances the registry has let go of.

* `sentWhenReady_iff`: a flush hands its packet to an instance that is bound to a ready channel
  exactly when the packet it takes is of a ready channel, or of one the router cannot reach.
* `ready_egress`: that at every step of every run; and it holds throughout when no channel stops
  being ready while packets of it are queued.
-/

namespace FusionDesk
namespace Network

open Protocol Lanes PriorityScheduler

namespace NetworkManager

/-- The step hands no packet to an instance, or one whose channel is ready, and to the instance the
registry has bound. -/
def SentWhenReady (manager : NetworkManager) (moment : Transport × ManagerOp) : Prop :=
  ∀ flush, manager.flush moment.1 moment.2 = some flush →
    ∀ packet channel, flush.packet = some packet → flush.sentTo = some channel →
      manager.registry.isReady (keyOf packet) ∧
        ∃ entry, manager.registry.find (keyOf packet) = some entry ∧ entry.channel = some channel

/-- The packet a flush is about to take is of a ready channel, or of one whose instance the router
does not have or finds closed. -/
def TakesReady (manager : NetworkManager) (moment : Transport × ManagerOp) : Prop :=
  ∀ packet, manager.wouldTake moment.2 = some packet →
    manager.registry.isReady (keyOf packet) ∨
      ∀ channel, manager.router.channels[keyOf packet]? = some channel →
        ¬ moment.1.isOpen channel

/-- No channel stops being ready while packets of it are queued. -/
def ReadyWhileQueued (manager : NetworkManager) (moment : Transport × ManagerOp) : Prop :=
  ∀ key, manager.registry.isReady key → ¬ (manager.step moment).registry.isReady key →
    manager.scheduler.queuedCount key = 0

/-! ## One step -/

/-- The instance a packet is handed to. -/
theorem send_sentTo_iff (router : NetworkRouter) (transport : Transport)
    (packet : PacketEnvelope) (channel : IChannel) :
    (router.send transport packet).2 = some channel ↔
      router.channels[keyOf packet]? = some channel ∧ transport.isOpen channel := by
  unfold NetworkRouter.send
  cases hfind : router.channels[keyOf packet]? with
  | none => simp
  | some held =>
    by_cases hopen : transport.isOpen held
    · simp only [if_neg (not_not.mpr hopen), Option.some_inj]
      exact ⟨fun h => ⟨h, h ▸ hopen⟩, fun h => h.1⟩
    · simp only [if_pos hopen, Option.some_inj]
      refine iff_of_false (by simp) ?_
      rintro ⟨rfl, hopen'⟩
      exact hopen hopen'

/-- **When a packet is sent while its channel is ready**, at one step. -/
theorem sentWhenReady_iff {manager : NetworkManager} (h : manager.TablesAgree)
    (moment : Transport × ManagerOp) :
    manager.SentWhenReady moment ↔ manager.TakesReady moment := by
  obtain ⟨transport, op⟩ := moment
  constructor
  · intro hsent packet htake
    rw [or_iff_not_imp_right]
    intro hreached
    obtain ⟨channel, hreached⟩ := not_forall.mp hreached
    obtain ⟨hheld, hopen⟩ := Classical.not_imp.mp hreached
    obtain ⟨flush, hflush, hpacket⟩ := exists_flush_of_wouldTake htake transport
    refine (hsent flush hflush packet channel hpacket ?_).1
    obtain ⟨-, -, ⟨hnone, -⟩ | ⟨taken, index, front, back, -, rfl⟩⟩ := flush_cases hflush
    · rw [hnone] at hpacket
      cases hpacket
    · obtain rfl := Option.some.inj hpacket
      exact (send_sentTo_iff _ _ _ _).mpr ⟨hheld, not_not.mp hopen⟩
  · intro htakes flush hflush packet channel hpacket hchannel
    obtain ⟨-, htake, ⟨hnone, -⟩ | ⟨taken, index, front, back, -, rfl⟩⟩ := flush_cases hflush
    · rw [hnone] at hpacket
      cases hpacket
    · obtain rfl := Option.some.inj hpacket
      obtain ⟨hheld, hopen⟩ := (send_sentTo_iff _ _ _ _).mp hchannel
      have hready : manager.registry.isReady (keyOf taken) := by
        rcases htakes taken htake.symm with hready | hclosed
        · exact hready
        · exact absurd hopen (hclosed channel hheld)
      obtain ⟨entry, bound, hfind, hbound, hrouter⟩ := h.of_isReady hready
      refine ⟨hready, entry, hfind, ?_⟩
      rw [hbound, ← hrouter, hheld]

/-! ## Channels that stay ready while they have packets queued -/

/-- The channels of the queued packets are ready. -/
def QueuedReady (manager : NetworkManager) : Prop :=
  ∀ index, ∀ queued ∈ manager.scheduler.queues index, manager.registry.isReady (keyOf queued)

/-- A packet in a queue counts. -/
theorem queuedCount_ne_zero {scheduler : PriorityScheduler} {index : Fin kPriorityCount}
    {queued : PacketEnvelope} (h : queued ∈ scheduler.queues index) :
    scheduler.queuedCount (keyOf queued) ≠ 0 := by
  intro hzero
  exact countIn_eq_zero_iff.mp hzero index queued h (beq_self_eq_true _)

theorem QueuedReady.step {manager : NetworkManager} (h : manager.QueuedReady)
    {moment : Transport × ManagerOp} (hready : manager.ReadyWhileQueued moment) :
    (manager.step moment).QueuedReady := by
  have hold : ∀ index, ∀ queued ∈ manager.scheduler.queues index,
      (manager.step moment).registry.isReady (keyOf queued) := by
    intro index queued hqueued
    by_contra hnot
    exact queuedCount_ne_zero hqueued (hready _ (h index queued hqueued) hnot)
  intro index queued hqueued
  rcases manager.step_scheduler moment with hsub | ⟨packet, henqueue, hvalid, hscheduler⟩
  · exact hold index queued ((hsub index).subset hqueued)
  · rw [hscheduler] at hqueued
    rcases manager.scheduler.mem_queues_enqueue hqueued with hqueued | ⟨rfl, -⟩
    · exact hold index queued hqueued
    · -- the packet that got in was validated, and its pressure changes no readiness
      obtain ⟨transport, op⟩ := moment
      obtain rfl : op = .enqueue queued := henqueue
      rw [step_enqueue, enqueue_of_valid hvalid]
      dsimp only
      rw [ChannelRegistry.isReady_updatePressure]
      exact ChannelRegistry.isReady_of_validatePacket hvalid

/-- A flush takes a queued packet. -/
theorem QueuedReady.takesReady {manager : NetworkManager} (h : manager.QueuedReady)
    (moment : Transport × ManagerOp) : manager.TakesReady moment := by
  intro packet htake
  obtain ⟨flush, hflush, hpacket⟩ := exists_flush_of_wouldTake htake moment.1
  obtain ⟨-, -, ⟨hnone, -⟩ | ⟨taken, index, front, back, hlane, rfl⟩⟩ := flush_cases hflush
  · rw [hnone] at hpacket
    cases hpacket
  · obtain rfl := Option.some.inj hpacket
    refine Or.inl (h index taken ?_)
    rw [hlane]
    exact List.mem_append_right _ List.mem_cons_self

theorem queuedReady_make (capabilities : NegotiatedCapabilities) :
    (make capabilities).QueuedReady := by
  intro index queued hqueued
  cases hqueued

/-! ## Every step of every run -/

/-- **Egress and readiness.**  At every step of every run of the manager's own operations a packet
is sent by a bound instance of a ready channel exactly when the packet the flush takes is of a ready
channel or goes nowhere, so the whole run does exactly when all its steps do; and the runs in which
no channel stops being ready while packets of it are queued are among them. -/
theorem ready_egress (capabilities : NegotiatedCapabilities)
    (moments : List (Transport × ManagerOp)) (hkeeps : ∀ moment ∈ moments, KeepsTables moment) :
    Runs.EveryStep step
        (fun manager moment => manager.SentWhenReady moment ↔ manager.TakesReady moment)
        (make capabilities) moments ∧
      (Runs.EveryStep step SentWhenReady (make capabilities) moments ↔
        Runs.EveryStep step TakesReady (make capabilities) moments) ∧
      (Runs.EveryStep step ReadyWhileQueued (make capabilities) moments →
        Runs.EveryStep step SentWhenReady (make capabilities) moments) := by
  have hsteps : Runs.EveryStep step
      (fun manager moment => manager.SentWhenReady moment ↔ manager.TakesReady moment)
      (make capabilities) moments :=
    Runs.everyStep_of_forall (I := TablesAgree) (C := KeepsTables) (tablesAgree_make capabilities)
      (fun _ _ h hkeep => h.step hkeep) (fun _ moment h _ => sentWhenReady_iff h moment) hkeeps
  refine ⟨hsteps, Runs.everyStep_congr hsteps, fun hquiet => ?_⟩
  rw [Runs.everyStep_congr hsteps]
  exact Runs.everyStep_of_invariant (I := QueuedReady) (C := KeepsTables)
    (queuedReady_make capabilities) (fun _ _ h _ hready => h.step hready)
    (fun _ moment h _ _ => h.takesReady moment) hkeeps hquiet

/-- A heartbeat enqueued on a ready channel, and a flush. -/
def heartbeatRun : List (Transport × ManagerOp) :=
  bringUp [makeControlSpec] ++ [(.allOpen, .enqueue heartbeat), (.allOpen, .flushNext)]

theorem ready_egress_heartbeat :
    (∀ moment ∈ heartbeatRun, KeepsTables moment) ∧
      (Runs.EveryStep step SentWhenReady (make ⟨[.control], [.heartbeat], [.event]⟩)
          heartbeatRun ↔
        Runs.EveryStep step TakesReady (make ⟨[.control], [.heartbeat], [.event]⟩)
          heartbeatRun) := by
  have hkeeps : ∀ moment ∈ heartbeatRun, KeepsTables moment := by
    simp [heartbeatRun, bringUp, KeepsTables]
  exact ⟨hkeeps, (ready_egress _ _ hkeeps).2.1⟩

/-- The channel has degraded while the heartbeat was waiting, and the flush sends it. -/
theorem degraded_channel_sends :
    let manager := run ⟨[.control], [.heartbeat], [.event]⟩
      (bringUp [makeControlSpec] ++ [(.allOpen, .enqueue heartbeat),
        (.allOpen, .markDegraded (keyOf heartbeat) "socket failed")])
    let flush := manager.flushNext .allOpen
    flush.packet = some heartbeat ∧ flush.sentTo ≠ none ∧ flush.result.status = .sent ∧
      ¬ manager.registry.isReady (keyOf heartbeat) := by
  decide +kernel

end NetworkManager
end Network
end FusionDesk
