import FusionDesk.Clipboard.Link

/-!
# How a pending request ends

A request that a module has sent is pending until one of six things ends it: an answer, a cancel, a
deadline, a pause for a reconnect, its send that fails, or, after a large response, the send of the
acknowledgement.

* `endedBy_perform`: what ends a request before the send of a call.
* `endedBy_afterSend`: and after it.
-/

namespace FusionDesk
namespace Clipboard

open Protocol Network RequestTracker
open FusionDesk.Module

/-- A tracker has every request that another has. -/
def KeepsPending (before after : RequestTracker ReadHandler) : Prop :=
  ∀ (id : MessageId) (pending : PendingRequest ReadHandler),
    before.pending[id]? = some pending → after.pending[id]? = some pending

theorem KeepsPending.of_eq {before after : RequestTracker ReadHandler} (h : after = before) :
    KeepsPending before after := by
  rintro id pending hpending
  rwa [h]

theorem keepsPending_track (tracker : RequestTracker ReadHandler) (request : PacketEnvelope)
    (handler : Option ReadHandler) : KeepsPending tracker (tracker.track request handler).2 := by
  rcases tracker.track_cases request handler with ⟨-, -, hsame⟩ | ⟨h, -, htrackable, htracked⟩
  · exact KeepsPending.of_eq hsame
  · intro id pending hpending
    rw [htracked]
    show (tracker.pending.insert request.messageId _)[id]? = some pending
    rw [Std.ExtTreeMap.getElem?_insert, if_neg, hpending]
    intro heq
    rw [Std.LawfulEqOrd.compare_eq_iff_eq] at heq
    have hnone := htrackable.notPending
    rw [heq, hpending] at hnone
    cases hnone

/-- What a completion ends is the request that the response names. -/
theorem pending_complete (tracker : RequestTracker ReadHandler) (response : PacketEnvelope)
    {id : MessageId} {pending : PendingRequest ReadHandler}
    (h : tracker.pending[id]? = some pending)
    (hended : (tracker.complete response).2.2.pending[id]? = none) :
    response.responseTo = id ∧ response.responseTo ≠ 0 := by
  rcases tracker.complete_cases response with ⟨hsame, -⟩ | ⟨pending', hpending', hcompleted⟩
  · rw [hsame] at hended
    rw [h] at hended
    cases hended
  · have hzero : response.responseTo ≠ 0 := by
      intro hzero
      rw [complete, if_pos hzero] at hcompleted
      cases hcompleted
    rw [hcompleted] at hended
    simp only at hended
    split at hended
    · rw [pending_erase] at hended
      by_cases hid : response.responseTo = id
      · exact ⟨hid, hzero⟩
      · rw [if_neg hid, h] at hended
        cases hended
    · rw [h] at hended
      cases hended

namespace ClipboardModule

variable (m : ClipboardModule) (surroundings : Surroundings) (packet : PacketEnvelope)

/-- **What ends a request** before the send of a call. -/
inductive EndedBy (id : MessageId) : ClipboardOp → Prop
  | answer {packet : PacketEnvelope} (running : m.state = .running)
      (answer : received packet = .answer) (responseTo : packet.responseTo = id) :
      EndedBy id (.handlePacket packet)
  | cancel {packet : PacketEnvelope} {cancel : FdclCancel} (running : m.state = .running)
      (cancelled : received packet = .cancel cancel) (correlationId : cancel.correlationId = id)
      (nonzero : cancel.correlationId ≠ 0) : EndedBy id (.handlePacket packet)
  | expiry {nowUsec : UInt64} {pending : PendingRequest ReadHandler}
      (pending_eq : m.readRequests.pending[id]? = some pending)
      (expired : pending.deadlineUsec ≤ nowUsec) : EndedBy id (.expirePendingReads nowUsec)
  | reconnect {options : ModuleReconnectOptions} (affects : affectsClipboardChannel options = true) :
      EndedBy id (.pauseForReconnect options)

/-! ## Completions -/

theorem readRequests_settle (handler : ReadHandler) :
    (m.settle packet handler).readRequests = m.readRequests :=
  @settle_eq _ (·.readRequests) m packet (fun _ _ _ _ _ _ _ _ _ => rfl) handler

theorem readRequests_settleAll
    (swept : ℕ × List (HandlerCall ReadHandler) × RequestTracker ReadHandler) :
    (m.settleAll swept).readRequests = swept.2.2 :=
  @settleAll_eq _ (·.readRequests) m (fun _ _ _ _ _ _ _ _ _ => rfl) swept

/-- A completion leaves the tracker as it is until its acknowledgement is sent, or completes the
request. -/
theorem readRequests_completeRead :
    (m.completeRead surroundings packet).after.readRequests = m.readRequests ∨
      (m.completeRead surroundings packet).after.readRequests =
        (m.readRequests.complete packet).2.2 := by
  unfold completeRead
  split
  · exact Or.inl rfl
  next hcomplete =>
  simp only
  split
  · refine Or.inr ?_
    rw [hcomplete]
    rfl
  · exact Or.inl rfl

theorem ends_completeRead {id : MessageId} {pending : PendingRequest ReadHandler}
    (h : m.readRequests.pending[id]? = some pending)
    (hended : (m.completeRead surroundings packet).after.readRequests.pending[id]? = none) :
    packet.responseTo = id ∧ packet.responseTo ≠ 0 := by
  rcases m.readRequests_completeRead surroundings packet with hsame | hcompleted
  · rw [hsame, h] at hended
    cases hended
  · rw [hcompleted] at hended
    exact pending_complete _ packet h hended

/-- **A cancel ends the request that it names.** -/
theorem pending_handleCancel {cancel : FdclCancel} (hnonzero : cancel.correlationId ≠ 0) :
    (m.handleCancel surroundings cancel).after.readRequests.pending[cancel.correlationId]? =
      none := by
  unfold handleCancel completeRead
  rcases m.readRequests.complete_cases (m.cancelledPacket cancel) with
    ⟨hmissed, hreason⟩ | ⟨pending, hpending, hcompleted⟩
  · rw [hmissed]
    exact hreason.resolve_left hnonzero
  · rw [hcompleted]
    have hsmall : m.largeDataAck surroundings (m.cancelledPacket cancel) = none :=
      if_pos (Or.inl rfl)
    simp only [hsmall, ite_self]
    show (m.readRequests.erase cancel.correlationId).pending[cancel.correlationId]? = none
    rw [pending_erase, if_pos rfl]

/-! ## Calls -/

theorem keepsPending_dispatch (handler : ReadHandler) (payload : ByteBuffer) (timeoutMs : UInt32)
    (nowUsec : UInt64) (unavailable : StdString) :
    KeepsPending m.readRequests (m.dispatch surroundings handler payload timeoutMs nowUsec
      unavailable).after.readRequests := by
  have htracked := keepsPending_track m.readRequests
    (m.requestPacket surroundings payload timeoutMs nowUsec) (some handler)
  unfold dispatch
  simp only
  split
  · exact htracked
  · exact htracked

theorem keepsPending_ite {α : Type} {c : Prop} [Decidable c] {first second : Call α}
    (hfirst : KeepsPending m.readRequests first.after.readRequests)
    (hsecond : KeepsPending m.readRequests second.after.readRequests) :
    KeepsPending m.readRequests (if c then first else second).after.readRequests := by
  by_cases h : c
  · rwa [if_pos h]
  · rwa [if_neg h]

/-- A call that leaves the tracker alone. -/
theorem keepsPending_of_leaves {α : Type} {call : Call α} (h : call.Leaves (·.readRequests) m) :
    KeepsPending m.readRequests call.after.readRequests :=
  KeepsPending.of_eq h.before

/-- Every call but four kinds of it keeps what is pending. -/
theorem endedBy_handle {asked : Received} (hasked : received packet = asked)
    (hrunning : m.state = .running) {id : MessageId} {pending : PendingRequest ReadHandler}
    (h : m.readRequests.pending[id]? = some pending)
    (hended : (m.handle surroundings packet asked).after.readRequests.pending[id]? = none) :
    m.EndedBy id (.handlePacket packet) := by
  have hkept : ∀ {call : Call Unit}, call.Leaves (·.readRequests) m →
      call.after.readRequests.pending[id]? = none → m.EndedBy id (.handlePacket packet) := by
    intro call hleaves hnone
    have hsame : call.after.readRequests = m.readRequests := hleaves.before
    rw [hsame, h] at hnone
    cases hnone
  cases asked with
  | ignored => exact hkept (Call.leaves_silent rfl) hended
  | ack => exact hkept (Call.leaves_silent (m.handleLargeDataAck_eq packet fun _ _ _ => rfl)) hended
  | answer =>
    have hends := ends_completeRead { m with lastReadResponseTo := packet.responseTo } surroundings
      packet h hended
    exact .answer hrunning hasked hends.1
  | formatList list =>
    exact hkept (Call.leaves_silent (m.handleFormatList_eq surroundings (fun _ _ _ _ => rfl)
      (fun _ _ _ => rfl) list)) hended
  | dragStart start =>
    exact hkept (m.leaves_handleDragStart surroundings (fun _ _ _ => rfl) start) hended
  | dragMove move => exact hkept (m.leaves_handleDragMove surroundings move) hended
  | dragDrop drop =>
    exact hkept (m.leaves_handleDragDrop surroundings (fun _ _ _ => rfl) drop) hended
  | dragCancel cancel =>
    exact hkept (m.leaves_handleDragCancel surroundings (fun _ _ _ => rfl) cancel) hended
  | cancel cancel =>
    have hends := m.ends_completeRead surroundings (m.cancelledPacket cancel) h hended
    exact .cancel hrunning hasked hends.1 hends.2
  | readRequest request =>
    exact hkept (m.leaves_handleReadRequest surroundings packet (fun _ _ => rfl) request) hended
  | fileRangeRequest request =>
    exact hkept (m.leaves_handleFileRangeRequest surroundings packet (fun _ _ => rfl)
      (fun _ _ _ => rfl) request) hended
  | lockObject request =>
    exact hkept (m.leaves_handleObjectLockRequest surroundings packet (fun _ _ => rfl)
      (fun _ _ _ _ => rfl) request) hended
  | unlockObject request =>
    exact hkept (m.leaves_handleObjectUnlockRequest packet (fun _ _ => rfl) (fun _ _ _ _ => rfl)
      request) hended
  | badRequest status message =>
    exact hkept (m.leaves_sendErrorResponse packet (fun _ _ => rfl) status message) hended

/-- A sweep ends the requests that it is to end. -/
theorem ends_sweep {ends : PendingRequest ReadHandler → Bool} {status : ResponseStatus}
    {id : MessageId} {pending : PendingRequest ReadHandler}
    (h : m.readRequests.pending[id]? = some pending)
    (hended : (m.readRequests.sweep ends status).2.2.pending[id]? = none) :
    ends pending = true := by
  rw [pending_sweep, h] at hended
  by_contra hkept
  rw [Bool.not_eq_true] at hkept
  simp [Option.filter, hkept] at hended

/-- **What ends a request before the send of a call.** -/
theorem endedBy_perform (op : ClipboardOp) {id : MessageId} {pending : PendingRequest ReadHandler}
    (h : m.readRequests.pending[id]? = some pending)
    (hended : (m.perform surroundings op).after.readRequests.pending[id]? = none) :
    m.EndedBy id op := by
  have hkept : ∀ {tracker : RequestTracker ReadHandler}, KeepsPending m.readRequests tracker →
      tracker.pending[id]? = none → m.EndedBy id op := by
    intro tracker hkeeps hnone
    rw [hkeeps id pending h] at hnone
    cases hnone
  have hsame : KeepsPending m.readRequests m.readRequests := KeepsPending.of_eq rfl
  cases op with
  | attach runtime => exact hkept hsame hended
  | start =>
    refine hkept (KeepsPending.of_eq ?_) hended
    show m.start.readRequests = _
    unfold ClipboardModule.start
    split
    · rfl
    · rfl
  | stop => exact hkept hsame hended
  | detach => exact hkept hsame hended
  | pauseForReconnect options =>
    by_cases haffects : affectsClipboardChannel options = false
    · refine hkept hsame ?_
      have hunchanged : m.pauseForReconnect options = m := if_pos haffects
      exact (congrArg (fun m : ClipboardModule => m.readRequests.pending[id]?) hunchanged).symm.trans
        hended
    · exact .reconnect (Bool.eq_true_of_not_eq_false haffects)
  | resumeAfterReconnect options =>
    exact hkept (m.keepsPending_of_leaves (m.leaves_resumeAfterReconnect surroundings
      (fun _ _ _ _ => rfl) (fun _ _ _ => rfl) options)) hended
  | handlePacket packet =>
    by_cases hrunning : m.state = .running
    · have hhandled := m.handlePacket_eq surroundings packet hrunning
      refine m.endedBy_handle surroundings packet rfl hrunning h ?_
      rw [← hhandled]
      exact hended
    · have hsilent := m.handlePacket_of_not_running surroundings packet hrunning
      refine hkept (KeepsPending.of_eq ?_) hended
      show (m.handlePacket surroundings packet).after.readRequests = _
      rw [hsilent]
      rfl
  | announceLocalBundle bundle =>
    exact hkept (m.keepsPending_of_leaves (m.leaves_announceLocalBundle surroundings
      (fun _ _ _ _ => rfl) (fun _ _ _ => rfl) bundle)) hended
  | requestRemoteFormat request timeoutMs nowUsec =>
    refine hkept ?_ hended
    exact m.keepsPending_ite hsame <| m.keepsPending_ite hsame <| m.keepsPending_ite hsame <|
      m.keepsPending_dispatch surroundings _ _ _ _ _
  | requestRemoteFileRange request timeoutMs nowUsec =>
    refine hkept ?_ hended
    exact m.keepsPending_ite hsame <| m.keepsPending_ite hsame <| m.keepsPending_ite hsame <|
      m.keepsPending_ite hsame <| m.keepsPending_dispatch surroundings _ _ _ _ _
  | requestRemoteObjectLock request timeoutMs nowUsec =>
    refine hkept ?_ hended
    exact m.keepsPending_ite hsame <| m.keepsPending_ite hsame <| m.keepsPending_ite hsame <|
      m.keepsPending_dispatch surroundings _ _ _ _ _
  | requestRemoteObjectUnlock request timeoutMs nowUsec =>
    refine hkept ?_ hended
    exact m.keepsPending_ite hsame <| m.keepsPending_ite hsame <| m.keepsPending_ite hsame <|
      m.keepsPending_dispatch surroundings _ _ _ _ _
  | sendCancel cancel timeoutMs nowUsec =>
    exact hkept (m.keepsPending_of_leaves (m.leaves_sendCancel surroundings (fun _ _ => rfl) cancel
      timeoutMs nowUsec)) hended
  | sendRemoteDragStart start =>
    exact hkept (m.keepsPending_of_leaves (m.leaves_sendRemoteDragStart surroundings
      (fun _ _ _ => rfl) start)) hended
  | sendRemoteDragMove move =>
    exact hkept (m.keepsPending_of_leaves (m.leaves_sendRemoteDragMove surroundings move)) hended
  | sendRemoteDragDrop drop =>
    exact hkept (m.keepsPending_of_leaves (m.leaves_sendRemoteDragDrop surroundings
      (fun _ _ _ => rfl) drop)) hended
  | sendRemoteDragCancel cancel =>
    exact hkept (m.keepsPending_of_leaves (m.leaves_sendRemoteDragCancel surroundings
      (fun _ _ _ => rfl) cancel)) hended
  | expirePendingReads nowUsec =>
    have hswept : (m.expirePendingReads nowUsec).readRequests.pending[id]? = none := hended
    rw [expirePendingReads, readRequests_settleAll] at hswept
    exact .expiry h (of_decide_eq_true (m.ends_sweep h hswept))

/-! ## The rest of a call -/

/-- **What ends a request when a send returns**: its own failed send, or that of the acknowledgement
of its last response. -/
theorem endedBy_afterSend (sent : Bool) (rest : AfterSend) {id : MessageId}
    {pending : PendingRequest ReadHandler} (h : m.readRequests.pending[id]? = some pending)
    (hended : (m.afterSend sent rest).readRequests.pending[id]? = none) :
    (∃ packet, rest = .requested packet ∧ sent = false ∧ packet.messageId = id) ∨
      ∃ result, rest = .acknowledged id true result := by
  have hkept : ∀ {m' : ClipboardModule}, m'.readRequests = m.readRequests →
      m'.readRequests.pending[id]? ≠ none := by
    intro m' hsame
    rw [hsame, h]
    exact nofun
  cases rest with
  | nothing => exact absurd hended (hkept rfl)
  | announced bundle =>
    exact absurd hended (hkept (leaves_announced (fun _ _ _ _ => rfl) (fun _ _ _ => rfl) bundle _ _))
  | requested packet =>
    cases sent with
    | true => exact absurd hended (hkept rfl)
    | false => exact Or.inl ⟨packet, rfl, rfl, (m.ends_completeRead {} _ h hended).1⟩
  | rangeSent messageId bytes =>
    refine absurd hended (hkept ?_)
    cases sent with
    | true =>
      show (m.trackLargeDataReservation messageId bytes).readRequests = _
      unfold trackLargeDataReservation
      split
      · rfl
      · rfl
    | false => rfl
  | acknowledged responseTo terminal result =>
    cases terminal with
    | false => exact absurd hended (hkept rfl)
    | true =>
      have herased : (m.readRequests.erase responseTo).pending[id]? = none := hended
      rw [pending_erase] at herased
      by_cases hid : responseTo = id
      · exact Or.inr ⟨result, by rw [hid]⟩
      · rw [if_neg hid, h] at herased
        cases herased
  | dragStarted dragSessionId =>
    exact absurd hended (hkept (leaves_dragStarted (fun _ _ _ => rfl) dragSessionId _ _))
  | dragEnded => exact absurd hended (hkept (leaves_dragEnded (fun _ _ _ => rfl) _ _))

end ClipboardModule

end Clipboard
end FusionDesk
