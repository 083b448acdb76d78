import FusionDesk.Clipboard.ModuleCalls

/-!
# What a call leaves alone

Each function of the clipboard module changes a few of its fields, and most proofs about the module
are about a few others.  Here a part of the module is any function `f` of it, the fields are in five
groups, and a call `Leaves f` if it changes nothing that `f` looks at, before its send and after.

The groups are the counter of response ids, the drag sessions, the tracker, the results of the last
responses, the offers, and the large data window; every function has one lemma, which names the
groups that it changes.
-/

namespace FusionDesk
namespace Clipboard

open Protocol Network
open FusionDesk.Module

variable {α β : Type*} {f : ClipboardModule → β}

/-! ## The groups -/

def IgnoresCounter (f : ClipboardModule → β) : Prop :=
  ∀ m id, f { m with nextResponseMessageId := id } = f m

def IgnoresDrags (f : ClipboardModule → β) : Prop :=
  ∀ m localId remoteId,
    f { m with
      activeLocalDragSessionId := localId
      activeRemoteDragSessionId := remoteId } = f m

def IgnoresTracker (f : ClipboardModule → β) : Prop :=
  ∀ m tracker id, f { m with readRequests := tracker, nextReadMessageId := id } = f m

def IgnoresResults (f : ClipboardModule → β) : Prop :=
  ∀ m readTo read rangeTo range lockTo lock unlockTo unlock,
    f { m with
      lastReadResponseTo := readTo
      lastReadResult := read
      lastFileRangeResponseTo := rangeTo
      lastFileRangeResult := range
      lastObjectLockResponseTo := lockTo
      lastObjectLockResult := lock
      lastObjectUnlockResponseTo := unlockTo
      lastObjectUnlockResult := unlock } = f m

def IgnoresOffers (f : ClipboardModule → β) : Prop :=
  ∀ m registry localBundle remoteBundle,
    f { m with
      sourceRegistry := registry
      localBundle := localBundle
      remoteBundle := remoteBundle } = f m

def IgnoresWindow (f : ClipboardModule → β) : Prop :=
  ∀ m window reservations,
    f { m with largeDataWindow := window, largeDataReservations := reservations } = f m

/-! ## Calls -/

/-- The rest of a call leaves the part alone. -/
def AfterSend.Leaves (f : ClipboardModule → β) (rest : AfterSend) : Prop :=
  ∀ m sent, f (m.afterSend sent rest) = f m

namespace Call

/-- **The call changes nothing that `f` looks at**, neither before its send nor after. -/
structure Leaves {α : Type} (f : ClipboardModule → β) (m : ClipboardModule) (call : Call α) :
    Prop where
  before : f call.after = f m
  rest : ∀ outgoing ∈ call.outgoing, outgoing.rest.Leaves f

variable {α : Type} {m m' : ClipboardModule} {call : Call α}

theorem Leaves.finish (h : call.Leaves f m) (surroundings : Surroundings) :
    f (call.finish surroundings) = f m := by
  unfold Call.finish
  cases hout : call.outgoing with
  | none => exact h.before
  | some outgoing => exact (h.rest outgoing hout _ _).trans h.before

theorem Leaves.discard (h : call.Leaves f m) : call.discard.Leaves f m :=
  ⟨h.before, h.rest⟩

/-- A call from a module that is the same to `f`. -/
theorem Leaves.of_eq (h : call.Leaves f m') (hm : f m' = f m) : call.Leaves f m :=
  ⟨h.before.trans hm, h.rest⟩

theorem leaves_nothing : AfterSend.nothing.Leaves f := fun _ _ => rfl

theorem leaves_silent (h : f m' = f m) : (silent m').Leaves f m :=
  ⟨h, fun _ hout => nomatch hout⟩

theorem leaves_sending {packet : PacketEnvelope} (h : f m' = f m) :
    (sending m' packet).Leaves f m := by
  refine ⟨h, fun outgoing hout => ?_⟩
  cases hout
  exact leaves_nothing

theorem leaves_refused (h : f m' = f m) : (refused m').Leaves f m :=
  ⟨h, fun _ hout => nomatch hout⟩

theorem leaves_denied {status : ResponseStatus} {message : StdString} (h : f m' = f m) :
    (denied m' status message).Leaves f m :=
  ⟨h, fun _ hout => nomatch hout⟩

theorem leaves_returning {packet : PacketEnvelope} {rest : AfterSend} (h : f m' = f m)
    (hrest : rest.Leaves f) : (returning m' packet rest).Leaves f m := by
  refine ⟨h, fun outgoing hout => ?_⟩
  cases hout
  exact hrest

theorem leaves_ite {c : Prop} [Decidable c] {first second : Call α} (hfirst : first.Leaves f m)
    (hsecond : second.Leaves f m) : (if c then first else second).Leaves f m := by
  by_cases h : c
  · rwa [if_pos h]
  · rwa [if_neg h]

end Call

open Call

namespace ClipboardModule

variable (m : ClipboardModule) (surroundings : Surroundings) (packet : PacketEnvelope)

/-! ## Responses -/

theorem leaves_sendErrorResponse (hcounter : IgnoresCounter f) (status : ResponseStatus)
    (message : StdString) : (m.sendErrorResponse packet status message).Leaves f m :=
  leaves_sending (hcounter m _)

theorem leaves_sendReadResponse (hcounter : IgnoresCounter f) (request : FdclReadFormatRequest)
    (result : TransferReadResult) : (m.sendReadResponse packet request result).Leaves f m :=
  leaves_ite (m.leaves_sendErrorResponse packet hcounter _ _) (leaves_sending (hcounter m _))

theorem leaves_handleReadRequest (hcounter : IgnoresCounter f) (request : FdclReadFormatRequest) :
    (m.handleReadRequest surroundings packet request).Leaves f m :=
  leaves_ite (m.leaves_sendErrorResponse packet hcounter _ _) <|
    leaves_ite (m.leaves_sendErrorResponse packet hcounter _ _) <|
      m.leaves_sendReadResponse packet hcounter _ _

theorem leaves_sendScheduledRange (hcounter : IgnoresCounter f) (hwindow : IgnoresWindow f)
    (response : PacketEnvelope) (usesLargeData : Bool) :
    (m.sendScheduledRange packet response usesLargeData).Leaves f m := by
  unfold sendScheduledRange
  split
  · exact leaves_sending rfl
  · refine leaves_ite (m.leaves_sendErrorResponse packet hcounter _ _) ⟨hwindow m _ _, ?_⟩
    rintro outgoing ⟨⟩ m sent
    cases sent with
    | true =>
      show f (m.trackLargeDataReservation _ _) = f m
      unfold trackLargeDataReservation
      split
      · rfl
      · exact hwindow m _ _
    | false => exact hwindow m _ _

theorem leaves_sendFileRangeResponse (hcounter : IgnoresCounter f) (hwindow : IgnoresWindow f)
    (request : FdclFileRangeRequest) (result : TransferFileRangeResult) :
    (m.sendFileRangeResponse surroundings packet request result).Leaves f m :=
  leaves_ite (m.leaves_sendErrorResponse packet hcounter _ _) <|
    leaves_ite (m.leaves_sendErrorResponse packet hcounter _ _) <|
      leaves_ite ((m.countResponse.leaves_sendErrorResponse packet hcounter _ _).of_eq
        (hcounter m _)) <|
        (m.countResponse.leaves_sendScheduledRange packet hcounter hwindow _ _).of_eq (hcounter m _)

theorem leaves_handleFileRangeRequest (hcounter : IgnoresCounter f) (hwindow : IgnoresWindow f)
    (request : FdclFileRangeRequest) :
    (m.handleFileRangeRequest surroundings packet request).Leaves f m :=
  leaves_ite (m.leaves_sendErrorResponse packet hcounter _ _) <|
    leaves_ite (m.leaves_sendErrorResponse packet hcounter _ _) <|
      m.leaves_sendFileRangeResponse surroundings packet hcounter hwindow _ _

theorem leaves_sendObjectLockResponse (hcounter : IgnoresCounter f) (operation : FdclOperation)
    (request : FdclObjectLock) (result : TransferObjectLockResult) :
    (m.sendObjectLockResponse packet operation request result).Leaves f m :=
  leaves_ite (m.leaves_sendErrorResponse packet hcounter _ _) (leaves_sending (hcounter m _))

theorem leaves_handleObjectLockRequest (hcounter : IgnoresCounter f) (hoffers : IgnoresOffers f)
    (request : FdclObjectLock) :
    (m.handleObjectLockRequest surroundings packet request).Leaves f m :=
  leaves_ite (m.leaves_sendErrorResponse packet hcounter _ _) <|
    (leaves_sendObjectLockResponse _ packet hcounter _ _ _).of_eq (hoffers m _ _ _)

theorem leaves_handleObjectUnlockRequest (hcounter : IgnoresCounter f)
    (hoffers : IgnoresOffers f) (request : FdclObjectLock) :
    (m.handleObjectUnlockRequest packet request).Leaves f m :=
  leaves_ite (m.leaves_sendErrorResponse packet hcounter _ _) <|
    (leaves_sendObjectLockResponse _ packet hcounter _ _ _).of_eq (hoffers m _ _ _)

/-! ## Reservations -/

theorem handleLargeDataAck_eq (hwindow : IgnoresWindow f) :
    f (m.handleLargeDataAck packet) = f m := by
  unfold handleLargeDataAck releaseLargeDataReservation releaseWindow
  split
  · rfl
  · split
    · rfl
    · exact hwindow m _ _

theorem releaseAllLargeDataReservations_eq (hwindow : IgnoresWindow f) :
    f m.releaseAllLargeDataReservations = f m :=
  hwindow m _ _

/-! ## Tracked requests -/

theorem settle_eq (hresults : IgnoresResults f) (handler : ReadHandler) :
    f (m.settle packet handler) = f m := by
  cases handler with
  | readResponse => exact hresults m _ _ _ _ _ _ _ _
  | fileRangeResponse => exact hresults m _ _ _ _ _ _ _ _
  | objectLockResponse => exact hresults m _ _ _ _ _ _ _ _
  | objectUnlockResponse => exact hresults m _ _ _ _ _ _ _ _

theorem settleAll_eq (hresults : IgnoresResults f)
    (swept : ℕ × List (HandlerCall ReadHandler) × RequestTracker ReadHandler) :
    f (m.settleAll swept) = f { m with readRequests := swept.2.2 } := by
  unfold settleAll
  generalize { m with readRequests := swept.2.2 } = m
  induction swept.2.1 generalizing m with
  | nil => rfl
  | cons call calls ih => exact (ih _).trans (m.settle_eq call.response hresults call.handler)

theorem leaves_completeRead (htracker : IgnoresTracker f) (hresults : IgnoresResults f) :
    (m.completeRead surroundings packet).Leaves f m := by
  unfold completeRead
  obtain ⟨count, calls, tracker⟩ := m.readRequests.complete packet
  cases calls with
  | nil => exact leaves_silent rfl
  | cons call calls =>
    simp only
    cases (if call.handler = .fileRangeResponse then m.largeDataAck surroundings packet
      else none) with
    | none =>
      have hsettled := m.settle_eq packet hresults call.handler
      exact leaves_silent ((htracker (m.settle packet call.handler) _ _).trans hsettled)
    | some ack =>
      refine ⟨hresults m _ _ _ _ _ _ _ _, ?_⟩
      rintro outgoing ⟨⟩ m sent
      exact (htracker { m with lastFileRangeResult := some _ } _ _).trans
        (hresults m _ _ _ _ _ _ _ _)

theorem leaves_handleReadResponse (htracker : IgnoresTracker f) (hresults : IgnoresResults f) :
    (m.handleReadResponse surroundings packet).Leaves f m :=
  (leaves_completeRead _ surroundings packet htracker hresults).of_eq (hresults m _ _ _ _ _ _ _ _)

theorem leaves_handleCancel (htracker : IgnoresTracker f) (hresults : IgnoresResults f)
    (cancel : FdclCancel) : (m.handleCancel surroundings cancel).Leaves f m :=
  m.leaves_completeRead surroundings _ htracker hresults

theorem leaves_requested (htracker : IgnoresTracker f) (hresults : IgnoresResults f) :
    (AfterSend.requested packet).Leaves f := by
  intro m sent
  cases sent with
  | true => rfl
  | false => exact (m.leaves_completeRead {} _ htracker hresults).before

theorem leaves_dispatch (htracker : IgnoresTracker f) (hresults : IgnoresResults f)
    (handler : ReadHandler) (payload : ByteBuffer) (timeoutMs : UInt32) (nowUsec : UInt64)
    (unavailable : StdString) :
    (m.dispatch surroundings handler payload timeoutMs nowUsec unavailable).Leaves f m := by
  refine leaves_ite (leaves_denied (htracker m _ _)) ⟨htracker m _ _, ?_⟩
  rintro outgoing ⟨⟩
  exact leaves_requested _ htracker hresults

theorem leaves_requestRemoteFormatTracked (htracker : IgnoresTracker f)
    (hresults : IgnoresResults f) (request : FdclReadFormatRequest) (timeoutMs : UInt32)
    (nowUsec : UInt64) :
    (m.requestRemoteFormatTracked surroundings request timeoutMs nowUsec).Leaves f m :=
  leaves_ite ⟨rfl, fun _ hout => nomatch hout⟩ <| leaves_ite (leaves_denied rfl) <|
    leaves_ite (leaves_denied rfl) <| m.leaves_dispatch surroundings htracker hresults _ _ _ _ _

theorem leaves_requestRemoteFileRangeTracked (htracker : IgnoresTracker f)
    (hresults : IgnoresResults f) (request : FdclFileRangeRequest) (timeoutMs : UInt32)
    (nowUsec : UInt64) :
    (m.requestRemoteFileRangeTracked surroundings request timeoutMs nowUsec).Leaves f m :=
  leaves_ite ⟨rfl, fun _ hout => nomatch hout⟩ <| leaves_ite (leaves_denied rfl) <|
    leaves_ite (leaves_denied rfl) <| leaves_ite (leaves_denied rfl) <|
      m.leaves_dispatch surroundings htracker hresults _ _ _ _ _

theorem leaves_requestRemoteObjectLockTracked (htracker : IgnoresTracker f)
    (hresults : IgnoresResults f) (request : FdclObjectLock) (timeoutMs : UInt32)
    (nowUsec : UInt64) :
    (m.requestRemoteObjectLockTracked surroundings request timeoutMs nowUsec).Leaves f m :=
  leaves_ite ⟨rfl, fun _ hout => nomatch hout⟩ <| leaves_ite (leaves_denied rfl) <|
    leaves_ite (leaves_denied rfl) <| m.leaves_dispatch surroundings htracker hresults _ _ _ _ _

theorem leaves_requestRemoteObjectUnlockTracked (htracker : IgnoresTracker f)
    (hresults : IgnoresResults f) (request : FdclObjectLock) (timeoutMs : UInt32)
    (nowUsec : UInt64) :
    (m.requestRemoteObjectUnlockTracked surroundings request timeoutMs nowUsec).Leaves f m :=
  leaves_ite ⟨rfl, fun _ hout => nomatch hout⟩ <| leaves_ite (leaves_denied rfl) <|
    leaves_ite (leaves_denied rfl) <| m.leaves_dispatch surroundings htracker hresults _ _ _ _ _

theorem leaves_sendCancel (hcounter : IgnoresCounter f) (cancel : FdclCancel)
    (timeoutMs : UInt32) (nowUsec : UInt64) :
    (m.sendCancel surroundings cancel timeoutMs nowUsec).Leaves f m :=
  leaves_ite (leaves_refused rfl) <| leaves_ite (leaves_refused rfl) <|
    leaves_returning (hcounter m _) leaves_nothing

/-! ## Offers -/

theorem leaves_announced (hoffers : IgnoresOffers f) (hdrags : IgnoresDrags f)
    (bundle : TransferSourceBundle) : (AfterSend.announced bundle).Leaves f := by
  intro m sent
  cases sent with
  | true => exact (hdrags { m with localBundle := bundle } _ _).trans (hoffers m _ _ _)
  | false => exact hoffers m _ _ _

theorem leaves_announceLocalBundle (hoffers : IgnoresOffers f) (hdrags : IgnoresDrags f)
    (bundle : TransferSourceBundle) : (m.announceLocalBundle surroundings bundle).Leaves f m :=
  leaves_ite (leaves_refused rfl) <| leaves_ite (leaves_refused rfl) <|
    leaves_ite (leaves_refused rfl) <| leaves_ite (leaves_refused (hoffers m _ _ _)) <|
      leaves_returning (hoffers m _ _ _) (leaves_announced hoffers hdrags _)

theorem leaves_resumeAfterReconnect (hoffers : IgnoresOffers f) (hdrags : IgnoresDrags f)
    (options : ModuleReconnectOptions) : (m.resumeAfterReconnect surroundings options).Leaves f m :=
  leaves_ite (m.leaves_announceLocalBundle surroundings hoffers hdrags _).discard
    (leaves_silent rfl)

theorem handleFormatList_eq (hoffers : IgnoresOffers f) (hdrags : IgnoresDrags f)
    (list : FdclFormatList) : f (m.handleFormatList surroundings list) = f m := by
  have htaken : ∀ registry bundle, f { m with
      sourceRegistry := registry
      remoteBundle := bundle
      activeRemoteDragSessionId := 0 } = f m := fun registry bundle =>
    (hdrags { m with sourceRegistry := registry, remoteBundle := bundle } _ _).trans
      (hoffers m _ _ _)
  unfold handleFormatList
  split
  · rfl
  split
  · rfl
  split
  · rfl
  simp only
  split
  · exact hoffers m _ _ _
  split
  · exact htaken _ _
  · exact htaken _ _

theorem clearRegistry_eq (hoffers : IgnoresOffers f) : f m.clearRegistry = f m :=
  hoffers m _ _ _

/-! ## Drags -/

theorem clearDrags_eq (hdrags : IgnoresDrags f) : f m.clearDrags = f m :=
  hdrags m _ _

theorem leaves_dragStarted (hdrags : IgnoresDrags f) (id : DragSessionId) :
    (AfterSend.dragStarted id).Leaves f := by
  intro m sent
  cases sent with
  | true => exact hdrags m _ _
  | false => rfl

theorem leaves_dragEnded (hdrags : IgnoresDrags f) : AfterSend.dragEnded.Leaves f := by
  intro m sent
  cases sent with
  | true => exact hdrags m _ _
  | false => rfl

theorem leaves_sendRemoteDragStart (hdrags : IgnoresDrags f) (start : FdclDragStart) :
    (m.sendRemoteDragStart surroundings start).Leaves f m :=
  leaves_ite (leaves_refused rfl) <| leaves_ite (leaves_refused rfl) <|
    leaves_ite (leaves_refused rfl) <| leaves_returning rfl (leaves_dragStarted hdrags _)

theorem leaves_sendRemoteDragMove (move : FdclDragMove) :
    (m.sendRemoteDragMove surroundings move).Leaves f m :=
  leaves_ite (leaves_refused rfl) <| leaves_ite (leaves_refused rfl) <|
    leaves_ite (leaves_refused rfl) <| leaves_ite (leaves_refused rfl) <|
      leaves_returning rfl leaves_nothing

theorem leaves_sendRemoteDragDrop (hdrags : IgnoresDrags f) (drop : FdclDragDrop) :
    (m.sendRemoteDragDrop surroundings drop).Leaves f m :=
  leaves_ite (leaves_refused rfl) <| leaves_ite (leaves_refused rfl) <|
    leaves_ite (leaves_refused rfl) <| leaves_ite (leaves_refused rfl) <|
      leaves_returning rfl (leaves_dragEnded hdrags)

theorem leaves_sendRemoteDragCancel (hdrags : IgnoresDrags f) (cancel : FdclDragCancel) :
    (m.sendRemoteDragCancel surroundings cancel).Leaves f m :=
  leaves_ite (leaves_refused rfl) <| leaves_ite (leaves_refused rfl) <|
    leaves_ite (leaves_refused rfl) <| leaves_ite (leaves_refused rfl) <|
      leaves_returning rfl (leaves_dragEnded hdrags)

theorem leaves_askSink {accepted : ClipboardModule} (call : DragSinkCall)
    (h : f accepted = f m) : (m.askSink surroundings call accepted).Leaves f m := by
  refine leaves_ite (leaves_silent rfl) ⟨?_, fun _ hout => nomatch hout⟩
  by_cases haccepts : surroundings.dragSink = .ok
  · simp only [if_pos haccepts, h]
  · simp only [if_neg haccepts]

theorem leaves_handleDragStart (hdrags : IgnoresDrags f) (start : FdclDragStart) :
    (m.handleDragStart surroundings start).Leaves f m :=
  leaves_ite (leaves_silent rfl) <| leaves_ite (leaves_silent rfl) <|
    m.leaves_askSink surroundings _ (hdrags m _ _)

theorem leaves_handleDragMove (move : FdclDragMove) :
    (m.handleDragMove surroundings move).Leaves f m :=
  leaves_ite (leaves_silent rfl) <| leaves_ite (leaves_silent rfl) <|
    m.leaves_askSink surroundings _ rfl

theorem leaves_handleDragDrop (hdrags : IgnoresDrags f) (drop : FdclDragDrop) :
    (m.handleDragDrop surroundings drop).Leaves f m :=
  leaves_ite (leaves_silent rfl) <| leaves_ite (leaves_silent rfl) <|
    m.leaves_askSink surroundings _ (hdrags m _ _)

theorem leaves_handleDragCancel (hdrags : IgnoresDrags f) (cancel : FdclDragCancel) :
    (m.handleDragCancel surroundings cancel).Leaves f m :=
  leaves_ite (leaves_silent rfl) <| leaves_ite (leaves_silent rfl) <|
    m.leaves_askSink surroundings _ (hdrags m _ _)

end ClipboardModule

end Clipboard
end FusionDesk
