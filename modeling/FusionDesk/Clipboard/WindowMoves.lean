import FusionDesk.Clipboard.Link
import FusionDesk.General.Holdings

/-!
# What a call does to the large data window

A call does one of four things to the window and its reservations (`WindowMove`): nothing; a
reservation for the large response that it sends, under the id of the response; the release that an
acknowledgement brings; the release of all.  When a send returns the reservation is held under its
id or given back.

* `windowMove_perform`: the four moves.
* `counts_perform`: the ids of responses are counted upwards.
* `reserve_cases`, `toNat_release`, `toNat_releaseAll`: the bytes in flight.
-/

namespace FusionDesk
namespace Clipboard

open Protocol Network Holdings
open FusionDesk.Module

/-! ## The window -/

namespace ClipboardLargeDataWindow

variable (window : ClipboardLargeDataWindow) (bytes : UInt64)

@[simp] theorem max_release : (window.release bytes).maxInFlightBytes = window.maxInFlightBytes := rfl

/-- What is released is not in flight any more. -/
theorem toNat_release (h : bytes.toNat ≤ window.inFlightBytes.toNat) :
    bytes.toNat + (window.release bytes).inFlightBytes.toNat = window.inFlightBytes.toNat := by
  have hle : bytes ≤ window.inFlightBytes := UInt64.le_iff_toNat_le.mpr h
  unfold release
  simp only [if_neg (UInt64.not_lt.mpr hle)]
  rw [UInt64.toNat_sub_of_le _ _ hle]
  omega

/-- A reservation is of no more than the maximum leaves, if there is a maximum. -/
theorem reserve_cases (hmax : window.maxInFlightBytes ≠ 0)
    (hfits : window.inFlightBytes ≤ window.maxInFlightBytes)
    (hok : (window.reserve bytes).1.ok = true) :
    (window.reserve bytes).2.maxInFlightBytes = window.maxInFlightBytes ∧
      (window.reserve bytes).2.inFlightBytes.toNat = bytes.toNat + window.inFlightBytes.toNat ∧
      (window.reserve bytes).2.inFlightBytes ≤ window.maxInFlightBytes := by
  unfold reserve at hok ⊢
  by_cases hblocked : window.maxInFlightBytes ≠ 0 ∧
      (window.inFlightBytes ≥ window.maxInFlightBytes ∨
        bytes > window.maxInFlightBytes - window.inFlightBytes)
  · rw [if_pos hblocked] at hok
    cases hok
  · rw [if_neg hblocked]
    have hleft : ¬bytes > window.maxInFlightBytes - window.inFlightBytes := fun hlarge =>
      hblocked ⟨hmax, Or.inr hlarge⟩
    have hbytes := UInt64.le_iff_toNat_le.mp (UInt64.not_lt.mp hleft)
    have hinFlight := UInt64.le_iff_toNat_le.mp hfits
    rw [UInt64.toNat_sub_of_le _ _ hfits] at hbytes
    have hbound := window.maxInFlightBytes.toNat_lt
    have hsum : (window.inFlightBytes + bytes).toNat =
        bytes.toNat + window.inFlightBytes.toNat := by
      rw [UInt64.toNat_add]
      omega
    refine ⟨rfl, hsum, UInt64.le_iff_toNat_le.mpr ?_⟩
    show (window.inFlightBytes + bytes).toNat ≤ _
    rw [hsum]
    omega

/-- The release of a list of reservations. -/
theorem toNat_releaseAll {items : List (Sigma fun _ : MessageId => UInt64)}
    (h : (items.map fun item => item.2.toNat).sum ≤ window.inFlightBytes.toNat) :
    let released := items.foldl (fun window item => window.release item.2) window
    released.maxInFlightBytes = window.maxInFlightBytes ∧
      (items.map fun item => item.2.toNat).sum + released.inFlightBytes.toNat =
        window.inFlightBytes.toNat := by
  induction items generalizing window with
  | nil => exact ⟨rfl, by simp⟩
  | cons item items ih =>
    simp only [List.map_cons, List.sum_cons] at h ⊢
    have hfirst := window.toNat_release item.2 (by omega)
    obtain ⟨hmax, hrest⟩ := ih (window.release item.2) (by omega)
    exact ⟨hmax, by simp only [List.foldl_cons]; omega⟩

end ClipboardLargeDataWindow

/-- What the rest of a call has reserved, and under which id. -/
def AfterSend.reservation : AfterSend → Option (MessageId × UInt64)
  | .rangeSent messageId bytes => some (messageId, bytes)
  | _ => none

namespace ClipboardModule

variable (m : ClipboardModule) (surroundings : Surroundings) (packet : PacketEnvelope)

/-! ## The counter of responses -/

/-- A call takes no more than two ids. -/
def Counts {α : Type} (call : Call α) : Prop :=
  ∃ count : ℕ, count ≤ 2 ∧
    call.after.nextResponseMessageId = m.nextResponseMessageId + UInt64.ofNat count

variable {m} in
theorem Counts.le {α : Type} {call : Call α} (h : m.Counts call)
    (hbound : m.nextResponseMessageId.toNat + 2 < 2 ^ 64) :
    m.nextResponseMessageId.toNat ≤ call.after.nextResponseMessageId.toNat := by
  obtain ⟨count, hcount, heq⟩ := h
  rw [heq, UInt64.toNat_add, UInt64.toNat_ofNat']
  omega

theorem counts_of_eq {α : Type} {call : Call α}
    (h : call.after.nextResponseMessageId = m.nextResponseMessageId) : m.Counts call :=
  ⟨0, by decide, by rw [h]; exact (UInt64.add_zero _).symm⟩

theorem counts_of_one {α : Type} {call : Call α}
    (h : call.after.nextResponseMessageId = m.nextResponseMessageId + 1) : m.Counts call :=
  ⟨1, by decide, h⟩

theorem counts_of_leaves {α : Type} {call : Call α} (h : call.Leaves (·.nextResponseMessageId) m) :
    m.Counts call :=
  m.counts_of_eq h.before

theorem counts_ite {α : Type} {c : Prop} [Decidable c] {first second : Call α}
    (hfirst : m.Counts first) (hsecond : m.Counts second) :
    m.Counts (if c then first else second) := by
  by_cases h : c
  · rwa [if_pos h]
  · rwa [if_neg h]

theorem counts_sendErrorResponse (status : ResponseStatus) (message : StdString) :
    m.Counts (m.sendErrorResponse packet status message) :=
  m.counts_of_one rfl

theorem counts_twice (status : ResponseStatus) (message : StdString) :
    m.Counts (m.countResponse.sendErrorResponse packet status message) :=
  ⟨2, by decide, UInt64.add_assoc _ 1 1⟩

theorem counts_sendFileRangeResponse (request : FdclFileRangeRequest)
    (result : TransferFileRangeResult) :
    m.Counts (m.sendFileRangeResponse surroundings packet request result) := by
  refine m.counts_ite (m.counts_sendErrorResponse packet _ _) <|
    m.counts_ite (m.counts_sendErrorResponse packet _ _) <|
    m.counts_ite (m.counts_twice packet _ _) ?_
  unfold sendScheduledRange
  split
  · exact m.counts_of_one rfl
  · exact m.counts_ite (m.counts_twice packet _ _) (m.counts_of_one rfl)

theorem counts_sendObjectLockResponse (operation : FdclOperation) (request : FdclObjectLock)
    (result : TransferObjectLockResult) :
    m.Counts (m.sendObjectLockResponse packet operation request result) :=
  m.counts_ite (m.counts_sendErrorResponse packet _ _) (m.counts_of_one rfl)

theorem counts_handle (asked : Received) : m.Counts (m.handle surroundings packet asked) := by
  have hkept : ∀ {call : Call Unit}, call.Leaves (·.nextResponseMessageId) m → m.Counts call :=
    fun h => m.counts_of_leaves h
  cases asked with
  | ignored => exact m.counts_of_eq rfl
  | ack =>
    exact hkept (Call.leaves_silent (m.handleLargeDataAck_eq packet fun _ _ _ => rfl))
  | answer =>
    exact hkept (m.leaves_handleReadResponse surroundings packet (fun _ _ _ => rfl)
      fun _ _ _ _ _ _ _ _ _ => rfl)
  | formatList list =>
    exact hkept (Call.leaves_silent (m.handleFormatList_eq surroundings (fun _ _ _ _ => rfl)
      (fun _ _ _ => rfl) list))
  | dragStart start => exact hkept (m.leaves_handleDragStart surroundings (fun _ _ _ => rfl) start)
  | dragMove move => exact hkept (m.leaves_handleDragMove surroundings move)
  | dragDrop drop => exact hkept (m.leaves_handleDragDrop surroundings (fun _ _ _ => rfl) drop)
  | dragCancel cancel =>
    exact hkept (m.leaves_handleDragCancel surroundings (fun _ _ _ => rfl) cancel)
  | cancel cancel =>
    exact hkept (m.leaves_handleCancel surroundings (fun _ _ _ => rfl)
      (fun _ _ _ _ _ _ _ _ _ => rfl) cancel)
  | readRequest request =>
    exact m.counts_ite (m.counts_sendErrorResponse packet _ _) <|
      m.counts_ite (m.counts_sendErrorResponse packet _ _) <|
      m.counts_ite (m.counts_sendErrorResponse packet _ _) (m.counts_of_one rfl)
  | fileRangeRequest request =>
    exact m.counts_ite (m.counts_sendErrorResponse packet _ _) <|
      m.counts_ite (m.counts_sendErrorResponse packet _ _) <|
      m.counts_sendFileRangeResponse surroundings packet _ _
  | lockObject request =>
    exact m.counts_ite (m.counts_sendErrorResponse packet _ _)
      (counts_sendObjectLockResponse _ packet _ _ _)
  | unlockObject request =>
    exact m.counts_ite (m.counts_sendErrorResponse packet _ _)
      (counts_sendObjectLockResponse _ packet _ _ _)
  | badRequest status message => exact m.counts_sendErrorResponse packet status message

/-- **The ids of responses are counted upwards.** -/
theorem counts_perform (op : ClipboardOp) : m.Counts (m.perform surroundings op) := by
  have hkept : ∀ {call : Call Unit}, call.Leaves (·.nextResponseMessageId) m → m.Counts call :=
    fun h => m.counts_of_leaves h
  have hresults : IgnoresResults (·.nextResponseMessageId) := fun _ _ _ _ _ _ _ _ _ => rfl
  have htracker : IgnoresTracker (·.nextResponseMessageId) := fun _ _ _ => rfl
  have hdrags : IgnoresDrags (·.nextResponseMessageId) := fun _ _ _ => rfl
  have hoffers : IgnoresOffers (·.nextResponseMessageId) := fun _ _ _ _ => rfl
  cases op with
  | attach runtime => exact m.counts_of_eq rfl
  | start =>
    refine m.counts_of_eq ?_
    show m.start.nextResponseMessageId = _
    unfold ClipboardModule.start
    split
    · rfl
    · rfl
  | stop => exact m.counts_of_eq rfl
  | detach => exact m.counts_of_eq rfl
  | pauseForReconnect options =>
    refine m.counts_of_eq ?_
    show (m.pauseForReconnect options).nextResponseMessageId = _
    unfold ClipboardModule.pauseForReconnect
    split
    · rfl
    · exact settleAll_eq _ hresults _
  | resumeAfterReconnect options =>
    exact hkept (m.leaves_resumeAfterReconnect surroundings hoffers hdrags options)
  | handlePacket packet =>
    show m.Counts (m.handlePacket surroundings packet)
    by_cases hrunning : m.state = .running
    · rw [m.handlePacket_eq surroundings packet hrunning]
      exact m.counts_handle surroundings packet _
    · rw [m.handlePacket_of_not_running surroundings packet hrunning]
      exact m.counts_of_eq rfl
  | announceLocalBundle bundle =>
    exact hkept (m.leaves_announceLocalBundle surroundings hoffers hdrags bundle).discard
  | requestRemoteFormat request timeoutMs nowUsec =>
    exact hkept (m.leaves_requestRemoteFormatTracked surroundings htracker hresults request
      timeoutMs nowUsec).discard
  | requestRemoteFileRange request timeoutMs nowUsec =>
    exact hkept (m.leaves_requestRemoteFileRangeTracked surroundings htracker hresults request
      timeoutMs nowUsec).discard
  | requestRemoteObjectLock request timeoutMs nowUsec =>
    exact hkept (m.leaves_requestRemoteObjectLockTracked surroundings htracker hresults request
      timeoutMs nowUsec).discard
  | requestRemoteObjectUnlock request timeoutMs nowUsec =>
    exact hkept (m.leaves_requestRemoteObjectUnlockTracked surroundings htracker hresults request
      timeoutMs nowUsec).discard
  | sendCancel cancel timeoutMs nowUsec =>
    have hcounts : m.Counts (m.sendCancel surroundings cancel timeoutMs nowUsec) :=
      m.counts_ite (m.counts_of_eq rfl) (m.counts_ite (m.counts_of_eq rfl) (m.counts_of_one rfl))
    exact hcounts
  | sendRemoteDragStart start =>
    exact hkept (m.leaves_sendRemoteDragStart surroundings hdrags start).discard
  | sendRemoteDragMove move => exact hkept (m.leaves_sendRemoteDragMove surroundings move).discard
  | sendRemoteDragDrop drop =>
    exact hkept (m.leaves_sendRemoteDragDrop surroundings hdrags drop).discard
  | sendRemoteDragCancel cancel =>
    exact hkept (m.leaves_sendRemoteDragCancel surroundings hdrags cancel).discard
  | expirePendingReads nowUsec =>
    exact hkept (Call.leaves_silent (m.settleAll_eq hresults _))

/-! ## The four moves -/

/-- The window and what is reserved of it. -/
def windowPart (m : ClipboardModule) :
    Option ClipboardLargeDataWindow × AList fun _ : MessageId => UInt64 :=
  (m.largeDataWindow, m.largeDataReservations)

/-- **What a call does to the window.** -/
inductive WindowMove (m : ClipboardModule) : ClipboardOp → Call Unit → Prop
  | kept {op : ClipboardOp} {call : Call Unit} (part : call.after.windowPart = m.windowPart)
      (rest : call.SendsOnly fun outgoing => outgoing.rest.reservation = none) :
      WindowMove m op call
  | reserved {op : ClipboardOp} {call : Call Unit} {window : ClipboardLargeDataWindow}
      {packet : PacketEnvelope} {bytes : UInt64} (window_eq : m.largeDataWindow = some window)
      (ok : (window.reserve bytes).1.ok = true)
      (after : call.after.windowPart =
        (some (window.reserve bytes).2, m.largeDataReservations))
      (outgoing : call.outgoing =
        some { packet := packet, rest := .rangeSent packet.messageId bytes })
      (messageId : packet.messageId = m.nextResponseMessageId)
      (counted : call.after.nextResponseMessageId = m.nextResponseMessageId + 1) :
      WindowMove m op call
  | acknowledged {packet : PacketEnvelope} (running : m.state = .running)
      (ack : received packet = .ack) :
      WindowMove m (.handlePacket packet) (.silent (m.handleLargeDataAck packet))
  | cleared {op : ClipboardOp} {call : Call Unit}
      (after : call.after.windowPart = m.releaseAllLargeDataReservations.windowPart)
      (outgoing : call.outgoing = none) : WindowMove m op call

namespace WindowMove

variable {m}

/-- A call that leaves the window alone, and sends no large response. -/
theorem of_leaves {op : ClipboardOp} {call : Call Unit} (h : call.Leaves windowPart m)
    (hrest : call.SendsOnly fun outgoing => outgoing.rest.reservation = none) :
    WindowMove m op call :=
  .kept h.before hrest

end WindowMove

/-- Of all that is sent, a large response alone comes with a reservation. -/
theorem reservation_of_sentBy {op : ClipboardOp} {outgoing : Outgoing}
    (h : SentBy op outgoing)
    (hother : ∀ request, op = .handlePacket request → request.messageKind ≠ .request) :
    outgoing.rest.reservation = none := by
  have hplain : ∀ rest : AfterSend, rest.isPlain = true → rest.reservation = none := by
    intro rest hplain
    cases rest with
    | rangeSent messageId bytes => cases hplain
    | _ => rfl
  cases h with
  | event kind plain => exact hplain _ plain
  | cancel kind plain => exact hplain _ plain
  | request kind => rfl
  | answer asked kind responseTo plain => exact hplain _ plain
  | range bytes asked kind large responseTo => exact absurd asked (hother _ rfl)
  | ack terminal result answer kind responseTo => rfl

theorem reservation_sendErrorResponse (status : ResponseStatus) (message : StdString) :
    (m.sendErrorResponse packet status message).SendsOnly
      fun outgoing => outgoing.rest.reservation = none :=
  Call.sendsOnly_sending rfl

theorem windowMove_sendErrorResponse {op : ClipboardOp} (m' : ClipboardModule)
    (h : m'.windowPart = m.windowPart) (status : ResponseStatus) (message : StdString) :
    WindowMove m op (m'.sendErrorResponse packet status message) :=
  .kept h (m'.reservation_sendErrorResponse packet status message)

theorem windowMove_ite {op : ClipboardOp} {c : Prop} [Decidable c] {first second : Call Unit}
    (hfirst : WindowMove m op first) (hsecond : WindowMove m op second) :
    WindowMove m op (if c then first else second) := by
  by_cases h : c
  · rwa [if_pos h]
  · rwa [if_neg h]

/-- A large response is sent with a reservation, under its own id. -/
theorem windowMove_sendScheduledRange {op : ClipboardOp} {response : PacketEnvelope}
    (hid : response.messageId = m.nextResponseMessageId) (usesLargeData : Bool) :
    WindowMove m op (m.countResponse.sendScheduledRange packet response usesLargeData) := by
  unfold sendScheduledRange
  split
  · exact .kept rfl (Call.sendsOnly_sending rfl)
  next window hwindow =>
  simp only
  by_cases hfull : (window.reserve (UInt64.ofNat response.payload.length)).1.ok = false
  · rw [if_pos hfull]
    exact m.windowMove_sendErrorResponse packet m.countResponse rfl _ _
  · rw [if_neg hfull]
    have hsome : m.largeDataWindow = some window := by
      cases usesLargeData with
      | true => exact hwindow
      | false => cases hwindow
    exact .reserved hsome (Bool.eq_true_of_not_eq_false hfull) rfl rfl hid rfl

theorem windowMove_handleFileRangeRequest {op : ClipboardOp} (request : FdclFileRangeRequest) :
    WindowMove m op (m.handleFileRangeRequest surroundings packet request) :=
  m.windowMove_ite (m.windowMove_sendErrorResponse packet m rfl _ _) <|
    m.windowMove_ite (m.windowMove_sendErrorResponse packet m rfl _ _) <|
    m.windowMove_ite (m.windowMove_sendErrorResponse packet m rfl _ _) <|
    m.windowMove_ite (m.windowMove_sendErrorResponse packet m rfl _ _) <|
    m.windowMove_ite (m.windowMove_sendErrorResponse packet m.countResponse rfl _ _) <|
    m.windowMove_sendScheduledRange packet rfl _

/-- An answer without a reservation. -/
theorem windowMove_answer {op : ClipboardOp} {call : Call Unit} (h : call.Leaves windowPart m)
    (hrest : call.SendsOnly fun outgoing => outgoing.rest = .nothing) : WindowMove m op call := by
  refine .of_leaves h fun outgoing hout => ?_
  have hnothing : outgoing.rest = .nothing := hrest outgoing hout
  show outgoing.rest.reservation = none
  rw [hnothing]
  rfl

theorem windowMove_handle {asked : Received} (hasked : received packet = asked)
    (hrunning : m.state = .running) :
    WindowMove m (.handlePacket packet) (m.handle surroundings packet asked) := by
  have hcounter : IgnoresCounter windowPart := fun _ _ => rfl
  have hdrags : IgnoresDrags windowPart := fun _ _ _ => rfl
  have htracker : IgnoresTracker windowPart := fun _ _ _ => rfl
  have hresults : IgnoresResults windowPart := fun _ _ _ _ _ _ _ _ _ => rfl
  have hoffers : IgnoresOffers windowPart := fun _ _ _ _ => rfl
  have hkinds := kinds_received packet
  have hsent := m.sentBy_handle surroundings packet hasked
  rw [hasked] at hkinds
  -- what is no request is answered with no large response
  have hkept : (m.handle surroundings packet asked).Leaves windowPart m →
      packet.messageKind ≠ .request →
      WindowMove m (.handlePacket packet) (m.handle surroundings packet asked) := by
    intro hleaves hkind
    refine .of_leaves hleaves fun outgoing hout => ?_
    refine reservation_of_sentBy (hsent outgoing hout) fun request hrequest => ?_
    cases hrequest
    exact hkind
  have hevent : ∀ {kind : MessageKind}, (packet.messageKind == kind) = true → kind ≠ .request →
      packet.messageKind ≠ .request := fun hkind hne heq => hne ((eq_of_beq hkind).symm.trans heq)
  cases asked with
  | ignored =>
    exact .kept rfl Call.sendsOnly_silent
  | ack => exact .acknowledged hrunning hasked
  | answer =>
    refine hkept (m.leaves_handleReadResponse surroundings packet htracker hresults) fun hkind => ?_
    rw [hkind] at hkinds
    cases hkinds
  | formatList list =>
    exact hkept (Call.leaves_silent (m.handleFormatList_eq surroundings hoffers hdrags list))
      (hevent hkinds nofun)
  | dragStart start =>
    exact hkept (m.leaves_handleDragStart surroundings hdrags start) (hevent hkinds nofun)
  | dragMove move => exact hkept (m.leaves_handleDragMove surroundings move) (hevent hkinds nofun)
  | dragDrop drop =>
    exact hkept (m.leaves_handleDragDrop surroundings hdrags drop) (hevent hkinds nofun)
  | dragCancel cancel =>
    exact hkept (m.leaves_handleDragCancel surroundings hdrags cancel) (hevent hkinds nofun)
  | cancel cancel =>
    exact hkept (m.leaves_handleCancel surroundings htracker hresults cancel)
      (hevent hkinds nofun)
  | readRequest request =>
    exact m.windowMove_answer (m.leaves_handleReadRequest surroundings packet hcounter request) <|
      Call.sendsOnly_ite (fun _ => Call.sendsOnly_sending rfl) fun _ =>
      Call.sendsOnly_ite (fun _ => Call.sendsOnly_sending rfl) fun _ =>
      Call.sendsOnly_ite (fun _ => Call.sendsOnly_sending rfl) fun _ => Call.sendsOnly_sending rfl
  | fileRangeRequest request => exact m.windowMove_handleFileRangeRequest surroundings packet request
  | lockObject request =>
    exact m.windowMove_answer
      (m.leaves_handleObjectLockRequest surroundings packet hcounter hoffers request) <|
      Call.sendsOnly_ite (fun _ => Call.sendsOnly_sending rfl) fun _ =>
      Call.sendsOnly_ite (fun _ => Call.sendsOnly_sending rfl) fun _ => Call.sendsOnly_sending rfl
  | unlockObject request =>
    exact m.windowMove_answer (m.leaves_handleObjectUnlockRequest packet hcounter hoffers request) <|
      Call.sendsOnly_ite (fun _ => Call.sendsOnly_sending rfl) fun _ =>
      Call.sendsOnly_ite (fun _ => Call.sendsOnly_sending rfl) fun _ => Call.sendsOnly_sending rfl
  | badRequest status message => exact m.windowMove_sendErrorResponse packet m rfl status message

/-- **Every call does one of the four things to the window.** -/
theorem windowMove_perform (op : ClipboardOp) : WindowMove m op (m.perform surroundings op) := by
  have hcounter : IgnoresCounter windowPart := fun _ _ => rfl
  have hdrags : IgnoresDrags windowPart := fun _ _ _ => rfl
  have htracker : IgnoresTracker windowPart := fun _ _ _ => rfl
  have hresults : IgnoresResults windowPart := fun _ _ _ _ _ _ _ _ _ => rfl
  have hoffers : IgnoresOffers windowPart := fun _ _ _ _ => rfl
  have hsent := m.sentBy_perform surroundings op
  have hkept : (m.perform surroundings op).Leaves windowPart m → op.isDelivery = false →
      WindowMove m op (m.perform surroundings op) := by
    intro hleaves hcall
    refine .of_leaves hleaves fun outgoing hout => ?_
    refine reservation_of_sentBy (hsent outgoing hout) fun request hrequest => ?_
    rw [hrequest] at hcall
    cases hcall
  cases op with
  | attach runtime => exact .kept rfl Call.sendsOnly_silent
  | start =>
    refine .kept ?_ Call.sendsOnly_silent
    show m.start.windowPart = _
    unfold ClipboardModule.start
    split
    · rfl
    · rfl
  | stop => exact .cleared rfl rfl
  | detach => exact .cleared rfl rfl
  | pauseForReconnect options =>
    by_cases haffects : affectsClipboardChannel options = false
    · have hsame : m.pauseForReconnect options = m := if_pos haffects
      exact .kept (congrArg windowPart hsame) Call.sendsOnly_silent
    · refine .cleared ?_ rfl
      show (m.pauseForReconnect options).windowPart = _
      rw [ClipboardModule.pauseForReconnect, if_neg haffects]
      exact settleAll_eq _ hresults _
  | resumeAfterReconnect options =>
    exact hkept (m.leaves_resumeAfterReconnect surroundings hoffers hdrags options) rfl
  | handlePacket packet =>
    show WindowMove m _ (m.handlePacket surroundings packet)
    by_cases hrunning : m.state = .running
    · rw [m.handlePacket_eq surroundings packet hrunning]
      exact m.windowMove_handle surroundings packet rfl hrunning
    · rw [m.handlePacket_of_not_running surroundings packet hrunning]
      exact .kept rfl Call.sendsOnly_silent
  | announceLocalBundle bundle =>
    exact hkept (m.leaves_announceLocalBundle surroundings hoffers hdrags bundle).discard rfl
  | requestRemoteFormat request timeoutMs nowUsec =>
    exact hkept (m.leaves_requestRemoteFormatTracked surroundings htracker hresults request
      timeoutMs nowUsec).discard rfl
  | requestRemoteFileRange request timeoutMs nowUsec =>
    exact hkept (m.leaves_requestRemoteFileRangeTracked surroundings htracker hresults request
      timeoutMs nowUsec).discard rfl
  | requestRemoteObjectLock request timeoutMs nowUsec =>
    exact hkept (m.leaves_requestRemoteObjectLockTracked surroundings htracker hresults request
      timeoutMs nowUsec).discard rfl
  | requestRemoteObjectUnlock request timeoutMs nowUsec =>
    exact hkept (m.leaves_requestRemoteObjectUnlockTracked surroundings htracker hresults request
      timeoutMs nowUsec).discard rfl
  | sendCancel cancel timeoutMs nowUsec =>
    exact hkept (m.leaves_sendCancel surroundings hcounter cancel timeoutMs nowUsec).discard rfl
  | sendRemoteDragStart start =>
    exact hkept (m.leaves_sendRemoteDragStart surroundings hdrags start).discard rfl
  | sendRemoteDragMove move => exact hkept (m.leaves_sendRemoteDragMove surroundings move).discard rfl
  | sendRemoteDragDrop drop =>
    exact hkept (m.leaves_sendRemoteDragDrop surroundings hdrags drop).discard rfl
  | sendRemoteDragCancel cancel =>
    exact hkept (m.leaves_sendRemoteDragCancel surroundings hdrags cancel).discard rfl
  | expirePendingReads nowUsec =>
    exact hkept (Call.leaves_silent (m.settleAll_eq hresults _)) rfl

/-! ## The return of a send -/

/-- The rest of a call that has reserved nothing leaves the window alone, and the counter. -/
theorem afterSend_of_reservation_none (sent : Bool) {rest : AfterSend}
    (h : rest.reservation = none) :
    (m.afterSend sent rest).windowPart = m.windowPart ∧
      (m.afterSend sent rest).nextResponseMessageId = m.nextResponseMessageId := by
  cases rest with
  | nothing => exact ⟨rfl, rfl⟩
  | announced bundle =>
    exact ⟨leaves_announced (fun _ _ _ _ => rfl) (fun _ _ _ => rfl) bundle m sent,
      @leaves_announced _ (·.nextResponseMessageId) (fun _ _ _ _ => rfl) (fun _ _ _ => rfl) bundle
        m sent⟩
  | requested packet =>
    exact ⟨leaves_requested packet (fun _ _ _ => rfl) (fun _ _ _ _ _ _ _ _ _ => rfl) m sent,
      @leaves_requested _ (·.nextResponseMessageId) packet (fun _ _ _ => rfl)
        (fun _ _ _ _ _ _ _ _ _ => rfl) m sent⟩
  | rangeSent messageId bytes => cases h
  | acknowledged responseTo terminal result => exact ⟨rfl, rfl⟩
  | dragStarted dragSessionId =>
    cases sent with
    | true => exact ⟨rfl, rfl⟩
    | false => exact ⟨rfl, rfl⟩
  | dragEnded =>
    cases sent with
    | true => exact ⟨rfl, rfl⟩
    | false => exact ⟨rfl, rfl⟩

end ClipboardModule

end Clipboard
end FusionDesk
