import FusionDesk.Clipboard.PendingReads

/-!
# The last response of each kind

A handler writes down the id of the request that it was called for and what it made of the response,
over what the last call of the same handler has written.  Who waits for a request looks for its id
there.  An answer of the peer, whatever it answers, writes its id down for the handler of formats as
well.

* `Replies`: the requests that are pending, and what the handlers have written down.
* `replyMove_step`: what one call can do to them.
* `Awaiting.move`, `Ended.move`: a request that is the only one of its handler waits until it ends,
  and then its result stays.
* `awaiting_run`: so over any calls.
-/

namespace FusionDesk
namespace Clipboard

open Protocol Network RequestTracker
open FusionDesk.Module

/-! ## What a handler writes down -/

/-- What the handler makes of a response. -/
def ReadHandler.Result : ReadHandler → Type
  | .readResponse => TransferReadResult
  | .fileRangeResponse => TransferFileRangeResult
  | .objectLockResponse => TransferObjectLockResult
  | .objectUnlockResponse => TransferObjectLockResult

def ReadHandler.resultOf (policy : ClipboardPolicy) (packet : PacketEnvelope) :
    (handler : ReadHandler) → handler.Result
  | .readResponse => ClipboardModule.trackedReadResult policy packet
  | .fileRangeResponse => ClipboardModule.trackedFileRangeResult policy packet
  | .objectLockResponse => ClipboardModule.trackedObjectLockResult packet .lockObject
  | .objectUnlockResponse => ClipboardModule.trackedObjectLockResult packet .unlockObject

/-- The kind of request that a call makes. -/
def ClipboardOp.asksFor : ClipboardOp → Option ReadHandler
  | .requestRemoteFormat _ _ _ => some .readResponse
  | .requestRemoteFileRange _ _ _ => some .fileRangeResponse
  | .requestRemoteObjectLock _ _ _ => some .objectLockResponse
  | .requestRemoteObjectUnlock _ _ _ => some .objectUnlockResponse
  | _ => none

/-- The requests that are pending, and what the handlers have written down. -/
structure Replies where
  requests : RequestTracker ReadHandler
  responseTo : ReadHandler → MessageId
  result : (handler : ReadHandler) → Option handler.Result

namespace Replies

/-- An id is written down. -/
def name (replies : Replies) (handler : ReadHandler) (id : MessageId) : Replies :=
  { replies with responseTo := Function.update replies.responseTo handler id }

/-- A handler is called. -/
def settle (replies : Replies) (policy : ClipboardPolicy) (packet : PacketEnvelope)
    (handler : ReadHandler) : Replies :=
  { replies.name handler packet.responseTo with
    result := Function.update replies.result handler (some (handler.resultOf policy packet)) }

/-- The handlers of a sweep are called. -/
def settleAll (replies : Replies) (policy : ClipboardPolicy)
    (calls : List (HandlerCall ReadHandler)) : Replies :=
  calls.foldl (fun replies call => replies.settle policy call.response call.handler) replies

/-- The pending requests become others. -/
def withRequests (replies : Replies) (requests : RequestTracker ReadHandler) : Replies :=
  { replies with requests := requests }

end Replies

namespace ClipboardModule

variable (m : ClipboardModule) (surroundings : Surroundings) (packet : PacketEnvelope)

def lastResponseTo (m : ClipboardModule) : ReadHandler → MessageId
  | .readResponse => m.lastReadResponseTo
  | .fileRangeResponse => m.lastFileRangeResponseTo
  | .objectLockResponse => m.lastObjectLockResponseTo
  | .objectUnlockResponse => m.lastObjectUnlockResponseTo

def lastResult (m : ClipboardModule) : (handler : ReadHandler) → Option handler.Result
  | .readResponse => m.lastReadResult
  | .fileRangeResponse => m.lastFileRangeResult
  | .objectLockResponse => m.lastObjectLockResult
  | .objectUnlockResponse => m.lastObjectUnlockResult

def replies (m : ClipboardModule) : Replies := ⟨m.readRequests, m.lastResponseTo, m.lastResult⟩

theorem replies_settle (handler : ReadHandler) :
    (m.settle packet handler).replies = m.replies.settle m.policy packet handler := by
  unfold replies Replies.settle Replies.name
  congr 1
  · exact m.readRequests_settle packet handler
  · funext other
    cases handler <;> cases other <;> rfl
  · funext other
    cases handler <;> cases other <;> rfl

theorem replies_withTracker (tracker : RequestTracker ReadHandler) :
    { m with readRequests := tracker }.replies = m.replies.withRequests tracker := rfl

theorem replies_named (id : MessageId) :
    { m with lastReadResponseTo := id }.replies = m.replies.name .readResponse id := by
  unfold replies Replies.name
  congr 1
  funext other
  cases other <;> rfl

theorem policy_settle (handler : ReadHandler) : (m.settle packet handler).policy = m.policy :=
  @settle_eq _ (·.policy) m packet (fun _ _ _ _ _ _ _ _ _ => rfl) handler

theorem replies_settleAll
    (swept : ℕ × List (HandlerCall ReadHandler) × RequestTracker ReadHandler) :
    (m.settleAll swept).replies =
      (m.replies.withRequests swept.2.2).settleAll m.policy swept.2.1 := by
  unfold settleAll
  rw [← replies_withTracker]
  have hpolicy : { m with readRequests := swept.2.2 }.policy = m.policy := rfl
  rw [← hpolicy]
  generalize { m with readRequests := swept.2.2 } = m
  induction swept.2.1 generalizing m with
  | nil => rfl
  | cons call calls ih =>
    rw [List.foldl_cons, ih, replies_settle, policy_settle]
    rfl

/-! ## One call -/

/-- **What one call does to the replies.** -/
inductive ReplyMove (policy : ClipboardPolicy) (op : ClipboardOp) (before : Replies) :
    Replies → Prop
  | kept : ReplyMove policy op before before
  /-- An answer to nothing that is pending is named all the same. -/
  | missed {id : MessageId} (free : id = 0 ∨ before.requests.pending[id]? = none) :
      ReplyMove policy op before (before.name .readResponse id)
  /-- A request ends with a response, which is named if it is an answer. -/
  | settled {packet : PacketEnvelope} {pending : PendingRequest ReadHandler} {named : Replies}
      (pending_eq : before.requests.pending[packet.responseTo]? = some pending)
      (named_eq : named = before ∨ named = before.name .readResponse packet.responseTo) :
      ReplyMove policy op before ((named.settle policy packet pending.handler).withRequests
        (before.requests.erase packet.responseTo))
  /-- Requests expire, or lose their channel. -/
  | swept (ends : PendingRequest ReadHandler → Bool) (status : ResponseStatus) :
      ReplyMove policy op before
        ((before.withRequests (before.requests.sweep ends status).2.2).settleAll policy
          (before.requests.sweep ends status).2.1)
  /-- A request becomes pending. -/
  | tracked {pending : PendingRequest ReadHandler} {requests : RequestTracker ReadHandler}
      (asks : op.asksFor = some pending.handler)
      (free : before.requests.pending[pending.request.messageId]? = none)
      (pending_eq : ∀ id : MessageId, requests.pending[id]? =
        if pending.request.messageId = id then some pending else before.requests.pending[id]?) :
      ReplyMove policy op before (before.withRequests requests)
  /-- A request is not sent. -/
  | unsent {packet : PacketEnvelope} {handler : ReadHandler}
      {requests : RequestTracker ReadHandler} (asks : op.asksFor = some handler)
      (pending_eq : ∀ id : MessageId, requests.pending[id]? = before.requests.pending[id]?) :
      ReplyMove policy op before ((before.settle policy packet handler).withRequests requests)

/-- What a completion comes to, with all that it sends. -/
theorem replies_completeRead (hterminal : isTerminalResponse packet.messageKind = true) :
    (((m.completeRead surroundings packet).finish surroundings).replies = m.replies ∧
        (packet.responseTo = 0 ∨ m.readRequests.pending[packet.responseTo]? = none)) ∨
      ∃ pending, m.readRequests.pending[packet.responseTo]? = some pending ∧
        ((m.completeRead surroundings packet).finish surroundings).replies =
          (m.replies.settle m.policy packet pending.handler).withRequests
            (m.readRequests.erase packet.responseTo) := by
  unfold completeRead
  rcases m.readRequests.complete_cases packet with ⟨hmissed, hfree⟩ | ⟨pending, hpending, hended⟩
  · rw [hmissed]
    exact Or.inl ⟨rfl, hfree⟩
  · refine Or.inr ⟨pending, hpending, ?_⟩
    rw [hended, if_pos hterminal]
    simp only
    split
    · rw [← replies_settle]
      rfl
    next ack hack =>
      -- only the handler of file ranges sends anything
      have hrange : pending.handler = .fileRangeResponse := by
        by_contra hother
        rw [if_neg hother] at hack
        cases hack
      rw [hrange, ← replies_settle, hterminal]
      rfl

theorem replyMove_completeRead (op : ClipboardOp)
    (hterminal : isTerminalResponse packet.messageKind = true) :
    ReplyMove m.policy op m.replies
      ((m.completeRead surroundings packet).finish surroundings).replies := by
  rcases m.replies_completeRead surroundings packet hterminal with
    ⟨hkept, -⟩ | ⟨pending, hpending, hsettled⟩
  · rw [hkept]
    exact .kept
  · rw [hsettled]
    exact .settled hpending (Or.inl rfl)

theorem replyMove_handleReadResponse (op : ClipboardOp)
    (hterminal : isTerminalResponse packet.messageKind = true) :
    ReplyMove m.policy op m.replies
      ((m.handleReadResponse surroundings packet).finish surroundings).replies := by
  unfold handleReadResponse
  rcases { m with lastReadResponseTo := packet.responseTo }.replies_completeRead surroundings packet
    hterminal with ⟨hkept, hfree⟩ | ⟨pending, hpending, hsettled⟩
  · rw [hkept, m.replies_named packet.responseTo]
    exact @ReplyMove.missed m.policy op m.replies _ hfree
  · rw [hsettled, m.replies_named packet.responseTo]
    exact @ReplyMove.settled m.policy op m.replies _ _ _ hpending (Or.inr rfl)

variable {m} in
theorem ReplyMove.of_leaves {α : Type} {call : Call α} {op : ClipboardOp}
    (h : call.Leaves replies m) :
    ReplyMove m.policy op m.replies (call.finish surroundings).replies := by
  rw [h.finish surroundings]
  exact .kept

/-- Every kind of packet. -/
theorem replyMove_handle (op : ClipboardOp) :
    ReplyMove m.policy op m.replies
      ((m.handle surroundings packet (received packet)).finish surroundings).replies := by
  have hcounter : IgnoresCounter replies := fun _ _ => rfl
  have hdrags : IgnoresDrags replies := fun _ _ _ => rfl
  have hoffers : IgnoresOffers replies := fun _ _ _ _ => rfl
  have hwindow : IgnoresWindow replies := fun _ _ _ => rfl
  cases hasked : received packet with
  | ignored => exact .kept
  | ack => exact .of_leaves surroundings (Call.leaves_silent (m.handleLargeDataAck_eq packet hwindow))
  | answer =>
    refine m.replyMove_handleReadResponse surroundings packet op ?_
    have hkinds : (received packet).kinds packet.messageKind = true := kinds_received packet
    rw [hasked] at hkinds
    unfold isTerminalResponse
    rw [show (packet.messageKind == .response || packet.messageKind == .error) = true from hkinds,
      Bool.true_or]
  | formatList list =>
    exact .of_leaves surroundings (Call.leaves_silent
      (m.handleFormatList_eq surroundings hoffers hdrags list))
  | dragStart start => exact .of_leaves _ (m.leaves_handleDragStart surroundings hdrags start)
  | dragMove move => exact .of_leaves _ (m.leaves_handleDragMove surroundings move)
  | dragDrop drop => exact .of_leaves _ (m.leaves_handleDragDrop surroundings hdrags drop)
  | dragCancel cancel => exact .of_leaves _ (m.leaves_handleDragCancel surroundings hdrags cancel)
  | cancel cancel => exact m.replyMove_completeRead surroundings (m.cancelledPacket cancel) op rfl
  | readRequest request =>
    exact .of_leaves _ (m.leaves_handleReadRequest surroundings packet hcounter request)
  | fileRangeRequest request =>
    exact .of_leaves _ (m.leaves_handleFileRangeRequest surroundings packet hcounter hwindow request)
  | lockObject request =>
    exact .of_leaves _
      (m.leaves_handleObjectLockRequest surroundings packet hcounter hoffers request)
  | unlockObject request =>
    exact .of_leaves _ (m.leaves_handleObjectUnlockRequest packet hcounter hoffers request)
  | badRequest status message =>
    exact .of_leaves _ (m.leaves_sendErrorResponse packet hcounter status message)

/-- A sweep of the tracker. -/
theorem replyMove_sweep (op : ClipboardOp) (ends : PendingRequest ReadHandler → Bool)
    (status : ResponseStatus) :
    ReplyMove m.policy op m.replies (m.settleAll (m.readRequests.sweep ends status)).replies := by
  rw [replies_settleAll]
  exact .swept ends status

/-- A request that is tracked. -/
def requested (handler : ReadHandler) (payload : ByteBuffer) (timeoutMs : UInt32)
    (nowUsec : UInt64) : PendingRequest ReadHandler where
  request := m.requestPacket surroundings payload timeoutMs nowUsec
  handler := handler
  deadlineUsec := deadlineOf (m.requestPacket surroundings payload timeoutMs nowUsec)

/-- What an error of the module's own comes to, on the channel of the requests. -/
theorem replies_failRequest (hsmall : isClipboardLargeDataPacket packet = false)
    {pending : PendingRequest ReadHandler} (hzero : packet.messageId ≠ 0)
    (hpending : m.readRequests.pending[packet.messageId]? = some pending) :
    ∃ response : PacketEnvelope, (m.failRequest packet).replies =
      (m.replies.settle m.policy response pending.handler).withRequests
        (m.readRequests.erase packet.messageId) := by
  refine ⟨{ packet with
    messageKind := .error
    responseStatus := .channelUnavailable
    responseTo := packet.messageId }, ?_⟩
  have hack : m.largeDataAck {} { packet with
      messageKind := .error
      responseStatus := .channelUnavailable
      responseTo := packet.messageId } = none :=
    if_pos (Or.inl hsmall)
  unfold failRequest completeRead
  rcases m.readRequests.complete_cases { packet with
      messageKind := .error
      responseStatus := .channelUnavailable
      responseTo := packet.messageId } with ⟨-, hfree⟩ | ⟨pending', hpending', hended⟩
  · rcases hfree with hfree | hfree
    · exact absurd hfree hzero
    · rw [hpending] at hfree
      cases hfree
  · obtain rfl := Option.some.inj (hpending.symm.trans hpending')
    rw [hended]
    simp only [hack, ite_self]
    rw [← replies_settle]
    rfl

/-- What sending a request comes to. -/
inductive Dispatched (policy : ClipboardPolicy) (before : Replies)
    (pending : PendingRequest ReadHandler) (value : ClipboardRemoteReadDispatchResult)
    (after : Replies) : Prop
  /-- It is pending under its id, which was free. -/
  | sent {requests : RequestTracker ReadHandler} (dispatched : value.dispatched = true)
      (messageId : value.messageId = pending.request.messageId)
      (free : before.requests.pending[pending.request.messageId]? = none)
      (pending_eq : ∀ id : MessageId, requests.pending[id]? =
        if pending.request.messageId = id then some pending else before.requests.pending[id]?)
      (after_eq : after = before.withRequests requests)
  | refused (dispatched : value.dispatched = false) (after_eq : after = before)
  /-- It ends with an error of the module's own. -/
  | unsent {response : PacketEnvelope} {requests : RequestTracker ReadHandler}
      (dispatched : value.dispatched = false)
      (pending_eq : ∀ id : MessageId, requests.pending[id]? = before.requests.pending[id]?)
      (after_eq : after = (before.settle policy response pending.handler).withRequests requests)

theorem dispatched_dispatch (handler : ReadHandler) (payload : ByteBuffer) (timeoutMs : UInt32)
    (nowUsec : UInt64) (unavailable : StdString) :
    Dispatched m.policy m.replies (m.requested surroundings handler payload timeoutMs nowUsec)
      ((m.dispatch surroundings handler payload timeoutMs nowUsec unavailable).value surroundings)
      ((m.dispatch surroundings handler payload timeoutMs nowUsec unavailable).finish
        surroundings).replies := by
  have htracked := m.readRequests.track_cases
    (m.requestPacket surroundings payload timeoutMs nowUsec) (some handler)
  unfold dispatch
  rcases htracked with ⟨hrefused, -, hsame⟩ | ⟨handler', hhandler, htrackable, htracked⟩
  · simp only [hrefused, if_true]
    refine .refused rfl ?_
    show Replies.mk _ _ _ = _
    rw [hsame]
    rfl
  · cases hhandler
    simp only [htracked]
    set packet := m.requestPacket surroundings payload timeoutMs nowUsec with hpacket
    set tracked : ClipboardModule := { m with
      nextReadMessageId := m.readMessageId + 1
      readRequests := { m.readRequests with
        pending := m.readRequests.pending.insert packet.messageId
          ⟨packet, handler, deadlineOf packet⟩ } } with htrackedModule
    have hpending : ∀ id : MessageId, tracked.readRequests.pending[id]? =
        if packet.messageId = id then some ⟨packet, handler, deadlineOf packet⟩
        else m.readRequests.pending[id]? := by
      intro id
      show (m.readRequests.pending.insert packet.messageId _)[id]? = _
      rw [Std.ExtTreeMap.getElem?_insert]
      simp only [Std.LawfulEqOrd.compare_eq_iff_eq]
    show Dispatched m.policy m.replies _
      (if (tracked.runtime.network && surroundings.sent) = true then _ else _)
      (tracked.afterSend (tracked.runtime.network && surroundings.sent) (.requested packet)).replies
    cases tracked.runtime.network && surroundings.sent with
    | true => exact .sent rfl rfl htrackable.notPending hpending rfl
    | false =>
      have hown : tracked.readRequests.pending[packet.messageId]? =
          some ⟨packet, handler, deadlineOf packet⟩ := by
        rw [hpending, if_pos rfl]
      obtain ⟨response, hfailed⟩ :=
        tracked.replies_failRequest packet rfl htrackable.messageId hown
      refine .unsent rfl (fun id => ?_) hfailed
      rw [pending_erase, hpending]
      by_cases hid : packet.messageId = id
      · rw [if_pos hid, ← hid]
        exact htrackable.notPending.symm
      · rw [if_neg hid, if_neg hid]
        rfl

/-- A call that comes to nothing, or to what sending a request comes to. -/
inductive Asks (handler : ReadHandler) (surroundings : Surroundings) (timeoutMs : UInt32)
    (nowUsec : UInt64) : Call ClipboardRemoteReadDispatchResult → Prop
  | refused {call : Call ClipboardRemoteReadDispatchResult} (leaves : call.Leaves replies m)
      (keeps : call.Leaves policy m) (value : (call.value surroundings).dispatched = false) :
      Asks handler surroundings timeoutMs nowUsec call
  | dispatch (payload : ByteBuffer) (unavailable : StdString) :
      Asks handler surroundings timeoutMs nowUsec
        (m.dispatch surroundings handler payload timeoutMs nowUsec unavailable)

section

variable {m surroundings}
variable {handler : ReadHandler} {timeoutMs : UInt32} {nowUsec : UInt64}

theorem Asks.dispatched {call : Call ClipboardRemoteReadDispatchResult}
    (h : m.Asks handler surroundings timeoutMs nowUsec call) :
    ∃ payload, Dispatched m.policy m.replies
      (m.requested surroundings handler payload timeoutMs nowUsec) (call.value surroundings)
      (call.finish surroundings).replies := by
  cases h with
  | refused leaves keeps value => exact ⟨[], .refused value (leaves.finish surroundings)⟩
  | dispatch payload unavailable =>
    exact ⟨payload,
      m.dispatched_dispatch surroundings handler payload timeoutMs nowUsec unavailable⟩

theorem Asks.policy_eq {call : Call ClipboardRemoteReadDispatchResult}
    (h : m.Asks handler surroundings timeoutMs nowUsec call) :
    (call.finish surroundings).policy = m.policy := by
  cases h with
  | refused leaves keeps value => exact keeps.finish surroundings
  | dispatch payload unavailable =>
    exact (m.leaves_dispatch surroundings (fun _ _ _ => rfl) (fun _ _ _ _ _ _ _ _ _ => rfl) handler
      payload timeoutMs nowUsec unavailable).finish surroundings

theorem Asks.denied (status : ResponseStatus) (message : StdString) :
    m.Asks handler surroundings timeoutMs nowUsec (Call.denied m status message) :=
  .refused (Call.leaves_denied rfl) (Call.leaves_denied rfl) rfl

theorem Asks.ite {c : Prop} [Decidable c] {first second : Call ClipboardRemoteReadDispatchResult}
    (hfirst : m.Asks handler surroundings timeoutMs nowUsec first)
    (hsecond : m.Asks handler surroundings timeoutMs nowUsec second) :
    m.Asks handler surroundings timeoutMs nowUsec (if c then first else second) := by
  by_cases h : c
  · rwa [if_pos h]
  · rwa [if_neg h]

/-- A module that does not run answers with an empty result. -/
theorem Asks.idle :
    m.Asks handler surroundings timeoutMs nowUsec { after := m, result := fun _ => {} } :=
  .refused ⟨rfl, fun _ hout => nomatch hout⟩ ⟨rfl, fun _ hout => nomatch hout⟩ rfl

theorem ReplyMove.of_asks {op : ClipboardOp} {call : Call ClipboardRemoteReadDispatchResult}
    (h : m.Asks handler surroundings timeoutMs nowUsec call) (hop : op.asksFor = some handler) :
    ReplyMove m.policy op m.replies (call.discard.finish surroundings).replies := by
  obtain ⟨payload, hdispatched⟩ := h.dispatched
  show ReplyMove m.policy op m.replies (call.finish surroundings).replies
  cases hdispatched with
  | sent dispatched messageId free pending_eq after_eq =>
    rw [after_eq]
    exact .tracked hop free pending_eq
  | refused dispatched after_eq =>
    rw [after_eq]
    exact .kept
  | unsent dispatched pending_eq after_eq =>
    rw [after_eq]
    exact .unsent hop pending_eq

end

variable (timeoutMs : UInt32) (nowUsec : UInt64)

theorem asks_requestRemoteFormatTracked (request : FdclReadFormatRequest) :
    m.Asks .readResponse surroundings timeoutMs nowUsec
      (m.requestRemoteFormatTracked surroundings request timeoutMs nowUsec) :=
  .ite .idle <| .ite (.denied _ _) <| .ite (.denied _ _) <| .dispatch _ _

theorem asks_requestRemoteFileRangeTracked (request : FdclFileRangeRequest) :
    m.Asks .fileRangeResponse surroundings timeoutMs nowUsec
      (m.requestRemoteFileRangeTracked surroundings request timeoutMs nowUsec) :=
  .ite .idle <| .ite (.denied _ _) <| .ite (.denied _ _) <| .ite (.denied _ _) <|
    .dispatch _ _

theorem asks_requestRemoteObjectLockTracked (request : FdclObjectLock) :
    m.Asks .objectLockResponse surroundings timeoutMs nowUsec
      (m.requestRemoteObjectLockTracked surroundings request timeoutMs nowUsec) :=
  .ite .idle <| .ite (.denied _ _) <| .ite (.denied _ _) <| .dispatch _ _

theorem asks_requestRemoteObjectUnlockTracked (request : FdclObjectLock) :
    m.Asks .objectUnlockResponse surroundings timeoutMs nowUsec
      (m.requestRemoteObjectUnlockTracked surroundings request timeoutMs nowUsec) :=
  .ite .idle <| .ite (.denied _ _) <| .ite (.denied _ _) <| .dispatch _ _

/-- **What one call does to the replies**, with all that it sends. -/
theorem replyMove_step (moment : ClipboardOp × Surroundings) :
    ReplyMove m.policy moment.1 m.replies (m.step moment).replies := by
  have hcounter : IgnoresCounter replies := fun _ _ => rfl
  have hdrags : IgnoresDrags replies := fun _ _ _ => rfl
  have hoffers : IgnoresOffers replies := fun _ _ _ _ => rfl
  have hwindow : IgnoresWindow replies := fun _ _ _ => rfl
  obtain ⟨op, surroundings⟩ := moment
  show ReplyMove m.policy op m.replies ((m.perform surroundings op).finish surroundings).replies
  cases op with
  | attach runtime => exact .kept
  | start =>
    refine .of_leaves _ (Call.leaves_silent ?_)
    unfold ClipboardModule.start
    split
    · rfl
    · rfl
  | stop => exact .kept
  | detach => exact .kept
  | pauseForReconnect options =>
    show ReplyMove m.policy _ m.replies (m.pauseForReconnect options).replies
    unfold pauseForReconnect
    by_cases haffects : affectsClipboardChannel options = false
    · rw [if_pos haffects]
      exact .kept
    · rw [if_neg haffects]
      exact m.releaseAllLargeDataReservations.replyMove_sweep _ _ _
  | resumeAfterReconnect options =>
    exact .of_leaves _ (m.leaves_resumeAfterReconnect surroundings hoffers hdrags options)
  | handlePacket packet =>
    show ReplyMove m.policy _ m.replies
      ((m.handlePacket surroundings packet).finish surroundings).replies
    by_cases hrunning : m.state = .running
    · rw [m.handlePacket_eq surroundings packet hrunning]
      exact m.replyMove_handle surroundings packet _
    · rw [m.handlePacket_of_not_running surroundings packet hrunning]
      exact .kept
  | announceLocalBundle bundle =>
    exact .of_leaves _ (m.leaves_announceLocalBundle surroundings hoffers hdrags bundle).discard
  | requestRemoteFormat request timeoutMs nowUsec =>
    exact .of_asks (m.asks_requestRemoteFormatTracked surroundings timeoutMs nowUsec request) rfl
  | requestRemoteFileRange request timeoutMs nowUsec =>
    exact .of_asks (m.asks_requestRemoteFileRangeTracked surroundings timeoutMs nowUsec request) rfl
  | requestRemoteObjectLock request timeoutMs nowUsec =>
    exact .of_asks (m.asks_requestRemoteObjectLockTracked surroundings timeoutMs nowUsec request) rfl
  | requestRemoteObjectUnlock request timeoutMs nowUsec =>
    exact .of_asks
      (m.asks_requestRemoteObjectUnlockTracked surroundings timeoutMs nowUsec request) rfl
  | sendCancel cancel timeoutMs nowUsec =>
    exact .of_leaves _ (m.leaves_sendCancel surroundings hcounter cancel timeoutMs nowUsec).discard
  | sendRemoteDragStart start =>
    exact .of_leaves _ (m.leaves_sendRemoteDragStart surroundings hdrags start).discard
  | sendRemoteDragMove move =>
    exact .of_leaves _ (m.leaves_sendRemoteDragMove surroundings move).discard
  | sendRemoteDragDrop drop =>
    exact .of_leaves _ (m.leaves_sendRemoteDragDrop surroundings hdrags drop).discard
  | sendRemoteDragCancel cancel =>
    exact .of_leaves _ (m.leaves_sendRemoteDragCancel surroundings hdrags cancel).discard
  | expirePendingReads nowUsec => exact m.replyMove_sweep _ _ _

theorem policy_step (moment : ClipboardOp × Surroundings) : (m.step moment).policy = m.policy :=
  congrArg ClipboardModuleDependencies.policy
    ((m.leaves_dependencies moment.2 moment.1).finish moment.2)

end ClipboardModule

/-! ## One request -/

namespace Replies

variable (replies : Replies) (policy : ClipboardPolicy)

@[simp] theorem requests_settle (packet : PacketEnvelope) (handler : ReadHandler) :
    (replies.settle policy packet handler).requests = replies.requests := rfl

@[simp] theorem requests_name (handler : ReadHandler) (id : MessageId) :
    (replies.name handler id).requests = replies.requests := rfl

theorem requests_settleAll (calls : List (HandlerCall ReadHandler)) :
    (replies.settleAll policy calls).requests = replies.requests := by
  unfold settleAll
  induction calls generalizing replies with
  | nil => rfl
  | cons call calls ih => rw [List.foldl_cons, ih, requests_settle]

/-- Calls of other handlers write nothing down for a handler. -/
theorem settleAll_of_ne {handler : ReadHandler} {calls : List (HandlerCall ReadHandler)}
    (hother : ∀ call ∈ calls, call.handler ≠ handler) :
    (replies.settleAll policy calls).responseTo handler = replies.responseTo handler ∧
      (replies.settleAll policy calls).result handler = replies.result handler := by
  unfold settleAll
  induction calls generalizing replies with
  | nil => exact ⟨rfl, rfl⟩
  | cons call calls ih =>
    obtain ⟨hcall, hcalls⟩ := List.forall_mem_cons.mp hother
    obtain ⟨hresponseTo, hresult⟩ := ih (replies.settle policy call.response call.handler) hcalls
    rw [List.foldl_cons, hresponseTo, hresult]
    exact ⟨Function.update_of_ne hcall.symm _ _, Function.update_of_ne hcall.symm _ _⟩

/-- Calls of a handler for one response only write this one down. -/
theorem settleAll_of_mem {handler : ReadHandler} {response : PacketEnvelope}
    {calls : List (HandlerCall ReadHandler)}
    (hall : ∀ call ∈ calls, call.handler = handler → call.response = response)
    (hmem : ∃ call ∈ calls, call.handler = handler) :
    (replies.settleAll policy calls).responseTo handler = response.responseTo ∧
      (replies.settleAll policy calls).result handler = some (handler.resultOf policy response) := by
  induction calls using List.reverseRecOn with
  | nil =>
    obtain ⟨call, hcall, -⟩ := hmem
    cases hcall
  | append_singleton calls call ih =>
    unfold settleAll
    rw [List.foldl_concat]
    by_cases hhandler : call.handler = handler
    · subst hhandler
      rw [hall call (by simp) rfl]
      exact ⟨Function.update_self _ _ _, Function.update_self _ _ _⟩
    · obtain ⟨hresponseTo, hresult⟩ := ih (fun c hc => hall c (List.mem_append_left _ hc)) (by
        obtain ⟨c, hc, hch⟩ := hmem
        rcases List.mem_append.mp hc with hc | hc
        · exact ⟨c, hc, hch⟩
        · rw [List.mem_singleton.mp hc] at hch
          exact absurd hch hhandler)
      have hne : handler ≠ call.handler := Ne.symm hhandler
      exact ⟨(Function.update_of_ne hne _ _).trans hresponseTo,
        (Function.update_of_ne hne _ _).trans hresult⟩

end Replies

/-- A call of a sweep is for one of the requests that it ends. -/
theorem mem_calls_sweep_iff {tracker : RequestTracker ReadHandler}
    {ends : PendingRequest ReadHandler → Bool} {status : ResponseStatus}
    {call : HandlerCall ReadHandler} :
    call ∈ (tracker.sweep ends status).2.1 ↔ ∃ (id : MessageId) (pending : PendingRequest ReadHandler),
      tracker.pending[id]? = some pending ∧ ends pending = true ∧ endCall status pending = call := by
  rw [calls_sweep, List.mem_filterMap]
  constructor
  · rintro ⟨id, hid, hcall⟩
    obtain ⟨pending, hpending, hends⟩ := (tracker.mem_collect).mp hid
    rw [hpending] at hcall
    exact ⟨id, pending, hpending, hends, Option.some.inj hcall⟩
  · rintro ⟨id, pending, hpending, hends, rfl⟩
    refine ⟨id, tracker.mem_collect.mpr ⟨pending, hpending, hends⟩, ?_⟩
    rw [hpending]
    rfl

/-- **A request waits**, alone of its handler, and its id is not written down. -/
structure Awaiting (pending : PendingRequest ReadHandler) (replies : Replies) : Prop where
  nonzero : pending.request.messageId ≠ 0
  pending_eq : replies.requests.pending[pending.request.messageId]? = some pending
  sole : ∀ (id : MessageId) (other : PendingRequest ReadHandler),
    replies.requests.pending[id]? = some other → other.handler = pending.handler →
      id = pending.request.messageId
  unnamed : replies.responseTo pending.handler ≠ pending.request.messageId

/-- **The request has ended**: none of its handler is pending, and its result is the last one. -/
structure Ended (pending : PendingRequest ReadHandler) (result : pending.handler.Result)
    (replies : Replies) : Prop where
  free : ∀ (id : MessageId) (other : PendingRequest ReadHandler),
    replies.requests.pending[id]? = some other → other.handler ≠ pending.handler
  result_eq : replies.result pending.handler = some result
  /-- Only the id of a read of a format can be written over. -/
  named : pending.handler = .readResponse ∨
    replies.responseTo pending.handler = pending.request.messageId

open ClipboardModule (ReplyMove)

/-- An id that an answer writes down. -/
theorem responseTo_named {named before : Replies} {written : MessageId}
    (hnamed : named = before ∨ named = before.name .readResponse written) {handler : ReadHandler}
    (id : MessageId) (hbefore : before.responseTo handler ≠ id) (hwritten : written ≠ id) :
    named.responseTo handler ≠ id := by
  rcases hnamed with rfl | rfl
  · exact hbefore
  · by_cases hhandler : handler = .readResponse
    · subst hhandler
      show Function.update before.responseTo .readResponse written .readResponse ≠ id
      rwa [Function.update_self]
    · show Function.update before.responseTo .readResponse written handler ≠ id
      rwa [Function.update_of_ne hhandler]

theorem result_named {named before : Replies} {written : MessageId}
    (hnamed : named = before ∨ named = before.name .readResponse written) :
    named.result = before.result := by
  rcases hnamed with rfl | rfl <;> rfl

/-- The result of a request that ends with a response. -/
def EndedWith (policy : ClipboardPolicy) (pending : PendingRequest ReadHandler)
    (replies : Replies) : Prop :=
  ∃ packet : PacketEnvelope, packet.responseTo = pending.request.messageId ∧
    Ended pending (pending.handler.resultOf policy packet) replies

variable {policy : ClipboardPolicy} {op : ClipboardOp} {pending : PendingRequest ReadHandler}
  {before after : Replies}

/-- The request has just ended. -/
def JustEnded (policy : ClipboardPolicy) (pending : PendingRequest ReadHandler)
    (replies : Replies) : Prop :=
  EndedWith policy pending replies ∧
    replies.responseTo pending.handler = pending.request.messageId

/-- A request ends with a response to it. -/
theorem Awaiting.settled (h : Awaiting pending before) {packet : PacketEnvelope}
    {other : PendingRequest ReadHandler} {named : Replies}
    (hother : before.requests.pending[packet.responseTo]? = some other)
    (hnamed : named = before ∨ named = before.name .readResponse packet.responseTo) :
    Awaiting pending ((named.settle policy packet other.handler).withRequests
        (before.requests.erase packet.responseTo)) ∨
      JustEnded policy pending ((named.settle policy packet other.handler).withRequests
        (before.requests.erase packet.responseTo)) := by
  have herased : ∀ (id : MessageId) (another : PendingRequest ReadHandler),
      (before.requests.erase packet.responseTo).pending[id]? = some another →
        packet.responseTo ≠ id ∧ before.requests.pending[id]? = some another := by
    intro id another hanother
    rw [pending_erase] at hanother
    split_ifs at hanother with heq
    exact ⟨heq, hanother⟩
  by_cases hid : packet.responseTo = pending.request.messageId
  · obtain rfl : other = pending := by
      rw [hid, h.pending_eq] at hother
      exact (Option.some.inj hother).symm
    have hresponseTo := (Function.update_self other.handler packet.responseTo
      named.responseTo).trans hid
    refine Or.inr ⟨⟨packet, hid, ?_, Function.update_self _ _ _, Or.inr hresponseTo⟩, hresponseTo⟩
    intro id another hanother hhandler
    obtain ⟨hne, hbefore⟩ := herased id another hanother
    exact hne (hid.trans (h.sole id another hbefore hhandler).symm)
  · have hhandler : other.handler ≠ pending.handler := fun heq =>
      hid (h.sole packet.responseTo other hother heq)
    refine Or.inl ⟨h.nonzero, ?_, ?_, ?_⟩
    · show (before.requests.erase packet.responseTo).pending[_]? = _
      rw [pending_erase, if_neg hid, h.pending_eq]
    · intro id another hanother
      exact h.sole id another (herased id another hanother).2
    · show Function.update named.responseTo other.handler packet.responseTo pending.handler ≠ _
      rw [Function.update_of_ne hhandler.symm]
      exact responseTo_named hnamed _ h.unnamed hid

/-- Requests expire, or lose their channel: one that is to end has ended with the response that the
tracker makes up. -/
theorem Awaiting.swept (h : Awaiting pending before) (ends : PendingRequest ReadHandler → Bool)
    (status : ResponseStatus) {after : Replies}
    (hafter : after = (before.withRequests (before.requests.sweep ends status).2.2).settleAll policy
      (before.requests.sweep ends status).2.1) :
    if ends pending then
      Ended pending (pending.handler.resultOf policy (makeSyntheticResponse pending status .error))
          after ∧
        after.responseTo pending.handler = pending.request.messageId
    else Awaiting pending after := by
  subst hafter
  have hrequests : ∀ (id : MessageId) (another : PendingRequest ReadHandler),
      (before.requests.sweep ends status).2.2.pending[id]? = some another ↔
        before.requests.pending[id]? = some another ∧ ends another = false := by
    intro id another
    rw [pending_sweep, Option.filter_eq_some_iff, Bool.not_eq_true']
  -- no other call is of this handler
  have hcalls : ∀ call ∈ (before.requests.sweep ends status).2.1,
      call.handler = pending.handler → ends pending = true ∧ call = endCall status pending := by
    intro call hcall hhandler
    obtain ⟨id, another, hanother, hends, rfl⟩ := mem_calls_sweep_iff.mp hcall
    obtain rfl := h.sole id another hanother hhandler
    obtain rfl := Option.some.inj (h.pending_eq.symm.trans hanother)
    exact ⟨hends, rfl⟩
  set swept := before.requests.sweep ends status with hswept
  cases hends : ends pending with
  | true =>
    have hown : ∃ call ∈ swept.2.1, call.handler = pending.handler :=
      ⟨_, mem_calls_sweep_iff.mpr ⟨_, pending, h.pending_eq, hends, rfl⟩, rfl⟩
    obtain ⟨hresponseTo, hresult⟩ := (before.withRequests swept.2.2).settleAll_of_mem policy
      (fun call hcall hhandler => congrArg HandlerCall.response (hcalls call hcall hhandler).2) hown
    refine ⟨⟨?_, hresult, Or.inr hresponseTo⟩, hresponseTo⟩
    intro id another hanother hhandler
    rw [Replies.requests_settleAll] at hanother
    obtain ⟨hbefore, hkept⟩ := (hrequests id another).mp hanother
    obtain rfl := h.sole id another hbefore hhandler
    obtain rfl := Option.some.inj (h.pending_eq.symm.trans hbefore)
    rw [hends] at hkept
    cases hkept
  | false =>
    have hnone : ∀ call ∈ swept.2.1, call.handler ≠ pending.handler := by
      intro call hcall hhandler
      have hcontra := (hcalls call hcall hhandler).1
      rw [hends] at hcontra
      cases hcontra
    obtain ⟨hresponseTo, -⟩ := (before.withRequests swept.2.2).settleAll_of_ne policy hnone
    refine ⟨h.nonzero, ?_, ?_, ?_⟩
    · rw [Replies.requests_settleAll]
      exact (hrequests _ _).mpr ⟨h.pending_eq, hends⟩
    · intro id another hanother
      rw [Replies.requests_settleAll] at hanother
      exact h.sole id another ((hrequests id another).mp hanother).1
    · rw [hresponseTo]
      exact h.unnamed

/-- **A request waits, or a call has ended it**, if the call does not ask for the same kind. -/
theorem Awaiting.move (h : Awaiting pending before) (hmove : ReplyMove policy op before after)
    (hop : op.asksFor ≠ some pending.handler) :
    Awaiting pending after ∨ JustEnded policy pending after := by
  cases hmove with
  | kept => exact Or.inl h
  | @missed id free =>
    refine Or.inl ⟨h.nonzero, h.pending_eq, h.sole, ?_⟩
    refine responseTo_named (Or.inr rfl) _ h.unnamed ?_
    rintro rfl
    rcases free with hzero | hnone
    · exact h.nonzero hzero
    · rw [h.pending_eq] at hnone
      cases hnone
  | settled pending_eq named_eq => exact h.settled pending_eq named_eq
  | swept ends status =>
    have hswept := @Awaiting.swept policy pending before h ends status _ rfl
    split_ifs at hswept
    · exact Or.inr ⟨⟨_, rfl, hswept.1⟩, hswept.2⟩
    · exact Or.inl hswept
  | @tracked other requests asks free pending_eq =>
    have hhandler : other.handler ≠ pending.handler := fun heq => hop (asks.trans (congrArg _ heq))
    have hid : other.request.messageId ≠ pending.request.messageId := by
      intro heq
      rw [heq, h.pending_eq] at free
      cases free
    refine Or.inl ⟨h.nonzero, ?_, ?_, h.unnamed⟩
    · show requests.pending[_]? = _
      rw [pending_eq, if_neg hid, h.pending_eq]
    · intro id another hanother hsame
      have htracked : requests.pending[id]? = some another := hanother
      rw [pending_eq] at htracked
      split_ifs at htracked
      · rw [← Option.some.inj htracked] at hsame
        exact absurd hsame hhandler
      · exact h.sole id another htracked hsame
  | @unsent packet handler requests asks pending_eq =>
    have hhandler : pending.handler ≠ handler := fun heq => hop (asks.trans (congrArg _ heq.symm))
    refine Or.inl ⟨h.nonzero, ?_, ?_, ?_⟩
    · show requests.pending[_]? = _
      rw [pending_eq, h.pending_eq]
    · intro id another hanother
      have hbefore : requests.pending[id]? = some another := hanother
      rw [pending_eq] at hbefore
      exact h.sole id another hbefore
    · show Function.update before.responseTo handler packet.responseTo pending.handler ≠ _
      rw [Function.update_of_ne hhandler]
      exact h.unnamed

/-- A sweep calls no handler of a request that has ended. -/
theorem Ended.settleAll_swept {result : pending.handler.Result}
    (h : Ended pending result before) (ends : PendingRequest ReadHandler → Bool)
    (status : ResponseStatus) (swept : Replies) :
    (swept.settleAll policy (before.requests.sweep ends status).2.1).responseTo pending.handler =
        swept.responseTo pending.handler ∧
      (swept.settleAll policy (before.requests.sweep ends status).2.1).result pending.handler =
        swept.result pending.handler := by
  refine swept.settleAll_of_ne policy fun call hcall => ?_
  obtain ⟨id, another, hanother, -, rfl⟩ := mem_calls_sweep_iff.mp hcall
  exact h.free id another hanother

/-- **The result of a request that has ended stays**, if a call does not ask for the same kind. -/
theorem Ended.move {result : pending.handler.Result} (h : Ended pending result before)
    (hmove : ReplyMove policy op before after) (hop : op.asksFor ≠ some pending.handler) :
    Ended pending result after := by
  have hnamed : ∀ {named : Replies} {id : MessageId},
      named = before ∨ named = before.name .readResponse id →
        pending.handler = .readResponse ∨
          named.responseTo pending.handler = pending.request.messageId := by
    rintro named id (rfl | rfl)
    · exact h.named
    · rcases h.named with hread | hresponseTo
      · exact Or.inl hread
      · by_cases hread : pending.handler = .readResponse
        · exact Or.inl hread
        · exact Or.inr ((Function.update_of_ne hread _ _).trans hresponseTo)
  cases hmove with
  | kept => exact h
  | @missed id free => exact ⟨h.free, h.result_eq, hnamed (Or.inr rfl)⟩
  | @settled packet other named pending_eq named_eq =>
    have hhandler : pending.handler ≠ other.handler := (h.free _ other pending_eq).symm
    refine ⟨?_, ?_, ?_⟩
    · intro id another hanother
      have herased : (before.requests.erase packet.responseTo).pending[id]? = some another :=
        hanother
      rw [pending_erase] at herased
      split_ifs at herased
      exact h.free id another herased
    · refine (Function.update_of_ne hhandler _ _).trans ?_
      rw [result_named named_eq]
      exact h.result_eq
    · refine (hnamed named_eq).imp id fun hresponseTo => ?_
      exact (Function.update_of_ne hhandler _ _).trans hresponseTo
  | swept ends status =>
    obtain ⟨hresponseTo, hresult⟩ := @Ended.settleAll_swept policy pending before result h ends
      status (before.withRequests (before.requests.sweep ends status).2.2)
    refine ⟨?_, hresult.trans h.result_eq, h.named.imp id fun hid => hresponseTo.trans hid⟩
    intro id another hanother
    rw [Replies.requests_settleAll] at hanother
    have hkept : (before.requests.sweep ends status).2.2.pending[id]? = some another := hanother
    rw [pending_sweep] at hkept
    exact h.free id another (Option.filter_eq_some_iff.mp hkept).1
  | @tracked other requests asks free pending_eq =>
    refine ⟨?_, h.result_eq, h.named⟩
    intro id another hanother hsame
    have htracked : requests.pending[id]? = some another := hanother
    rw [pending_eq] at htracked
    split_ifs at htracked
    · rw [← Option.some.inj htracked] at hsame
      exact hop (asks.trans (congrArg _ hsame))
    · exact h.free id another htracked hsame
  | @unsent packet handler requests asks pending_eq =>
    have hhandler : pending.handler ≠ handler := fun heq => hop (asks.trans (congrArg _ heq.symm))
    refine ⟨?_, (Function.update_of_ne hhandler _ _).trans h.result_eq, ?_⟩
    · intro id another hanother
      have hbefore : requests.pending[id]? = some another := hanother
      rw [pending_eq] at hbefore
      exact h.free id another hbefore
    · refine h.named.imp id fun hresponseTo => ?_
      exact (Function.update_of_ne hhandler _ _).trans hresponseTo

/-! ## Runs of calls -/

theorem EndedWith.step {m : ClipboardModule} (h : EndedWith policy pending m.replies)
    {moment : ClipboardOp × Surroundings} (hop : moment.1.asksFor ≠ some pending.handler) :
    EndedWith policy pending (m.step moment).replies := by
  obtain ⟨packet, hpacket, hended⟩ := h
  exact ⟨packet, hpacket, hended.move (m.replyMove_step moment) hop⟩

theorem policy_run (m : ClipboardModule) (calls : List (ClipboardOp × Surroundings)) :
    (calls.foldl ClipboardModule.step m).policy = m.policy := by
  induction calls generalizing m with
  | nil => rfl
  | cons call calls ih => rw [List.foldl_cons, ih, m.policy_step]

/-- **A request waits, or has ended with a response to it**, after any calls that do not ask for the
same kind. -/
theorem awaiting_run {m : ClipboardModule} {calls : List (ClipboardOp × Surroundings)}
    (hcalls : ∀ call ∈ calls, call.1.asksFor ≠ some pending.handler)
    (h : Awaiting pending m.replies ∨ EndedWith m.policy pending m.replies) :
    Awaiting pending (calls.foldl ClipboardModule.step m).replies ∨
      EndedWith m.policy pending (calls.foldl ClipboardModule.step m).replies := by
  induction calls generalizing m with
  | nil => exact h
  | cons call calls ih =>
    obtain ⟨hcall, hrest⟩ := List.forall_mem_cons.mp hcalls
    rw [List.foldl_cons, ← m.policy_step call]
    refine ih hrest ?_
    rw [m.policy_step call]
    rcases h with hawaiting | hended
    · exact (hawaiting.move (m.replyMove_step call) hcall).imp id And.left
    · exact Or.inr (hended.step hcall)

end Clipboard
end FusionDesk
