import FusionDesk.Clipboard.CancelIds
import FusionDesk.Clipboard.LastResponses
import FusionDesk.Runtime.ClipboardRuntimePolicy

/-!
# The blocking reader of the remote clipboard

`ClipboardRuntimeRemoteReader` in `src/runtime/feature/clipboard_runtime_service.cpp` and
`clipboard_runtime_remote_object_lock.cpp`: a read, a file range, a lock or an unlock is asked of the
policy, sent through the clipboard module, and waited for by polling; the pump of a poll may make any
calls of the module.  The four functions differ in their kind of request, their texts and the policy
context, and are `remoteCall` on these.

The counters of the module's snapshot are not in the model.  The loop looks at them next to the
number of pending requests, which decides.  Behind the loop `timeoutFailures` has grown where the
sweep has just written the result down.

* `RemoteEnd`: what such a call comes to.
* `remoteCall_exact`: it leaves no request of its kind pending, and returns what its own request
  ended with; a read of a format can be lost to another answer.
* `isSome_pollLoop`: it returns once the clock is past the deadline.
-/

namespace FusionDesk

open Protocol Session Network RequestTracker

namespace Runtime

open Clipboard
open FusionDesk.Module

/-! ## The results -/

/-- The status of a result. -/
def ReadHandler.statusOf : (handler : ReadHandler) → handler.Result → ResponseStatus
  | .readResponse, result => TransferReadResult.status result
  | .fileRangeResponse, result => TransferFileRangeResult.status result
  | .objectLockResponse, result => TransferObjectLockResult.status result
  | .objectUnlockResponse, result => TransferObjectLockResult.status result

/-- `failedRead`, `failedFileRange` and `failedObjectLock`. -/
def ReadHandler.failed (status : ResponseStatus) (message : StdString) :
    (handler : ReadHandler) → handler.Result
  | .readResponse => ({ status := status, message := message } : TransferReadResult)
  | .fileRangeResponse => ({ status := status, message := message } : TransferFileRangeResult)
  | .objectLockResponse => ({ status := status, message := message } : TransferObjectLockResult)
  | .objectUnlockResponse => ({ status := status, message := message } : TransferObjectLockResult)

/-! ## The surroundings -/

structure ClipboardRuntimeRemoteReaderOptions where
  /-- `none` for a null pointer. -/
  session : Option SessionContext := none
  /-- Whether there is one. -/
  pump : Bool := false
  defaultTimeoutMs : UInt32 := 1000

/-- What one poll comes to: the calls that the pump makes of the module, and the clock after it. -/
structure Poll where
  calls : List (ClipboardOp × Surroundings) := []
  nowUsec : UInt64

/-- What a call of the reader meets. -/
structure ReaderSurroundings where
  startUsec : UInt64
  /-- While the request is sent. -/
  request : Surroundings := {}
  polls : List Poll
  /-- While the cancel is sent. -/
  cancel : Surroundings := {}

/-- What a call of the reader works on: the clipboard module of the session, `none` if there is none,
and the policy. -/
structure ReaderWorld (P : Type) where
  module : Option ClipboardModule
  policy : P

/-- What a call returns, and what it leaves. -/
structure RemoteOutcome (P R : Type) where
  result : R
  world : ReaderWorld P
  /-- What `sendCancel` is called with, if it is. -/
  cancelled : Option FdclCancel := none

/-! ## The four kinds of call -/

/-- What a function of the reader puts into the common code. -/
structure RemoteCall where
  handler : ReadHandler
  context : ClipboardRuntimePolicyContext
  /-- The request that is sent, with its timeout and the clock. -/
  request : ClipboardModule → Surroundings → UInt32 → UInt64 →
    Call ClipboardRemoteReadDispatchResult
  asks : ∀ (m : ClipboardModule) surroundings timeoutMs nowUsec,
    m.Asks handler surroundings timeoutMs nowUsec (request m surroundings timeoutMs nowUsec)
  cancel : MessageId → FdclCancel
  noModule : String
  noPump : String
  denied : String
  undispatched : String
  timedOut : String

namespace RemoteCall

/-- A failure of the reader's own. -/
def failed (call : RemoteCall) (status : ResponseStatus) (message : StdString) :
    call.handler.Result :=
  ReadHandler.failed status message call.handler

def status (call : RemoteCall) (result : call.handler.Result) : ResponseStatus :=
  ReadHandler.statusOf call.handler result

end RemoteCall

def effectiveTimeoutMs (options : ClipboardRuntimeRemoteReaderOptions) (timeoutMs : UInt32) :
    UInt32 :=
  if timeoutMs = 0 then
    if options.defaultTimeoutMs = 0 then 1000 else options.defaultTimeoutMs
  else timeoutMs

def deadlineOfRead (startUsec : UInt64) (timeoutMs : UInt32) : UInt64 :=
  startUsec + timeoutMs.toUInt64 * 1000

/-- The result that the module has written down under the id. -/
def answered (handler : ReadHandler) (id : MessageId) (m : ClipboardModule) :
    Option handler.Result :=
  if m.lastResponseTo handler = id then m.lastResult handler else none

/-- What the polling loop comes to: the result with the clock at it, or none if the loop was left
without one.  It has not come to anything while there are no further polls. -/
def pollLoop (handler : ReadHandler) (id : MessageId) (deadlineUsec : UInt64)
    (pendingBefore : ℕ) :
    List Poll → UInt64 → ClipboardModule → Option (Option (handler.Result × UInt64) × ClipboardModule)
  | [], nowUsec, m => if nowUsec ≤ deadlineUsec then none else some (none, m)
  | poll :: polls, nowUsec, m =>
    if nowUsec ≤ deadlineUsec then
      let m := (poll.calls.foldl ClipboardModule.step m).expirePendingReads poll.nowUsec
      match answered handler id m with
      | some result => some (some (result, poll.nowUsec), m)
      | none =>
        if m.readRequests.pending.size ≤ pendingBefore then some (none, m)
        else pollLoop handler id deadlineUsec pendingBefore polls poll.nowUsec m
    else some (none, m)

variable {P : Type}

/-- `sendCancel`, and the result. -/
def cancelled (call : RemoteCall) (id : MessageId) (timeoutMs : UInt32)
    (surroundings : Surroundings) (policy : P) (m : ClipboardModule) (nowUsec : UInt64)
    (result : call.handler.Result) : RemoteOutcome P call.handler.Result where
  result := result
  world := ⟨some ((m.sendCancel surroundings (call.cancel id) timeoutMs nowUsec).finish
    surroundings), policy⟩
  cancelled := some (call.cancel id)

/-- The end of a call. -/
def finishCall (call : RemoteCall) (id : MessageId) (timeoutMs : UInt32) (deadlineUsec : UInt64)
    (surroundings : Surroundings) (policy : P) :
    Option (call.handler.Result × UInt64) × ClipboardModule → RemoteOutcome P call.handler.Result
  | (some (result, nowUsec), m) =>
    if call.status result = .timeout then
      cancelled call id timeoutMs surroundings policy m nowUsec result
    else { result := result, world := ⟨some m, policy⟩ }
  | (none, m) =>
    let m := m.expirePendingReads (deadlineUsec + 1)
    cancelled call id timeoutMs surroundings policy m (deadlineUsec + 1)
      ((answered call.handler id m).getD (call.failed .timeout (bytesOf call.timedOut)))

/-- What the four functions of the reader have in common. -/
def remoteCall [IClipboardRuntimePolicy P] (options : ClipboardRuntimeRemoteReaderOptions)
    (call : RemoteCall) (timeoutMs : UInt32) (surroundings : ReaderSurroundings)
    (world : ReaderWorld P) :
    Option (RemoteOutcome P call.handler.Result) :=
  match world.module with
  | none => some { result := call.failed .notFound (bytesOf call.noModule), world := world }
  | some m =>
    if options.pump = false then
      some { result := call.failed .invalidArgument (bytesOf call.noPump), world := world }
    else
      let consulted := consult (auditRuleOf call.context.operation) world.policy call.context
      if consulted.1.allowed = false then
        some {
          result := call.failed consulted.1.responseStatus
            (if consulted.1.reason = [] then bytesOf call.denied else consulted.1.reason)
          world := ⟨some m, consulted.2⟩ }
      else
        let timeoutMs := effectiveTimeoutMs options timeoutMs
        let deadlineUsec := deadlineOfRead surroundings.startUsec timeoutMs
        let sent := call.request m surroundings.request timeoutMs surroundings.startUsec
        let dispatched := sent.value surroundings.request
        let after := sent.finish surroundings.request
        if dispatched.dispatched = false then
          some {
            result := call.failed dispatched.status
              (if dispatched.message = [] then bytesOf call.undispatched else dispatched.message)
            world := ⟨some after, consulted.2⟩ }
        else
          (pollLoop call.handler dispatched.messageId deadlineUsec m.readRequests.pending.size
              surroundings.polls surroundings.startUsec after).map
            (finishCall call dispatched.messageId timeoutMs deadlineUsec surroundings.cancel
              consulted.2)

/-! ## The functions of the reader -/

/-- `moduleId`. -/
def clipboardModuleId (session : Option SessionContext) : String :=
  match session with
  | none => ""
  | some context =>
    if context.role = .client then "clipboard.redirect.client"
    else if context.role = .agent then "clipboard.redirect.agent"
    else ""

/-- What every `makePolicyContext` takes from the session. -/
def sessionPolicyContext (session : Option SessionContext)
    (context : ClipboardRuntimePolicyContext) : ClipboardRuntimePolicyContext :=
  match session with
  | none => { context with moduleId := clipboardModuleId session }
  | some sessionContext =>
    { context with
      moduleId := clipboardModuleId session
      sessionId := sessionContext.sessionId
      traceId := sessionContext.traceId
      role := sessionContext.role
      policyVersion := sessionContext.policyVersion }

def fdclReadRequestFromTransfer (request : TransferReadRequest) : FdclReadFormatRequest where
  bundleId := request.bundleId
  offerId := request.offerId
  ownerEpoch := request.ownerEpoch
  sourceId := request.sourceId
  itemIndex := request.itemIndex
  formatId := request.formatId
  localFormatToken := request.localFormatToken
  acceptedMaxBytes := request.acceptedMaxBytes
  streamAccepted := request.streamAccepted
  requestedEncoding := request.requestedEncoding
  canonicalFormat := request.canonicalFormat

def fdclFileRangeRequestFromTransfer (request : TransferFileRangeRequest) :
    FdclFileRangeRequest where
  bundleId := request.bundleId
  offerId := request.offerId
  ownerEpoch := request.ownerEpoch
  sourceId := request.sourceId
  objectId := request.objectId
  fileIndex := request.fileIndex
  offset := request.offset
  requestedBytes := request.requestedBytes

def fdclObjectLockFromTransfer (request : TransferObjectLockRequest) : FdclObjectLock where
  bundleId := request.bundleId
  offerId := request.offerId
  ownerEpoch := request.ownerEpoch
  sourceId := request.sourceId
  objectId := request.objectId
  fileIndex := request.fileIndex
  lockId := request.lockId
  leaseUsec := request.leaseUsec

def cancelFromTransferObjectLock (request : TransferObjectLockRequest) (messageId : MessageId)
    (reason : FdclCancelReason) (message : StdString) : FdclCancel where
  correlationId := messageId
  bundleId := request.bundleId
  offerId := request.offerId
  ownerEpoch := request.ownerEpoch
  sourceId := request.sourceId
  reason := reason
  message := message

/-- `makePolicyContext(operation, request)` of the locks. -/
def lockPolicyContext (options : ClipboardRuntimeRemoteReaderOptions)
    (operation : ClipboardRuntimeOperation) (request : TransferObjectLockRequest) :
    ClipboardRuntimePolicyContext :=
  sessionPolicyContext options.session {
    operation := operation
    bundleId := request.bundleId
    offerId := request.offerId
    ownerEpoch := request.ownerEpoch
    objectId := request.objectId
    fileIndex := request.fileIndex
    requestedBytes := request.leaseUsec
    formatCount := 1
    canonicalFormat := fdclFileListFormat }

def formatCall (options : ClipboardRuntimeRemoteReaderOptions)
    (request : TransferReadRequest) : RemoteCall where
  handler := .readResponse
  context := sessionPolicyContext options.session {
    operation := .remoteFormatRead
    bundleId := request.bundleId
    offerId := request.offerId
    ownerEpoch := request.ownerEpoch
    formatCount := if request.canonicalFormat = [] then 0 else 1
    requestedBytes := request.acceptedMaxBytes
    canonicalFormat := request.canonicalFormat }
  request m surroundings timeoutMs nowUsec :=
    m.requestRemoteFormatTracked surroundings (fdclReadRequestFromTransfer request) timeoutMs nowUsec
  asks m surroundings timeoutMs nowUsec :=
    m.asks_requestRemoteFormatTracked surroundings timeoutMs nowUsec _
  cancel messageId :=
    cancelFromTransferRead request messageId .timeout (bytesOf "clipboard remote read timed out")
  noModule := "clipboard remote reader requires a running module"
  noPump := "clipboard remote reader requires a pump"
  denied := "clipboard remote read denied by policy"
  undispatched := "clipboard remote read request dispatch failed"
  timedOut := "clipboard remote read timed out"

def fileRangeCall (options : ClipboardRuntimeRemoteReaderOptions)
    (request : TransferFileRangeRequest) : RemoteCall where
  handler := .fileRangeResponse
  context := sessionPolicyContext options.session {
    operation := .remoteFileRangeRead
    bundleId := request.bundleId
    offerId := request.offerId
    ownerEpoch := request.ownerEpoch
    objectId := request.objectId
    requestedBytes := request.requestedBytes
    fileIndex := request.fileIndex
    formatCount := 1
    canonicalFormat := fdclFileListFormat }
  request m surroundings timeoutMs nowUsec :=
    m.requestRemoteFileRangeTracked surroundings (fdclFileRangeRequestFromTransfer request)
      timeoutMs nowUsec
  asks m surroundings timeoutMs nowUsec :=
    m.asks_requestRemoteFileRangeTracked surroundings timeoutMs nowUsec _
  cancel messageId :=
    cancelFromTransferFileRange request messageId .timeout
      (bytesOf "clipboard remote file range timed out")
  noModule := "clipboard remote file reader requires a running module"
  noPump := "clipboard remote file reader requires a pump"
  denied := "clipboard remote file range denied by policy"
  undispatched := "clipboard remote file range dispatch failed"
  timedOut := "clipboard remote file range timed out"

def lockCall (options : ClipboardRuntimeRemoteReaderOptions)
    (request : TransferObjectLockRequest) : RemoteCall where
  handler := .objectLockResponse
  context := lockPolicyContext options .remoteObjectLock request
  request m surroundings timeoutMs nowUsec :=
    m.requestRemoteObjectLockTracked surroundings (fdclObjectLockFromTransfer request) timeoutMs
      nowUsec
  asks m surroundings timeoutMs nowUsec :=
    m.asks_requestRemoteObjectLockTracked surroundings timeoutMs nowUsec _
  cancel messageId :=
    cancelFromTransferObjectLock request messageId .timeout
      (bytesOf "clipboard remote object lock timed out")
  noModule := "clipboard remote object lock requires a running module"
  noPump := "clipboard remote object lock requires a pump"
  denied := "clipboard remote object lock denied by policy"
  undispatched := "clipboard remote object lock dispatch failed"
  timedOut := "clipboard remote object lock timed out"

def unlockCall (options : ClipboardRuntimeRemoteReaderOptions)
    (request : TransferObjectLockRequest) : RemoteCall where
  handler := .objectUnlockResponse
  context := lockPolicyContext options .remoteObjectUnlock request
  request m surroundings timeoutMs nowUsec :=
    m.requestRemoteObjectUnlockTracked surroundings (fdclObjectLockFromTransfer request) timeoutMs
      nowUsec
  asks m surroundings timeoutMs nowUsec :=
    m.asks_requestRemoteObjectUnlockTracked surroundings timeoutMs nowUsec _
  cancel messageId :=
    cancelFromTransferObjectLock request messageId .timeout
      (bytesOf "clipboard remote object unlock timed out")
  noModule := "clipboard remote object unlock requires a running module"
  noPump := "clipboard remote object unlock requires a pump"
  denied := "clipboard remote object unlock denied by policy"
  undispatched := "clipboard remote object unlock dispatch failed"
  timedOut := "clipboard remote object unlock timed out"

def readRemoteFormat [IClipboardRuntimePolicy P]
    (options : ClipboardRuntimeRemoteReaderOptions) (request : TransferReadRequest) :
    UInt32 → ReaderSurroundings → ReaderWorld P → Option (RemoteOutcome P TransferReadResult) :=
  remoteCall options (formatCall options request)

def readRemoteFileRange [IClipboardRuntimePolicy P]
    (options : ClipboardRuntimeRemoteReaderOptions) (request : TransferFileRangeRequest) :
    UInt32 → ReaderSurroundings → ReaderWorld P →
      Option (RemoteOutcome P TransferFileRangeResult) :=
  remoteCall options (fileRangeCall options request)

def lockRemoteObject [IClipboardRuntimePolicy P]
    (options : ClipboardRuntimeRemoteReaderOptions) (request : TransferObjectLockRequest) :
    UInt32 → ReaderSurroundings → ReaderWorld P →
      Option (RemoteOutcome P TransferObjectLockResult) :=
  remoteCall options (lockCall options request)

def unlockRemoteObject [IClipboardRuntimePolicy P]
    (options : ClipboardRuntimeRemoteReaderOptions) (request : TransferObjectLockRequest) :
    UInt32 → ReaderSurroundings → ReaderWorld P →
      Option (RemoteOutcome P TransferObjectLockResult) :=
  remoteCall options (unlockCall options request)

/-! ## The loop -/

section Loop

variable {pending : PendingRequest ReadHandler} {m : ClipboardModule}

/-- The calls of a poll, the sweep of the loop with them. -/
def Poll.moments (poll : Poll) : List (ClipboardOp × Surroundings) :=
  poll.calls ++ [(ClipboardOp.expirePendingReads poll.nowUsec, ({} : Surroundings))]

theorem Poll.run_moments (poll : Poll) (m : ClipboardModule) :
    (poll.calls.foldl ClipboardModule.step m).expirePendingReads poll.nowUsec =
      poll.moments.foldl ClipboardModule.step m := by
  rw [moments, List.foldl_concat]
  rfl

theorem Poll.asksFor_moments (poll : Poll) {handler : ReadHandler}
    (h : ∀ moment ∈ poll.calls, moment.1.asksFor ≠ some handler) :
    ∀ moment ∈ poll.moments, moment.1.asksFor ≠ some handler := by
  intro moment hmoment
  rcases List.mem_append.mp hmoment with hcall | hsweep
  · exact h moment hcall
  · rw [List.mem_singleton.mp hsweep]
    exact nofun

/-- The result of a read is written down, and its id is written over. -/
def Lost (policy : ClipboardPolicy) (pending : PendingRequest ReadHandler) (m : ClipboardModule) :
    Prop :=
  EndedWith policy pending m.replies ∧ pending.handler = .readResponse ∧
    m.lastResponseTo pending.handler ≠ pending.request.messageId

/-- What has ended is found, unless the id is written over. -/
theorem answered_of_ended {policy : ClipboardPolicy} (h : EndedWith policy pending m.replies) :
    (∃ packet : PacketEnvelope, packet.responseTo = pending.request.messageId ∧
        answered pending.handler pending.request.messageId m =
          some (pending.handler.resultOf policy packet)) ∨
      answered pending.handler pending.request.messageId m = none ∧ Lost policy pending m := by
  obtain ⟨packet, hpacket, hended⟩ := h
  unfold Runtime.answered
  by_cases hnamed : m.lastResponseTo pending.handler = pending.request.messageId
  · rw [if_pos hnamed]
    exact Or.inl ⟨packet, hpacket, hended.result_eq⟩
  · rw [if_neg hnamed]
    exact Or.inr ⟨rfl, ⟨packet, hpacket, hended⟩, hended.named.resolve_right hnamed, hnamed⟩

/-- What waits is not found. -/
theorem answered_of_awaiting (h : Awaiting pending m.replies) :
    answered pending.handler pending.request.messageId m = none :=
  if_neg h.unnamed

/-- What the loop comes to: the result that the request ended with, or none while the request waits
or its result is lost. -/
def LoopEnd (policy : ClipboardPolicy) (pending : PendingRequest ReadHandler)
    (exit : Option (pending.handler.Result × UInt64) × ClipboardModule) : Prop :=
  (∃ (packet : PacketEnvelope) (nowUsec : UInt64),
      packet.responseTo = pending.request.messageId ∧
        exit.1 = some (pending.handler.resultOf policy packet, nowUsec) ∧
        EndedWith policy pending exit.2.replies) ∨
    exit.1 = none ∧ exit.2.policy = policy ∧
      (Awaiting pending exit.2.replies ∨ Lost policy pending exit.2)

/-- **What the loop comes to**, whatever the polls do but ask for the same kind. -/
theorem loopEnd_pollLoop {deadlineUsec : UInt64} {pendingBefore : ℕ} {polls : List Poll}
    (hcalls : ∀ poll ∈ polls, ∀ moment ∈ poll.calls, moment.1.asksFor ≠ some pending.handler)
    {nowUsec : UInt64} (hwaits : Awaiting pending m.replies ∨ Lost m.policy pending m)
    {exit : Option (pending.handler.Result × UInt64) × ClipboardModule}
    (h : pollLoop pending.handler pending.request.messageId deadlineUsec pendingBefore polls nowUsec
      m = some exit) :
    LoopEnd m.policy pending exit := by
  induction polls generalizing nowUsec m with
  | nil =>
    unfold pollLoop at h
    split_ifs at h
    rw [← Option.some.inj h]
    exact Or.inr ⟨rfl, rfl, hwaits⟩
  | cons poll polls ih =>
    obtain ⟨hpoll, hpolls⟩ := List.forall_mem_cons.mp hcalls
    unfold pollLoop at h
    split_ifs at h with hnow
    swap
    · rw [← Option.some.inj h]
      exact Or.inr ⟨rfl, rfl, hwaits⟩
    have hafter := awaiting_run (poll.asksFor_moments hpoll) (hwaits.imp id And.left)
    have hpolicy := policy_run m poll.moments
    rw [poll.run_moments] at h
    generalize poll.moments.foldl ClipboardModule.step m = m' at h hafter hpolicy
    rw [← hpolicy] at hafter ⊢
    dsimp only at h
    rcases hafter with hawaiting | hended
    · rw [answered_of_awaiting hawaiting] at h
      simp only at h
      split_ifs at h
      · rw [← Option.some.inj h]
        exact Or.inr ⟨rfl, rfl, Or.inl hawaiting⟩
      · exact ih hpolls (Or.inl hawaiting) h
    · rcases answered_of_ended hended with ⟨packet, hpacket, hfound⟩ | ⟨hnone, hlost⟩
      · rw [hfound] at h
        rw [← Option.some.inj h]
        exact Or.inl ⟨packet, poll.nowUsec, hpacket, rfl, hended⟩
      · rw [hnone] at h
        simp only at h
        split_ifs at h
        · rw [← Option.some.inj h]
          exact Or.inr ⟨rfl, rfl, Or.inr hlost⟩
        · exact ih hpolls (Or.inr hlost) h

/-- The sweep behind the loop ends what still waits. -/
theorem ended_sweep (h : Awaiting pending m.replies) {nowUsec : UInt64}
    (hdeadline : pending.deadlineUsec ≤ nowUsec) :
    Ended pending
        (pending.handler.resultOf m.policy (makeSyntheticResponse pending .timeout .error))
        (m.expirePendingReads nowUsec).replies ∧
      (m.expirePendingReads nowUsec).lastResponseTo pending.handler =
        pending.request.messageId := by
  have hswept := @Awaiting.swept m.policy pending m.replies h (expired nowUsec) .timeout
    (m.expirePendingReads nowUsec).replies (m.replies_settleAll _)
  have hexpired : expired nowUsec pending = true := decide_eq_true hdeadline
  rwa [if_pos hexpired] at hswept

/-- What it ends with is a timeout. -/
theorem statusOf_synthetic (handler : ReadHandler) (policy : ClipboardPolicy)
    (pending : PendingRequest ReadHandler) :
    ReadHandler.statusOf handler
      (handler.resultOf policy (makeSyntheticResponse pending .timeout .error)) = .timeout := by
  set packet := makeSyntheticResponse pending .timeout .error with hpacket
  have hkind : packet.messageKind = .error := rfl
  have hother : ¬ (packet.messageKind = .response ∧ packet.responseStatus = .ok) := by
    rw [hkind]
    exact fun h => nomatch h.1
  have hdecoded : ¬ ((decodeFdclPayload packet.payload).ok ∧
      (decodeFdclPayload packet.payload).operation = .errorDetail) := by
    show ¬ ((decodeFdclPayload []).ok ∧ (decodeFdclPayload []).operation = .errorDetail)
    decide +kernel
  have hdetail : (ClipboardModule.errorDetailOf packet).1 = .timeout := by
    unfold ClipboardModule.errorDetailOf
    dsimp only
    rw [if_neg hdecoded]
    rfl
  cases handler with
  | readResponse =>
    show (ClipboardModule.trackedReadResult policy packet).status = _
    unfold ClipboardModule.trackedReadResult enforceReadResultPolicy
    rw [if_neg hother, if_pos hkind, hdetail]
    rfl
  | fileRangeResponse =>
    show (ClipboardModule.trackedFileRangeResult policy packet).status = _
    unfold ClipboardModule.trackedFileRangeResult
    rw [if_neg hother, if_pos hkind, hdetail]
    rfl
  | objectLockResponse =>
    show (ClipboardModule.trackedObjectLockResult packet .lockObject).status = _
    unfold ClipboardModule.trackedObjectLockResult
    rw [if_neg hother, if_pos hkind, hdetail]
  | objectUnlockResponse =>
    show (ClipboardModule.trackedObjectLockResult packet .unlockObject).status = _
    unfold ClipboardModule.trackedObjectLockResult
    rw [if_neg hother, if_pos hkind, hdetail]

/-- And it finds nothing of what is lost. -/
theorem lost_sweep (h : Lost m.policy pending m) (nowUsec : UInt64) :
    Lost m.policy pending (m.expirePendingReads nowUsec) := by
  obtain ⟨hended, hread, hnamed⟩ := h
  have hstep := @EndedWith.step m.policy pending m hended (.expirePendingReads nowUsec, {}) nofun
  refine ⟨hstep, hread, ?_⟩
  obtain ⟨packet, -, hended⟩ := hended
  have hsame := (@Ended.settleAll_swept m.policy pending m.replies _ hended (expired nowUsec)
    .timeout (m.replies.withRequests (m.readRequests.expire nowUsec).2.2)).1
  have hreplies : (m.expirePendingReads nowUsec).replies =
      (m.replies.withRequests (m.readRequests.expire nowUsec).2.2).settleAll m.policy
        (m.readRequests.expire nowUsec).2.1 := m.replies_settleAll _
  show (m.expirePendingReads nowUsec).replies.responseTo pending.handler ≠ _
  rw [hreplies]
  exact fun heq => hnamed (hsame.symm.trans heq)

end Loop

/-! ## A call -/

/-- **What a call comes to**, if it returns. -/
inductive RemoteEnd (call : RemoteCall) (m : ClipboardModule)
    (outcome : RemoteOutcome P call.handler.Result) : Prop
  /-- The policy denies it, or it is not sent. -/
  | refused {status : ResponseStatus} {message : StdString}
      (result : outcome.result = call.failed status message)
      (cancelled : outcome.cancelled = none)
  /-- It returns what its own request ended with, and cancels it if that is a timeout. -/
  | ended {packet : PacketEnvelope} (responseTo : packet.responseTo = m.readMessageId)
      (result : outcome.result = call.handler.resultOf m.policy packet)
      (cancelled : outcome.cancelled =
        if call.status outcome.result = .timeout then some (call.cancel m.readMessageId) else none)
  /-- A format has been read, and another answer has come before the reader looked. -/
  | lost {packet : PacketEnvelope} {after : ClipboardModule}
      (format : call.handler = .readResponse) (module : outcome.world.module = some after)
      (responseTo : packet.responseTo = m.readMessageId)
      (there : after.lastResult call.handler = some (call.handler.resultOf m.policy packet))
      (written : after.lastResponseTo call.handler ≠ m.readMessageId)
      (result : outcome.result = call.failed .timeout (bytesOf call.timedOut))
      (cancelled : outcome.cancelled = some (call.cancel m.readMessageId))

/-- No request of a kind is pending. -/
def NonePending (handler : ReadHandler) (replies : Replies) : Prop :=
  ∀ (id : MessageId) (pending : PendingRequest ReadHandler),
    replies.requests.pending[id]? = some pending → pending.handler ≠ handler

/-- The reader has its kind of request for itself: none is pending, no answer has named the id that
the request will get, and the pump makes no such request; and the clock runs. -/
structure SoleUse (options : ClipboardRuntimeRemoteReaderOptions) (call : RemoteCall)
    (timeoutMs : UInt32) (surroundings : ReaderSurroundings) (m : ClipboardModule) : Prop where
  idle : NonePending call.handler m.replies
  unnamed : m.lastResponseTo call.handler ≠ m.readMessageId
  calls : ∀ poll ∈ surroundings.polls, ∀ moment ∈ poll.calls,
    moment.1.asksFor ≠ some call.handler
  started : surroundings.startUsec ≠ 0
  /-- The deadline does not wrap around. -/
  deadline : surroundings.startUsec.toNat +
    (effectiveTimeoutMs options timeoutMs).toNat * 1000 + 1 < 2 ^ 64

/-- A cancel changes no replies. -/
theorem replies_cancelled (call : RemoteCall) (id : MessageId) (timeoutMs : UInt32)
    (surroundings : Surroundings) (policy : P) (m : ClipboardModule) (nowUsec : UInt64)
    (result : call.handler.Result) :
    ∃ after, (cancelled call id timeoutMs surroundings policy m nowUsec result).world.module =
      some after ∧ after.replies = m.replies := by
  refine ⟨_, rfl, ?_⟩
  exact (m.leaves_sendCancel surroundings (fun _ _ => rfl) (call.cancel id) timeoutMs
    nowUsec).finish surroundings

theorem nonePending_of_endedWith {policy : ClipboardPolicy} {pending : PendingRequest ReadHandler}
    {replies : Replies} (h : EndedWith policy pending replies) :
    NonePending pending.handler replies := by
  obtain ⟨packet, -, hended⟩ := h
  exact hended.free

/-- **What the end of a call makes of what the loop came to.** -/
theorem remoteEnd_finishCall {call : RemoteCall} {m : ClipboardModule} {packet : PacketEnvelope}
    {requestDeadline : UInt64} (hid : packet.messageId = m.readMessageId) {timeoutMs : UInt32}
    {deadlineUsec : UInt64} (hdeadline : requestDeadline ≤ deadlineUsec + 1)
    (surroundings : Surroundings) (policy : P)
    {exit : Option (call.handler.Result × UInt64) × ClipboardModule}
    (hexit : LoopEnd m.policy ⟨packet, call.handler, requestDeadline⟩ exit) :
    RemoteEnd call m
        (finishCall call m.readMessageId timeoutMs deadlineUsec surroundings policy exit) ∧
      ∃ after, (finishCall call m.readMessageId timeoutMs deadlineUsec surroundings policy
        exit).world.module = some after ∧ NonePending call.handler after.replies := by
  obtain ⟨found, after⟩ := exit
  rcases hexit with ⟨response, nowUsec, hresponseTo, hfound, hended⟩ | ⟨hleft, hpolicy, hwaits⟩
  · have hnone : NonePending call.handler after.replies := nonePending_of_endedWith hended
    obtain rfl : found = some (call.handler.resultOf m.policy response, nowUsec) := hfound
    have hresponse : response.responseTo = m.readMessageId := hresponseTo.trans hid
    unfold finishCall
    dsimp only
    split_ifs with htimeout
    · obtain ⟨final, hfinal, hreplies⟩ := replies_cancelled call m.readMessageId timeoutMs
        surroundings policy after nowUsec (call.handler.resultOf m.policy response)
      refine ⟨.ended hresponse rfl (if_pos htimeout).symm, final, hfinal, ?_⟩
      rwa [hreplies]
    · exact ⟨.ended hresponse rfl (if_neg htimeout).symm, after, rfl, hnone⟩
  · obtain rfl : found = none := hleft
    unfold finishCall
    dsimp only
    rcases hwaits with hawaiting | hlost
    · obtain ⟨hended, hnamed⟩ := ended_sweep hawaiting hdeadline
      have hanswered : answered call.handler m.readMessageId
          (after.expirePendingReads (deadlineUsec + 1)) = some (call.handler.resultOf m.policy
            (makeSyntheticResponse ⟨packet, call.handler, requestDeadline⟩ .timeout .error)) := by
        rw [answered, if_pos (hnamed.trans hid), ← hpolicy]
        exact hended.result_eq
      rw [hanswered, Option.getD_some]
      obtain ⟨final, hfinal, hreplies⟩ := replies_cancelled call m.readMessageId timeoutMs
        surroundings policy (after.expirePendingReads (deadlineUsec + 1)) (deadlineUsec + 1)
        (call.handler.resultOf m.policy
          (makeSyntheticResponse ⟨packet, call.handler, requestDeadline⟩ .timeout .error))
      refine ⟨.ended hid rfl (if_pos ?_).symm, final, hfinal, ?_⟩
      · exact statusOf_synthetic call.handler m.policy _
      · rw [hreplies]
        exact hended.free
    · rw [← hpolicy] at hlost
      obtain ⟨hended, hread, hnamed⟩ := lost_sweep hlost (deadlineUsec + 1)
      have hnone : NonePending call.handler
          (after.expirePendingReads (deadlineUsec + 1)).replies := nonePending_of_endedWith hended
      have hwritten : (after.expirePendingReads (deadlineUsec + 1)).lastResponseTo call.handler ≠
          m.readMessageId := fun heq => hnamed (heq.trans hid.symm)
      have hanswered : answered call.handler m.readMessageId
          (after.expirePendingReads (deadlineUsec + 1)) = none := if_neg hwritten
      rw [hanswered, Option.getD_none]
      obtain ⟨final, hfinal, hreplies⟩ := replies_cancelled call m.readMessageId timeoutMs
        surroundings policy (after.expirePendingReads (deadlineUsec + 1)) (deadlineUsec + 1)
        (call.failed .timeout (bytesOf call.timedOut))
      obtain ⟨response, hresponse, hresult⟩ := hended
      refine ⟨.lost hread hfinal (hresponse.trans hid) ?_ ?_ rfl rfl, final, hfinal, ?_⟩
      · show final.replies.result call.handler = _
        rw [hreplies, ← hpolicy]
        exact hresult.result_eq
      · show final.replies.responseTo call.handler ≠ _
        rw [hreplies]
        exact hwritten
      · rwa [hreplies]

/-- The loop is left when the clock is past the deadline. -/
theorem isSome_pollLoop {handler : ReadHandler} {id : MessageId} {deadlineUsec : UInt64}
    {pendingBefore : ℕ} {polls : List Poll} {nowUsec : UInt64} (m : ClipboardModule)
    (h : deadlineUsec < nowUsec ∨ ∃ poll ∈ polls, deadlineUsec < poll.nowUsec) :
    (pollLoop handler id deadlineUsec pendingBefore polls nowUsec m).isSome = true := by
  induction polls generalizing nowUsec m with
  | nil =>
    obtain hpast | ⟨poll, hpoll, -⟩ := h
    · rw [pollLoop, if_neg (UInt64.not_le.mpr hpast)]
      rfl
    · cases hpoll
  | cons poll polls ih =>
    unfold pollLoop
    by_cases hnow : nowUsec ≤ deadlineUsec
    · rw [if_pos hnow]
      have hlater : deadlineUsec < poll.nowUsec ∨ ∃ poll ∈ polls, deadlineUsec < poll.nowUsec := by
        rcases h with hpast | ⟨past, hpast, hclock⟩
        · exact absurd hnow (UInt64.not_le.mpr hpast)
        · rcases List.mem_cons.mp hpast with rfl | hrest
          · exact Or.inl hclock
          · exact Or.inr ⟨past, hrest, hclock⟩
      dsimp only
      split
      · rfl
      · split_ifs
        · rfl
        · exact ih _ hlater
    · rw [if_neg hnow]
      rfl

/-- The deadline of the request is the one that the reader waits for. -/
theorem deadlineUsec_requested (m : ClipboardModule) (surroundings : Surroundings)
    (handler : ReadHandler) (payload : ByteBuffer) {timeoutMs : UInt32} {nowUsec : UInt64}
    (htimeout : timeoutMs ≠ 0) (hnow : nowUsec ≠ 0) :
    (m.requested surroundings handler payload timeoutMs nowUsec).deadlineUsec =
      deadlineOfRead nowUsec timeoutMs := by
  show deadlineOf (m.requestPacket surroundings payload timeoutMs nowUsec) = _
  simp [deadlineOf, ClipboardModule.requestPacket, htimeout, hnow, deadlineOfRead]

theorem effectiveTimeoutMs_ne (options : ClipboardRuntimeRemoteReaderOptions)
    (timeoutMs : UInt32) : effectiveTimeoutMs options timeoutMs ≠ 0 := by
  unfold effectiveTimeoutMs
  split_ifs with htimeout hdefault
  · decide
  · exact hdefault
  · exact htimeout

/-- A request that the reader has for itself waits once it is sent. -/
theorem awaiting_sent {options : ClipboardRuntimeRemoteReaderOptions} {call : RemoteCall}
    {timeoutMs : UInt32} {surroundings : ReaderSurroundings} {m : ClipboardModule}
    (hsole : SoleUse options call timeoutMs surroundings m) {pending : PendingRequest ReadHandler}
    (hhandler : pending.handler = call.handler)
    (hid : pending.request.messageId = m.readMessageId)
    {requests : RequestTracker ReadHandler}
    (hpending : ∀ id : MessageId, requests.pending[id]? =
      if pending.request.messageId = id then some pending else m.replies.requests.pending[id]?) :
    Awaiting pending (m.replies.withRequests requests) := by
  refine ⟨?_, ?_, ?_, ?_⟩
  · rw [hid, ClipboardModule.readMessageId]
    split_ifs with hzero
    · decide
    · exact hzero
  · show requests.pending[_]? = _
    rw [hpending, if_pos rfl]
  · intro id other hother hsame
    have htracked : requests.pending[id]? = some other := hother
    rw [hpending] at htracked
    split_ifs at htracked with heq
    · exact heq.symm
    · exact absurd (hsame.trans hhandler) (hsole.idle id other htracked)
  · rw [hhandler, hid]
    exact hsole.unnamed

/-- What is not sent leaves no request behind. -/
theorem nonePending_unsent {handler : ReadHandler} {policy : ClipboardPolicy}
    {before after : Replies} {pending : PendingRequest ReadHandler}
    {value : ClipboardRemoteReadDispatchResult} (hbefore : NonePending handler before)
    (h : ClipboardModule.Dispatched policy before pending value after)
    (hvalue : value.dispatched = false) : NonePending handler after := by
  cases h with
  | sent dispatched messageId free pending_eq after_eq =>
    rw [hvalue] at dispatched
    cases dispatched
  | refused dispatched after_eq =>
    rwa [after_eq]
  | unsent dispatched pending_eq after_eq =>
    intro id other hother
    rw [after_eq] at hother
    exact hbefore id other ((pending_eq id).symm.trans hother)

/-- The request of a call ends when the reader gives up, or before. -/
theorem requested_deadline {options : ClipboardRuntimeRemoteReaderOptions} {call : RemoteCall}
    {timeoutMs : UInt32} {surroundings : ReaderSurroundings} {m : ClipboardModule}
    (hsole : SoleUse options call timeoutMs surroundings m) (payload : ByteBuffer) :
    (m.requested surroundings.request call.handler payload (effectiveTimeoutMs options timeoutMs)
        surroundings.startUsec).deadlineUsec ≤
      deadlineOfRead surroundings.startUsec (effectiveTimeoutMs options timeoutMs) + 1 := by
  rw [deadlineUsec_requested m surroundings.request call.handler payload
    (effectiveTimeoutMs_ne options timeoutMs) hsole.started]
  have hdeadline := hsole.deadline
  generalize effectiveTimeoutMs options timeoutMs = timeout at hdeadline ⊢
  have hvalue : (deadlineOfRead surroundings.startUsec timeout).toNat =
      surroundings.startUsec.toNat + timeout.toNat * 1000 := by
    simp only [deadlineOfRead, UInt64.toNat_add, UInt64.toNat_mul, UInt32.toNat_toUInt64,
      UInt64.reduceToNat]
    omega
  rw [UInt64.le_iff_toNat_le, UInt64.toNat_add, hvalue]
  show _ ≤ (_ + 1) % _
  omega

/-- **A call of the reader that has its kind of request for itself** returns once the clock is past
the deadline.  When it returns it leaves no request of its kind pending, and what it returns is what
its own request ended with, unless that is lost to another answer. -/
theorem remoteCall_exact [IClipboardRuntimePolicy P]
    {options : ClipboardRuntimeRemoteReaderOptions} {call : RemoteCall} {timeoutMs : UInt32}
    {surroundings : ReaderSurroundings} {m : ClipboardModule}
    (hsole : SoleUse options call timeoutMs surroundings m) (policy : P) :
    ((∃ poll ∈ surroundings.polls,
        deadlineOfRead surroundings.startUsec (effectiveTimeoutMs options timeoutMs) <
          poll.nowUsec) →
      (remoteCall options call timeoutMs surroundings ⟨some m, policy⟩).isSome = true) ∧
    ∀ outcome, remoteCall options call timeoutMs surroundings ⟨some m, policy⟩ = some outcome →
      RemoteEnd call m outcome ∧
        ∃ after, outcome.world.module = some after ∧
          NonePending call.handler after.replies := by
  unfold remoteCall
  dsimp only
  by_cases hpump : options.pump = false
  · simp only [if_pos hpump]
    refine ⟨fun _ => rfl, fun outcome houtcome => ?_⟩
    rw [← Option.some.inj houtcome]
    exact ⟨.refused rfl rfl, m, rfl, hsole.idle⟩
  simp only [if_neg hpump]
  generalize consult (auditRuleOf call.context.operation) policy call.context = consulted
  by_cases hdenied : consulted.1.allowed = false
  · simp only [if_pos hdenied]
    refine ⟨fun _ => rfl, fun outcome houtcome => ?_⟩
    rw [← Option.some.inj houtcome]
    exact ⟨.refused rfl rfl, m, rfl, hsole.idle⟩
  simp only [if_neg hdenied]
  have hdeadline := requested_deadline hsole
  have hasks := call.asks m surroundings.request (effectiveTimeoutMs options timeoutMs)
    surroundings.startUsec
  have hpolicy := hasks.policy_eq
  obtain ⟨payload, hsent⟩ := hasks.dispatched
  generalize call.request m surroundings.request (effectiveTimeoutMs options timeoutMs)
    surroundings.startUsec = sent at hpolicy hsent ⊢
  by_cases hunsent : (sent.value surroundings.request).dispatched = false
  · simp only [if_pos hunsent]
    refine ⟨fun _ => rfl, fun outcome houtcome => ?_⟩
    rw [← Option.some.inj houtcome]
    exact ⟨.refused rfl rfl, _, rfl, nonePending_unsent hsole.idle hsent hunsent⟩
  simp only [if_neg hunsent]
  refine ⟨fun hpast => ?_, fun outcome houtcome => ?_⟩
  · rw [Option.isSome_map]
    exact isSome_pollLoop _ (Or.inr hpast)
  · obtain ⟨exit, hexit, rfl⟩ := Option.map_eq_some_iff.mp houtcome
    cases hsent with
    | refused dispatched after_eq => exact absurd dispatched hunsent
    | unsent dispatched pending_eq after_eq => exact absurd dispatched hunsent
    | sent dispatched messageId free pending_eq after_eq =>
      have hwaits := awaiting_sent hsole rfl rfl pending_eq
      rw [← after_eq] at hwaits
      rw [messageId] at hexit ⊢
      have hend := loopEnd_pollLoop hsole.calls (Or.inl hwaits) hexit
      rw [hpolicy] at hend
      exact remoteEnd_finishCall rfl (hdeadline payload) surroundings.cancel consulted.2 hend

/-- A module that runs. -/
def runningClipboard : ClipboardModule :=
  [(ClipboardOp.attach { sessionId := 1, traceId := 1, network := true }, ({} : Surroundings)),
    (.start, {})].foldl ClipboardModule.step (.construct textDependencies none)

def unlockOf (lockId : UInt64) : RemoteCall :=
  unlockCall { pump := true } { lockId := lockId }

def unlockAnswer (lockId : UInt64) : PacketEnvelope :=
  { peerPacket .response (encodeFdclUnlockObject
      { bundleId := 1, offerId := 2, ownerEpoch := 1, sourceId := 3, objectId := 5,
        lockId := lockId }) with
    responseTo := 1 }

/-- The answer to the unlock comes with the second poll; behind it the time is up. -/
def unlockPolls : List Poll :=
  [{ nowUsec := 1500 },
    { calls := [(.handlePacket (unlockAnswer 7), {})], nowUsec := 1800 },
    { nowUsec := 4000 }]

/-- An unlock that is answered, and one that is not. -/
theorem remoteCall_exact_unlocks :
    (∃ outcome, remoteCall { pump := true } (unlockOf 7) 1 ⟨1000, {}, unlockPolls, {}⟩
        ⟨some runningClipboard, ({} : AllowAllClipboardRuntimePolicy)⟩ = some outcome ∧
      RemoteEnd (unlockOf 7) runningClipboard outcome) ∧
    ((remoteCall { pump := true } (unlockOf 7) 1 ⟨1000, {}, unlockPolls, {}⟩
        ⟨some runningClipboard, ({} : AllowAllClipboardRuntimePolicy)⟩).map fun outcome =>
      ((unlockOf 7).status outcome.result, outcome.cancelled.isSome)) = some (ResponseStatus.ok, false) ∧
    ((remoteCall { pump := true } (unlockOf 7) 1 ⟨1000, {}, [{ nowUsec := 4000 }], {}⟩
        ⟨some runningClipboard, ({} : AllowAllClipboardRuntimePolicy)⟩).map fun outcome =>
      ((unlockOf 7).status outcome.result, outcome.cancelled.isSome)) = some (ResponseStatus.timeout, true) := by
  have hsole : SoleUse { pump := true } (unlockOf 7) 1 ⟨1000, {}, unlockPolls, {}⟩
      runningClipboard := by
    refine ⟨?_, by decide, ?_, by decide, by decide⟩
    · intro id pending hpending
      have hnone : runningClipboard.readRequests.pending = ∅ := rfl
      have hempty : runningClipboard.readRequests.pending[id]? = some pending := hpending
      rw [hnone, Std.ExtTreeMap.getElem?_empty] at hempty
      cases hempty
    · simp [unlockPolls, ClipboardOp.asksFor]
  obtain ⟨hreturns, hends⟩ := remoteCall_exact hsole ({} : AllowAllClipboardRuntimePolicy)
  obtain ⟨outcome, houtcome⟩ := Option.isSome_iff_exists.mp
    (hreturns ⟨{ nowUsec := 4000 }, by simp [unlockPolls], by decide⟩)
  exact ⟨⟨outcome, houtcome, (hends outcome houtcome).1⟩, by decide +kernel, by decide +kernel⟩

end Runtime
end FusionDesk
