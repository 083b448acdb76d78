import FusionDesk.Clipboard.ClipboardModule

/-!
# Requests to the peer

`clipboard_module_remote_read.cpp` and the requesting half of `clipboard_module_object_lock.cpp`: the
tracked requests, what a response to one comes to, and cancels.

The four kinds of request differ in the questions asked before, the payload, the handler and one
text; the rest is `dispatch`.  A handler sends nothing but the acknowledgement of a large response.
The responses that the tracker makes up itself are on the channel of the request, which is
small_data, so `settle` is all that happens to them.
-/

namespace FusionDesk
namespace Clipboard

open Protocol Network
open FusionDesk.Module

/-- `struct ClipboardRemoteReadDispatchResult`. -/
structure ClipboardRemoteReadDispatchResult where
  dispatched : Bool := false
  status : ResponseStatus := .failed
  messageId : MessageId := 0
  message : StdString := []
  deriving DecidableEq, Repr

/-- A request that is refused before it is sent. -/
def Call.denied (m : ClipboardModule) (status : ResponseStatus) (message : StdString) :
    Call ClipboardRemoteReadDispatchResult where
  after := m
  result _ := { status := status, message := message }

namespace ClipboardModule

/-! ## What a response comes to -/

/-- What the handlers read off a packet of the kind `Error`. -/
def errorDetailOf (packet : PacketEnvelope) : ResponseStatus × StdString :=
  let decoded := decodeFdclPayload packet.payload
  if decoded.ok ∧ decoded.operation = .errorDetail then
    (decoded.errorDetail.status, decoded.errorDetail.message)
  else (packet.responseStatus, bytesOf decoded.error)

/-- The text for a response that is no answer: the error of the decoder, or what the handler says
itself. -/
def invalidResponse (decoded : FdclDecodeResult) (text : String) : StdString :=
  if decoded.error = "" then bytesOf text else bytesOf decoded.error

/-- The result in `handleTrackedReadResponse`. -/
def trackedReadResult (policy : ClipboardPolicy) (packet : PacketEnvelope) : TransferReadResult :=
  enforceReadResultPolicy policy <|
    if packet.messageKind = .response ∧ packet.responseStatus = .ok then
      let decoded := decodeFdclPayload packet.payload
      if decoded.ok = false ∨ decoded.operation ≠ .readFormatResponse then {
        status := .protocolError
        message := invalidResponse decoded "clipboard read response invalid" }
      else {
        status := .ok
        canonicalFormat := decoded.readResponse.canonicalFormat
        encoding := decoded.readResponse.encoding
        bytes := decoded.readResponse.bytes }
    else if packet.messageKind = .error then {
      status := (errorDetailOf packet).1
      message := (errorDetailOf packet).2 }
    else {
      status := .protocolError
      message := bytesOf "clipboard read completed with invalid message kind" }

/-- The result in `handleTrackedFileRangeResponse`. -/
def trackedFileRangeResult (policy : ClipboardPolicy) (packet : PacketEnvelope) :
    TransferFileRangeResult :=
  let result : TransferFileRangeResult :=
    if packet.messageKind = .response ∧ packet.responseStatus = .ok then
      let decoded := decodeFdclPayload packet.payload
      if decoded.ok = false ∨ decoded.operation ≠ .fileRangeResponse then {
        status := .protocolError
        message := invalidResponse decoded "clipboard file range response invalid" }
      else {
        status := .ok
        bytes := decoded.fileRangeResponse.bytes
        endOfFile := decoded.fileRangeResponse.endOfFile }
    else if packet.messageKind = .error then {
      status := (errorDetailOf packet).1
      message := (errorDetailOf packet).2 }
    else {
      status := .protocolError
      message := bytesOf "clipboard file range completed with invalid message kind" }
  if result.ok ∧ result.bytes.length > (effectiveMaxFileRangeBytes policy).toNat then
    { result with
      status := .tooLarge
      bytes := []
      message := bytesOf "clipboard file range exceeds policy max bytes" }
  else result

/-- `trackedObjectLockResult`. -/
def trackedObjectLockResult (packet : PacketEnvelope) (expected : FdclOperation) :
    TransferObjectLockResult :=
  if packet.messageKind = .response ∧ packet.responseStatus = .ok then
    let decoded := decodeFdclPayload packet.payload
    if decoded.ok = false ∨ decoded.operation ≠ expected then {
      status := .protocolError
      message := invalidResponse decoded "clipboard object lock response invalid" }
    else {
      status := .ok
      lockId := decoded.objectLock.lockId
      leaseUsec := decoded.objectLock.leaseUsec }
  else if packet.messageKind = .error then {
    status := (errorDetailOf packet).1
    message := (errorDetailOf packet).2 }
  else {
    status := .protocolError
    message := bytesOf "clipboard object lock completed with invalid message kind" }

/-- What a handler does to the module, its acknowledgement apart. -/
def settle (m : ClipboardModule) (packet : PacketEnvelope) : ReadHandler → ClipboardModule
  | .readResponse =>
    { m with
      lastReadResponseTo := packet.responseTo
      lastReadResult := some (trackedReadResult m.policy packet) }
  | .fileRangeResponse =>
    { m with
      lastFileRangeResponseTo := packet.responseTo
      lastFileRangeResult := some (trackedFileRangeResult m.policy packet) }
  | .objectLockResponse =>
    { m with
      lastObjectLockResponseTo := packet.responseTo
      lastObjectLockResult := some (trackedObjectLockResult packet .lockObject) }
  | .objectUnlockResponse =>
    { m with
      lastObjectUnlockResponseTo := packet.responseTo
      lastObjectUnlockResult := some (trackedObjectLockResult packet .unlockObject) }

/-- `readRequests_.complete(packet)` up to the send of the handler.  The tracker forgets the request
when the handler has returned. -/
def completeRead (m : ClipboardModule) (surroundings : Surroundings) (packet : PacketEnvelope) :
    Call Unit :=
  match m.readRequests.complete packet with
  | (_, [], _) => .silent m
  | (_, call :: _, tracker) =>
    let ack := if call.handler = .fileRangeResponse then m.largeDataAck surroundings packet else none
    match ack with
    | none => .silent { m.settle packet call.handler with readRequests := tracker }
    | some ack =>
      { after := { m with lastFileRangeResponseTo := packet.responseTo }
        outgoing := some {
          packet := ack
          rest := .acknowledged packet.responseTo
            (RequestTracker.isTerminalResponse packet.messageKind)
            (trackedFileRangeResult m.policy packet) }
        result := fun _ => () }

/-- The calls that a sweep of the tracker makes, and what is left of it. -/
def settleAll (m : ClipboardModule)
    (swept : ℕ × List (HandlerCall ReadHandler) × RequestTracker ReadHandler) : ClipboardModule :=
  swept.2.1.foldl (fun m call => m.settle call.response call.handler)
    { m with readRequests := swept.2.2 }

def expirePendingReads (m : ClipboardModule) (nowUsec : UInt64) : ClipboardModule :=
  m.settleAll (m.readRequests.expire nowUsec)

def handleReadResponse (m : ClipboardModule) (surroundings : Surroundings)
    (packet : PacketEnvelope) : Call Unit :=
  { m with lastReadResponseTo := packet.responseTo }.completeRead surroundings packet

/-! ## Tracked requests -/

/-- `readRequests_.nextMessageId()`. -/
def readMessageId (m : ClipboardModule) : MessageId :=
  if m.nextReadMessageId = 0 then 1 else m.nextReadMessageId

/-- The packet of a tracked request. -/
def requestPacket (m : ClipboardModule) (surroundings : Surroundings) (payload : ByteBuffer)
    (timeoutMs : UInt32) (nowUsec : UInt64) : PacketEnvelope :=
  { m.makePacket .request with
    flags := packetFlagResponseRequired
    messageId := m.readMessageId
    correlationId := m.readMessageId
    timeoutMs := if timeoutMs = 0 then 1000 else timeoutMs
    monotonicTimestampUsec := if nowUsec = 0 then surroundings.nowUsec else nowUsec
    payload := payload }

/-- The end of the four functions that send a request. -/
def dispatch (m : ClipboardModule) (surroundings : Surroundings) (handler : ReadHandler)
    (payload : ByteBuffer) (timeoutMs : UInt32) (nowUsec : UInt64) (unavailable : StdString) :
    Call ClipboardRemoteReadDispatchResult :=
  let packet := m.requestPacket surroundings payload timeoutMs nowUsec
  let tracked := m.readRequests.track packet (some handler)
  let m := { m with
    nextReadMessageId := m.readMessageId + 1
    readRequests := tracked.2 }
  if tracked.1.tracked = false then .denied m tracked.1.status (bytesOf tracked.1.message)
  else
    { after := m
      outgoing := some { packet := packet, rest := .requested packet }
      result := fun sent =>
        if sent then { dispatched := true, status := .ok, messageId := packet.messageId }
        else {
          status := .channelUnavailable
          messageId := packet.messageId
          message := unavailable } }

/-- What `requested` does when the packet was not sent: the request ends with an error. -/
def failRequest (m : ClipboardModule) (packet : PacketEnvelope) : ClipboardModule :=
  (m.completeRead {} { packet with
    messageKind := .error
    responseStatus := .channelUnavailable
    responseTo := packet.messageId }).after

def requestRemoteFormatTracked (m : ClipboardModule) (surroundings : Surroundings)
    (request : FdclReadFormatRequest) (timeoutMs : UInt32) (nowUsec : UInt64) :
    Call ClipboardRemoteReadDispatchResult :=
  if m.state ≠ .running then { after := m, result := fun _ => {} }
  else if m.policy.allowReceive = false then
    .denied m .deniedByPolicy (bytesOf "clipboard receive denied by policy")
  else if policyAllowsReadRequest m.policy surroundings.moment m.remoteBundle request = false then
    .denied m .deniedByPolicy (bytesOf "clipboard format denied by policy")
  else
    m.dispatch surroundings .readResponse (encodeFdclReadFormatRequest request) timeoutMs nowUsec
      (bytesOf "clipboard read request channel is unavailable")

/-- The request that `requestRemoteFileRangeTracked` sends: no more bytes than the policy takes. -/
def effectiveFileRangeRequest (policy : ClipboardPolicy) (request : FdclFileRangeRequest) :
    FdclFileRangeRequest :=
  if request.requestedBytes = 0 ∨ request.requestedBytes > effectiveMaxFileRangeBytes policy then
    { request with requestedBytes := effectiveMaxFileRangeBytes policy }
  else request

def requestRemoteFileRangeTracked (m : ClipboardModule) (surroundings : Surroundings)
    (request : FdclFileRangeRequest) (timeoutMs : UInt32) (nowUsec : UInt64) :
    Call ClipboardRemoteReadDispatchResult :=
  if m.state ≠ .running then { after := m, result := fun _ => {} }
  else if m.policy.allowReceive = false then
    .denied m .deniedByPolicy (bytesOf "clipboard file range receive denied by policy")
  else if m.policy.allowFileContents = false then
    .denied m .deniedByPolicy (bytesOf "clipboard file contents denied by policy")
  else
    let validation :=
      validateFileRangeRequestAgainstBundle surroundings.moment m.remoteBundle request
    if validation.1 ≠ .ok then .denied m validation.1 validation.2
    else
      m.dispatch surroundings .fileRangeResponse
        (encodeFdclFileRangeRequest (effectiveFileRangeRequest m.policy request)) timeoutMs nowUsec
        (bytesOf "clipboard file range request channel is unavailable")

def requestRemoteObjectLockTracked (m : ClipboardModule) (surroundings : Surroundings)
    (request : FdclObjectLock) (timeoutMs : UInt32) (nowUsec : UInt64) :
    Call ClipboardRemoteReadDispatchResult :=
  if m.state ≠ .running then { after := m, result := fun _ => {} }
  else if m.policy.allowReceive = false ∨ m.policy.allowFileContents = false then
    .denied m .deniedByPolicy (bytesOf "clipboard file object lock denied by policy")
  else
    let validation := validateObjectLockAgainstBundle surroundings.moment m.remoteBundle request
    if validation.1 ≠ .ok then .denied m validation.1 validation.2
    else
      m.dispatch surroundings .objectLockResponse (encodeFdclLockObject request) timeoutMs nowUsec
        (bytesOf "clipboard object lock request channel is unavailable")

def requestRemoteObjectUnlockTracked (m : ClipboardModule) (surroundings : Surroundings)
    (request : FdclObjectLock) (timeoutMs : UInt32) (nowUsec : UInt64) :
    Call ClipboardRemoteReadDispatchResult :=
  if m.state ≠ .running then { after := m, result := fun _ => {} }
  else if request.lockId = 0 then
    .denied m .invalidArgument (bytesOf "clipboard object unlock lock id is invalid")
  else if m.policy.allowReceive = false ∨ m.policy.allowFileContents = false then
    .denied m .deniedByPolicy (bytesOf "clipboard file object unlock denied by policy")
  else
    m.dispatch surroundings .objectUnlockResponse (encodeFdclUnlockObject request) timeoutMs
      nowUsec (bytesOf "clipboard object unlock request channel is unavailable")

/-! ## Cancels -/

def sendCancel (m : ClipboardModule) (surroundings : Surroundings) (cancel : FdclCancel)
    (timeoutMs : UInt32) (nowUsec : UInt64) : Call Bool :=
  if m.state ≠ .running then .refused m
  else if cancel.correlationId = 0 ∨ cancel.bundleId = 0 ∨ cancel.offerId = 0 ∨
      cancel.ownerEpoch = 0 then .refused m
  else
    .returning m.countResponse
      { m.makePacket .cancel with
        flags := packetFlagNoResponseRequired
        messageId := m.nextResponseMessageId
        correlationId := cancel.correlationId
        responseTo := cancel.correlationId
        timeoutMs := if timeoutMs = 0 then 1000 else timeoutMs
        monotonicTimestampUsec := if nowUsec = 0 then surroundings.nowUsec else nowUsec
        payload := encodeFdclCancel cancel }
      .nothing

/-- The packet with which `handleCancel` completes a request. -/
def cancelledPacket (m : ClipboardModule) (cancel : FdclCancel) : PacketEnvelope :=
  { m.makePacket .error with
    responseStatus := .cancelled
    responseTo := cancel.correlationId
    correlationId := cancel.correlationId
    payload := encodeFdclErrorDetail {
      status := .cancelled
      message :=
        if cancel.message = [] then bytesOf "clipboard request cancelled" else cancel.message } }

def handleCancel (m : ClipboardModule) (surroundings : Surroundings) (cancel : FdclCancel) :
    Call Unit :=
  m.completeRead surroundings (m.cancelledPacket cancel)

end ClipboardModule

end Clipboard
end FusionDesk
