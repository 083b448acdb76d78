import FusionDesk.Network.RequestTracker
import FusionDesk.Runtime.PeerProfileCodec

/-!
# The peer profile runtime service

`PeerProfileRuntimeService` with the request tracker that it owns.  A call of `requestPeerProfile` is
cut where control leaves it, before and behind `router_.send`: what arrives while the request is sent
is a step in between.

Every request has the same handler, `recordResponse`, so there is nothing to tell apart (`Unit`).  The
subscriptions are those of the router, and the responder, which answers the requests of the peer, is
left out.
-/

namespace FusionDesk
namespace Runtime
namespace PeerProfile

open Protocol Network PayloadFields

structure PeerProfileRuntimeExchangeOptions where
  wire : PeerProfileServiceWireOptions := {}
  assignMissingMessageId : Bool := true

structure PeerProfileRuntimeDispatchResult where
  ok : Bool := false
  request : PacketEnvelope := {}
  messages : List StdString := []

structure PeerProfileRuntimeCompletion where
  terminal : Bool := false
  ok : Bool := false
  response : PacketEnvelope := {}
  exchange : PeerProfileExchangeResult := {}
  messages : List StdString := []
  deriving DecidableEq, Repr

structure PeerProfileRuntimeService where
  active : Bool := false
  tracker : RequestTracker Unit := {}
  nextMessageId : MessageId := 1
  controlChannel : ChannelKey := defaultControlChannel
  expiredRequests : ℕ := 0
  interimResponses : List PacketEnvelope := []
  completions : List PeerProfileRuntimeCompletion := []
  messages : List StdString := []
  /-- The request that is being sent, if a call of `requestPeerProfile` is under way. -/
  sending : Option PacketEnvelope := none
  /-- What the last call of `requestPeerProfile` has returned. -/
  lastResult : PeerProfileRuntimeDispatchResult := {}

def responseMessageKind (messageKind : MessageKind) : Bool :=
  messageKind == .ack || messageKind == .progress || messageKind == .response ||
    messageKind == .error || messageKind == .streamEnd

def terminalMessageKind (messageKind : MessageKind) : Bool :=
  messageKind == .response || messageKind == .error || messageKind == .streamEnd

def sendStatusToResponseStatus : SendStatus → ResponseStatus
  | .sent => .ok
  | .channelClosed => .channelUnavailable
  | .channelNotFound => .channelUnavailable
  | .backPressure => .backPressure
  | .failed => .failed

/-- `responseStatusName`; a number that is not declared is named as a failure. -/
def responseStatusName (status : ResponseStatus) : String :=
  if status = .ok then "ok"
  else if status = .accepted then "accepted"
  else if status = .progress then "progress"
  else if status = .invalidArgument then "invalid argument"
  else if status = .unauthorized then "unauthorized"
  else if status = .deniedByPolicy then "denied by policy"
  else if status = .unsupported then "unsupported"
  else if status = .notFound then "not found"
  else if status = .conflict then "conflict"
  else if status = .busy then "busy"
  else if status = .timeout then "timeout"
  else if status = .cancelled then "cancelled"
  else if status = .tooLarge then "too large"
  else if status = .backPressure then "back pressure"
  else if status = .channelUnavailable then "channel unavailable"
  else if status = .failed then "failed"
  else if status = .internalError then "internal error"
  else if status = .protocolError then "protocol error"
  else "failed"

namespace PeerProfileRuntimeService

/-! ## Responses -/

/-- The completion that a terminal response is recorded as. -/
def completionOf (response : PacketEnvelope) : PeerProfileRuntimeCompletion :=
  let decoded := decodePeerProfileExchangeResponsePacket response
  let completion : PeerProfileRuntimeCompletion := { terminal := true, response := response }
  if decoded.ok then { completion with ok := decoded.exchange.ok, exchange := decoded.exchange }
  else if response.messageKind = .error then
    let message := if decoded.message ≠ [] then decoded.message
      else text (responseStatusName response.responseStatus)
    if message ≠ [] then
      { completion with exchange := { messages := [message] }, messages := [message] }
    else completion
  else
    let message := if decoded.message = [] then text "peer profile runtime response decode failed"
      else decoded.message
    { completion with exchange := { messages := [message] }, messages := [message] }

def recordResponse (s : PeerProfileRuntimeService) (response : PacketEnvelope) :
    PeerProfileRuntimeService :=
  if terminalMessageKind response.messageKind = false then
    { s with interimResponses := s.interimResponses ++ [response] }
  else { s with completions := s.completions ++ [completionOf response] }

/-- The calls that an operation of the tracker makes, and what the tracker is then. -/
def afterCalls (s : PeerProfileRuntimeService)
    (calls : List (HandlerCall Unit) × RequestTracker Unit) : PeerProfileRuntimeService :=
  { calls.1.foldl (fun s call => s.recordResponse call.response) s with tracker := calls.2 }

/-- `requestTracker_.complete`. -/
def completeTracked (s : PeerProfileRuntimeService) (response : PacketEnvelope) :
    PeerProfileRuntimeService :=
  s.afterCalls (s.tracker.complete response).2

def complete (s : PeerProfileRuntimeService) (response : PacketEnvelope) :
    PeerProfileRuntimeService :=
  if responseMessageKind response.messageKind then s.completeTracked response else s

def expire (s : PeerProfileRuntimeService) (nowUsec : UInt64) : PeerProfileRuntimeService :=
  let expired := s.tracker.expire nowUsec
  { s.afterCalls expired.2 with expiredRequests := s.expiredRequests + expired.1 }

/-- What `stop` does to the requests: those on the control channel are cancelled. -/
def cancelAll (s : PeerProfileRuntimeService) : PeerProfileRuntimeService :=
  s.afterCalls (s.tracker.cancelByChannel s.controlChannel.channelId s.controlChannel.channelType
    .cancelled).2

def failTrackedRequest (s : PeerProfileRuntimeService) (request : PacketEnvelope)
    (status : ResponseStatus) (message : StdString) : PeerProfileRuntimeService :=
  s.completeTracked {
    protocolMajor := request.protocolMajor
    protocolMinor := request.protocolMinor
    sessionId := request.sessionId
    traceId := request.traceId
    correlationId := request.correlationId
    responseTo := request.messageId
    channelId := request.channelId
    channelType := request.channelType
    packetType := request.packetType
    messageKind := .error
    priority := request.priority
    responseStatus := if status = .ok then .failed else status
    payload := message }

/-! ## A request -/

/-- `requestTracker_.nextMessageId()`: the id. -/
def freshId (s : PeerProfileRuntimeService) : MessageId :=
  if s.nextMessageId = 0 then 1 else s.nextMessageId

def remember (s : PeerProfileRuntimeService) (messages : List StdString) :
    PeerProfileRuntimeService :=
  { s with messages := s.messages ++ messages }

/-- The options of a request, with its ids, and the service when it has given them. -/
def assignIds (s : PeerProfileRuntimeService) (options : PeerProfileRuntimeExchangeOptions) :
    PeerProfileServiceWireOptions × PeerProfileRuntimeService :=
  let wire := { options.wire with controlChannel := s.controlChannel }
  let assigned := if options.assignMissingMessageId ∧ wire.messageId = 0 then
      ({ wire with messageId := s.freshId }, { s with nextMessageId := s.freshId + 1 })
    else (wire, s)
  (if assigned.1.correlationId = 0 then { assigned.1 with correlationId := assigned.1.messageId }
    else assigned.1, assigned.2)

/-- `requestPeerProfile`, as far as `router_.send`. -/
def requestPeerProfile (s : PeerProfileRuntimeService) (request : PeerProfileExchangeRequest)
    (options : PeerProfileRuntimeExchangeOptions) : PeerProfileRuntimeService :=
  if s.active = false then
    { s with lastResult := { messages := [text "peer profile runtime service is not active"] } }
  else
    let assigned := s.assignIds options
    let s := assigned.2
    let packet := makePeerProfileExchangeRequestPacket request assigned.1
    if packet.payload.isEmpty then
      let messages := [text "peer profile runtime request payload encode failed"]
      { s.remember messages with lastResult := { request := packet, messages := messages } }
    else
      let tracked := s.tracker.track packet (some ())
      if tracked.1.tracked = false then
        let messages := [if tracked.1.message = "" then
          text "peer profile runtime request tracking failed" else text tracked.1.message]
        { s.remember messages with lastResult := { request := packet, messages := messages } }
      else { s with tracker := tracked.2, sending := some packet }

/-- `router_.send` has returned. -/
def sendReturned (s : PeerProfileRuntimeService) (sent : SendResult) : PeerProfileRuntimeService :=
  match s.sending with
  | none => s
  | some packet =>
    if sent.status ≠ .sent then
      let message := if sent.message = "" then text "peer profile runtime request send failed"
        else text sent.message
      let s := s.failTrackedRequest packet (sendStatusToResponseStatus sent.status) message
      { s.remember [message] with
        sending := none, lastResult := { request := packet, messages := [message] } }
    else { s with sending := none, lastResult := { ok := true, request := packet } }

end PeerProfileRuntimeService
end PeerProfile
end Runtime
end FusionDesk
