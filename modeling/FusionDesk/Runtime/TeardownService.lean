import FusionDesk.Network.RequestTracker
import FusionDesk.Runtime.TeardownAck

/-!
# The teardown service

`ReconnectTeardownService` and `ReconnectTeardownDispatcher`, with the request tracker that they use.
A call of `dispatch` is cut where control leaves it, before and behind each `router_.send`: what
arrives while a request is sent is a step in between.

Of the tracker there are the requests of this service; `takeId` is another part of the program that
takes an id.  Subscriptions, the handler of the peer's requests and time-outs are left out.
`received` and `handedOut` are not in the source: the calls of `recordTrackedResponse` since the last
dispatch has begun, and the ids that the tracker has given.
-/

namespace FusionDesk
namespace Runtime

open Protocol Network

structure ReconnectTeardownDispatchOptions where
  wire : ReconnectTeardownWireOptions := {}
  assignMissingMessageIds : Bool := true

structure ReconnectTeardownDispatchResult where
  ok : Bool := false
  sentRequests : List PacketEnvelope := []
  messages : List String := []
  summary : ReconnectTeardownResponseSummary := {}

/-- A call of `dispatch` that is under way: the request that is being sent, if one is, and its result
so far. -/
structure Dispatching where
  options : ReconnectTeardownDispatchOptions
  sending : Option PacketEnvelope := none
  result : ReconnectTeardownDispatchResult := {}

/-- `appendFailure`. -/
def Dispatching.appendFailure (dispatching : Dispatching) (message : String) : Dispatching :=
  { dispatching with
    result := { dispatching.result with
                ok := false, messages := dispatching.result.messages ++ [message] } }

/-- The service, with its dispatcher and the tracker.  The commands of the active plan are cut at the
index of the loop: those in front of it have gone through the loop, and have their ids. -/
structure ReconnectTeardownService where
  active : Bool := true
  tracker : RequestTracker ReconnectTeardownCommand := {}
  nextMessageId : MessageId := 1
  assigned : List ReconnectTeardownCommand := []
  waiting : List ReconnectTeardownCommand := []
  terminalResponses : List ReconnectTeardownResponse := []
  interimResponses : List ReconnectTeardownResponse := []
  dispatching : Option Dispatching := none
  /-- What the last call of `dispatch` has returned. -/
  lastResult : ReconnectTeardownDispatchResult := {}
  received : List (ReconnectTeardownCommand × PacketEnvelope) := []
  handedOut : List MessageId := []

namespace ReconnectTeardownService

def activePlan (s : ReconnectTeardownService) : ReconnectTeardownPlan := ⟨s.assigned ++ s.waiting⟩

def summary (s : ReconnectTeardownService) : ReconnectTeardownResponseSummary :=
  summarizeReconnectTeardownResponses s.activePlan s.terminalResponses

/-! ## Responses -/

/-- `terminalMessageKind` of the dispatcher. -/
def terminalMessageKind (messageKind : MessageKind) : Bool :=
  messageKind == .response || messageKind == .error || messageKind == .streamEnd

def responseMessageKind (messageKind : MessageKind) : Bool :=
  messageKind == .ack || messageKind == .progress || messageKind == .response ||
    messageKind == .error || messageKind == .streamEnd

def recordTrackedResponse (s : ReconnectTeardownService) (command : ReconnectTeardownCommand)
    (response : PacketEnvelope) : ReconnectTeardownService :=
  let teardownResponse := reconnectTeardownResponseFromPacket command response
  let s := { s with received := s.received ++ [(command, response)] }
  if terminalMessageKind response.messageKind then
    { s with terminalResponses := s.terminalResponses ++ [teardownResponse] }
  else { s with interimResponses := s.interimResponses ++ [teardownResponse] }

/-- `complete` of the dispatcher, which is that of the tracker. -/
def completeTracked (s : ReconnectTeardownService) (response : PacketEnvelope) :
    Bool × ReconnectTeardownService :=
  let completed := s.tracker.complete response
  let s := completed.2.1.foldl (fun s call => s.recordTrackedResponse call.handler call.response) s
  (completed.1, { s with tracker := completed.2.2 })

def complete (s : ReconnectTeardownService) (response : PacketEnvelope) :
    Bool × ReconnectTeardownService :=
  if responseMessageKind response.messageKind then s.completeTracked response else (false, s)

def sendStatusToResponseStatus : SendStatus → ResponseStatus
  | .sent => .ok
  | .channelClosed => .channelUnavailable
  | .channelNotFound => .channelUnavailable
  | .backPressure => .backPressure
  | .failed => .failed

def failTrackedRequest (s : ReconnectTeardownService) (request : PacketEnvelope)
    (status : ResponseStatus) (message : String) : ReconnectTeardownService :=
  (s.completeTracked (makeReconnectTeardownResponsePacket request {
    status := if status = .ok then .failed else status, message := message })).2

/-! ## A dispatch -/

/-- `requestTracker_.nextMessageId()`: the id. -/
def freshId (s : ReconnectTeardownService) : MessageId :=
  if s.nextMessageId = 0 then 1 else s.nextMessageId

/-- The service when the tracker has given an id. -/
def takeId (s : ReconnectTeardownService) : ReconnectTeardownService :=
  { s with nextMessageId := s.freshId + 1, handedOut := s.handedOut ++ [s.freshId] }

/-- `dispatch`, as far as the loop. -/
def beginDispatch (s : ReconnectTeardownService) (plan : ReconnectTeardownPlan)
    (options : ReconnectTeardownDispatchOptions) : ReconnectTeardownService :=
  if s.active = false then
    { s with lastResult := { messages := ["reconnect teardown service is not active"] } }
  else
    let s := { s with
      assigned := []
      waiting := plan.commands
      terminalResponses := []
      interimResponses := []
      received := [] }
    if plan.commands.isEmpty then
      { s with lastResult := {
          messages := ["reconnect teardown dispatch requires commands"], summary := s.summary } }
    else { s with dispatching := some { options := options } }

/-- `dispatch` of the plan of a side. -/
def beginSideDispatch (s : ReconnectTeardownService) (sidePlan : ReconnectOrchestrationSidePlan)
    (timeoutMs : UInt32) (options : ReconnectTeardownDispatchOptions) : ReconnectTeardownService :=
  if s.active = false then
    { s with lastResult := { messages := ["reconnect teardown service is not active"] } }
  else
    let planned := buildSideTeardownPlan sidePlan 1 timeoutMs
    if planned.ok = false then { s with lastResult := { messages := planned.messages } }
    else
      s.beginDispatch ⟨planned.plan.commands.map fun command =>
        { command with messageId := 0, correlationId := 0 }⟩ options

/-- The command gets its ids. -/
def assignIds (s : ReconnectTeardownService) (options : ReconnectTeardownDispatchOptions)
    (command : ReconnectTeardownCommand) : ReconnectTeardownCommand × ReconnectTeardownService :=
  if options.assignMissingMessageIds ∧ command.messageId = 0 then
    ({ command with messageId := s.freshId, correlationId := s.freshId }, s.takeId)
  else if command.correlationId = 0 then
    ({ command with correlationId := command.messageId }, s)
  else (command, s)

/-- The end of a round of the loop, and of the dispatch if it was the last. -/
def endRound (s : ReconnectTeardownService) (dispatching : Dispatching) :
    ReconnectTeardownService :=
  if s.waiting.isEmpty then
    { s with
      dispatching := none
      lastResult := { dispatching.result with
                      summary := s.summary, ok := dispatching.result.messages.isEmpty } }
  else { s with dispatching := some { dispatching with sending := none } }

/-- A round of the loop, as far as `router_.send`. -/
def sendNext (s : ReconnectTeardownService) : ReconnectTeardownService :=
  match s.dispatching, s.waiting with
  | some ⟨options, none, result⟩, command :: waiting =>
    let assigned := s.assignIds options command
    let wire := { options.wire with
      sequence := options.wire.sequence + UInt64.ofNat s.assigned.length }
    let request := makeReconnectTeardownRequestPacket assigned.1 wire
    let tracked := s.tracker.track request (some assigned.1)
    let s := { assigned.2 with
      assigned := s.assigned ++ [assigned.1], waiting := waiting, tracker := tracked.2 }
    let dispatching : Dispatching := ⟨options, none, result⟩
    if tracked.1.tracked = false then
      s.endRound (dispatching.appendFailure
        (if tracked.1.message = "" then "reconnect teardown request tracking failed"
          else tracked.1.message))
    else { s with dispatching := some { dispatching with sending := some request } }
  | _, _ => s

/-- `router_.send` has returned. -/
def sendReturned (s : ReconnectTeardownService) (sent : SendResult) : ReconnectTeardownService :=
  match s.dispatching with
  | some ⟨options, some request, result⟩ =>
    let dispatching : Dispatching := ⟨options, some request, result⟩
    if sent.status ≠ .sent then
      let message :=
        if sent.message = "" then "reconnect teardown request send failed" else sent.message
      (s.failTrackedRequest request (sendStatusToResponseStatus sent.status) message).endRound
        (dispatching.appendFailure message)
    else
      s.endRound { dispatching with
        result := { result with sentRequests := result.sentRequests ++ [request] } }
  | _ => s

end ReconnectTeardownService

/-- What happens to the service.  A call of `dispatch` is not interrupted by another one. -/
inductive TeardownOp
  | dispatch (plan : ReconnectTeardownPlan) (options : ReconnectTeardownDispatchOptions)
  | dispatchSide (sidePlan : ReconnectOrchestrationSidePlan) (timeoutMs : UInt32)
      (options : ReconnectTeardownDispatchOptions)
  | sendNext
  | sendReturned (sent : SendResult)
  | arrive (response : PacketEnvelope)
  | takeId

def ReconnectTeardownService.step (s : ReconnectTeardownService) :
    TeardownOp → ReconnectTeardownService
  | .dispatch plan options => if s.dispatching.isSome then s else s.beginDispatch plan options
  | .dispatchSide sidePlan timeoutMs options =>
    if s.dispatching.isSome then s else s.beginSideDispatch sidePlan timeoutMs options
  | .sendNext => s.sendNext
  | .sendReturned sent => s.sendReturned sent
  | .arrive response => (s.complete response).2
  | .takeId => s.takeId

end Runtime
end FusionDesk
