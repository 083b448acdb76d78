import FusionDesk.Network.Subscriptions
import FusionDesk.Network.WaitingRequests
import FusionDesk.Runtime.PeerProfileRuntimeService
import FusionDesk.Runtime.TeardownService

/-!
# Two services on the control channel

`PeerProfileRuntimeService` and `ReconnectTeardownService` on one `NetworkRouter`, each with a
request tracker of its own.  Both subscribe to every kind of response on the control route, and both
look up the `responseTo` of what they hear in their own tracker.

Of the router there are the subscriptions of the two services to responses.  What its owner starts
with a service, the responder and the handler of the peer's requests, is known by what its own start
has returned.  `requests` is not in the source: the requests that have been handed to the router, in
order, each with the service that has made it.

* `step`: what happens to the two of them.
* `requestPeerProfile_cases`, `sendNext_cases`: what a service waits for when it has made a request.
* `waiting_complete`, `complete_of_waiting_eq_none`: what a response does to one service.
-/

namespace FusionDesk
namespace Runtime

open Protocol Network PeerProfile PayloadFields

/-- The two services. -/
inductive ControlService
  | peerProfile
  | teardown
  deriving DecidableEq, Repr

structure PeerProfileRuntimeServiceStartOptions where
  controlChannel : ChannelKey := PeerProfile.defaultControlChannel
  startResponder : Bool := true
  subscribeResponses : Bool := true

/-- What `responder_.start` has returned. -/
structure PeerProfileServiceStartResult where
  ok : Bool := false
  messages : List StdString := []

/-- `ReconnectTeardownServiceOptions`, with the channel of its handler. -/
structure ReconnectTeardownServiceOptions where
  controlChannel : ChannelKey := reconnectTeardownDefaultControlChannel
  startPeerHandler : Bool := true
  subscribeResponses : Bool := true

structure ControlServices where
  router : SubscriptionTable ControlService := .empty
  peerProfile : PeerProfileRuntimeService := {}
  peerProfileTokens : List ℕ := []
  teardown : ReconnectTeardownService := { active := false }
  teardownTokens : List ℕ := []
  requests : List (ControlService × PacketEnvelope) := []

/-- `stop` of the peer profile service, in front of the subscriptions. -/
def PeerProfile.PeerProfileRuntimeService.stopped (s : PeerProfileRuntimeService) :
    PeerProfileRuntimeService :=
  { s.cancelAll with active := false }

/-- `expire`. -/
def ReconnectTeardownService.expire (s : ReconnectTeardownService) (nowUsec : UInt64) :
    ReconnectTeardownService :=
  let expired := s.tracker.expire nowUsec
  let s := expired.2.1.foldl (fun s call => s.recordTrackedResponse call.handler call.response) s
  { s with tracker := expired.2.2 }

namespace ControlServices

/-! ## Start and stop -/

def responseRoute (controlChannel : ChannelKey) (messageKind : MessageKind) : RouteMatch where
  channelId := some controlChannel.channelId
  channelType := some controlChannel.channelType
  messageKind := some messageKind
  packetType := .control

/-- `subscribeResponse` for the five kinds: the tokens, and the router. -/
def subscribeResponses (router : SubscriptionTable ControlService) (controlChannel : ChannelKey)
    (service : ControlService) : List ℕ × SubscriptionTable ControlService :=
  [MessageKind.ack, .progress, .response, .error, .streamEnd].foldl (fun subscribed messageKind =>
    let subscription :=
      subscribed.2.subscribe (responseRoute controlChannel messageKind) (some service)
    (subscribed.1 ++ [subscription.1], subscription.2)) ([], router)

def startPeerProfile (s : ControlServices) (options : PeerProfileRuntimeServiceStartOptions)
    (responder : PeerProfileServiceStartResult) : ControlServices :=
  if s.peerProfile.active then
    { s with
      peerProfile :=
        s.peerProfile.remember [text "peer profile runtime service is already active"] }
  else if options.startResponder = false ∧ options.subscribeResponses = false then
    { s with
      peerProfile :=
        s.peerProfile.remember [text "peer profile runtime service has no work to start"] }
  else
    let controlChannel := PeerProfile.normalizedControlChannel options.controlChannel
    let peerProfile := { s.peerProfile with controlChannel := controlChannel }
    let subscribed := if options.subscribeResponses then
        subscribeResponses s.router controlChannel .peerProfile
      else ([], s.router)
    let tokens := s.peerProfileTokens ++ subscribed.1
    if options.startResponder ∧ responder.ok = false then
      let message := responder.messages.headD (text "peer profile responder start failed")
      { s with
        router := subscribed.2.unsubscribeAll tokens
        peerProfile := peerProfile.remember [message]
        peerProfileTokens := [] }
    else
      { s with
        router := subscribed.2
        peerProfile := { peerProfile with active := true }
        peerProfileTokens := tokens }

/-- `normalizedControlChannel` of the teardown service. -/
def normalizedControlChannel (requested : ChannelKey) : ChannelKey :=
  if requested.channelId = ChannelIdValue.userAuthMain ∧ requested.channelType = .control then
    requested
  else reconnectTeardownDefaultControlChannel

/-- `start` of the teardown service; `handlerOk` is what `handler_.start` has returned. -/
def startTeardown (s : ControlServices) (options : ReconnectTeardownServiceOptions)
    (handlerOk : Bool) : ControlServices :=
  if s.teardown.active then s
  else if options.startPeerHandler = false ∧ options.subscribeResponses = false then s
  else
    let controlChannel := normalizedControlChannel options.controlChannel
    let subscribed := if options.subscribeResponses then
        subscribeResponses s.router controlChannel .teardown
      else ([], s.router)
    let tokens := s.teardownTokens ++ subscribed.1
    if options.startPeerHandler ∧ handlerOk = false then
      { s with router := subscribed.2.unsubscribeAll tokens, teardownTokens := [] }
    else
      { s with
        router := subscribed.2
        teardown := { s.teardown with active := true }
        teardownTokens := tokens }

/-- `stop`, which only the peer profile service uses to cancel its requests. -/
def stop (s : ControlServices) : ControlService → ControlServices
  | .peerProfile =>
    { s with
      router := s.router.unsubscribeAll s.peerProfileTokens
      peerProfile := s.peerProfile.stopped
      peerProfileTokens := [] }
  | .teardown =>
    { s with
      router := s.router.unsubscribeAll s.teardownTokens
      teardown := { s.teardown with active := false }
      teardownTokens := [] }

/-! ## Requests -/

/-- A request has been handed to the router. -/
def handOver (s : ControlServices) (service : ControlService) (request : Option PacketEnvelope) :
    ControlServices :=
  { s with requests := s.requests ++ request.toList.map fun request => (service, request) }

/-- `requestPeerProfile`, as far as `router_.send`. -/
def requestPeerProfile (s : ControlServices) (request : PeerProfileExchangeRequest)
    (options : PeerProfileRuntimeExchangeOptions) : ControlServices :=
  if s.peerProfile.sending.isSome then s
  else
    let peerProfile := s.peerProfile.requestPeerProfile request options
    { s with peerProfile := peerProfile }.handOver .peerProfile peerProfile.sending

/-- The request of a dispatch that is being sent. -/
def sendingOf (dispatching : Option Dispatching) : Option PacketEnvelope :=
  dispatching.bind Dispatching.sending

/-- The next request of a dispatch, as far as `router_.send`. -/
def sendNext (s : ControlServices) : ControlServices :=
  if (sendingOf s.teardown.dispatching).isSome then s
  else
    let teardown := s.teardown.sendNext
    { s with teardown := teardown }.handOver .teardown (sendingOf teardown.dispatching)

/-- `router_.send` has returned. -/
def sendReturned (s : ControlServices) (sent : SendResult) : ControlService → ControlServices
  | .peerProfile => { s with peerProfile := s.peerProfile.sendReturned sent }
  | .teardown => { s with teardown := s.teardown.sendReturned sent }

def expire (s : ControlServices) (nowUsec : UInt64) : ControlService → ControlServices
  | .peerProfile => { s with peerProfile := s.peerProfile.expire nowUsec }
  | .teardown => { s with teardown := s.teardown.expire nowUsec }

/-! ## Responses -/

/-- The handler of a subscription. -/
def complete (packet : PacketEnvelope) (s : ControlServices) : ControlService → ControlServices
  | .peerProfile => { s with peerProfile := s.peerProfile.complete packet }
  | .teardown => { s with teardown := (s.teardown.complete packet).2 }

/-- `submitIncoming`. -/
def deliver (s : ControlServices) (packet : PacketEnvelope) : ControlServices :=
  (s.router.submitIncoming packet).foldl (complete packet) s

/-- The response as the peer sends it to a request. -/
def respond (request response : PacketEnvelope) : PacketEnvelope :=
  { response with responseTo := request.messageId }

/-- The peer answers a request that has been handed to the router. -/
def arrive (s : ControlServices) (serial : ℕ) (response : PacketEnvelope) : ControlServices :=
  match s.requests[serial]? with
  | none => s
  | some request => s.deliver (respond request.2 response)

end ControlServices

/-- What happens to the two services.  A call of `requestPeerProfile` or of `dispatch` is not
interrupted by another one of the same service. -/
inductive ControlOp
  | startPeerProfile (options : PeerProfileRuntimeServiceStartOptions)
      (responder : PeerProfileServiceStartResult)
  | startTeardown (options : ReconnectTeardownServiceOptions) (handlerOk : Bool)
  | stop (service : ControlService)
  | requestPeerProfile (request : PeerProfileExchangeRequest)
      (options : PeerProfileRuntimeExchangeOptions)
  | dispatch (plan : ReconnectTeardownPlan) (options : ReconnectTeardownDispatchOptions)
  | dispatchSide (sidePlan : ReconnectOrchestrationSidePlan) (timeoutMs : UInt32)
      (options : ReconnectTeardownDispatchOptions)
  | sendNext
  | sendReturned (service : ControlService) (sent : SendResult)
  | expire (service : ControlService) (nowUsec : UInt64)
  | arrive (serial : ℕ) (response : PacketEnvelope)

def ControlServices.step (s : ControlServices) : ControlOp → ControlServices
  | .startPeerProfile options responder => s.startPeerProfile options responder
  | .startTeardown options handlerOk => s.startTeardown options handlerOk
  | .stop service => s.stop service
  | .requestPeerProfile request options => s.requestPeerProfile request options
  | .dispatch plan options =>
    { s with teardown := s.teardown.step (.dispatch plan options) }
  | .dispatchSide sidePlan timeoutMs options =>
    { s with teardown := s.teardown.step (.dispatchSide sidePlan timeoutMs options) }
  | .sendNext => s.sendNext
  | .sendReturned service sent => s.sendReturned sent service
  | .expire service nowUsec => s.expire nowUsec service
  | .arrive serial response => s.arrive serial response

/-! ## What each operation does to a service -/

/-- A terminal response is a response. -/
theorem responseMessageKind_of_terminal {messageKind : MessageKind}
    (h : RequestTracker.isTerminalResponse messageKind = true) :
    PeerProfile.responseMessageKind messageKind = true := by
  unfold RequestTracker.isTerminalResponse at h
  unfold PeerProfile.responseMessageKind
  simp only [Bool.or_eq_true] at h ⊢
  tauto

namespace PeerProfile.PeerProfileRuntimeService

variable (s : PeerProfileRuntimeService)

/-- How many responses have been recorded. -/
def heard : ℕ := s.interimResponses.length + s.completions.length

theorem heard_recordResponse (response : PacketEnvelope) :
    (s.recordResponse response).heard = s.heard + 1 := by
  unfold recordResponse heard
  split
  · simp only [List.length_append, List.length_singleton]
    omega
  · simp only [List.length_append, List.length_singleton]
    omega

theorem sending_recordResponse (response : PacketEnvelope) :
    (s.recordResponse response).sending = s.sending := by
  unfold recordResponse
  split
  · rfl
  · rfl

variable (calls : List (HandlerCall Unit) × RequestTracker Unit)

theorem tracker_afterCalls : (s.afterCalls calls).tracker = calls.2 := rfl

theorem sending_afterCalls : (s.afterCalls calls).sending = s.sending :=
  List.foldlRecOn (motive := fun after : PeerProfileRuntimeService => after.sending = s.sending)
    calls.1 _ rfl fun after hafter call _ =>
      (after.sending_recordResponse call.response).trans hafter

theorem heard_afterCalls : (s.afterCalls calls).heard = s.heard + calls.1.length := by
  have hfold : ∀ (called : List (HandlerCall Unit)) (s : PeerProfileRuntimeService),
      (called.foldl (fun s call => s.recordResponse call.response) s).heard =
        s.heard + called.length := by
    intro called
    induction called with
    | nil => exact fun _ => rfl
    | cons call called ih =>
      intro s
      rw [List.foldl_cons, ih, heard_recordResponse, List.length_cons]
      omega
  exact hfold calls.1 s

/-- A request is tracked and is being sent, or the service waits for what it has waited for. -/
theorem requestPeerProfile_cases (hsending : s.sending = none) (request : PeerProfileExchangeRequest)
    (options : PeerProfileRuntimeExchangeOptions) :
    ((s.requestPeerProfile request options).tracker = s.tracker ∧
        (s.requestPeerProfile request options).sending = none) ∨
      ∃ packet, RequestTracker.Tracked s.tracker (s.requestPeerProfile request options).tracker
          packet ∧ (s.requestPeerProfile request options).sending = some packet := by
  have hassigned : (s.assignIds options).2.tracker = s.tracker ∧
      (s.assignIds options).2.sending = s.sending := by
    unfold assignIds
    dsimp only
    split
    · exact ⟨rfl, rfl⟩
    · exact ⟨rfl, rfl⟩
  unfold requestPeerProfile
  split
  · exact Or.inl ⟨rfl, hsending⟩
  dsimp only
  split
  · exact Or.inl ⟨hassigned.1, hassigned.2.trans hsending⟩
  rw [hassigned.1]
  rcases s.tracker.track_cases_waiting (makePeerProfileExchangeRequestPacket request
    (s.assignIds options).1) (some ()) with ⟨hrefused, -⟩ | ⟨htracked, hwaiting⟩
  · rw [if_pos hrefused]
    exact Or.inl ⟨hassigned.1, hassigned.2.trans hsending⟩
  · rw [if_neg (by rw [htracked]; exact Bool.noConfusion)]
    exact Or.inr ⟨_, hwaiting, rfl⟩

/-! ### Responses, expiry and stop -/

/-- A response that the service does not wait for does nothing. -/
theorem complete_of_waiting_eq_none {response : PacketEnvelope}
    (h : s.tracker.waiting response.responseTo = none) : s.complete response = s := by
  unfold complete completeTracked
  rw [s.tracker.complete_of_waiting_eq_none h]
  exact ite_self s

theorem sending_complete (response : PacketEnvelope) :
    (s.complete response).sending = s.sending := by
  unfold complete completeTracked
  split
  · exact s.sending_afterCalls _
  · rfl

theorem waiting_complete (response : PacketEnvelope) (id : MessageId) :
    (s.complete response).tracker.waiting id =
      if RequestTracker.isTerminalResponse response.messageKind ∧ response.responseTo ≠ 0 ∧
          response.responseTo = id then none
      else s.tracker.waiting id := by
  unfold complete
  split
  · exact s.tracker.waiting_complete response id
  next hkind =>
    exact (if_neg fun hends => hkind (responseMessageKind_of_terminal hends.1)).symm

theorem heard_le_complete (response : PacketEnvelope) : s.heard ≤ (s.complete response).heard := by
  unfold complete completeTracked
  split
  · rw [heard_afterCalls]
    exact Nat.le_add_right _ _
  · exact le_rfl

theorem heard_lt_complete {response : PacketEnvelope}
    (hkind : responseMessageKind response.messageKind = true) (hzero : response.responseTo ≠ 0)
    (h : s.tracker.waiting response.responseTo ≠ none) :
    s.heard < (s.complete response).heard := by
  rw [complete, if_pos hkind, completeTracked, heard_afterCalls,
    s.tracker.calls_complete_of_waiting hzero h]
  exact Nat.lt_succ_self _

theorem sending_expire (nowUsec : UInt64) : (s.expire nowUsec).sending = s.sending :=
  s.sending_afterCalls _

theorem endsOnly_expire (nowUsec : UInt64) :
    RequestTracker.EndsOnly s.tracker (s.expire nowUsec).tracker fun _ pending =>
      pending.deadlineUsec ≤ nowUsec :=
  s.tracker.endsOnly_expire nowUsec

theorem sending_stopped : s.stopped.sending = s.sending :=
  s.sending_afterCalls _

theorem endsOnly_stopped :
    RequestTracker.EndsOnly s.tracker s.stopped.tracker fun _ pending =>
      RequestTracker.onChannel s.controlChannel.channelId s.controlChannel.channelType pending =
        true :=
  s.tracker.endsOnly_cancelByChannel _ _ _

theorem endsOnly_failTrackedRequest (request : PacketEnvelope) (status : ResponseStatus)
    (message : StdString) :
    RequestTracker.EndsOnly s.tracker (s.failTrackedRequest request status message).tracker
      fun id _ => request.messageId = id :=
  (s.tracker.endsOnly_complete _).imp fun _ _ hends => hends.2

theorem sending_sendReturned (sent : SendResult) : (s.sendReturned sent).sending = none := by
  unfold sendReturned
  split
  · assumption
  · split
    · rfl
    · rfl

/-- A request that could not be sent is over. -/
theorem endsOnly_sendReturned (sent : SendResult) :
    RequestTracker.EndsOnly s.tracker (s.sendReturned sent).tracker fun id _ =>
      sent.status ≠ .sent ∧ ∃ packet ∈ s.sending, packet.messageId = id := by
  unfold sendReturned
  split
  · exact .refl _ _
  next packet hsending =>
    rw [hsending]
    split
    next hfailed =>
      exact (s.endsOnly_failTrackedRequest packet _ _).imp fun id _ hid =>
        ⟨hfailed, packet, rfl, hid⟩
    · exact .refl _ _

end PeerProfile.PeerProfileRuntimeService

namespace ReconnectTeardownService

open ControlServices (sendingOf)

variable (s : ReconnectTeardownService)

theorem record_fold (called : List (HandlerCall ReconnectTeardownCommand)) :
    ∀ s : ReconnectTeardownService,
      let after :=
        called.foldl (fun s call => s.recordTrackedResponse call.handler call.response) s
      after.dispatching = s.dispatching ∧
        after.received.length = s.received.length + called.length := by
  induction called with
  | nil => exact fun _ => ⟨rfl, rfl⟩
  | cons call called ih =>
    intro s
    have hone : (s.recordTrackedResponse call.handler call.response).dispatching = s.dispatching ∧
        (s.recordTrackedResponse call.handler call.response).received.length =
          s.received.length + 1 := by
      unfold recordTrackedResponse
      dsimp only
      split
      · exact ⟨rfl, List.length_append⟩
      · exact ⟨rfl, List.length_append⟩
    have hrest := ih (s.recordTrackedResponse call.handler call.response)
    refine ⟨hrest.1.trans hone.1, hrest.2.trans ?_⟩
    rw [hone.2, List.length_cons]
    omega

/-! ### Dispatches -/

/-- A dispatch begins with no request. -/
theorem beginDispatch_waits (hsending : sendingOf s.dispatching = none)
    (plan : ReconnectTeardownPlan) (options : ReconnectTeardownDispatchOptions) :
    (s.beginDispatch plan options).tracker = s.tracker ∧
      sendingOf (s.beginDispatch plan options).dispatching = none := by
  unfold beginDispatch
  split
  · exact ⟨rfl, hsending⟩
  · dsimp only
    split
    · exact ⟨rfl, hsending⟩
    · exact ⟨rfl, rfl⟩

theorem beginSideDispatch_waits (hsending : sendingOf s.dispatching = none)
    (sidePlan : ReconnectOrchestrationSidePlan) (timeoutMs : UInt32)
    (options : ReconnectTeardownDispatchOptions) :
    (s.beginSideDispatch sidePlan timeoutMs options).tracker = s.tracker ∧
      sendingOf (s.beginSideDispatch sidePlan timeoutMs options).dispatching = none := by
  unfold beginSideDispatch
  split
  · exact ⟨rfl, hsending⟩
  · dsimp only
    split
    · exact ⟨rfl, hsending⟩
    · exact s.beginDispatch_waits hsending _ options

theorem tracker_endRound (dispatching : Dispatching) :
    (s.endRound dispatching).tracker = s.tracker := by
  unfold endRound
  split
  · rfl
  · rfl

theorem sending_endRound (dispatching : Dispatching) :
    sendingOf (s.endRound dispatching).dispatching = none := by
  unfold endRound
  split
  · rfl
  · rfl

/-- A request is tracked and is being sent, or the service waits for what it has waited for. -/
theorem sendNext_cases (hsending : sendingOf s.dispatching = none) :
    (s.sendNext.tracker = s.tracker ∧ sendingOf s.sendNext.dispatching = none) ∨
      ∃ packet, RequestTracker.Tracked s.tracker s.sendNext.tracker packet ∧
        sendingOf s.sendNext.dispatching = some packet := by
  unfold sendNext
  split
  next options result command waiting _ _ =>
    dsimp only
    rcases s.tracker.track_cases_waiting (makeReconnectTeardownRequestPacket
      (s.assignIds options command).1 { options.wire with
        sequence := options.wire.sequence + UInt64.ofNat s.assigned.length })
      (some (s.assignIds options command).1) with ⟨hrefused, hsame⟩ | ⟨htracked, hwaiting⟩
    · rw [if_pos hrefused, tracker_endRound, sending_endRound]
      exact Or.inl ⟨hsame, rfl⟩
    · rw [if_neg (by rw [htracked]; exact Bool.noConfusion)]
      exact Or.inr ⟨_, hwaiting, rfl⟩
  · exact Or.inl ⟨rfl, hsending⟩

/-! ### Responses and expiry -/

/-- A response that the service does not wait for does nothing. -/
theorem complete_of_waiting_eq_none {response : PacketEnvelope}
    (h : s.tracker.waiting response.responseTo = none) : (s.complete response).2 = s := by
  unfold complete completeTracked
  rw [s.tracker.complete_of_waiting_eq_none h]
  split
  · rfl
  · rfl

theorem dispatching_complete (response : PacketEnvelope) :
    (s.complete response).2.dispatching = s.dispatching := by
  unfold complete completeTracked
  split
  · exact (record_fold _ s).1
  · rfl

theorem waiting_complete (response : PacketEnvelope) (id : MessageId) :
    (s.complete response).2.tracker.waiting id =
      if RequestTracker.isTerminalResponse response.messageKind ∧ response.responseTo ≠ 0 ∧
          response.responseTo = id then none
      else s.tracker.waiting id := by
  unfold complete
  split
  · exact s.tracker.waiting_complete response id
  next hkind =>
    exact (if_neg fun hends => hkind (responseMessageKind_of_terminal hends.1)).symm

theorem received_le_complete (response : PacketEnvelope) :
    s.received.length ≤ (s.complete response).2.received.length := by
  unfold complete completeTracked
  split
  · rw [(record_fold _ s).2]
    exact Nat.le_add_right _ _
  · exact le_rfl

theorem received_lt_complete {response : PacketEnvelope}
    (hkind : responseMessageKind response.messageKind = true) (hzero : response.responseTo ≠ 0)
    (h : s.tracker.waiting response.responseTo ≠ none) :
    s.received.length < (s.complete response).2.received.length := by
  rw [complete, if_pos hkind, completeTracked, (record_fold _ s).2,
    s.tracker.calls_complete_of_waiting hzero h]
  exact Nat.lt_succ_self _

theorem dispatching_expire (nowUsec : UInt64) :
    (s.expire nowUsec).dispatching = s.dispatching :=
  (record_fold _ s).1

theorem endsOnly_expire (nowUsec : UInt64) :
    RequestTracker.EndsOnly s.tracker (s.expire nowUsec).tracker fun _ pending =>
      pending.deadlineUsec ≤ nowUsec :=
  s.tracker.endsOnly_expire nowUsec

/-- The end of a call of `router_.send`: the request is over if it could not be sent. -/
theorem sendReturned_ends (sent : SendResult) :
    sendingOf (s.sendReturned sent).dispatching = none ∧
      RequestTracker.EndsOnly s.tracker (s.sendReturned sent).tracker fun id _ =>
        sent.status ≠ .sent ∧ ∃ packet ∈ sendingOf s.dispatching, packet.messageId = id := by
  unfold sendReturned
  split
  next options request result hdispatching =>
    rw [hdispatching]
    dsimp only
    split
    next hfailed =>
      rw [sending_endRound, tracker_endRound]
      have hends := s.tracker.endsOnly_complete (makeReconnectTeardownResponsePacket request {
        status := if sendStatusToResponseStatus sent.status = .ok then .failed
          else sendStatusToResponseStatus sent.status
        message :=
          if sent.message = "" then "reconnect teardown request send failed" else sent.message })
      exact ⟨rfl, hends.imp fun id _ hid => ⟨hfailed, request, rfl, hid.2⟩⟩
    · rw [sending_endRound, tracker_endRound]
      exact ⟨rfl, .refl _ _⟩
  next hother =>
    refine ⟨?_, .refl _ _⟩
    rcases hdispatching : s.dispatching with - | ⟨options, - | request, result⟩
    · rfl
    · rfl
    · exact absurd hdispatching (hother options request result)

end ReconnectTeardownService

end Runtime
end FusionDesk
