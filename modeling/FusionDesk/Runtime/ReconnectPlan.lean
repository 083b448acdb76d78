import FusionDesk.Runtime.PeerProfileCodec
import FusionDesk.Runtime.TeardownAck

/-!
# Plans of a reconnect

`resolvePeerConnectionPlan`, `resolvePeerProfileExchange` and `resolveReconnectOrchestrationPlan`: which
channels a client connects and an agent listens for, and which of them are replaced.

A `std::set` is a list without duplicates here.
-/

namespace FusionDesk
namespace Runtime

open Protocol Network

namespace PeerProfile

open PayloadFields

/-! ## The connection plan -/

structure PeerConnectionPlanChannel where
  spec : ChannelSpec := {}
  endpoint : StdString := []
  clientReadyEndpoint : StdString := []
  agentReadyEndpoint : StdString := []
  deriving DecidableEq, Repr

structure PeerConnectionPlanResult where
  ok : Bool := false
  channels : List PeerConnectionPlanChannel := []
  messages : List StdString := []
  deriving DecidableEq, Repr

def findSpec (specs : List ChannelSpec) (key : ChannelKey) : Option ChannelSpec :=
  specs.find? fun spec => spec.key == key

/-- The variables of the loop of `resolvePeerConnectionPlan`. -/
structure ConnectionPlanLoop where
  requestedKeys : List ChannelKey := []
  endpoints : List StdString := []
  resolved : List PeerConnectionPlanChannel := []
  messages : List StdString := []

/-- What is wrong with a requested channel. -/
def channelMessages (knownSpecs : List ChannelSpec) (loop : ConnectionPlanLoop)
    (channel : PeerConnectionChannelRequest) : List StdString :=
  (if channel.key.channelId = 0 then
    [text "peer connection plan requested channel has empty channel id"] else []) ++
  (if channel.key ∈ loop.requestedKeys then
    [text "peer connection plan has duplicate requested channels"] else []) ++
  (if channel.endpoint = [] then [text "peer connection plan channel requires endpoint"]
    else if channel.endpoint ∈ loop.endpoints then
      [text "peer connection plan requires distinct endpoints per channel"]
    else []) ++
  (if (findSpec knownSpecs channel.key).isNone then
    [text "peer connection plan requested channel is not in known specs"] else [])

/-- The body of the loop. -/
def resolveChannel (knownSpecs : List ChannelSpec) (loop : ConnectionPlanLoop)
    (channel : PeerConnectionChannelRequest) : ConnectionPlanLoop :=
  let messages := channelMessages knownSpecs loop channel
  let resolved := match findSpec knownSpecs channel.key with
    | some spec =>
      if messages = [] then
        loop.resolved ++ [⟨spec, channel.endpoint, channel.clientReadyEndpoint,
          channel.agentReadyEndpoint⟩]
      else loop.resolved
    | none => loop.resolved
  { requestedKeys := loop.requestedKeys.insert channel.key
    endpoints := if channel.endpoint = [] then loop.endpoints
      else loop.endpoints.insert channel.endpoint
    resolved := resolved
    messages := loop.messages ++ messages }

def resolvePeerConnectionPlan (request : PeerConnectionPlanRequest) : PeerConnectionPlanResult :=
  let messages :=
    (if request.knownSpecs.isEmpty then
      [text "peer connection plan requires known channel specs"] else []) ++
    (if request.channels.isEmpty then
      [text "peer connection plan requires channel requests"] else [])
  if messages ≠ [] then { messages := messages }
  else
    let loop := request.channels.foldl (resolveChannel request.knownSpecs) {}
    if loop.messages ≠ [] then { messages := loop.messages }
    else { ok := !loop.resolved.isEmpty, channels := loop.resolved }

def resolvePeerProfileExchange (request : PeerProfileExchangeRequest) :
    PeerProfileExchangeResult :=
  let plan := resolvePeerConnectionPlan request.connectionPlan
  if plan.ok = false then { messages := plan.messages }
  else
    { ok := true
      messages := plan.messages
      pair := {
        client := {
          sessionId := request.clientSessionId
          tcpChannels := plan.channels.map fun channel =>
            ⟨channel.spec, channel.endpoint, channel.clientReadyEndpoint⟩ }
        agent := {
          sessionId := request.agentSessionId
          tcpListenChannels := plan.channels.map fun channel =>
            ⟨channel.spec, channel.endpoint, channel.agentReadyEndpoint⟩ } } }

end PeerProfile

open PeerProfile

/-! ## The reconnect plan -/

structure ReconnectOrchestrationRequest where
  profile : PeerProfileExchangeRequest := {}
  degradedChannels : List ChannelKey := []
  reason : String := "service reconnect"
  requestDisplayKeyframe : Bool := true

/-- `struct ReconnectOrchestrationSidePlan`, with the fields that a teardown does not use. -/
structure ReconnectSidePlan extends ReconnectOrchestrationSidePlan where
  degradedChannels : List ChannelKey := []
  tcpChannels : List PeerProfileChannel := []
  tcpListenChannels : List PeerProfileChannel := []
  requestDisplayKeyframe : Bool := true

structure ReconnectOrchestrationPlan where
  profile : PeerProfileExchangeResult := {}
  client : ReconnectSidePlan := {}
  agent : ReconnectSidePlan := {}

structure ReconnectOrchestrationResult where
  ok : Bool := false
  plan : ReconnectOrchestrationPlan := {}
  messages : List String := []

/-- The loop over the degraded channels, which have their specs in `known` and their replacements in
the other two: the message with which it ends, if it does not come to the end. -/
def checkDegraded (known clientReplacements agentReplacements : List ChannelKey) :
    List ChannelKey → List ChannelKey → Option String
  | _, [] => none
  | degraded, key :: keys =>
    if key ∉ known then some "reconnect orchestration channel is not in known specs"
    else if key ∉ clientReplacements ∨ key ∉ agentReplacements then
      some "reconnect orchestration channel has no replacement plan"
    else if key ∈ degraded then
      some "reconnect orchestration has duplicate degraded channels"
    else checkDegraded known clientReplacements agentReplacements (degraded ++ [key]) keys

/-- The channels that are replaced: `addClientReplacementChannels`, and
`addAgentReplacementListeners`. -/
def replacementChannels (channels : List PeerProfileChannel) (degraded : List ChannelKey) :
    List PeerProfileChannel :=
  channels.filter fun channel => channel.spec.key ∈ degraded

def resolveReconnectOrchestrationPlan (request : ReconnectOrchestrationRequest) :
    ReconnectOrchestrationResult :=
  if request.degradedChannels.isEmpty then
    { messages := ["reconnect orchestration requires degraded channels"] }
  else
    let profile := resolvePeerProfileExchange request.profile
    let messages := profile.messages.map payloadToString
    if profile.ok = false then { plan := { profile := profile }, messages := messages }
    else
      let keys : List PeerProfileChannel → List ChannelKey :=
        fun channels => channels.map fun channel => channel.spec.key
      let messages := messages ++ (checkDegraded
        (request.profile.connectionPlan.knownSpecs.map fun spec => spec.key)
        (keys profile.pair.client.tcpChannels) (keys profile.pair.agent.tcpListenChannels) []
        request.degradedChannels).toList
      if messages ≠ [] then { plan := { profile := profile }, messages := messages }
      else
        let reason := if request.reason = "" then "service reconnect" else request.reason
        { ok := true
          plan := {
            profile := profile
            client := {
              sessionId := profile.pair.client.sessionId
              degradedChannels := request.degradedChannels
              teardownAfterSuccessfulRebind := request.degradedChannels
              reason := reason
              requestDisplayKeyframe := request.requestDisplayKeyframe
              tcpChannels :=
                replacementChannels profile.pair.client.tcpChannels request.degradedChannels }
            agent := {
              sessionId := profile.pair.agent.sessionId
              degradedChannels := request.degradedChannels
              teardownAfterSuccessfulRebind := request.degradedChannels
              reason := reason
              requestDisplayKeyframe := request.requestDisplayKeyframe
              tcpListenChannels :=
                replacementChannels profile.pair.agent.tcpListenChannels
                  request.degradedChannels } } }

end Runtime
end FusionDesk
