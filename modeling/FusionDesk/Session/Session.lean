import FusionDesk.Module.Reconnect

/-!
# The session

`Session` under `src/core/session/session.cpp`: its state, and `reconnect`, which degrades
channels, pauses modules, rebinds channels, replays the ingress of the modules and resumes them.

The diagnostics sink is the list of the events the session published to it.  The module host comes
with the receiving half of the router, and exists only where there is a network manager.  Next to
the session `ReconnectRun` keeps the calls a reconnect makes of the manager and of the modules.
-/

namespace FusionDesk

open Protocol Network FusionDesk.Module

namespace Session

inductive SessionState
  | created
  | authorizing
  | authorized
  | connecting
  | networkReady
  | mountingModules
  | running
  | reconnecting
  | draining
  | stopping
  | stopped
  | failed
  deriving DecidableEq, Repr

def stateName : SessionState → String
  | .created => "Created"
  | .authorizing => "Authorizing"
  | .authorized => "Authorized"
  | .connecting => "Connecting"
  | .networkReady => "NetworkReady"
  | .mountingModules => "MountingModules"
  | .running => "Running"
  | .reconnecting => "Reconnecting"
  | .draining => "Draining"
  | .stopping => "Stopping"
  | .stopped => "Stopped"
  | .failed => "Failed"

structure ReconnectChannelReplacement where
  /-- `none` for a null pointer. -/
  channel : Option IChannel := none
  ready : ChannelReadyInfo := {}
  deriving DecidableEq, Repr

structure ReconnectRequest where
  reason : String := ""
  degradedChannels : List ChannelKey := []
  replacementChannels : List ReconnectChannelReplacement := []
  requestDisplayKeyframe : Bool := true
  deriving DecidableEq, Repr

inductive ReconnectChannelOperation
  | degrade
  | rebind
  deriving DecidableEq, Repr

structure ReconnectChannelReport where
  key : ChannelKey := {}
  operation : ReconnectChannelOperation := .degrade
  ok : Bool := false
  registryStatus : ChannelRegistryStatus := .invalidArgument
  responseStatus : ResponseStatus := .failed
  message : String := ""
  deriving DecidableEq, Repr

structure ReconnectReport where
  attempted : Bool := false
  ok : Bool := false
  reconnectCount : UInt32 := 0
  reason : String := ""
  requestedFreshState : Bool := false
  degradedChannels : List ReconnectChannelReport := []
  reboundChannels : List ReconnectChannelReport := []
  pausedModules : List ModuleReconnectReport := []
  replayedIngress : List ModuleIngressReplayReport := []
  resumedModules : List ModuleReconnectReport := []
  deriving DecidableEq, Repr

structure RemoteModuleInventorySnapshot where
  peerSessionId : SessionId := 0
  manifests : List ModuleManifest := []
  deriving DecidableEq, Repr

structure DiagnosticEvent where
  sessionId : SessionId := 0
  traceId : TraceId := 0
  code : String := ""
  message : String := ""
  policyVersion : String := ""
  deriving DecidableEq, Repr

/-- The network manager, and the module host made on it, which is `none` before `start`. -/
structure SessionNetwork (M H : Type) [IModule M] where
  manager : NetworkManager
  moduleHost : Option (HostWorld M H)

end Session

open Session

/-- `class Session`. -/
structure Session (M H : Type) [IModule M] where
  context : SessionContext
  state : SessionState := .created
  /-- `none` for a null pointer. -/
  network : Option (SessionNetwork M H)
  lastReconnectReport : ReconnectReport := {}
  remoteModuleInventory : RemoteModuleInventorySnapshot := {}
  /-- The events published to the sink; `none` for a null pointer. -/
  diagnostics : Option (List DiagnosticEvent) := none

namespace Session

variable {M H : Type} [IModule M]

/-! ## The channels of a request -/

def containsKey (keys : List ChannelKey) (key : ChannelKey) : Bool :=
  keys.any fun item => item.channelId == key.channelId && item.channelType == key.channelType

/-- One round of the loop over the replacements in `affectedReconnectChannels`. -/
def addReplaced (result : List ChannelKey) (replacement : ReconnectChannelReplacement) :
    List ChannelKey :=
  match replacement.channel with
  | none => result
  | some channel =>
    if containsKey result channel.key then result else result ++ [channel.key]

def affectedReconnectChannels (request : ReconnectRequest) : List ChannelKey :=
  request.replacementChannels.foldl addReplaced request.degradedChannels

def makeChannelReport (operation : ReconnectChannelOperation) (key : ChannelKey)
    (result : ChannelRegistryResult) : ReconnectChannelReport :=
  { key := key
    operation := operation
    ok := result.ok
    registryStatus := result.status
    responseStatus := result.responseStatus
    message := result.message }

def publish (session : Session M H) (code message : String) : Session M H :=
  { session with
    diagnostics := session.diagnostics.map fun events =>
      events ++ [{ sessionId := session.context.sessionId
                   traceId := session.context.traceId
                   code := code
                   message := message
                   policyVersion := session.context.policyVersion }] }

def transition (session : Session M H) (next : SessionState) (message : String) : Session M H :=
  { session with state := next }.publish "session.state_changed" (stateName next ++ ": " ++ message)

/-! ## Reconnect -/

/-- The session in the middle of a reconnect, and the calls made. -/
structure ReconnectRun (M H : Type) [IModule M] where
  session : Session M H
  events : List ReconnectEvent := []

/-- The reason of a request, or what stands for none. -/
def reasonOr (request : ReconnectRequest) (otherwise : String) : String :=
  if request.reason = "" then otherwise else request.reason

namespace ReconnectRun

/-- A change of the report the session keeps. -/
def report (run : ReconnectRun M H) (change : ReconnectReport → ReconnectReport) :
    ReconnectRun M H :=
  { run with session := { run.session with
      lastReconnectReport := change run.session.lastReconnectReport } }

def publish (run : ReconnectRun M H) (code message : String) : ReconnectRun M H :=
  { run with session := run.session.publish code message }

def transition (run : ReconnectRun M H) (next : SessionState) (message : String) :
    ReconnectRun M H :=
  { run with session := run.session.transition next message }

/-- The network after calls that are written down. -/
def withNetwork (run : ReconnectRun M H) (network : SessionNetwork M H)
    (events : List ReconnectEvent) : ReconnectRun M H :=
  { session := { run.session with network := some network }, events := events }

/-- The start: the counter, a new report, and the first transition. -/
def begin (run : ReconnectRun M H) (request : ReconnectRequest) : ReconnectRun M H :=
  let reconnectCount := run.session.context.reconnectCount + 1
  let counted := { run with session := { run.session with
      context := { run.session.context with reconnectCount := reconnectCount }
      lastReconnectReport :=
        { attempted := true
          ok := true
          reconnectCount := reconnectCount
          reason := request.reason
          requestedFreshState := request.requestDisplayKeyframe } } }
  (counted.transition .reconnecting (reasonOr request "reconnecting")).publish
    "network.reconnect_started" request.reason

/-- One round of the loop over the degraded channels. -/
def degrade (request : ReconnectRequest) (run : ReconnectRun M H) (key : ChannelKey) :
    ReconnectRun M H :=
  match run.session.network with
  | none => run
  | some network =>
    let degraded := network.manager.markDegraded key (reasonOr request "reconnecting")
    let changed := run.withNetwork { network with manager := degraded.2 }
      (run.events ++ [ReconnectEvent.degrade key])
    let reported := changed.report fun report => { report with
      degradedChannels := report.degradedChannels ++ [makeChannelReport .degrade key degraded.1]
      ok := report.ok && degraded.1.ok }
    if degraded.1.ok then reported.publish "network.reconnect_channel_degraded" request.reason
    else reported.publish "network.reconnect_channel_degraded_failed" degraded.1.message

/-- The key a report on a replacement is for. -/
def replacementKey (replacement : ReconnectChannelReplacement) : ChannelKey :=
  (replacement.channel.map IChannel.key).getD {}

/-- One round of the loop over the replacements.  The first component is what the channel instances
answer at this moment. -/
def rebind (request : ReconnectRequest) (run : ReconnectRun M H)
    (item : Transport × ReconnectChannelReplacement) : ReconnectRun M H :=
  match run.session.network with
  | none => run
  | some network =>
    let rebound := network.manager.rebindChannel item.1 item.2.channel item.2.ready
    let changed := run.withNetwork { network with manager := rebound.2 }
      (run.events ++ [ReconnectEvent.rebind item.2.channel])
    let reported := changed.report fun report => { report with
      reboundChannels := report.reboundChannels ++
        [makeChannelReport .rebind (replacementKey item.2) rebound.1]
      ok := report.ok && rebound.1.ok }
    if rebound.1.ok then reported.publish "network.reconnect_channel_rebound" request.reason
    else reported.publish "network.reconnect_channel_rebound_failed" rebound.1.message

/-- A loop of the module host, if there is one, and what it returns. -/
def withHost {α : Type} (run : ReconnectRun M H)
    (loop : ReconnectWorld M H → List α × ReconnectWorld M H) : List α × ReconnectRun M H :=
  match run.session.network with
  | none => ([], run)
  | some ⟨_, none⟩ => ([], run)
  | some ⟨manager, some world⟩ =>
    let result := loop { world := world, network := manager, events := run.events }
    (result.1, run.withNetwork ⟨result.2.network, some result.2.world⟩ result.2.events)

/-- `reconnectOptions`. -/
def options (run : ReconnectRun M H) (request : ReconnectRequest) : ModuleReconnectOptions :=
  { reason := request.reason
    affectedChannels := affectedReconnectChannels request
    reconnectCount := run.session.context.reconnectCount
    requestFreshState := request.requestDisplayKeyframe }

def replayIngress (refuses : ModuleRouter H → RouteMatch → Bool) (request : ReconnectRequest)
    (run : ReconnectRun M H) : ReconnectRun M H :=
  let replayed := run.withHost fun world =>
    replayRunningModuleIngressForReconnect refuses world (run.options request)
  let replayOk := replayed.1.all fun report => report.replayed
  (replayed.2.report fun report => { report with
      replayedIngress := replayed.1
      ok := report.ok && replayOk }).publish
    (if replayOk then "module.ingress_replayed" else "module.ingress_replay_failed")
    (toString replayed.1.length ++ " module ingress routes replayed")

/-- The end: the last transition. -/
def finish (run : ReconnectRun M H) : ReconnectRun M H :=
  (run.publish "network.reconnect_finished"
    (if run.session.lastReconnectReport.ok then "reconnect finished"
      else "reconnect finished with errors")).transition .running "session resumed"

variable [IReconnectAwareModule M]

def pauseModules (request : ReconnectRequest) (run : ReconnectRun M H) : ReconnectRun M H :=
  let draining := run.transition .draining "draining for reconnect"
  let paused := draining.withHost fun world =>
    pauseRunningModulesForReconnect world (run.options request)
  (paused.2.report fun report => { report with pausedModules := paused.1 }).publish
    "module.reconnect_paused" (toString paused.1.length ++ " modules paused")

def resumeModules (request : ReconnectRequest) (run : ReconnectRun M H) : ReconnectRun M H :=
  let asked :=
    if request.requestDisplayKeyframe then
      run.publish "display.keyframe_requested" (reasonOr request "reconnect")
    else run
  let ready := asked.transition .networkReady "network rebound"
  let resumed := ready.withHost fun world =>
    resumeRunningModulesAfterReconnect world (run.options request)
  (resumed.2.report fun report => { report with resumedModules := resumed.1 }).publish
    "module.reconnect_resumed" (toString resumed.1.length ++ " modules resumed")

/-- The phases of `reconnect`.  `moments` are the answers of the channel instances when each
replacement is bound. -/
def phases (refuses : ModuleRouter H → RouteMatch → Bool) (moments : ℕ → Transport)
    (request : ReconnectRequest) (run : ReconnectRun M H) : ReconnectRun M H :=
  let degraded := request.degradedChannels.foldl (degrade request) (run.begin request)
  let paused := degraded.pauseModules request
  let items := request.replacementChannels.zipIdx.map fun item => (moments item.2, item.1)
  let rebound := items.foldl (rebind request) paused
  ((rebound.replayIngress refuses request).resumeModules request).finish

end ReconnectRun

/-- `reconnect`: what it returns, the session after it, and the calls it made. -/
def reconnect [IReconnectAwareModule M] (refuses : ModuleRouter H → RouteMatch → Bool)
    (moments : ℕ → Transport) (session : Session M H) (request : ReconnectRequest) :
    Bool × Session M H × List ReconnectEvent :=
  if session.state ≠ .running ∧ session.state ≠ .networkReady then (false, session, [])
  else
    let run := ReconnectRun.phases refuses moments request { session := session }
    (run.session.lastReconnectReport.ok, run.session, run.events)

end Session
end FusionDesk
