import FusionDesk.Module.Ingress
import FusionDesk.Network.ChannelRegistry
import FusionDesk.Session.Context

/-!
# The module host

`ModuleHost` under `src/core/module/module_host.cpp`: the modules of a session in the order they
were added, the ingress registry, and the batch start.

A module is an implementation of the interface `IModule`: a type of module values with the
functions of the interface on it, and what every implementation keeps to as laws.  A hosted module
is reached through its id, where the source holds a pointer.

* `ModuleHost`, `HostWorld`: the host, and the host with the router its ingress registry uses. Both
  carry what holds of them as fields: the order and the table of modules agree, and the token
  lists of the registry are those of the subscriptions.
* `preflight`, `startLoop`, `startAllowedModules`: the batch start. Next to the reports it returns
  the calls it made, `HostEvent`.
-/

namespace FusionDesk
namespace Module

open Protocol Network Session

inductive ModuleState
  | created
  | attached
  | starting
  | running
  | stopping
  | stopped
  | detached
  | failed
  deriving DecidableEq, Repr

structure ModuleStartOptions where
  allowPartialStart : Bool := false
  peerVersions : List ModulePeerVersion := []
  deriving DecidableEq, Repr

structure ModuleStopOptions where
  force : Bool := false
  reason : String := ""
  deriving DecidableEq, Repr

/-- `class IModule`. -/
class IModule (M : Type) where
  manifest : M → ModuleManifest
  state : M → ModuleState
  /-- `attach(runtime)`; of the runtime a module keeps pointers and the session context. -/
  attach : M → SessionContext → Bool × M
  start : M → ModuleStartOptions → Bool × M
  stop : M → ModuleStopOptions → M
  diagnostics : M → String
  /-- The manifest of a module is set when it is made. -/
  manifest_attach : ∀ m session, manifest (attach m session).2 = manifest m
  manifest_start : ∀ m options, manifest (start m options).2 = manifest m
  manifest_stop : ∀ m options, manifest (stop m options) = manifest m
  /-- A module that does not start is not running after that, if it was not before. -/
  start_false : ∀ m options, state m ≠ .running → (start m options).1 = false →
    state (start m options).2 ≠ .running
  /-- A module that was stopped is not running. -/
  state_stop : ∀ m options, state (stop m options) ≠ .running

/-! ## Roles, platforms, peers -/

def roleFlag : SessionRole → UInt32
  | .client => moduleRoleClient
  | .agent => moduleRoleAgent
  | .auth => moduleRoleAuth
  | .relay => moduleRoleBridge
  | .standalone => moduleRoleTool

def supportsRole (manifest : ModuleManifest) (role : SessionRole) : Bool :=
  if manifest.roleFlags = 0 then true else manifest.roleFlags &&& roleFlag role ≠ 0

def supportsPlatform (manifest : ModuleManifest) (platform : String) : Bool :=
  if manifest.supportedPlatforms.isEmpty then true
  else manifest.supportedPlatforms.contains platform

structure PeerCompatibilityEvaluation where
  peerVersions : List ModulePeerVersion := []
  blocked : Bool := false
  message : String := ""
  deriving DecidableEq, Repr

/-- The inner loop of `evaluatePeerVersions`: whether a peer was found, the last check, and the
peer version that is accepted. -/
def findPeerVersion (manifest : ModuleManifest) (expected : ModulePeerCompatibility) :
    List ModulePeerVersion → Bool → ModuleCompatibilityCheck →
      Bool × ModuleCompatibilityCheck × Option ModulePeerVersion
  | [], found, lastCheck => (found, lastCheck, none)
  | peer :: peers, found, lastCheck =>
    if peer.moduleId ≠ expected.peerModuleId then
      findPeerVersion manifest expected peers found lastCheck
    else
      let check := checkModuleCompatibility manifest peer.moduleId peer.version
      if check.compatible then
        (true, check, some ⟨peer.moduleId, peer.version, true, check.compatibilityMode⟩)
      else findPeerVersion manifest expected peers true check

/-- The outer loop, with its two early returns. -/
def evaluateExpectedPeers (manifest : ModuleManifest) (peers : List ModulePeerVersion) :
    List ModulePeerCompatibility → PeerCompatibilityEvaluation → PeerCompatibilityEvaluation
  | [], result => result
  | expected :: rest, result =>
    let search := findPeerVersion manifest expected peers false {}
    let result := { result with peerVersions := result.peerVersions ++ search.2.2.toList }
    if ¬ search.1 then
      { result with
        blocked := true
        message := "required peer module version is missing: " ++ expected.peerModuleId }
    else if ¬ search.2.1.compatible then
      { result with blocked := true, message := search.2.1.message }
    else evaluateExpectedPeers manifest peers rest result

def evaluatePeerVersions (manifest : ModuleManifest) (peers : List ModulePeerVersion) :
    PeerCompatibilityEvaluation :=
  if peers.isEmpty || manifest.compatiblePeers.isEmpty then {}
  else evaluateExpectedPeers manifest peers manifest.compatiblePeers {}

/-! ## The host -/

/-- `class ModuleHost`. -/
structure ModuleHost (M H : Type) [IModule M] where
  /-- `runtime_.session`. -/
  session : SessionContext
  /-- `none` for a null pointer. -/
  policyEngine : Option IPolicyEngine
  /-- The callable the host registers: it looks a module up and hands it the packet. -/
  receiver : H
  ingress : ModuleIngressRegistry := {}
  modules : Std.ExtTreeMap String M := ∅
  moduleOrder : List String := []
  nodup : moduleOrder.Nodup
  mem_order : ∀ id, id ∈ moduleOrder ↔ (modules[id]?).isSome = true
  id_ne : ∀ id ∈ moduleOrder, id ≠ ""
  /-- A module is hosted under the id of its manifest. -/
  named : ∀ id m, modules[id]? = some m → (IModule.manifest m).moduleId = id

theorem getElem?_insertModule {M : Type} (modules : Std.ExtTreeMap String M) (id n : String)
    (m : M) : (modules.insert id m)[n]? = if id = n then some m else modules[n]? := by
  simp only [Std.ExtTreeMap.getElem?_insert, Std.LawfulEqOrd.compare_eq_iff_eq]

variable {M H : Type} [IModule M]

namespace ModuleHost

/-- The constructor. -/
def make (session : SessionContext) (policyEngine : Option IPolicyEngine) (receiver : H) :
    ModuleHost M H where
  session := session
  policyEngine := policyEngine
  receiver := receiver
  nodup := List.nodup_nil
  mem_order := fun id => by simp
  id_ne := fun id h => nomatch h
  named := fun id m h => by simp at h

/-- `module(moduleId)`. -/
def module (host : ModuleHost M H) (moduleId : String) : Option M := host.modules[moduleId]?

/-- The order lists the modules there are. -/
theorem mem_moduleOrder_iff (host : ModuleHost M H) (id : String) :
    id ∈ host.moduleOrder ↔ ∃ m, host.module id = some m := by
  rw [host.mem_order, module, Option.isSome_iff_exists]

/-- A call of a module through its pointer: the module under the id becomes what the call makes of
it. -/
def update (host : ModuleHost M H) (id : String) (f : M → M)
    (hf : ∀ m, IModule.manifest (f m) = IModule.manifest m) : ModuleHost M H :=
  match hfind : host.modules[id]? with
  | none => host
  | some m =>
    { host with
      modules := host.modules.insert id (f m)
      mem_order := fun n => by
        rw [host.mem_order, getElem?_insertModule]
        by_cases hn : id = n
        · rw [if_pos hn, ← hn, hfind]
          rfl
        · rw [if_neg hn]
      named := fun n m' h => by
        rw [getElem?_insertModule] at h
        by_cases hn : id = n
        · rw [if_pos hn, Option.some_inj] at h
          rw [← h, hf, host.named id m hfind, hn]
        · rw [if_neg hn] at h
          exact host.named n m' h }

theorem module_update (host : ModuleHost M H) (id : String) (f : M → M)
    (hf : ∀ m, IModule.manifest (f m) = IModule.manifest m) (n : String) :
    (host.update id f hf).module n = if id = n then (host.module n).map f else host.module n := by
  unfold update module
  split
  · rename_i hfind
    by_cases hn : id = n
    · rw [if_pos hn, ← hn, hfind]
      rfl
    · rw [if_neg hn]
  · rename_i m hfind
    rw [getElem?_insertModule]
    by_cases hn : id = n
    · rw [if_pos hn, if_pos hn, ← hn, hfind]
      rfl
    · rw [if_neg hn, if_neg hn]

end ModuleHost

/-- The host and the router of its runtime, which is `none` where the pointer is null. -/
structure HostWorld (M H : Type) [IModule M] where
  host : ModuleHost M H
  router : Option (ModuleRouter H)
  /-- The token lists of the registry are those of the subscriptions. -/
  agree : host.ingress.AgreesWith router

namespace HostWorld

/-- A new host on a new router. -/
def make (session : SessionContext) (policyEngine : Option IPolicyEngine) (receiver : H) :
    HostWorld M H where
  host := .make session policyEngine receiver
  router := some .empty
  agree := by
    rintro _ ⟨⟩ id
    rw [ModuleIngressRegistry.heldFor, SubscriptionTable.held_empty]
    simp [ModuleHost.make, ModuleIngressRegistry.tokensOf]

/-- The subscriptions the router holds for a module. -/
def heldFor (world : HostWorld M H) (id : String) : List (ℕ × Subscription (PacketHandler H)) :=
  ModuleIngressRegistry.heldIn world.router id

/-- A call of a hosted module. -/
def update (world : HostWorld M H) (id : String) (f : M → M)
    (hf : ∀ m, IModule.manifest (f m) = IModule.manifest m) : HostWorld M H :=
  { world with
    host := world.host.update id f hf
    agree := by
      unfold ModuleHost.update
      split
      · exact world.agree
      · exact world.agree }

theorem order_update (world : HostWorld M H) (id : String) (f : M → M)
    (hf : ∀ m, IModule.manifest (f m) = IModule.manifest m) :
    (world.update id f hf).host.moduleOrder = world.host.moduleOrder := by
  show (world.host.update id f hf).moduleOrder = _
  unfold ModuleHost.update
  split
  · rfl
  · rfl

theorem module_update (world : HostWorld M H) (id : String) (f : M → M)
    (hf : ∀ m, IModule.manifest (f m) = IModule.manifest m) (n : String) :
    (world.update id f hf).host.module n =
      if id = n then (world.host.module n).map f else world.host.module n :=
  ModuleHost.module_update world.host id f hf n

/-- `ingress_.unregisterModule(id)`. -/
def unregisterModule (world : HostWorld M H) (id : String) : HostWorld M H :=
  let cleared := world.host.ingress.unregisterModule world.router id
  { host := { world.host with ingress := cleared.1 }
    router := cleared.2
    agree := world.agree.unregisterModule id }

/-- `ingress_.registerManifest(manifest, ...)` with the callable of the host. -/
def registerManifest (refuses : ModuleRouter H → RouteMatch → Bool) (world : HostWorld M H)
    (manifest : ModuleManifest) : RegisteredIngress × HostWorld M H :=
  let registered := world.host.ingress.registerManifest refuses world.router manifest
    (some world.host.receiver)
  (registered.1,
    { host := { world.host with ingress := registered.2.1 }
      router := registered.2.2
      agree := world.agree.registerManifest manifest world.host.receiver })

end HostWorld

/-! ## Adding a module -/

/-- `addModule`; the module is `none` for a null pointer. -/
def HostWorld.addModule (world : HostWorld M H) (module : Option M) : Bool × HostWorld M H :=
  match module with
  | none => (false, world)
  | some m =>
    let moduleId := (IModule.manifest m).moduleId
    if hid : moduleId = "" then (false, world)
    else if hnew : (world.host.modules[moduleId]?).isSome then (false, world)
    else if ¬ supportsRole (IModule.manifest m) world.host.session.role then (false, world)
    else if ¬ supportsPlatform (IModule.manifest m) world.host.session.localPlatform then
      (false, world)
    else
      let attached := IModule.attach m world.host.session
      if ¬ attached.1 then (false, world)
      else
        (true, { world with
          host := { world.host with
            modules := world.host.modules.insert moduleId attached.2
            moduleOrder := world.host.moduleOrder ++ [moduleId]
            nodup := by
              refine List.nodup_append.mpr ⟨world.host.nodup, List.pairwise_singleton _ _, ?_⟩
              rintro id hmem _ hlast rfl
              rw [List.mem_singleton.mp hlast, world.host.mem_order] at hmem
              exact hnew hmem
            mem_order := fun id => by
              rw [List.mem_append, List.mem_singleton, world.host.mem_order,
                getElem?_insertModule]
              by_cases hsame : moduleId = id
              · rw [if_pos hsame]
                exact iff_of_true (Or.inr hsame.symm) rfl
              · rw [if_neg hsame]
                exact or_iff_left (Ne.symm hsame)
            id_ne := fun id hmem => by
              rcases List.mem_append.mp hmem with hold | hlast
              · exact world.host.id_ne id hold
              · rw [List.mem_singleton.mp hlast]
                exact hid
            named := fun id m' hfind => by
              rw [getElem?_insertModule] at hfind
              by_cases hsame : moduleId = id
              · rw [if_pos hsame, Option.some_inj] at hfind
                rw [← hfind, IModule.manifest_attach]
                exact hsame
              · rw [if_neg hsame] at hfind
                exact world.host.named id m' hfind } })

/-! ## The batch start -/

structure ModuleStartReport where
  moduleId : String := ""
  started : Bool := false
  decision : PolicyDecision := {}
  diagnostics : String := ""
  deriving DecidableEq, Repr

/-- `ModuleStartCandidate`; the target is named by the id it is hosted under. -/
structure ModuleStartCandidate where
  target : String
  options : ModuleStartOptions
  report : ModuleStartReport
  deriving DecidableEq, Repr

def deny (report : ModuleStartReport) (reason : DenyReason) (message : String)
    (diagnostics : String) : ModuleStartReport :=
  { report with
    decision := { report.decision with allowed := false, reason := reason, message := message }
    diagnostics := diagnostics }

/-- The decision of the policy engine, or of none. -/
def ModuleHost.decide (host : ModuleHost M H) (manifest : ModuleManifest) : PolicyDecision :=
  match host.policyEngine with
  | some engine => engine.authorizeModule { session := host.session } manifest
  | none =>
    { allowed := true
      reason := .none
      effectiveFeatures := host.session.allowedFeatures }

/-- The checks of the first loop, for the module hosted under `moduleId`. -/
def ModuleHost.preflight (host : ModuleHost M H) (channels : Option ChannelRegistry)
    (options : ModuleStartOptions) (moduleId : String) (target : M) : ModuleStartCandidate :=
  let manifest := IModule.manifest target
  let report : ModuleStartReport := { moduleId := manifest.moduleId }
  let denied := fun reason message =>
    { target := moduleId
      options := options
      report := deny report reason message (IModule.diagnostics target) }
  if manifest.requiredModules.any fun required => (host.module required).isNone then
    denied .missingDependency "required module dependency is missing"
  else if channels.any fun registry => manifest.channels.any fun binding =>
      binding.required && !registry.isReady binding.key then
    denied .missingDependency "required channel is not ready"
  else
    let peerCompatibility := evaluatePeerVersions manifest options.peerVersions
    if peerCompatibility.blocked then
      denied .moduleVersionMismatch peerCompatibility.message
    else
      { target := moduleId
        options := { options with peerVersions := peerCompatibility.peerVersions }
        report := { report with
          decision := host.decide manifest
          diagnostics := IModule.diagnostics target } }

/-- One round of the first loop: the candidates so far, and `preflightFailed`. -/
def ModuleHost.addCandidate (host : ModuleHost M H) (channels : Option ChannelRegistry)
    (options : ModuleStartOptions) (acc : List ModuleStartCandidate × Bool) (moduleId : String) :
    List ModuleStartCandidate × Bool :=
  match host.module moduleId with
  | none => acc
  | some target =>
    let candidate := host.preflight channels options moduleId target
    (acc.1 ++ [candidate], acc.2 || !candidate.report.decision.allowed)

/-- The first loop. -/
def ModuleHost.candidates (host : ModuleHost M H) (channels : Option ChannelRegistry)
    (options : ModuleStartOptions) : List ModuleStartCandidate × Bool :=
  host.moduleOrder.foldl (host.addCandidate channels options) ([], false)

/-- A call the batch start makes. -/
inductive HostEvent
  /-- `start`, and what it returned. -/
  | start (moduleId : String) (started : Bool)
  /-- `stop`, and the tokens the router held for the module then. -/
  | stop (moduleId : String) (options : ModuleStopOptions) (tokens : List ℕ)
  deriving DecidableEq, Repr

namespace HostWorld

/-- `diagnostics()` of a hosted module. -/
def diagnosticsOf (world : HostWorld M H) (id : String) : String :=
  ((world.host.module id).map IModule.diagnostics).getD ""

def stop (world : HostWorld M H) (id : String) (options : ModuleStopOptions) :
    HostWorld M H × HostEvent :=
  (world.update id (fun m => IModule.stop m options) fun m => IModule.manifest_stop m options,
    .stop id options ((world.heldFor id).map Prod.fst))

end HostWorld

def markSkippedByBatch (world : HostWorld M H) (candidate : ModuleStartCandidate) :
    ModuleStartReport :=
  let report := candidate.report
  { report with
    decision :=
      if report.decision.allowed then
        { report.decision with
          allowed := false
          reason := .runtimeHealthBlocked
          message := "module start skipped because partial start is disabled" }
      else report.decision
    diagnostics := world.diagnosticsOf candidate.target }

/-- A report of a start that did not happen or was undone. -/
def blockedByHealth (report : ModuleStartReport) (message : String) : ModuleStartReport :=
  { report with
    started := false
    decision := { report.decision with
      allowed := false
      reason := .runtimeHealthBlocked
      message := message } }

/-- What the batch start has done so far. -/
structure StartProgress (M H : Type) [IModule M] where
  world : HostWorld M H
  reports : List ModuleStartReport := []
  startedModules : List String := []
  events : List HostEvent := []

/-- `target.start(candidate.options)`, where the decision allows it. -/
def callStart (world : HostWorld M H) (candidate : ModuleStartCandidate) (target : M) :
    ModuleStartReport × HostWorld M H × List HostEvent :=
  if candidate.report.decision.allowed then
    let started := (IModule.start target candidate.options).1
    (if started then { candidate.report with started := true }
      else blockedByHealth candidate.report "module start failed",
      world.update candidate.target (fun m => (IModule.start m candidate.options).2)
        fun m => IModule.manifest_start m candidate.options,
      [.start candidate.target started])
  else (candidate.report, world, [])

/-- The ingress registration of a module that was started. -/
def registerStarted (refuses : ModuleRouter H → RouteMatch → Bool) (id : String)
    (manifest : ModuleManifest) (report : ModuleStartReport) (world : HostWorld M H) :
    ModuleStartReport × HostWorld M H × List HostEvent :=
  if report.started && hasConsumedPackets manifest then
    let registered := world.registerManifest refuses manifest
    if registered.1.tokens.isEmpty then
      let stopped := registered.2.stop id {}
      (blockedByHealth report "module ingress registration failed", stopped.1, [stopped.2])
    else (report, registered.2, [])
  else (report, world, [])

/-- The options the rollback stops a module with. -/
def rollBackOptions : ModuleStopOptions :=
  { force := true, reason := "rolling back failed module batch start" }

/-- One round of the rollback: the subscriptions of a module, then the module. -/
def rollBackOne (acc : HostWorld M H × List HostEvent) (id : String) :
    HostWorld M H × List HostEvent :=
  let stopped := (acc.1.unregisterModule id).stop id rollBackOptions
  (stopped.1, acc.2 ++ [stopped.2])

/-- The rollback: the started modules in reverse. -/
def rollBack (world : HostWorld M H) (startedModules : List String) :
    HostWorld M H × List HostEvent :=
  startedModules.reverse.foldl rollBackOne (world, [])

/-- One round of the second loop, up to the question whether the module is started. -/
def startOne (refuses : ModuleRouter H → RouteMatch → Bool) (world : HostWorld M H)
    (candidate : ModuleStartCandidate) (target : M) :
    ModuleStartReport × HostWorld M H × List HostEvent :=
  let called := callStart world candidate target
  let registered := registerStarted refuses candidate.target (IModule.manifest target) called.1
    called.2.1
  (registered.1, registered.2.1, called.2.2 ++ registered.2.2)

/-- The end of the batch when a module is not started: the modules before it are taken back and
their reports rewritten, the modules after it are skipped. -/
def failBatch (progress : StartProgress M H) (target : String) (report : ModuleStartReport)
    (remaining : List ModuleStartCandidate) : StartProgress M H :=
  let undone := rollBack progress.world progress.startedModules
  { world := undone.1
    reports :=
      progress.reports.map (fun previous =>
        if previous.started then
          blockedByHealth previous "module start rolled back because batch start failed"
        else previous) ++
      { report with diagnostics := undone.1.diagnosticsOf target } ::
      remaining.map (markSkippedByBatch undone.1)
    startedModules := progress.startedModules
    events := progress.events ++ undone.2 }

/-- The second loop. -/
def startLoop (refuses : ModuleRouter H → RouteMatch → Bool) (options : ModuleStartOptions) :
    List ModuleStartCandidate → StartProgress M H → StartProgress M H
  | [], progress => progress
  | candidate :: remaining, progress =>
    match progress.world.host.module candidate.target with
    | none =>
      startLoop refuses options remaining
        { progress with reports := progress.reports ++ [candidate.report] }
    | some target =>
      let one := startOne refuses progress.world candidate target
      let events := progress.events ++ one.2.2
      if one.1.started then
        startLoop refuses options remaining
          { world := one.2.1
            reports := progress.reports ++
              [{ one.1 with diagnostics := one.2.1.diagnosticsOf candidate.target }]
            startedModules := progress.startedModules ++ [candidate.target]
            events := events }
      else if ¬ options.allowPartialStart then
        failBatch { progress with world := one.2.1, events := events } candidate.target one.1
          remaining
      else
        startLoop refuses options remaining
          { world := one.2.1
            reports := progress.reports ++
              [{ one.1 with diagnostics := one.2.1.diagnosticsOf candidate.target }]
            startedModules := progress.startedModules
            events := events }

/-- `startAllowedModules(options)`. -/
def startAllowedModules (refuses : ModuleRouter H → RouteMatch → Bool)
    (channels : Option ChannelRegistry) (world : HostWorld M H) (options : ModuleStartOptions) :
    StartProgress M H :=
  let candidates := world.host.candidates channels options
  if candidates.2 ∧ ¬ options.allowPartialStart then
    { world := world, reports := candidates.1.map (markSkippedByBatch world) }
  else startLoop refuses options candidates.1 { world := world }

end Module
end FusionDesk
