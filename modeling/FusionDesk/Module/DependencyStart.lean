import FusionDesk.General.Precedence
import FusionDesk.Module.BatchStart

/-!
# What a batch start does about required modules

`startAllowedModules` asks of a required module only that it is hosted.  It calls the modules in the
order they were added, and it does not look at whether a required module was started.

* `RoundRan`, `startOne_ran`: one round of the loop, whatever the module was before it.
* `LoopRan`: what the loop has done, with or without partial start. The reports are those of the
  candidates so far, and the started modules are some of them, in order.
* `startAllowedModules_ran`: the same of a whole batch, and without partial start a report that says
  started has only such reports beside it.
* `startAllowedModules_dependencies`: what is left of a module's requirements once it is started.
-/

namespace FusionDesk
namespace Module

open Protocol Network Session Precedence

variable {M H : Type} [IModule M]

/-! ## The order of the host -/

/-- A round changes the modules, and never which there are. -/
theorem order_startOne (refuses : ModuleRouter H → RouteMatch → Bool) (world : HostWorld M H)
    (candidate : ModuleStartCandidate) (target : M) :
    (startOne refuses world candidate target).2.1.host.moduleOrder = world.host.moduleOrder := by
  have hcall : (callStart world candidate target).2.1.host.moduleOrder =
      world.host.moduleOrder := by
    unfold callStart
    split_ifs
    · exact HostWorld.order_update ..
    · rfl
  have hregister : ∀ (report : ModuleStartReport) (w : HostWorld M H),
      (registerStarted refuses candidate.target (IModule.manifest target) report
        w).2.1.host.moduleOrder = w.host.moduleOrder := by
    intro report w
    unfold registerStarted
    split_ifs with hconsumes
    · dsimp only
      split_ifs
      · exact HostWorld.order_update ..
      · rfl
    · rfl
  exact (hregister _ _).trans hcall

/-! ## One round -/

/-- What a round can come to, for a module in any state. -/
inductive RoundRan (candidate : ModuleStartCandidate) : ModuleStartReport → List HostEvent → Prop
  /-- Its start was not called, or returned false. -/
  | notStarted {report : ModuleStartReport} {events : List HostEvent}
      (named : report.moduleId = candidate.report.moduleId) (open_ : report.started = false)
      (none : startedIn events = []) : RoundRan candidate report events
  /-- Its start was allowed and returned true, and the registration may have failed after it. -/
  | started {report : ModuleStartReport} {events : List HostEvent}
      (named : report.moduleId = candidate.report.moduleId)
      (allowed : candidate.report.decision.allowed = true)
      (one : startedIn events = [candidate.target]) : RoundRan candidate report events

theorem startOne_ran {refuses : ModuleRouter H → RouteMatch → Bool} {world : HostWorld M H}
    {candidate : ModuleStartCandidate} (hopen : candidate.report.started = false) (target : M) :
    RoundRan candidate (startOne refuses world candidate target).1
      (startOne refuses world candidate target).2.2 := by
  dsimp only [startOne, callStart]
  by_cases hallowed : candidate.report.decision.allowed = true
  · rw [if_pos hallowed]
    cases hstart : (IModule.start target candidate.options).1 with
    | false =>
      dsimp only
      rw [if_neg Bool.false_ne_true, registerStarted, if_neg (by simp [blockedByHealth])]
      exact .notStarted rfl rfl rfl
    | true =>
      dsimp only
      rw [if_pos rfl, registerStarted]
      split_ifs with hconsumes
      · dsimp only
        split_ifs with htokens
        · exact .started rfl hallowed rfl
        · exact .started rfl hallowed rfl
      · exact .started rfl hallowed rfl
  · rw [if_neg hallowed, registerStarted, if_neg (by simp [hopen])]
    exact .notStarted rfl hopen rfl

/-! ## The loop -/

/-- The loop has dealt with the candidates in `done`. -/
structure LoopRan (done : List ModuleStartCandidate) (reports : List ModuleStartReport)
    (events : List HostEvent) : Prop where
  ids : reports.map (·.moduleId) = done.map (·.target)
  order : (startedIn events).Sublist (done.map (·.target))
  allowed : ∀ id ∈ startedIn events,
    ∃ candidate ∈ done, candidate.target = id ∧ candidate.report.decision.allowed = true
  started : ∀ report ∈ reports, report.started = true → report.moduleId ∈ startedIn events

theorem LoopRan.nil : LoopRan [] [] [] := by
  constructor
  case ids => rfl
  case order => exact List.Sublist.slnil
  case allowed => exact fun id hid => absurd hid List.not_mem_nil
  case started => exact fun report hreport => absurd hreport List.not_mem_nil

/-- **A round adds its candidate.** -/
theorem LoopRan.round {done : List ModuleStartCandidate} {reports : List ModuleStartReport}
    {events tail : List HostEvent} (h : LoopRan done reports events)
    {candidate : ModuleStartCandidate} (hname : candidate.report.moduleId = candidate.target)
    {report : ModuleStartReport} (hround : RoundRan candidate report tail) (diagnostics : String) :
    LoopRan (done ++ [candidate]) (reports ++ [{ report with diagnostics := diagnostics }])
      (events ++ tail) := by
  have hids : ∀ {r : ModuleStartReport}, r.moduleId = candidate.report.moduleId →
      List.map ModuleStartReport.moduleId (reports ++ [{ r with diagnostics := diagnostics }]) =
        List.map ModuleStartCandidate.target (done ++ [candidate]) := by
    intro r hr
    rw [List.map_append, List.map_append, h.ids]
    exact congrArg (_ ++ [·]) (hr.trans hname)
  have hmem : ∀ c ∈ done, c ∈ done ++ [candidate] := fun c hc => List.mem_append_left _ hc
  cases hround with
  | notStarted named open_ none =>
    refine ⟨hids named, ?_, ?_, ?_⟩
    · rw [startedIn_append, none, List.append_nil, List.map_append]
      exact h.order.trans (List.sublist_append_left _ _)
    · rw [startedIn_append, none, List.append_nil]
      intro id hid
      obtain ⟨c, hc, hctarget, hcallowed⟩ := h.allowed id hid
      exact ⟨c, hmem c hc, hctarget, hcallowed⟩
    · rw [startedIn_append, none, List.append_nil]
      intro r hr hstarted
      rcases List.mem_append.mp hr with hr | hr
      · exact h.started r hr hstarted
      · rw [List.mem_singleton.mp hr, open_] at hstarted
        cases hstarted
  | started named allowed one =>
    refine ⟨hids named, ?_, ?_, ?_⟩
    · rw [startedIn_append, one, List.map_append]
      exact h.order.append (List.Sublist.refl _)
    · rw [startedIn_append, one]
      intro id hid
      rcases List.mem_append.mp hid with hid | hid
      · obtain ⟨c, hc, hctarget, hcallowed⟩ := h.allowed id hid
        exact ⟨c, hmem c hc, hctarget, hcallowed⟩
      · exact ⟨candidate, List.mem_append_right _ (List.mem_singleton_self _),
          (List.mem_singleton.mp hid).symm, allowed⟩
    · rw [startedIn_append, one]
      intro r hr hstarted
      rcases List.mem_append.mp hr with hr | hr
      · exact List.mem_append_left _ (h.started r hr hstarted)
      · rw [List.mem_singleton.mp hr]
        exact List.mem_append_right _ (List.mem_singleton.mpr (named.trans hname))

/-- No report of a batch that fails says started, and its stops start nothing. -/
theorem LoopRan.failBatch {done : List ModuleStartCandidate} {progress : StartProgress M H}
    {candidate : ModuleStartCandidate} {report : ModuleStartReport} {diagnostics : String}
    (h : LoopRan (done ++ [candidate])
      (progress.reports ++ [{ report with diagnostics := diagnostics }]) progress.events)
    (hreport : report.started = false) {remaining : List ModuleStartCandidate}
    (hremaining : ∀ later ∈ remaining,
      later.report.moduleId = later.target ∧ later.report.started = false) :
    let result := Module.failBatch progress candidate.target report remaining
    LoopRan (done ++ candidate :: remaining) result.reports result.events ∧
      ∀ after ∈ result.reports, after.started = false := by
  intro result
  obtain ⟨-, -, -, hstops⟩ := rollBack_spec progress.world progress.startedModules
  have hstarted : startedIn result.events = startedIn progress.events := by
    show startedIn (progress.events ++ (rollBack progress.world progress.startedModules).2) = _
    rw [hstops, startedIn_append, startedIn_rollBack, List.append_nil]
  have hnone : ∀ after ∈ result.reports, after.started = false := by
    intro after hafter
    rcases List.mem_append.mp hafter with hprevious | hrest
    · obtain ⟨previous, -, rfl⟩ := List.mem_map.mp hprevious
      split_ifs with hwas
      · rfl
      · simpa using hwas
    · rcases List.mem_cons.mp hrest with rfl | hskipped
      · exact hreport
      · obtain ⟨later, hlater, rfl⟩ := List.mem_map.mp hskipped
        exact (hremaining later hlater).2
  refine ⟨⟨?_, ?_, ?_, fun after hafter hsome => ?_⟩, hnone⟩
  · have hids := h.ids
    rw [List.map_append, List.map_append] at hids
    obtain ⟨hprevious, hlast⟩ := List.append_inj' hids rfl
    show List.map _ (_ ++ _ :: _) = _
    rw [List.map_append, List.map_map, List.map_cons, List.map_map, List.map_append,
      List.map_cons, ← hprevious]
    refine congrArg₂ _ (List.map_congr_left fun previous _ => ?_)
      (congrArg₂ _ (List.cons.inj hlast).1 ?_)
    · show (if _ then _ else _ : ModuleStartReport).moduleId = _
      split_ifs
      · rfl
      · rfl
    · exact List.map_congr_left fun later hlater => (hremaining later hlater).1
  · rw [hstarted]
    refine h.order.trans ?_
    rw [List.map_append, List.map_append]
    exact (List.Sublist.refl _).append (by simp)
  · rw [hstarted]
    intro id hid
    obtain ⟨c, hc, hspec⟩ := h.allowed id hid
    refine ⟨c, ?_, hspec⟩
    rcases List.mem_append.mp hc with hc | hc
    · exact List.mem_append_left _ hc
    · rw [List.mem_singleton.mp hc]
      exact List.mem_append_right _ List.mem_cons_self
  · rw [hnone after hafter] at hsome
    cases hsome

/-- **The loop deals with every candidate**, with or without partial start.  Without it, the
reports all say started or none does. -/
theorem startLoop_ran {refuses : ModuleRouter H → RouteMatch → Bool} {options : ModuleStartOptions}
    {order : List String} (remaining : List ModuleStartCandidate) :
    ∀ {done : List ModuleStartCandidate} {progress : StartProgress M H},
      LoopRan done progress.reports progress.events →
      progress.world.host.moduleOrder = order →
      (∀ candidate ∈ remaining, candidate.target ∈ order) →
      (∀ candidate ∈ remaining,
        candidate.report.moduleId = candidate.target ∧ candidate.report.started = false) →
      (options.allowPartialStart = false → ∀ report ∈ progress.reports, report.started = true) →
      let result := startLoop refuses options remaining progress
      LoopRan (done ++ remaining) result.reports result.events ∧
        (options.allowPartialStart = false →
          (∀ report ∈ result.reports, report.started = true) ∨
            ∀ report ∈ result.reports, report.started = false) := by
  induction remaining with
  | nil =>
    intro done progress h _ _ _ hall
    rw [startLoop, List.append_nil]
    exact ⟨h, fun hwhole => Or.inl (hall hwhole)⟩
  | cons candidate remaining ih =>
    intro done progress h horder htargets hopen hall
    have hmem : candidate.target ∈ progress.world.host.moduleOrder := by
      rw [horder]
      exact htargets candidate List.mem_cons_self
    obtain ⟨target, hfind⟩ := (progress.world.host.mem_moduleOrder_iff _).mp hmem
    obtain ⟨hname, hclosed⟩ := hopen candidate List.mem_cons_self
    have hround := @startOne_ran M H _ refuses progress.world candidate hclosed target
    have horder' := (order_startOne refuses progress.world candidate target).trans horder
    have htargets' := fun later hlater => htargets later (List.mem_cons_of_mem candidate hlater)
    have hopen' := fun later hlater => hopen later (List.mem_cons_of_mem candidate hlater)
    have hsplit : done ++ candidate :: remaining = done ++ [candidate] ++ remaining := by simp
    rw [startLoop, hfind]
    dsimp only
    generalize startOne refuses progress.world candidate target = one at hround horder' ⊢
    split_ifs with hstarted hpartial
    · rw [hsplit]
      refine ih (h.round hname hround _) horder' htargets' hopen' fun hwhole report hreport => ?_
      rcases List.mem_append.mp hreport with hreport | hreport
      · exact hall hwhole report hreport
      · rw [List.mem_singleton.mp hreport]
        exact hstarted
    · rw [hsplit]
      refine ih (h.round hname hround _) horder' htargets' hopen' fun hwhole => ?_
      rw [hwhole] at hpartial
      cases hpartial
    · have hfailed : one.1.started = false := by simpa using hstarted
      obtain ⟨hran, hnone⟩ := @LoopRan.failBatch M H _ done
        { progress with world := one.2.1, events := progress.events ++ one.2.2 } candidate one.1 ""
        (h.round hname hround "") hfailed remaining hopen'
      exact ⟨hran, fun _ => Or.inr hnone⟩

/-- **What a batch start reports and starts**, with or without partial start: one report for each
hosted module, in order; the modules started, in order, each allowed by the checks; and without
partial start all reports say started or none. -/
theorem startAllowedModules_ran (refuses : ModuleRouter H → RouteMatch → Bool)
    (channels : Option ChannelRegistry) (world : HostWorld M H) (options : ModuleStartOptions) :
    let result := startAllowedModules refuses channels world options
    LoopRan (world.host.candidates channels options).1 result.reports result.events ∧
      (options.allowPartialStart = false →
        (∀ report ∈ result.reports, report.started = true) ∨
          ∀ report ∈ result.reports, report.started = false) := by
  obtain ⟨horder, hopen, -⟩ := candidates_spec world.host channels options
  intro result
  by_cases hskip : (world.host.candidates channels options).2 = true ∧
      ¬ options.allowPartialStart = true
  · have hresult : result =
        { world := world
          reports := (world.host.candidates channels options).1.map
            (markSkippedByBatch world) } := by
      show startAllowedModules _ _ _ _ = _
      rw [startAllowedModules, if_pos hskip]
    have hnone : ∀ report ∈ (world.host.candidates channels options).1.map
        (markSkippedByBatch world), report.started = false := by
      intro report hreport
      obtain ⟨candidate, hcandidate, rfl⟩ := List.mem_map.mp hreport
      exact (hopen candidate hcandidate).2
    rw [hresult]
    refine ⟨⟨?_, List.nil_sublist _, fun id hid => absurd hid List.not_mem_nil,
      fun report hreport hstarted => ?_⟩, fun _ => Or.inr hnone⟩
    · rw [List.map_map]
      exact List.map_congr_left fun candidate hmem => (hopen candidate hmem).1
    · rw [hnone report hreport] at hstarted
      cases hstarted
  · have hresult : result =
        startLoop refuses options (world.host.candidates channels options).1
          { world := world } := by
      show startAllowedModules _ _ _ _ = _
      rw [startAllowedModules, if_neg hskip]
    rw [hresult]
    refine @startLoop_ran M H _ refuses options _ _ [] _ .nil rfl (fun candidate hmem => ?_) hopen
      fun _ report hreport => absurd hreport List.not_mem_nil
    rw [← horder]
    exact List.mem_map_of_mem hmem

/-! ## Required modules -/

/-- The candidate of a module that was allowed passed the check of its required modules, and the
decision on it is the host's. -/
theorem preflight_allowed {host : ModuleHost M H} {channels : Option ChannelRegistry}
    {options : ModuleStartOptions} {id : String} {target : M}
    (hallowed : (host.preflight channels options id target).report.decision.allowed = true) :
    (∀ required ∈ (IModule.manifest target).requiredModules,
        ∃ dependency, host.module required = some dependency) ∧
      (host.decide (IModule.manifest target)).allowed = true := by
  dsimp only [ModuleHost.preflight] at hallowed
  split_ifs at hallowed with hmissing hchannel hpeer
  · cases hallowed
  · cases hallowed
  · cases hallowed
  · refine ⟨fun required hrequired => ?_, hallowed⟩
    rw [List.any_eq_true, not_exists] at hmissing
    have hsome := hmissing required
    cases hfind : host.module required with
    | none => exact absurd ⟨hrequired, by rw [hfind, Option.isNone_none]⟩ hsome
    | some dependency => exact ⟨dependency, rfl⟩

/-- A module the batch started is hosted, and the checks allowed it. -/
theorem started_allowed (refuses : ModuleRouter H → RouteMatch → Bool)
    (channels : Option ChannelRegistry) (world : HostWorld M H) (options : ModuleStartOptions)
    {id : String} (hid : id ∈ startedIn (startAllowedModules refuses channels world options).events) :
    ∃ m, world.host.module id = some m ∧
      (∀ required ∈ (IModule.manifest m).requiredModules,
        ∃ dependency, world.host.module required = some dependency) ∧
      (world.host.decide (IModule.manifest m)).allowed = true := by
  obtain ⟨hran, -⟩ := startAllowedModules_ran refuses channels world options
  obtain ⟨candidate, hmem, htarget, hallowed⟩ := hran.allowed id hid
  rw [ModuleHost.candidates, foldl_candidates, List.nil_append] at hmem
  obtain ⟨n, -, hsome⟩ := List.mem_filterMap.mp hmem
  obtain ⟨m, hfind, rfl⟩ := Option.map_eq_some_iff.mp hsome
  rw [(preflight_spec hfind channels options).1] at htarget
  subst htarget
  exact ⟨m, hfind, preflight_allowed hallowed⟩

/-- The first module was started before the second. -/
def StartedBefore (events : List HostEvent) (first second : String) : Prop :=
  Precedes (startedIn events) first second

/-- The first module was added before the second. -/
def AddedBefore (world : HostWorld M H) (first second : String) : Prop :=
  Precedes world.host.moduleOrder first second

/-- A batch reports the module as started. -/
def ReportsStarted (result : StartProgress M H) (id : String) : Prop :=
  ∃ report ∈ result.reports, report.moduleId = id ∧ report.started = true

instance (events : List HostEvent) (first second : String) :
    Decidable (StartedBefore events first second) :=
  inferInstanceAs (Decidable (Precedes _ _ _))

instance (result : StartProgress M H) (id : String) : Decidable (ReportsStarted result id) :=
  inferInstanceAs (Decidable (∃ report ∈ result.reports, _))

/-- **What is left of the requirements of a module that is started.**  Every module it requires is
hosted.  Without partial start it was also reported started by the same call.  Of two modules that
are reported started, one was started before the other exactly when it was added before it. -/
theorem startAllowedModules_dependencies (refuses : ModuleRouter H → RouteMatch → Bool)
    (channels : Option ChannelRegistry) (world : HostWorld M H) (options : ModuleStartOptions)
    (id : String)
    (hstarted : ReportsStarted (startAllowedModules refuses channels world options) id) :
    let result := startAllowedModules refuses channels world options
    ∃ m, world.host.module id = some m ∧
      ∀ required ∈ (IModule.manifest m).requiredModules,
        (∃ dependency, world.host.module required = some dependency) ∧
        (options.allowPartialStart = false → ReportsStarted result required) ∧
        (ReportsStarted result required →
          (StartedBefore result.events required id ↔ AddedBefore world required id)) := by
  intro result
  obtain ⟨hran, hwhole⟩ := startAllowedModules_ran refuses channels world options
  obtain ⟨horder, -, -⟩ := candidates_spec world.host channels options
  have hsub : (startedIn result.events).Sublist world.host.moduleOrder := by
    rw [← horder]
    exact hran.order
  have hmem : ∀ n, ReportsStarted result n → n ∈ startedIn result.events := by
    rintro n ⟨report, hreport, rfl, hstart⟩
    exact hran.started report hreport hstart
  obtain ⟨m, hfind, hrequired, -⟩ := started_allowed refuses channels world options (hmem id hstarted)
  refine ⟨m, hfind, fun required hreq => ⟨hrequired required hreq, fun hno => ?_, fun hboth => ?_⟩⟩
  · obtain ⟨report, hreport, -, hstart⟩ := hstarted
    have hall : ∀ report ∈ result.reports, report.started = true := by
      refine (hwhole hno).resolve_right fun hnone => ?_
      rw [hnone report hreport] at hstart
      cases hstart
    have hlisted : required ∈ result.reports.map (·.moduleId) := by
      rw [hran.ids, horder, world.host.mem_moduleOrder_iff]
      exact hrequired required hreq
    obtain ⟨other, hother, hname⟩ := List.mem_map.mp hlisted
    exact ⟨other, hother, hname, hall other hother⟩
  · exact precedes_iff_of_sublist hsub world.host.nodup (hmem required hboth) (hmem id hstarted)

/-! ## A dependent module before what it requires -/

/-- `catalog::peripheralUsb()`. -/
def peripheralUsb : ModuleManifest where
  moduleId := "peripheral.usb"
  feature := 0x0000000100000000
  roleFlags := moduleRoleClient ||| moduleRoleBridge
  supportedPlatforms := ["windows", "linux", "macos"]
  requiredModules := ["peripheral.bridge"]

/-- A manifest under the id `peripheralUsb` requires. -/
def peripheralBridge : ModuleManifest :=
  { peripheralUsb with moduleId := "peripheral.bridge", requiredModules := [] }

/-- A new host with feature modules for the manifests. -/
def hostOf (policyEngine : Option IPolicyEngine) (manifests : List ModuleManifest) :
    HostWorld FeatureModule Unit :=
  manifests.foldl (fun world manifest => (world.addModule (some { manifest := manifest })).2)
    (HostWorld.make { role := .client, localPlatform := "linux" } policyEngine ())

/-- The usb module on a host where the bridge was added before it. -/
theorem startAllowedModules_dependencies_usb :
    let world := hostOf none [peripheralBridge, peripheralUsb]
    let result := startAllowedModules refusesNothing none world {}
    ∃ m, world.host.module "peripheral.usb" = some m ∧
      ∀ required ∈ (IModule.manifest m).requiredModules,
        (∃ dependency, world.host.module required = some dependency) ∧
        (false = false → ReportsStarted result required) ∧
        (ReportsStarted result required →
          (StartedBefore result.events required "peripheral.usb" ↔
            AddedBefore world required "peripheral.usb")) :=
  startAllowedModules_dependencies refusesNothing none _ {} "peripheral.usb"
    (by decide +kernel)

/-- Whatever module is reported started, what it requires is hosted, and was running before the call
or was reported started too, and started before it. -/
def RequirementsMet (world : HostWorld M H) (result : StartProgress M H) : Prop :=
  ∀ id, ReportsStarted result id → ∀ m, world.host.module id = some m →
    ∀ required ∈ (IModule.manifest m).requiredModules,
      ∃ dependency, world.host.module required = some dependency ∧
        (IModule.state dependency = .running ∨
          ReportsStarted result required ∧ StartedBefore result.events required id)

/-- A policy engine that denies the bridge. -/
def deniesBridge : IPolicyEngine where
  authorizeModule _ manifest := { allowed := manifest.moduleId ≠ "peripheral.bridge" }

/-- What requirements that are met say of the usb module, when the bridge is not running before. -/
theorem RequirementsMet.usb {world : HostWorld FeatureModule Unit}
    {result : StartProgress FeatureModule Unit} (h : RequirementsMet world result)
    (hmanifest : (world.host.module "peripheral.usb").map (·.manifest) = some peripheralUsb)
    (hidle : (world.host.module "peripheral.bridge").all (·.state ≠ .running) = true)
    (hstarted : ReportsStarted result "peripheral.usb") :
    ReportsStarted result "peripheral.bridge" ∧
      StartedBefore result.events "peripheral.bridge" "peripheral.usb" := by
  obtain ⟨m, hfind, hm⟩ := Option.map_eq_some_iff.mp hmanifest
  have hrequired : "peripheral.bridge" ∈ (IModule.manifest m).requiredModules := by
    show _ ∈ m.manifest.requiredModules
    rw [hm]
    exact List.mem_singleton_self _
  obtain ⟨dependency, hdependency, hmet⟩ := h _ hstarted m hfind _ hrequired
  refine hmet.resolve_left fun hrunning => ?_
  rw [hdependency, Option.all_some, decide_eq_true_iff] at hidle
  exact hidle hrunning

/-- **Requirements are not met in every batch.**  The usb module added before the bridge is started
before it, and with partial start it is started next to a bridge that is denied. -/
theorem not_requirementsMet :
    (¬ RequirementsMet (hostOf none [peripheralUsb, peripheralBridge])
      (startAllowedModules refusesNothing none (hostOf none [peripheralUsb, peripheralBridge]) {})) ∧
    ¬ RequirementsMet (hostOf (some deniesBridge) [peripheralBridge, peripheralUsb])
      (startAllowedModules refusesNothing none
        (hostOf (some deniesBridge) [peripheralBridge, peripheralUsb])
        { allowPartialStart := true }) := by
  constructor
  · intro h
    have hmet := h.usb (by decide +kernel) (by decide +kernel) (by decide +kernel)
    exact absurd hmet.2 (by decide +kernel)
  · intro h
    have hmet := h.usb (by decide +kernel) (by decide +kernel) (by decide +kernel)
    exact absurd hmet.1 (by decide +kernel)

end Module
end FusionDesk
