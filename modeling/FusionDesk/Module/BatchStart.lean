import FusionDesk.Module.FeatureModule

/-!
# A batch start is all or nothing

`startAllowedModules` without partial start: the checks of all modules come first, and one that
fails ends the batch before any module is started.  After them the modules are started in the order
they were added.  If a start or an ingress registration fails, the modules the batch started before
are taken back in reverse, each one's subscriptions before the module itself.

* `TouchesOnly`: a call leaves the modules and subscriptions of all but some modules as they were.
* `Begun`: the invariant of the loop. What has been done so far is that every module before this one
  was started.
* `Quiet`: a module is not running and has no subscription. `rollBack_spec` makes it so for all the
  modules started.
* `startAllowedModules_all_or_nothing`: the two ways the batch can end.

The rollback undoes what the batch did and no more.  A module that left the running state by itself
keeps its subscriptions, and a batch that fails before it starts this module leaves them;
`startAllowedModules_stale` is such a run, on a feature module that is started twice.
-/

namespace FusionDesk
namespace Module

open Protocol Network Session

variable {M H : Type} [IModule M]

/-! ## What a call leaves alone -/

namespace HostWorld

/-- Nothing changed but the modules in `ids` and their subscriptions. -/
structure TouchesOnly (ids : List String) (before after : HostWorld M H) : Prop where
  order : after.host.moduleOrder = before.host.moduleOrder
  module : ∀ n, n ∉ ids → after.host.module n = before.host.module n
  held : ∀ n, n ∉ ids → after.heldFor n = before.heldFor n

theorem TouchesOnly.refl (ids : List String) (world : HostWorld M H) :
    TouchesOnly ids world world :=
  ⟨rfl, fun _ _ => rfl, fun _ _ => rfl⟩

theorem TouchesOnly.trans {ids ids' : List String} {first second third : HostWorld M H}
    (h : TouchesOnly ids first second) (h' : TouchesOnly ids' second third) :
    TouchesOnly (ids ++ ids') first third := by
  refine ⟨h'.order.trans h.order, fun n hn => ?_, fun n hn => ?_⟩
  · rw [List.mem_append, not_or] at hn
    exact (h'.module n hn.2).trans (h.module n hn.1)
  · rw [List.mem_append, not_or] at hn
    exact (h'.held n hn.2).trans (h.held n hn.1)

theorem TouchesOnly.mono {ids ids' : List String} {before after : HostWorld M H}
    (h : TouchesOnly ids before after) (hsub : ∀ n ∈ ids, n ∈ ids') :
    TouchesOnly ids' before after :=
  ⟨h.order, fun n hn => h.module n fun hmem => hn (hsub n hmem),
    fun n hn => h.held n fun hmem => hn (hsub n hmem)⟩

theorem touchesOnly_update (world : HostWorld M H) (id : String) (f : M → M)
    (hf : ∀ m, IModule.manifest (f m) = IModule.manifest m) :
    TouchesOnly [id] world (world.update id f hf) := by
  refine ⟨order_update world id f hf, fun n hn => ?_, fun n _ => rfl⟩
  rw [module_update, if_neg]
  rintro rfl
  exact hn List.mem_cons_self

theorem heldFor_unregisterModule (world : HostWorld M H) (id n : String) :
    (world.unregisterModule id).heldFor n = if id = n then [] else world.heldFor n :=
  ModuleIngressRegistry.heldIn_unregisterModule world.agree id n

theorem touchesOnly_unregisterModule (world : HostWorld M H) (id : String) :
    TouchesOnly [id] world (world.unregisterModule id) := by
  refine ⟨rfl, fun n _ => rfl, fun n hn => ?_⟩
  rw [heldFor_unregisterModule, if_neg]
  rintro rfl
  exact hn List.mem_cons_self

theorem touchesOnly_registerManifest {refuses : ModuleRouter H → RouteMatch → Bool}
    (world : HostWorld M H) {manifest : ModuleManifest} (hid : manifest.moduleId ≠ "") :
    TouchesOnly [manifest.moduleId] world (world.registerManifest refuses manifest).2 := by
  refine ⟨rfl, fun n _ => rfl, fun n hn => ?_⟩
  refine (ModuleIngressRegistry.heldIn_registerManifest world.agree hid _).2 n ?_
  rintro rfl
  exact hn List.mem_cons_self

/-- The tokens a registration returns are those of the module's subscriptions after it. -/
theorem tokens_registerManifest {refuses : ModuleRouter H → RouteMatch → Bool}
    (world : HostWorld M H) {manifest : ModuleManifest} (hid : manifest.moduleId ≠ "") :
    (world.registerManifest refuses manifest).1.tokens =
      ((world.registerManifest refuses manifest).2.heldFor manifest.moduleId).map Prod.fst :=
  (ModuleIngressRegistry.heldIn_registerManifest world.agree hid _).1

theorem touchesOnly_stop (world : HostWorld M H) (id : String) (options : ModuleStopOptions) :
    TouchesOnly [id] world (world.stop id options).1 :=
  touchesOnly_update world id _ _

/-! ## Quiet modules -/

/-- The module is not running. -/
def Idle (world : HostWorld M H) (id : String) : Prop :=
  ∀ m, world.host.module id = some m → IModule.state m ≠ .running

/-- The module is not running, and the router holds no subscription for it. -/
def Quiet (world : HostWorld M H) (id : String) : Prop :=
  world.Idle id ∧ world.heldFor id = []

theorem Idle.of_module_eq {before after : HostWorld M H} {id : String} (h : before.Idle id)
    (hmodule : after.host.module id = before.host.module id) : after.Idle id := by
  intro m hm
  rw [hmodule] at hm
  exact h m hm

/-- A module that was stopped is not running. -/
theorem idle_stop (world : HostWorld M H) (id : String) (options : ModuleStopOptions) :
    (world.stop id options).1.Idle id := by
  intro m hm
  have hupdate := module_update world id (fun m => IModule.stop m options)
    (fun m => IModule.manifest_stop m options) id
  rw [if_pos rfl] at hupdate
  obtain ⟨before, -, rfl⟩ := Option.map_eq_some_iff.mp (hupdate.symm.trans hm)
  exact IModule.state_stop before options

/-- What a call does not touch stays quiet. -/
theorem Quiet.of_touchesOnly {ids : List String} {before after : HostWorld M H} {id : String}
    (h : before.Quiet id) (htouch : TouchesOnly ids before after) (hid : id ∉ ids) :
    after.Quiet id :=
  ⟨h.1.of_module_eq (htouch.module id hid), (htouch.held id hid).trans h.2⟩

end HostWorld

open HostWorld

/-! ## The rollback -/

/-- One round makes its module quiet, keeps the others so, and touches no other module. -/
theorem rollBackOne_spec (acc : HostWorld M H × List HostEvent) (id : String) :
    TouchesOnly [id] acc.1 (rollBackOne acc id).1 ∧ (rollBackOne acc id).1.Quiet id ∧
      (∀ n, acc.1.Quiet n → (rollBackOne acc id).1.Quiet n) ∧
      (rollBackOne acc id).2 = acc.2 ++ [.stop id rollBackOptions []] := by
  have htouch : TouchesOnly [id] acc.1 (rollBackOne acc id).1 := by
    refine ((touchesOnly_unregisterModule acc.1 id).trans
      (touchesOnly_stop _ id rollBackOptions)).mono fun n hn => ?_
    rwa [List.mem_append, or_self] at hn
  have hnone : (acc.1.unregisterModule id).heldFor id = [] := by
    rw [heldFor_unregisterModule, if_pos rfl]
  have hself : (rollBackOne acc id).1.Quiet id := ⟨idle_stop _ _ _, hnone⟩
  refine ⟨htouch, hself, fun n hn => ?_, ?_⟩
  · by_cases hsame : n = id
    · rw [hsame]
      exact hself
    · exact hn.of_touchesOnly htouch fun hmem => hsame (List.mem_singleton.mp hmem)
  · show acc.2 ++ [HostEvent.stop id rollBackOptions _] = _
    rw [hnone, List.map_nil]

theorem foldl_rollBackOne (ids : List String) : ∀ acc : HostWorld M H × List HostEvent,
    TouchesOnly ids acc.1 (ids.foldl rollBackOne acc).1 ∧
      (∀ n, acc.1.Quiet n → (ids.foldl rollBackOne acc).1.Quiet n) ∧
      (∀ id ∈ ids, (ids.foldl rollBackOne acc).1.Quiet id) ∧
      (ids.foldl rollBackOne acc).2 = acc.2 ++ ids.map fun id => .stop id rollBackOptions [] := by
  induction ids with
  | nil =>
    intro acc
    refine ⟨.refl _ _, fun _ h => h, fun id hid => ?_, (List.append_nil _).symm⟩
    cases hid
  | cons id ids ih =>
    intro acc
    obtain ⟨htouch, hself, hkeep, hevents⟩ := rollBackOne_spec acc id
    obtain ⟨htouch', hkeep', hquiet', hevents'⟩ := ih (rollBackOne acc id)
    refine ⟨htouch.trans htouch', fun n hn => hkeep' n (hkeep n hn), fun n hn => ?_, ?_⟩
    · rcases List.mem_cons.mp hn with rfl | hn
      · exact hkeep' _ hself
      · exact hquiet' n hn
    · refine hevents'.trans ?_
      rw [hevents, List.append_assoc]
      rfl

/-- **The rollback makes every started module quiet**, in reverse, its subscriptions first. -/
theorem rollBack_spec (world : HostWorld M H) (started : List String) :
    TouchesOnly started world (rollBack world started).1 ∧
      (∀ n, world.Quiet n → (rollBack world started).1.Quiet n) ∧
      (∀ id ∈ started, (rollBack world started).1.Quiet id) ∧
      (rollBack world started).2 =
        started.reverse.map fun id => .stop id rollBackOptions [] := by
  obtain ⟨htouch, hkeep, hquiet, hevents⟩ := foldl_rollBackOne started.reverse (world, [])
  refine ⟨htouch.mono fun n hn => List.mem_reverse.mp hn, hkeep, fun id hid => ?_, hevents⟩
  exact hquiet id (List.mem_reverse.mpr hid)

/-! ## One round -/

/-- What a round can come to, for a module that is not running and is allowed to start. -/
inductive Round (world : HostWorld M H) (id : String) :
    ModuleStartReport × HostWorld M H × List HostEvent → Prop
  /-- The module is started, and registered if it consumes anything. -/
  | started {report : ModuleStartReport} {after : HostWorld M H}
      (touches : TouchesOnly [id] world after)
      (ok : report.started = true ∧ report.decision.allowed = true) :
      Round world id (report, after, [.start id true])
  /-- The module did not start. -/
  | refused {report : ModuleStartReport} {after : HostWorld M H}
      (touches : TouchesOnly [id] world after) (idle : after.Idle id)
      (held : after.heldFor id = world.heldFor id)
      (failed : report.started = false ∧ report.decision.allowed = false) :
      Round world id (report, after, [.start id false])
  /-- The module was started, could not be registered, and was stopped. -/
  | unregistered {report : ModuleStartReport} {after : HostWorld M H}
      (touches : TouchesOnly [id] world after) (quiet : after.Quiet id)
      (failed : report.started = false ∧ report.decision.allowed = false) :
      Round world id (report, after, [.start id true, .stop id {} []])

/-- What the start of a module that is not running and is allowed to start can come to. -/
theorem callStart_cases {world : HostWorld M H} {candidate : ModuleStartCandidate} {target : M}
    (hfind : world.host.module candidate.target = some target)
    (hallowed : candidate.report.decision.allowed = true)
    (hidle : IModule.state target ≠ .running) :
    TouchesOnly [candidate.target] world (callStart world candidate target).2.1 ∧
      (callStart world candidate target).2.1.heldFor candidate.target =
        world.heldFor candidate.target ∧
      (((callStart world candidate target).1 = { candidate.report with started := true } ∧
          (callStart world candidate target).2.2 = [.start candidate.target true]) ∨
        ((callStart world candidate target).1 =
            blockedByHealth candidate.report "module start failed" ∧
          (callStart world candidate target).2.2 = [.start candidate.target false] ∧
          (callStart world candidate target).2.1.Idle candidate.target)) := by
  rw [callStart, if_pos hallowed]
  refine ⟨touchesOnly_update _ _ _ _, rfl, ?_⟩
  cases hstart : (IModule.start target candidate.options).1 with
  | true => exact Or.inl ⟨rfl, rfl⟩
  | false =>
    refine Or.inr ⟨rfl, rfl, fun m hm => ?_⟩
    have hupdate := module_update world candidate.target
      (fun m => (IModule.start m candidate.options).2)
      (fun m => IModule.manifest_start m candidate.options) candidate.target
    rw [if_pos rfl, hfind] at hupdate
    obtain rfl := Option.some.inj (hupdate.symm.trans hm)
    exact IModule.start_false target candidate.options hidle hstart

/-- What the registration of a started module can come to. -/
theorem registerStarted_cases {refuses : ModuleRouter H → RouteMatch → Bool}
    {manifest : ModuleManifest} (hid : manifest.moduleId ≠ "") {report : ModuleStartReport}
    (hstarted : report.started = true) (world : HostWorld M H) :
    let registered := registerStarted refuses manifest.moduleId manifest report world
    TouchesOnly [manifest.moduleId] world registered.2.1 ∧
      ((registered.1 = report ∧ registered.2.2 = []) ∨
        (registered.1 = blockedByHealth report "module ingress registration failed" ∧
          registered.2.2 = [.stop manifest.moduleId {} []] ∧
          registered.2.1.Quiet manifest.moduleId)) := by
  intro registered
  by_cases hconsumes : hasConsumedPackets manifest = true
  · have htouch := @touchesOnly_registerManifest M H _ refuses world manifest hid
    by_cases htokens : (world.registerManifest refuses manifest).1.tokens.isEmpty = true
    · have heq : registered = (blockedByHealth report "module ingress registration failed",
          ((world.registerManifest refuses manifest).2.stop manifest.moduleId {}).1,
          [((world.registerManifest refuses manifest).2.stop manifest.moduleId {}).2]) := by
        show registerStarted _ _ _ _ _ = _
        rw [registerStarted, hstarted, hconsumes, Bool.and_self, if_pos rfl, if_pos htokens]
      have hnone : (world.registerManifest refuses manifest).2.heldFor manifest.moduleId = [] := by
        rw [List.isEmpty_iff, tokens_registerManifest world hid, List.map_eq_nil_iff] at htokens
        exact htokens
      rw [heq]
      refine ⟨(htouch.trans (touchesOnly_stop _ _ _)).mono fun n hn => ?_, Or.inr ⟨rfl, ?_, ?_⟩⟩
      · rwa [List.mem_append, or_self] at hn
      · show [HostEvent.stop _ _ _] = _
        rw [hnone, List.map_nil]
      · exact ⟨idle_stop _ _ _, hnone⟩
    · have heq : registered = (report, (world.registerManifest refuses manifest).2, []) := by
        show registerStarted _ _ _ _ _ = _
        rw [registerStarted, hstarted, hconsumes, Bool.and_self, if_pos rfl, if_neg htokens]
      rw [heq]
      exact ⟨htouch, Or.inl ⟨rfl, rfl⟩⟩
  · have heq : registered = (report, world, []) := by
      show registerStarted _ _ _ _ _ = _
      rw [registerStarted, if_neg fun h => hconsumes (Bool.and_eq_true_iff.mp h).2]
    rw [heq]
    exact ⟨.refl _ _, Or.inl ⟨rfl, rfl⟩⟩

/-- **A round starts the module or leaves it as if it had not**, but for what it held before. -/
theorem startOne_round {refuses : ModuleRouter H → RouteMatch → Bool} {world : HostWorld M H}
    {candidate : ModuleStartCandidate} {target : M}
    (hfind : world.host.module candidate.target = some target)
    (hallowed : candidate.report.decision.allowed = true)
    (hidle : IModule.state target ≠ .running) :
    Round world candidate.target (startOne refuses world candidate target) ∧
      (startOne refuses world candidate target).1.moduleId = candidate.report.moduleId := by
  have hname : (IModule.manifest target).moduleId = candidate.target :=
    world.host.named _ _ hfind
  have hmem : candidate.target ∈ world.host.moduleOrder :=
    (world.host.mem_moduleOrder_iff _).mpr ⟨target, hfind⟩
  have hid : (IModule.manifest target).moduleId ≠ "" := by
    rw [hname]
    exact world.host.id_ne _ hmem
  obtain ⟨htouch, hheld, hcall⟩ := callStart_cases hfind hallowed hidle
  rcases hcall with ⟨hreport, hevents⟩ | ⟨hreport, hevents, hnot⟩
  · have hstarted : (callStart world candidate target).1.started = true := by rw [hreport]
    have hregister := @registerStarted_cases M H _ refuses (IModule.manifest target) hid
      (callStart world candidate target).1 hstarted (callStart world candidate target).2.1
    rw [hname] at hregister
    obtain ⟨htouch', hcases⟩ := hregister
    have hboth := (htouch.trans htouch').mono fun n hn =>
      (or_self_iff.mp (List.mem_append.mp hn) : n ∈ [candidate.target])
    rcases hcases with ⟨hreport', hevents'⟩ | ⟨hreport', hevents', hquiet⟩
    · have heq : startOne refuses world candidate target =
          ({ candidate.report with started := true }, (startOne refuses world candidate target).2.1,
            [.start candidate.target true]) := by
        refine Prod.ext (hreport'.trans hreport) (Prod.ext rfl ?_)
        show _ ++ _ = _
        rw [hevents, hevents', List.append_nil]
      rw [heq]
      exact ⟨.started hboth ⟨rfl, hallowed⟩, rfl⟩
    · have heq : startOne refuses world candidate target =
          (blockedByHealth { candidate.report with started := true }
            "module ingress registration failed",
            (startOne refuses world candidate target).2.1,
            [.start candidate.target true, .stop candidate.target {} []]) := by
        refine Prod.ext (hreport'.trans (by rw [hreport])) (Prod.ext rfl ?_)
        show _ ++ _ = _
        rw [hevents, hevents']
        rfl
      rw [heq]
      exact ⟨.unregistered hboth hquiet ⟨rfl, rfl⟩, rfl⟩
  · have heq : startOne refuses world candidate target =
        (blockedByHealth candidate.report "module start failed",
          (callStart world candidate target).2.1, [.start candidate.target false]) := by
      have hskip : registerStarted refuses candidate.target (IModule.manifest target)
          (callStart world candidate target).1 (callStart world candidate target).2.1 =
            (blockedByHealth candidate.report "module start failed",
              (callStart world candidate target).2.1, []) := by
        rw [registerStarted, hreport]
        rfl
      show (_, _, _ ++ _) = _
      rw [hskip, hevents]
      rfl
    rw [heq]
    exact ⟨.refused htouch hnot hheld ⟨rfl, rfl⟩, rfl⟩

/-! ## The candidates -/

/-- The candidate of a hosted module. -/
def candidateOf (host : ModuleHost M H) (channels : Option ChannelRegistry)
    (options : ModuleStartOptions) (id : String) : Option ModuleStartCandidate :=
  (host.module id).map (host.preflight channels options id)

/-- The checks fill in a report for the module, and start nothing. -/
theorem preflight_spec {host : ModuleHost M H} {id : String} {target : M}
    (hfind : host.module id = some target) (channels : Option ChannelRegistry)
    (options : ModuleStartOptions) :
    (host.preflight channels options id target).target = id ∧
      (host.preflight channels options id target).report.moduleId = id ∧
      (host.preflight channels options id target).report.started = false := by
  have hname : (IModule.manifest target).moduleId = id := host.named id target hfind
  dsimp only [ModuleHost.preflight]
  split_ifs
  · exact ⟨rfl, hname, rfl⟩
  · exact ⟨rfl, hname, rfl⟩
  · exact ⟨rfl, hname, rfl⟩
  · exact ⟨rfl, hname, rfl⟩

theorem foldl_candidates (host : ModuleHost M H) (channels : Option ChannelRegistry)
    (options : ModuleStartOptions) (ids : List String) :
    ∀ acc : List ModuleStartCandidate × Bool,
      ids.foldl (host.addCandidate channels options) acc =
        (acc.1 ++ ids.filterMap (candidateOf host channels options),
          acc.2 || (ids.filterMap (candidateOf host channels options)).any
            fun candidate => !candidate.report.decision.allowed) := by
  induction ids with
  | nil =>
    intro acc
    simp
  | cons id ids ih =>
    intro acc
    rw [List.foldl_cons, ih, ModuleHost.addCandidate]
    cases hfind : host.module id with
    | none =>
      have hnone : candidateOf host channels options id = none := by
        rw [candidateOf, hfind, Option.map_none]
      rw [List.filterMap_cons_none hnone]
    | some target =>
      have hsome : candidateOf host channels options id =
          some (host.preflight channels options id target) := by
        rw [candidateOf, hfind, Option.map_some]
      rw [List.filterMap_cons_some hsome, List.append_assoc, List.any_cons, Bool.or_assoc]
      rfl

theorem map_target_candidates {host : ModuleHost M H} (channels : Option ChannelRegistry)
    (options : ModuleStartOptions) {ids : List String} (hids : ∀ id ∈ ids, id ∈ host.moduleOrder) :
    (ids.filterMap (candidateOf host channels options)).map (·.target) = ids := by
  induction ids with
  | nil => rfl
  | cons id ids ih =>
    obtain ⟨target, hfind⟩ := (host.mem_moduleOrder_iff id).mp (hids id List.mem_cons_self)
    have hsome : candidateOf host channels options id =
        some (host.preflight channels options id target) := by
      rw [candidateOf, hfind, Option.map_some]
    rw [List.filterMap_cons_some hsome, List.map_cons, (preflight_spec hfind channels options).1,
      ih fun n hn => hids n (List.mem_cons_of_mem _ hn)]

/-- **The first loop makes one candidate for each hosted module, in order**, with its report still
open, and its flag says whether one is denied. -/
theorem candidates_spec (host : ModuleHost M H) (channels : Option ChannelRegistry)
    (options : ModuleStartOptions) :
    (host.candidates channels options).1.map (·.target) = host.moduleOrder ∧
      (∀ candidate ∈ (host.candidates channels options).1,
        candidate.report.moduleId = candidate.target ∧ candidate.report.started = false) ∧
      ((host.candidates channels options).2 = false →
        ∀ candidate ∈ (host.candidates channels options).1,
          candidate.report.decision.allowed = true) := by
  rw [ModuleHost.candidates, foldl_candidates, List.nil_append, Bool.false_or]
  refine ⟨map_target_candidates channels options fun _ h => h, fun candidate hmem => ?_,
    fun hnone candidate hmem => ?_⟩
  · obtain ⟨id, -, hsome⟩ := List.mem_filterMap.mp hmem
    obtain ⟨target, hfind, rfl⟩ := Option.map_eq_some_iff.mp hsome
    obtain ⟨htarget, hname, hstarted⟩ := preflight_spec hfind channels options
    exact ⟨hname.trans htarget.symm, hstarted⟩
  · have hallowed := List.any_eq_false.mp hnone candidate hmem
    simpa using hallowed

/-! ## The two ends of a batch -/

/-- The modules whose start returned true, in order. -/
def startedIn (events : List HostEvent) : List String :=
  events.filterMap fun event =>
    match event with
    | .start id true => some id
    | _ => none

/-- The stops, in order, with the tokens held for the module at the time. -/
def stopsIn (events : List HostEvent) : List (String × List ℕ) :=
  events.filterMap fun event =>
    match event with
    | .stop id _ tokens => some (id, tokens)
    | _ => none

theorem startedIn_append (l l' : List HostEvent) :
    startedIn (l ++ l') = startedIn l ++ startedIn l' := List.filterMap_append

theorem stopsIn_append (l l' : List HostEvent) :
    stopsIn (l ++ l') = stopsIn l ++ stopsIn l' := List.filterMap_append

theorem startedIn_starts (ids : List String) :
    startedIn (ids.map (HostEvent.start · true)) = ids := by
  rw [startedIn, List.filterMap_map]
  exact List.filterMap_some

theorem stopsIn_starts (ids : List String) : stopsIn (ids.map (HostEvent.start · true)) = [] := by
  rw [stopsIn, List.filterMap_map, List.filterMap_eq_nil_iff]
  exact fun _ _ => rfl

theorem startedIn_rollBack (ids : List String) :
    startedIn (ids.map (HostEvent.stop · rollBackOptions [])) = [] := by
  rw [startedIn, List.filterMap_map, List.filterMap_eq_nil_iff]
  exact fun _ _ => rfl

theorem stopsIn_rollBack (ids : List String) :
    stopsIn (ids.map (HostEvent.stop · rollBackOptions [])) = ids.map (·, []) := by
  rw [stopsIn, List.filterMap_map]
  exact congrFun (@List.filterMap_eq_map _ _ fun id => (id, ([] : List ℕ))) ids

/-- Every hosted module was started, in order, and none was stopped. -/
structure StartedAll (before : HostWorld M H) (result : StartProgress M H) : Prop where
  events : result.events = before.host.moduleOrder.map (HostEvent.start · true)
  reports : ∀ report ∈ result.reports,
    report.started = true ∧ report.decision.allowed = true

/-- Nothing the batch did is left. -/
structure NothingLeft (before : HostWorld M H) (result : StartProgress M H) : Prop where
  /-- No module is running. -/
  idle : ∀ id, result.world.Idle id
  /-- A module the batch started holds no subscription. -/
  gone : ∀ id ∈ startedIn result.events, result.world.heldFor id = []
  /-- A module it did not start holds the subscriptions it held before. -/
  kept : ∀ id, id ∉ startedIn result.events → result.world.heldFor id = before.heldFor id
  /-- The started modules were stopped in reverse. -/
  stopped : (stopsIn result.events).map Prod.fst = (startedIn result.events).reverse
  /-- Each once. -/
  once : (startedIn result.events).Nodup
  /-- Each when its subscriptions were gone. -/
  removed : ∀ stop ∈ stopsIn result.events, stop.2 = []
  reports : ∀ report ∈ result.reports,
    report.started = false ∧ report.decision.allowed = false

/-! ## The second loop -/

/-- The loop has started the modules in `done`, and nothing else has changed. -/
structure Begun (before : HostWorld M H) (done : List String) (progress : StartProgress M H) :
    Prop where
  touches : TouchesOnly done before progress.world
  startedModules : progress.startedModules = done
  ids : progress.reports.map (·.moduleId) = done
  reports : ∀ report ∈ progress.reports,
    report.started = true ∧ report.decision.allowed = true
  events : progress.events = done.map (HostEvent.start · true)

theorem markSkippedByBatch_spec (world : HostWorld M H) (candidate : ModuleStartCandidate) :
    (markSkippedByBatch world candidate).moduleId = candidate.report.moduleId ∧
      (markSkippedByBatch world candidate).started = candidate.report.started ∧
      (markSkippedByBatch world candidate).decision.allowed = false := by
  refine ⟨rfl, rfl, ?_⟩
  dsimp only [markSkippedByBatch]
  split_ifs with hallowed
  · rfl
  · simpa using hallowed

/-- The reports of a batch that fails in a round. -/
theorem reports_failBatch {before : HostWorld M H} {done : List String}
    {progress : StartProgress M H} (h : Begun before done progress) (world : HostWorld M H)
    (events : List HostEvent) (id : String) {report : ModuleStartReport}
    (hname : report.moduleId = id)
    (hreport : report.started = false ∧ report.decision.allowed = false)
    {remaining : List ModuleStartCandidate}
    (hremaining : ∀ candidate ∈ remaining,
      candidate.report.moduleId = candidate.target ∧ candidate.report.started = false) :
    let result := failBatch { progress with world := world, events := events } id report remaining
    result.reports.map (·.moduleId) = done ++ id :: remaining.map (·.target) ∧
      ∀ report ∈ result.reports, report.started = false ∧ report.decision.allowed = false := by
  intro result
  constructor
  · show List.map _ (_ ++ _ :: _) = _
    rw [List.map_append, List.map_map, List.map_cons, List.map_map, ← h.ids]
    refine congrArg₂ _ (List.map_congr_left fun previous _ => ?_) (congrArg₂ _ hname ?_)
    · show (if _ then _ else _ : ModuleStartReport).moduleId = _
      split_ifs
      · rfl
      · rfl
    · exact List.map_congr_left fun candidate hmem => (hremaining candidate hmem).1
  · intro after hmem
    rcases List.mem_append.mp hmem with hprevious | hrest
    · obtain ⟨previous, hbefore, rfl⟩ := List.mem_map.mp hprevious
      rw [if_pos (h.reports previous hbefore).1]
      exact ⟨rfl, rfl⟩
    · rcases List.mem_cons.mp hrest with rfl | hskipped
      · exact hreport
      · obtain ⟨candidate, hcandidate, rfl⟩ := List.mem_map.mp hskipped
        obtain ⟨-, hstarted, hallowed⟩ := markSkippedByBatch_spec
          (rollBack world progress.startedModules).1 candidate
        exact ⟨hstarted.trans (hremaining candidate hcandidate).2, hallowed⟩

/-- What a round that fails leaves of its module `id`, with the events it made and the modules it
started. -/
inductive FailedRound (id : String) (before world : HostWorld M H) :
    List HostEvent → List String → Prop
  /-- The start returned false. -/
  | refused (held : world.heldFor id = before.heldFor id) :
    FailedRound id before world [.start id false] []
  /-- It returned true, the registration failed, and the module was stopped. -/
  | unregistered (held : world.heldFor id = []) :
    FailedRound id before world [.start id true, .stop id {} []] [id]

namespace FailedRound

variable {id : String} {before world : HostWorld M H} {tail : List HostEvent} {ok : List String}

theorem startedIn_tail (h : FailedRound id before world tail ok) : startedIn tail = ok := by
  cases h with
  | refused => rfl
  | unregistered => rfl

theorem stopsIn_tail (h : FailedRound id before world tail ok) : stopsIn tail = ok.map (·, []) := by
  cases h with
  | refused => rfl
  | unregistered => rfl

theorem eq_of_mem (h : FailedRound id before world tail ok) {n : String} (hn : n ∈ ok) :
    n = id := by
  cases h with
  | refused => cases hn
  | unregistered => exact List.mem_singleton.mp hn

theorem nodup (h : FailedRound id before world tail ok) : ok.Nodup := by
  cases h with
  | refused => exact List.nodup_nil
  | unregistered => exact List.pairwise_singleton _ _

theorem reverse_eq (h : FailedRound id before world tail ok) : ok.reverse = ok := by
  cases h with
  | refused => rfl
  | unregistered => rfl

theorem held_of_mem (h : FailedRound id before world tail ok) {n : String} (hn : n ∈ ok) :
    world.heldFor id = [] := by
  cases h with
  | refused => cases hn
  | unregistered held => exact held

theorem held_of_notMem (h : FailedRound id before world tail ok) (hid : id ∉ ok) :
    world.heldFor id = before.heldFor id := by
  cases h with
  | refused held => exact held
  | unregistered => exact absurd (List.mem_singleton_self id) hid

end FailedRound

/-- The modules a batch that fails started, and the stops. -/
theorem events_failBatch {before : HostWorld M H} {done : List String}
    {progress : StartProgress M H} (h : Begun before done progress) (world : HostWorld M H)
    (tail : List HostEvent) (id : String) (report : ModuleStartReport)
    (remaining : List ModuleStartCandidate) :
    let result := failBatch
      { progress with world := world, events := progress.events ++ tail } id report remaining
    startedIn result.events = done ++ startedIn tail ∧
      stopsIn result.events = stopsIn tail ++ done.reverse.map (·, []) := by
  intro result
  obtain ⟨-, -, -, hstops⟩ := rollBack_spec world progress.startedModules
  rw [h.startedModules] at hstops
  have hevents : result.events = done.map (HostEvent.start · true) ++ tail ++
      done.reverse.map (HostEvent.stop · rollBackOptions []) := by
    show (failBatch _ _ _ _).events = _
    rw [failBatch, h.startedModules, hstops, h.events]
  constructor
  · rw [hevents, startedIn_append, startedIn_append, startedIn_starts, startedIn_rollBack,
      List.append_nil]
  · rw [hevents, stopsIn_append, stopsIn_append, stopsIn_starts, stopsIn_rollBack,
      List.nil_append]

/-- **A batch that fails in a round leaves nothing of it.**  The round itself leaves its module not
running. -/
theorem failBatch_nothingLeft {before : HostWorld M H} {done : List String}
    {progress : StartProgress M H} (h : Begun before done progress)
    (hidle : ∀ n, before.Idle n) (hnodup : done.Nodup) {id : String} (hid : id ∉ done)
    {world : HostWorld M H} (htouch : TouchesOnly [id] progress.world world)
    (hnot : world.Idle id) {report : ModuleStartReport} (hname : report.moduleId = id)
    (hreport : report.started = false ∧ report.decision.allowed = false)
    {tail : List HostEvent} {ok : List String}
    (hround : FailedRound id progress.world world tail ok)
    {remaining : List ModuleStartCandidate}
    (hremaining : ∀ candidate ∈ remaining,
      candidate.report.moduleId = candidate.target ∧ candidate.report.started = false) :
    NothingLeft before (failBatch
      { progress with world := world, events := progress.events ++ tail }
      id report remaining) := by
  obtain ⟨hundone, -, hquiet, -⟩ := rollBack_spec world progress.startedModules
  obtain ⟨hstarted, hstopped⟩ := events_failBatch h world tail id report remaining
  rw [h.startedModules] at hundone hquiet
  rw [hround.startedIn_tail] at hstarted
  rw [hround.stopsIn_tail] at hstopped
  have hworld : (failBatch { progress with world := world, events := progress.events ++ tail }
      id report remaining).world = (rollBack world done).1 := by
    rw [failBatch, h.startedModules]
  have hother : ∀ n, n ∉ done → n ≠ id →
      (rollBack world done).1.host.module n = before.host.module n ∧
        (rollBack world done).1.heldFor n = before.heldFor n := by
    intro n hn hne
    have hn' : n ∉ [id] := fun hmem => hne (List.mem_singleton.mp hmem)
    exact ⟨((hundone.module n hn).trans (htouch.module n hn')).trans (h.touches.module n hn),
      ((hundone.held n hn).trans (htouch.held n hn')).trans (h.touches.held n hn)⟩
  constructor
  case idle =>
    intro n
    rw [hworld]
    by_cases hdone : n ∈ done
    · exact (hquiet n hdone).1
    · by_cases hsame : n = id
      · rw [hsame]
        exact hnot.of_module_eq (hundone.module id hid)
      · exact (hidle n).of_module_eq (hother n hdone hsame).1
  case gone =>
    intro n hn
    rw [hstarted] at hn
    rw [hworld]
    rcases List.mem_append.mp hn with hdone | hok
    · exact (hquiet n hdone).2
    · obtain rfl := hround.eq_of_mem hok
      exact (hundone.held n hid).trans (hround.held_of_mem hok)
  case kept =>
    intro n hn
    rw [hstarted, List.mem_append, not_or] at hn
    rw [hworld]
    by_cases hsame : n = id
    · subst hsame
      exact ((hundone.held n hid).trans (hround.held_of_notMem hn.2)).trans
        (h.touches.held n hid)
    · exact (hother n hn.1 hsame).2
  case stopped =>
    rw [hstarted, hstopped, List.map_append, List.map_map, List.map_map, List.reverse_append,
      hround.reverse_eq]
    exact congrArg₂ _ (List.map_id _) (List.map_id _)
  case once =>
    rw [hstarted]
    refine List.nodup_append.mpr ⟨hnodup, hround.nodup, ?_⟩
    rintro n hn m hm rfl
    rw [hround.eq_of_mem hm] at hn
    exact hid hn
  case removed =>
    intro stop hstop
    rw [hstopped, ← List.map_append] at hstop
    obtain ⟨_, -, rfl⟩ := List.mem_map.mp hstop
    rfl
  case reports => exact (reports_failBatch h world _ id hname hreport hremaining).2

/-- The loop after a round that started its module. -/
theorem Begun.started {before : HostWorld M H} {done : List String}
    {progress : StartProgress M H} (h : Begun before done progress) {id : String}
    {world : HostWorld M H} (touches : TouchesOnly [id] progress.world world)
    {report : ModuleStartReport}
    (ok : report.started = true ∧ report.decision.allowed = true) (hname : report.moduleId = id)
    (diagnostics : String) :
    Begun before (done ++ [id])
      { world := world
        reports := progress.reports ++ [{ report with diagnostics := diagnostics }]
        startedModules := progress.startedModules ++ [id]
        events := progress.events ++ [.start id true] } := by
  refine ⟨h.touches.trans touches, ?_, ?_, fun after hafter => ?_, ?_⟩
  · rw [h.startedModules]
  · rw [List.map_append, h.ids, ← hname]
    rfl
  · rcases List.mem_append.mp hafter with hold | hlast
    · exact h.reports after hold
    · rw [List.mem_singleton.mp hlast]
      exact ok
  · rw [h.events, List.map_append]
    rfl

/-- **The loop starts every module or leaves nothing**, and reports on each. -/
theorem startLoop_cases {refuses : ModuleRouter H → RouteMatch → Bool}
    {options : ModuleStartOptions} (hwhole : options.allowPartialStart = false)
    {before : HostWorld M H} (hidle : ∀ n, before.Idle n) (remaining : List ModuleStartCandidate) :
    ∀ {done : List String} {progress : StartProgress M H}, Begun before done progress →
      done ++ remaining.map (·.target) = before.host.moduleOrder →
      (∀ candidate ∈ remaining,
        candidate.report.moduleId = candidate.target ∧ candidate.report.started = false) →
      (∀ candidate ∈ remaining, candidate.report.decision.allowed = true) →
      let result := startLoop refuses options remaining progress
      (StartedAll before result ∨ NothingLeft before result) ∧
        result.reports.map (·.moduleId) = before.host.moduleOrder := by
  induction remaining with
  | nil =>
    intro done progress h horder _ _
    rw [List.map_nil, List.append_nil] at horder
    rw [startLoop, ← horder]
    refine ⟨Or.inl ⟨?_, h.reports⟩, h.ids⟩
    rw [← horder]
    exact h.events
  | cons candidate remaining ih =>
    intro done progress h horder hopen hallowed
    have hnodup := before.host.nodup
    rw [← horder, List.map_cons] at hnodup
    obtain ⟨hdoneNodup, -, hdisjoint⟩ := List.nodup_append.mp hnodup
    have hid : candidate.target ∉ done := fun hmem =>
      hdisjoint _ hmem _ List.mem_cons_self rfl
    have hmem : candidate.target ∈ before.host.moduleOrder := by
      rw [← horder]
      exact List.mem_append_right _ List.mem_cons_self
    obtain ⟨target, hfind⟩ := (before.host.mem_moduleOrder_iff _).mp hmem
    have hfind' : progress.world.host.module candidate.target = some target :=
      (h.touches.module _ hid).trans hfind
    obtain ⟨hround, hname⟩ := @startOne_round M H _ refuses _ _ _ hfind'
      (hallowed candidate List.mem_cons_self) (hidle _ target hfind)
    rw [(hopen candidate List.mem_cons_self).1] at hname
    have hrest := fun later hlater => hopen later (List.mem_cons_of_mem candidate hlater)
    rw [startLoop, hfind']
    dsimp only
    generalize startOne refuses progress.world candidate target = one at hround hname ⊢
    cases hround with
    | started touches ok =>
      rw [if_pos ok.1]
      refine ih (h.started touches ok hname _) ?_ hrest fun later hlater =>
        hallowed later (List.mem_cons_of_mem _ hlater)
      rw [← horder, List.append_assoc]
      rfl
    | refused touches idle held failed =>
      rw [if_neg (by rw [failed.1]; exact Bool.false_ne_true), if_pos (by rw [hwhole]; simp)]
      refine ⟨Or.inr ?_, ?_⟩
      · exact failBatch_nothingLeft h hidle hdoneNodup hid touches idle hname failed
          (.refused held) hrest
      · exact (reports_failBatch h _ _ _ hname failed hrest).1.trans horder
    | unregistered touches quiet failed =>
      rw [if_neg (by rw [failed.1]; exact Bool.false_ne_true), if_pos (by rw [hwhole]; simp)]
      refine ⟨Or.inr ?_, ?_⟩
      · exact failBatch_nothingLeft h hidle hdoneNodup hid touches quiet.1 hname failed
          (.unregistered quiet.2) hrest
      · exact (reports_failBatch h _ _ _ hname failed hrest).1.trans horder

/-- **A batch start without partial start is all or nothing.**  On a host with no module running it
starts every hosted module; or no module is running after it, a module it started holds no
subscription and the others hold those they held before, the started modules were stopped in
reverse, each once and after its subscriptions, and no report says started or allowed.  There is one
report for each hosted module, in order. -/
theorem startAllowedModules_all_or_nothing (refuses : ModuleRouter H → RouteMatch → Bool)
    (channels : Option ChannelRegistry) (world : HostWorld M H) (options : ModuleStartOptions)
    (hwhole : options.allowPartialStart = false)
    (hidle : ∀ id m, world.host.module id = some m → IModule.state m ≠ .running) :
    let result := startAllowedModules refuses channels world options
    (StartedAll world result ∨ NothingLeft world result) ∧
      result.reports.map (·.moduleId) = world.host.moduleOrder := by
  obtain ⟨horder, hopen, hallowed⟩ := candidates_spec world.host channels options
  intro result
  by_cases hfailed : (world.host.candidates channels options).2 = true
  · have hresult : result =
        { world := world
          reports := (world.host.candidates channels options).1.map
            (markSkippedByBatch world) } := by
      show startAllowedModules _ _ _ _ = _
      rw [startAllowedModules, hwhole, if_pos ⟨hfailed, Bool.false_ne_true⟩]
    rw [hresult]
    constructor
    · refine Or.inr ⟨hidle, fun _ h => absurd h List.not_mem_nil, fun _ _ => rfl, rfl,
        List.nodup_nil, fun _ h => absurd h List.not_mem_nil, fun report hreport => ?_⟩
      obtain ⟨candidate, hcandidate, rfl⟩ := List.mem_map.mp hreport
      obtain ⟨-, hstarted, hdenied⟩ := markSkippedByBatch_spec world candidate
      exact ⟨hstarted.trans (hopen candidate hcandidate).2, hdenied⟩
    · show List.map _ (List.map _ _) = _
      rw [List.map_map, ← horder]
      exact List.map_congr_left fun candidate hmem => (hopen candidate hmem).1
  · have hresult : result =
        startLoop refuses options (world.host.candidates channels options).1
          { world := world } := by
      show startAllowedModules _ _ _ _ = _
      rw [startAllowedModules, if_neg fun h => hfailed h.1]
    rw [hresult]
    have hstart : Begun world [] ({ world := world } : StartProgress M H) :=
      ⟨.refl _ _, rfl, rfl, fun _ h => absurd h List.not_mem_nil, rfl⟩
    exact startLoop_cases hwhole hidle _ hstart horder hopen
      (hallowed (Bool.not_eq_true _ ▸ hfailed))

/-! ## A host a batch can fail on -/

/-- The gamepad module on a new host. -/
def gamepadHost : HostWorld FeatureModule Unit :=
  ((HostWorld.make { role := .client, localPlatform := "linux" } none ()).addModule
    (some { manifest := gamepad })).2

theorem idle_of_order {world : HostWorld FeatureModule Unit} {id : String}
    (horder : world.host.moduleOrder = [id])
    (hid : (world.host.module id).all (fun m => m.state ≠ .running) = true) :
    ∀ n m, world.host.module n = some m → IModule.state m ≠ .running := by
  intro n m hm
  have hmem : n ∈ world.host.moduleOrder := (world.host.mem_moduleOrder_iff n).mpr ⟨m, hm⟩
  rw [horder, List.mem_singleton] at hmem
  rw [← hmem, hm] at hid
  exact of_decide_eq_true hid

/-- The gamepad module on a host that was just made. -/
theorem startAllowedModules_all_or_nothing_gamepad :
    let result := startAllowedModules refusesNothing none gamepadHost {}
    (StartedAll gamepadHost result ∨ NothingLeft gamepadHost result) ∧
      result.reports.map (·.moduleId) = gamepadHost.host.moduleOrder :=
  startAllowedModules_all_or_nothing refusesNothing none gamepadHost {} rfl
    (@idle_of_order gamepadHost "input.gamepad" (by decide +kernel) (by decide +kernel))

/-- A feature module that was started twice: the second start fails it, and the batch has nothing
to take back. -/
def failedHost : HostWorld FeatureModule Unit :=
  (startAllowedModules refusesNothing none
    (startAllowedModules refusesNothing none gamepadHost {}).world {}).world

/-- A batch that fails leaves the subscriptions a module that is not running held before. -/
theorem not_all_or_nothing_stale :
    ¬ ∀ (channels : Option ChannelRegistry) (world : HostWorld FeatureModule Unit)
      (options : ModuleStartOptions), options.allowPartialStart = false →
      (∀ id m, world.host.module id = some m → IModule.state m ≠ .running) →
      let result := startAllowedModules refusesNothing channels world options
      StartedAll world result ∨
        ((∀ id, result.world.Idle id) ∧
          ∀ id ∈ world.host.moduleOrder, result.world.heldFor id = []) := by
  intro h
  have horder : failedHost.host.moduleOrder = ["input.gamepad"] := by decide +kernel
  have hidle := idle_of_order horder (by decide +kernel)
  rcases h none failedHost {} rfl hidle with hall | ⟨-, hnone⟩
  · have hreports : ¬ ∀ report ∈ (startAllowedModules refusesNothing none failedHost {}).reports,
        report.started = true ∧ report.decision.allowed = true := by decide +kernel
    exact hreports hall.reports
  · have hheld : (startAllowedModules refusesNothing none failedHost {}).world.heldFor
        "input.gamepad" ≠ [] := by decide +kernel
    refine hheld (hnone _ ?_)
    rw [horder]
    exact List.mem_singleton_self _

end Module
end FusionDesk
