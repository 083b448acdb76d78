import FusionDesk.General.DepthFirst
import FusionDesk.General.Runs
import FusionDesk.Module.Host

/-!
# The module composer

`ModuleComposer` under `src/core/module/module_factory.cpp`: from a list of factories and a request,
the modules of a session in an order in which each comes after those it requires.

`compose` resolves the requested ids to manifests, drops those a version constraint is against,
creates one module for each module id, reports the required modules that were not selected, and
sorts what is left by a depth-first search over the indices.

* `resolve_spec`, `block_spec`, `select_spec`: what each of the three filtering passes leaves.
* `dependencySearch_spec`: the search, read on module ids.
* `compose_spec`: the five properties of a composition.
-/

namespace FusionDesk
namespace Module

open Protocol Network Session Precedence DepthFirst

structure ModuleCreateOptions where
  role : SessionRole := .standalone
  localPlatform : String := ""
  deriving DecidableEq, Repr

structure ModuleVersionConstraint where
  moduleId : String := ""
  minVersion : ModuleVersion := {}
  maxVersion : ModuleVersion := {}
  deriving DecidableEq, Repr

/-- `class IModuleFactory`, for modules of the type `M`; `create` is `none` for a null pointer. -/
structure IModuleFactory (M : Type) where
  supports : String → ModuleCreateOptions → Bool
  manifest : ModuleCreateOptions → ModuleManifest
  create : ModuleCreateOptions → Option M

structure ModuleCompositionRequest where
  requiredModules : List String := []
  versionConstraints : List ModuleVersionConstraint := []
  createOptions : ModuleCreateOptions := {}
  deriving DecidableEq, Repr

structure ModuleCompositionResult (M : Type) where
  modules : List M := []
  manifests : List ModuleManifest := []
  missingModules : List String := []
  dependencyFailures : List String := []
  versionFailures : List String := []
  deriving DecidableEq, Repr

structure PendingModuleSelection (M : Type) where
  requestedModuleId : String
  factory : IModuleFactory M
  manifest : ModuleManifest

def versionToString (version : ModuleVersion) : String :=
  toString version.major.toNat ++ "." ++ toString version.minor.toNat ++ "." ++
    toString version.patch.toNat

def matchesConstraintTarget (constraint : ModuleVersionConstraint) (requestedModuleId : String)
    (manifest : ModuleManifest) : Bool :=
  constraint.moduleId == requestedModuleId || constraint.moduleId == manifest.moduleId

/-- The constraint is about the module, and its version is outside of the range. -/
def violates (requestedModuleId : String) (manifest : ModuleManifest)
    (constraint : ModuleVersionConstraint) : Bool :=
  matchesConstraintTarget constraint requestedModuleId manifest &&
    !moduleVersionInRange manifest.version constraint.minVersion constraint.maxVersion

/-- `appendVersionFailures`. -/
def appendVersionFailures (requestedModuleId : String) (manifest : ModuleManifest)
    (constraints : List ModuleVersionConstraint) (failures : List String) : List String :=
  failures ++ (constraints.filter (violates requestedModuleId manifest)).map fun constraint =>
    manifest.moduleId ++ " version " ++ versionToString manifest.version ++
      " outside profile range " ++ versionToString constraint.minVersion ++ ".." ++
      versionToString constraint.maxVersion

/-! ## Composition -/

/-- `class ModuleComposer`; null factories are never added. -/
structure ModuleComposer (M : Type) where
  factories : List (IModuleFactory M) := []

namespace ModuleComposer

variable {M : Type}

/-- `addFactory`. -/
def addFactory (composer : ModuleComposer M) (factory : Option (IModuleFactory M)) :
    ModuleComposer M :=
  { composer with factories := composer.factories ++ factory.toList }

def findFactory (composer : ModuleComposer M) (requestedModuleId : String)
    (options : ModuleCreateOptions) : Option (IModuleFactory M) :=
  composer.factories.find? fun factory => factory.supports requestedModuleId options

/-- One round of the first loop: the result, and the pending selections. -/
def resolve (composer : ModuleComposer M) (options : ModuleCreateOptions)
    (acc : ModuleCompositionResult M × List (PendingModuleSelection M)) (requested : String) :
    ModuleCompositionResult M × List (PendingModuleSelection M) :=
  match composer.findFactory requested options with
  | none => ({ acc.1 with missingModules := acc.1.missingModules ++ [requested] }, acc.2)
  | some factory =>
    let manifest := factory.manifest options
    if manifest.moduleId = "" then
      ({ acc.1 with missingModules := acc.1.missingModules ++ [requested] }, acc.2)
    else
      (acc.1, acc.2 ++ [{ requestedModuleId := requested
                          factory := factory
                          manifest := manifest }])

/-- One round of the second loop: the result, and `versionBlockedModuleIds`. -/
def block (constraints : List ModuleVersionConstraint)
    (acc : ModuleCompositionResult M × List String) (selection : PendingModuleSelection M) :
    ModuleCompositionResult M × List String :=
  if selection.manifest.moduleId ∈ acc.2 then acc
  else
    let failures := appendVersionFailures selection.requestedModuleId selection.manifest
      constraints acc.1.versionFailures
    ({ acc.1 with versionFailures := failures },
      if failures.length ≠ acc.1.versionFailures.length then
        acc.2 ++ [selection.manifest.moduleId]
      else acc.2)

/-- One round of the third loop: the result, and `selectedModuleIds`. -/
def select (options : ModuleCreateOptions) (blocked : List String)
    (acc : ModuleCompositionResult M × List String) (selection : PendingModuleSelection M) :
    ModuleCompositionResult M × List String :=
  let moduleId := selection.manifest.moduleId
  if moduleId ∈ blocked then acc
  else if moduleId ∈ acc.2 then acc
  else
    match selection.factory.create options with
    | none => ({ acc.1 with missingModules := acc.1.missingModules ++ [moduleId] }, acc.2)
    | some module =>
      ({ acc.1 with
          manifests := acc.1.manifests ++ [selection.manifest]
          modules := acc.1.modules ++ [module] },
        acc.2 ++ [moduleId])

/-- The failures of the fourth loop: the required modules that were not selected. -/
def missingDependencies (manifests : List ModuleManifest) (selectedModuleIds : List String) :
    List String :=
  manifests.flatMap fun manifest =>
    (manifest.requiredModules.filter (· ∉ selectedModuleIds)).map fun dependency =>
      manifest.moduleId ++ " requires " ++ dependency

/-- `indexByModuleId`; of two manifests with one id the later counts. -/
def indexByModuleId (manifests : List ModuleManifest) : Std.ExtTreeMap String ℕ :=
  manifests.zipIdx.foldl (fun index item => index.insert item.1.moduleId item.2) ∅

/-- The indices a visit goes on to. -/
def dependencyIndices (manifests : List ModuleManifest) (index : ℕ) : List ℕ :=
  (manifests[index]?.map ModuleManifest.requiredModules).getD [] |>.filterMap
    fun dependency => (indexByModuleId manifests)[dependency]?

/-- The visits of all manifests, with fuel for the depth of the recursion: one more than there are
manifests is enough. -/
def dependencySearch (manifests : List ModuleManifest) : Search ℕ :=
  search (dependencyIndices manifests) (manifests.length + 1) (List.range manifests.length)

/-- The failures the visits report. -/
def cyclicDependencies (manifests : List ModuleManifest) (cyclic : List ℕ) : List String :=
  cyclic.map fun index => (manifests[index]?.getD {}).moduleId ++ " has cyclic dependency"

/-- The end: the two vectors in the order of the visits. -/
def sortByDependency (result : ModuleCompositionResult M) (order : List ℕ) :
    ModuleCompositionResult M :=
  if order.length = result.manifests.length then
    { result with
      manifests := order.filterMap fun index => result.manifests[index]?
      modules := order.filterMap fun index => result.modules[index]? }
  else result

/-- `compose`. -/
def compose (composer : ModuleComposer M) (request : ModuleCompositionRequest) :
    ModuleCompositionResult M :=
  let resolved := request.requiredModules.foldl (composer.resolve request.createOptions) ({}, [])
  let blocked := resolved.2.foldl (block request.versionConstraints) (resolved.1, [])
  let selected := resolved.2.foldl (select request.createOptions blocked.2) (blocked.1, [])
  let found := dependencySearch selected.1.manifests
  sortByDependency
    { selected.1 with
      dependencyFailures := missingDependencies selected.1.manifests selected.2 ++
        cyclicDependencies selected.1.manifests found.cyclic }
    found.order

/-! ## The filtering passes -/

variable {composer : ModuleComposer M} {options : ModuleCreateOptions}

/-- What a requested id resolves to: a factory, and a manifest that has an id. -/
def Resolves (composer : ModuleComposer M) (options : ModuleCreateOptions) (requested : String)
    (factory : IModuleFactory M) : Prop :=
  composer.findFactory requested options = some factory ∧ (factory.manifest options).moduleId ≠ ""

/-- A pending selection is what a requested id resolves to. -/
def PendingFor (composer : ModuleComposer M) (options : ModuleCreateOptions)
    (requested : List String) (selection : PendingModuleSelection M) : Prop :=
  selection.requestedModuleId ∈ requested ∧
    composer.Resolves options selection.requestedModuleId selection.factory ∧
    selection.manifest = selection.factory.manifest options

/-- What the first pass has done with the requested ids so far. -/
structure Resolved (composer : ModuleComposer M) (options : ModuleCreateOptions)
    (requested : List String) (result : ModuleCompositionResult M)
    (pending : List (PendingModuleSelection M)) : Prop where
  nothing : result.manifests = [] ∧ result.modules = []
  pendingFor : ∀ selection ∈ pending, composer.PendingFor options requested selection
  all : ∀ id ∈ requested, id ∈ result.missingModules ∨
    ∃ selection ∈ pending, selection.requestedModuleId = id

/-- **The first pass** selects nothing, and each requested id is missing or resolves to a pending
selection. -/
theorem resolve_spec (composer : ModuleComposer M) (options : ModuleCreateOptions)
    (requested : List String) :
    let resolved := requested.foldl (composer.resolve options) ({}, [])
    composer.Resolved options requested resolved.1 resolved.2 := by
  refine Runs.foldl_of_append (P := fun done (acc : ModuleCompositionResult M × List (PendingModuleSelection M)) =>
    composer.Resolved options done acc.1 acc.2)
    ⟨⟨rfl, rfl⟩, by simp, by simp⟩ (fun done acc id h => ?_) requested
  have hmono : ∀ selection, composer.PendingFor options done selection →
      composer.PendingFor options (done ++ [id]) selection :=
    fun _ hs => ⟨List.mem_append_left _ hs.1, hs.2⟩
  have hmissing : composer.Resolved options (done ++ [id])
      { acc.1 with missingModules := acc.1.missingModules ++ [id] } acc.2 := by
    refine ⟨h.nothing, fun selection hmem => hmono _ (h.pendingFor selection hmem), fun n hn => ?_⟩
    rcases List.mem_append.mp hn with hn | hn
    · exact (h.all n hn).imp_left fun hmem => List.mem_append_left _ hmem
    · exact Or.inl (List.mem_append_right _ hn)
  dsimp only [resolve]
  cases hfind : composer.findFactory id options with
  | none => exact hmissing
  | some factory =>
    dsimp only
    split_ifs with hnone
    · exact hmissing
    · refine ⟨h.nothing, fun selection hmem => ?_, fun n hn => ?_⟩
      · rcases List.mem_append.mp hmem with hold | hnew
        · exact hmono _ (h.pendingFor selection hold)
        · rw [List.mem_singleton.mp hnew]
          exact ⟨List.mem_append_right _ (List.mem_singleton_self id), ⟨hfind, hnone⟩, rfl⟩
      · rcases List.mem_append.mp hn with hn | hn
        · exact (h.all n hn).imp_right fun ⟨selection, hmem, hid⟩ =>
            ⟨selection, List.mem_append_left _ hmem, hid⟩
        · refine Or.inr ⟨_, List.mem_append_right _ (List.mem_singleton_self _), ?_⟩
          exact (List.mem_singleton.mp hn).symm

/-- A constraint is against one of the pending selections of the module. -/
def BlockedBy (constraints : List ModuleVersionConstraint)
    (pending : List (PendingModuleSelection M)) (moduleId : String) : Prop :=
  ∃ selection ∈ pending, selection.manifest.moduleId = moduleId ∧
    ∃ constraint ∈ constraints,
      violates selection.requestedModuleId selection.manifest constraint = true

/-- What the second pass has done with the pending selections so far. -/
structure Blocked (constraints : List ModuleVersionConstraint) (before : ModuleCompositionResult M)
    (pending : List (PendingModuleSelection M)) (result : ModuleCompositionResult M)
    (blocked : List String) : Prop where
  manifests : result.manifests = before.manifests
  modules : result.modules = before.modules
  missing : result.missingModules = before.missingModules
  mem_blocked : ∀ id, id ∈ blocked ↔ BlockedBy constraints pending id

theorem appendVersionFailures_length_ne (requestedModuleId : String) (manifest : ModuleManifest)
    (constraints : List ModuleVersionConstraint) (failures : List String) :
    (appendVersionFailures requestedModuleId manifest constraints failures).length ≠
        failures.length ↔
      ∃ constraint ∈ constraints, violates requestedModuleId manifest constraint = true := by
  rw [appendVersionFailures, List.length_append, List.length_map, Ne, Nat.add_eq_left,
    List.length_eq_zero_iff, List.filter_eq_nil_iff]
  simp

/-- **The second pass** blocks the modules a constraint is against. -/
theorem block_spec (constraints : List ModuleVersionConstraint)
    (pending : List (PendingModuleSelection M)) (before : ModuleCompositionResult M) :
    let blocked := pending.foldl (block constraints) (before, [])
    Blocked constraints before pending blocked.1 blocked.2 := by
  refine Runs.foldl_of_append (P := fun done (acc : ModuleCompositionResult M × List String) =>
    Blocked constraints before done acc.1 acc.2)
    ⟨rfl, rfl, rfl, by simp [BlockedBy]⟩ (fun done acc selection h => ?_) pending
  have hsplit : ∀ id, BlockedBy constraints (done ++ [selection]) id ↔
      BlockedBy constraints done id ∨ (selection.manifest.moduleId = id ∧
        ∃ constraint ∈ constraints,
          violates selection.requestedModuleId selection.manifest constraint = true) := by
    intro id
    simp only [BlockedBy, List.mem_append, List.mem_singleton, or_and_right, exists_or,
      exists_eq_left]
  dsimp only [block]
  split_ifs with hwas hfailed
  · refine ⟨h.manifests, h.modules, h.missing, fun id => ?_⟩
    rw [hsplit, h.mem_blocked, iff_self_or]
    rintro ⟨rfl, -⟩
    exact (h.mem_blocked _).mp hwas
  · refine ⟨h.manifests, h.modules, h.missing, fun id => ?_⟩
    rw [appendVersionFailures_length_ne] at hfailed
    rw [hsplit, List.mem_append, List.mem_singleton, h.mem_blocked, eq_comm, and_iff_left hfailed]
  · refine ⟨h.manifests, h.modules, h.missing, fun id => ?_⟩
    rw [appendVersionFailures_length_ne] at hfailed
    rw [hsplit, h.mem_blocked, iff_self_or]
    exact fun hnew => absurd hnew.2 hfailed

/-- What the third pass has done with the pending selections so far. -/
structure Selected (composer : ModuleComposer M) (options : ModuleCreateOptions)
    (blocked : List String) (missing : List String) (pending : List (PendingModuleSelection M))
    (result : ModuleCompositionResult M) (selectedModuleIds : List String) : Prop where
  paired : List.Forall₂ (fun module manifest => ∃ factory ∈ composer.factories,
    factory.manifest options = manifest ∧ factory.create options = some module)
    result.modules result.manifests
  ids : result.manifests.map (·.moduleId) = selectedModuleIds
  nodup : selectedModuleIds.Nodup
  kept : missing ⊆ result.missingModules
  all : ∀ selection ∈ pending, selection.manifest.moduleId ∈ blocked ∨
    selection.manifest.moduleId ∈ selectedModuleIds ∨ selection.factory.create options = none

/-- **The third pass** creates one module for each module id that is not blocked, unless its factory
fails. -/
theorem select_spec (composer : ModuleComposer M) (options : ModuleCreateOptions)
    (blocked : List String) {requested : List String}
    {pending : List (PendingModuleSelection M)}
    (hpending : ∀ selection ∈ pending, composer.PendingFor options requested selection)
    {before : ModuleCompositionResult M} (hnothing : before.manifests = [] ∧ before.modules = []) :
    let selected := pending.foldl (select options blocked) (before, [])
    composer.Selected options blocked before.missingModules pending selected.1 selected.2 := by
  refine Runs.foldl_of_append (P := fun done (acc : ModuleCompositionResult M × List String) =>
    done ⊆ pending →
      composer.Selected options blocked before.missingModules done acc.1 acc.2)
    (fun _ => ?_) (fun done acc selection h hsub => ?_) pending (List.Subset.refl pending)
  · refine ⟨?_, ?_, List.nodup_nil, List.Subset.refl _, by simp⟩
    · rw [hnothing.1, hnothing.2]
      exact .nil
    · rw [hnothing.1, List.map_nil]
  · obtain ⟨hdone, hmem⟩ := List.append_subset.mp hsub
    have hselected := h hdone
    have hsame : ∀ ids : List String, acc.2 ⊆ ids →
        (selection.manifest.moduleId ∈ blocked ∨ selection.manifest.moduleId ∈ ids ∨
          selection.factory.create options = none) →
        ∀ s ∈ done ++ [selection], s.manifest.moduleId ∈ blocked ∨ s.manifest.moduleId ∈ ids ∨
          s.factory.create options = none := by
      intro ids hids hnew s hs
      rcases List.mem_append.mp hs with hs | hs
      · exact (hselected.all s hs).imp_right fun h => h.imp_left fun h => hids h
      · rwa [List.mem_singleton.mp hs]
    dsimp only [select]
    split_ifs with hblocked hwas
    · exact { hselected with all := hsame _ (List.Subset.refl _) (Or.inl hblocked) }
    · exact { hselected with all := hsame _ (List.Subset.refl _) (Or.inr (Or.inl hwas)) }
    · cases hcreate : selection.factory.create options with
      | none =>
        exact { paired := hselected.paired
                ids := hselected.ids
                nodup := hselected.nodup
                kept := List.subset_append_of_subset_left _ hselected.kept
                all := hsame _ (List.Subset.refl _) (Or.inr (Or.inr hcreate)) }
      | some module =>
        obtain ⟨-, ⟨hfactory, -⟩, hmanifest⟩ := hpending selection (hmem (List.mem_singleton_self _))
        have hlisted : selection.factory ∈ composer.factories := List.mem_of_find?_eq_some hfactory
        refine ⟨?_, ?_, ?_, hselected.kept, ?_⟩
        · refine List.rel_append hselected.paired (.cons ⟨_, hlisted, hmanifest.symm, hcreate⟩ .nil)
        · rw [List.map_append, hselected.ids]
          rfl
        · show (acc.2 ++ [_]).Nodup
          rw [← List.concat_eq_append]
          exact hselected.nodup.concat hwas
        · exact hsame _ (List.subset_append_left _ _)
            (Or.inr (Or.inl (List.mem_append_right _ (List.mem_singleton_self _))))

/-! ## The dependency graph -/

/-- A selected module requires a selected module. -/
def Requires (manifests : List ModuleManifest) (a b : String) : Prop :=
  ∃ manifest ∈ manifests, manifest.moduleId = a ∧ b ∈ manifest.requiredModules ∧
    b ∈ manifests.map (·.moduleId)

/-- No selected module requires itself, directly or through others. -/
def Acyclic (manifests : List ModuleManifest) : Prop :=
  ∀ id, ¬ Relation.TransGen (Requires manifests) id id

variable {manifests : List ModuleManifest}

/-- Where the ids are distinct, an id has one index. -/
theorem index_unique (hnodup : (manifests.map (·.moduleId)).Nodup) {i j : ℕ} {m m' : ModuleManifest}
    (hi : manifests[i]? = some m) (hj : manifests[j]? = some m') (hid : m.moduleId = m'.moduleId) :
    i = j := by
  obtain ⟨hilt, rfl⟩ := List.getElem?_eq_some_iff.mp hi
  obtain ⟨hjlt, rfl⟩ := List.getElem?_eq_some_iff.mp hj
  have hlen : (manifests.map (·.moduleId)).length = manifests.length := List.length_map _
  refine (@List.Nodup.getElem_inj_iff _ _ hnodup i (hlen ▸ hilt) j (hlen ▸ hjlt)).mp ?_
  rwa [List.getElem_map, List.getElem_map]

/-- The index of the manifests so far: it names only them, and every id of theirs. -/
def Indexed (done : List (ModuleManifest × ℕ)) (index : Std.ExtTreeMap String ℕ) : Prop :=
  (∀ n k, index[n]? = some k → ∃ m, (m, k) ∈ done ∧ m.moduleId = n) ∧
    ∀ item ∈ done, ∃ k, index[item.1.moduleId]? = some k

/-- The index of an id is that of the manifest that has it. -/
theorem indexByModuleId_iff (hnodup : (manifests.map (·.moduleId)).Nodup) (id : String) (i : ℕ) :
    (indexByModuleId manifests)[id]? = some i ↔ ∃ m, manifests[i]? = some m ∧ m.moduleId = id := by
  have hspec : Indexed manifests.zipIdx (indexByModuleId manifests) := by
    refine Runs.foldl_of_append (P := Indexed) ?_ (fun done index item h => ?_) manifests.zipIdx
    · exact ⟨fun n k hk => by simp at hk, by simp⟩
    refine ⟨fun n k hk => ?_, fun other hother => ?_⟩
    · rw [getElem?_insertModule] at hk
      split_ifs at hk with hsame
      · exact ⟨item.1, List.mem_append_right _ (by rw [← Option.some.inj hk]; simp), hsame⟩
      · obtain ⟨m, hm, hid⟩ := h.1 n k hk
        exact ⟨m, List.mem_append_left _ hm, hid⟩
    · rw [getElem?_insertModule]
      split_ifs with hsame
      · exact ⟨item.2, rfl⟩
      · rcases List.mem_append.mp hother with hold | hnew
        · exact h.2 other hold
        · exact absurd (by rw [List.mem_singleton.mp hnew]) hsame
  constructor
  · intro h
    obtain ⟨m, hm, hid⟩ := hspec.1 id i h
    exact ⟨m, List.mem_zipIdx_iff_getElem?.mp hm, hid⟩
  · rintro ⟨m, hm, rfl⟩
    obtain ⟨k, hk⟩ := hspec.2 (m, i) (List.mem_zipIdx_iff_getElem?.mpr hm)
    obtain ⟨m', hm', hid⟩ := hspec.1 _ k hk
    rw [hk, index_unique hnodup hm (List.mem_zipIdx_iff_getElem?.mp hm') hid.symm]

/-- An edge between indices. -/
theorem mem_dependencyIndices (hnodup : (manifests.map (·.moduleId)).Nodup) (i j : ℕ) :
    j ∈ dependencyIndices manifests i ↔ ∃ m m', manifests[i]? = some m ∧ manifests[j]? = some m' ∧
      m'.moduleId ∈ m.requiredModules := by
  rw [dependencyIndices, List.mem_filterMap]
  simp only [indexByModuleId_iff hnodup]
  cases hi : manifests[i]? with
  | none => simp
  | some m =>
    simp only [Option.map_some, Option.getD_some, Option.some.injEq, exists_and_left,
      exists_eq_left']
    exact ⟨fun ⟨_, hmem, m', hm', hid⟩ => ⟨m', hm', hid ▸ hmem⟩,
      fun ⟨m', hm', hmem⟩ => ⟨_, hmem, m', hm', rfl⟩⟩

/-- A path between indices is one between ids. -/
theorem requires_of_edges (hnodup : (manifests.map (·.moduleId)).Nodup) {i j : ℕ}
    (h : Relation.TransGen (Edge (dependencyIndices manifests)) i j) :
    ∃ m m', manifests[i]? = some m ∧ manifests[j]? = some m' ∧
      Relation.TransGen (Requires manifests) m.moduleId m'.moduleId := by
  have hstep : ∀ {i j : ℕ}, Edge (dependencyIndices manifests) i j →
      ∃ m m', manifests[i]? = some m ∧ manifests[j]? = some m' ∧
        Requires manifests m.moduleId m'.moduleId := by
    intro i j hedge
    obtain ⟨m, m', hm, hm', hreq⟩ := (mem_dependencyIndices hnodup i j).mp hedge
    exact ⟨m, m', hm, hm', m, List.mem_of_getElem? hm, rfl, hreq,
      List.mem_map_of_mem (List.mem_of_getElem? hm')⟩
  induction h with
  | single hedge =>
    obtain ⟨m, m', hm, hm', hreq⟩ := hstep hedge
    exact ⟨m, m', hm, hm', .single hreq⟩
  | tail _ hedge ih =>
    obtain ⟨m, m', hm, hm', hpath⟩ := ih
    obtain ⟨k, k', hk, hk', hreq⟩ := hstep hedge
    obtain rfl := Option.some.inj (hm'.symm.trans hk)
    exact ⟨m, k', hm, hk', hpath.tail hreq⟩

/-- A path between ids is one between their indices. -/
theorem edges_of_requires (hnodup : (manifests.map (·.moduleId)).Nodup) {a b : String}
    (h : Relation.TransGen (Requires manifests) a b) :
    ∃ i j m m', manifests[i]? = some m ∧ m.moduleId = a ∧ manifests[j]? = some m' ∧
      m'.moduleId = b ∧ Relation.TransGen (Edge (dependencyIndices manifests)) i j := by
  have hstep : ∀ {a b : String}, Requires manifests a b →
      ∃ i j m m', manifests[i]? = some m ∧ m.moduleId = a ∧ manifests[j]? = some m' ∧
        m'.moduleId = b ∧ Edge (dependencyIndices manifests) i j := by
    rintro a b ⟨m, hm, rfl, hreq, hb⟩
    obtain ⟨i, hi⟩ := List.mem_iff_getElem?.mp hm
    obtain ⟨m', hm', rfl⟩ := List.mem_map.mp hb
    obtain ⟨j, hj⟩ := List.mem_iff_getElem?.mp hm'
    exact ⟨i, j, m, m', hi, rfl, hj, rfl,
      (mem_dependencyIndices hnodup i j).mpr ⟨m, m', hi, hj, hreq⟩⟩
  induction h with
  | single hreq =>
    obtain ⟨i, j, m, m', hi, hm, hj, hm', hedge⟩ := hstep hreq
    exact ⟨i, j, m, m', hi, hm, hj, hm', .single hedge⟩
  | tail _ hreq ih =>
    obtain ⟨i, j, m, m', hi, hm, hj, hm', hpath⟩ := ih
    obtain ⟨k, l, n, n', hk, hn, hl, hn', hedge⟩ := hstep hreq
    obtain rfl := index_unique hnodup hj hk (hm'.trans hn.symm)
    exact ⟨i, l, m, n', hi, hm, hl, hn', hpath.tail hedge⟩

/-- **The search, read on module ids.**  Its order is a permutation of the indices; nothing is
cyclic exactly when the selected modules do not require each other in a cycle; and then every
module comes after those it requires. -/
theorem dependencySearch_spec (hnodup : (manifests.map (·.moduleId)).Nodup) :
    (dependencySearch manifests).order.Perm (List.range manifests.length) ∧
      ((dependencySearch manifests).cyclic = [] ↔ Acyclic manifests) ∧
      ((dependencySearch manifests).cyclic = [] → ∀ i j m m', manifests[i]? = some m →
        manifests[j]? = some m' → m'.moduleId ∈ m.requiredModules →
        Precedes (dependencySearch manifests).order j i) := by
  have hlt : ∀ {i : ℕ} {m : ModuleManifest}, manifests[i]? = some m → i < manifests.length :=
    fun h => (List.getElem?_eq_some_iff.mp h).1
  have hclosed : ∀ i ∈ List.range manifests.length, ∀ j ∈ dependencyIndices manifests i,
      j ∈ List.range manifests.length := by
    intro i _ j hj
    obtain ⟨-, m', -, hm', -⟩ := (mem_dependencyIndices hnodup i j).mp hj
    exact List.mem_range.mpr (hlt hm')
  have hfuel : (List.range manifests.length).length < manifests.length + 1 := by
    rw [List.length_range]
    omega
  obtain ⟨hperm, hcyclic, hbehind⟩ := search_spec hclosed List.nodup_range hfuel
  refine ⟨hperm, hcyclic.trans ⟨fun h id hpath => ?_, fun h i _ hpath => ?_⟩,
    fun hnil i j m m' hi hj hreq => ?_⟩
  · obtain ⟨i, j, m, m', hi, hm, hj, hm', hedges⟩ := edges_of_requires hnodup hpath
    obtain rfl := index_unique hnodup hi hj (hm.trans hm'.symm)
    exact h i (List.mem_range.mpr (hlt hi)) hedges
  · obtain ⟨m, m', hm, hm', hreq⟩ := requires_of_edges hnodup hpath
    obtain rfl := Option.some.inj (hm.symm.trans hm')
    exact h _ hreq
  · exact hbehind hnil i (List.mem_range.mpr (hlt hi)) j
      ((mem_dependencyIndices hnodup i j).mpr ⟨m, m', hi, hj, hreq⟩)

theorem missingDependencies_eq_nil (manifests : List ModuleManifest) (ids : List String) :
    missingDependencies manifests ids = [] ↔
      ∀ manifest ∈ manifests, ∀ dependency ∈ manifest.requiredModules, dependency ∈ ids := by
  simp [missingDependencies, List.flatMap_eq_nil_iff]

/-! ## The sort -/

/-- Picking the same positions of two lists keeps what corresponds. -/
theorem forall₂_pick {α β : Type} {R : α → β → Prop} {l : List α} {l' : List β}
    (h : List.Forall₂ R l l') (order : List ℕ) :
    List.Forall₂ R (order.filterMap (l[·]?)) (order.filterMap (l'[·]?)) := by
  obtain ⟨hlen, hget⟩ := List.forall₂_iff_get.mp h
  induction order with
  | nil => exact .nil
  | cons i order ih =>
    by_cases hi : i < l.length
    · have hi' : i < l'.length := hlen ▸ hi
      rw [List.filterMap_cons_some (List.getElem?_eq_getElem hi),
        List.filterMap_cons_some (List.getElem?_eq_getElem hi')]
      exact .cons (hget i hi hi') ih
    · have hi' : ¬ i < l'.length := hlen ▸ hi
      rwa [List.filterMap_cons_none (List.getElem?_eq_none (Nat.not_lt.mp hi)),
        List.filterMap_cons_none (List.getElem?_eq_none (Nat.not_lt.mp hi'))]

/-- All positions of a list. -/
theorem range_pick {α : Type} (l : List α) :
    (List.range l.length).filterMap (l[·]?) = l := by
  induction l with
  | nil => rfl
  | cons a l ih =>
    have hfirst : (fun i => (a :: l)[i]?) 0 = some a := rfl
    rw [List.length_cons, List.range_succ_eq_map, List.filterMap_cons_some hfirst,
      List.filterMap_map]
    exact congrArg (a :: ·) ih

/-- **What sorting by the search leaves**: the same manifests, each with its module, and where
nothing is cyclic, each after those it requires. -/
theorem sort_spec {R : M → ModuleManifest → Prop} {result : ModuleCompositionResult M}
    (hpaired : List.Forall₂ R result.modules result.manifests)
    (hnodup : (result.manifests.map (·.moduleId)).Nodup) :
    let sorted := sortByDependency result (dependencySearch result.manifests).order
    List.Forall₂ R sorted.modules sorted.manifests ∧ sorted.manifests.Perm result.manifests ∧
      (Acyclic result.manifests → ∀ manifest ∈ result.manifests,
        ∀ dependency ∈ manifest.requiredModules,
        dependency ∈ result.manifests.map (·.moduleId) →
        Precedes (sorted.manifests.map (·.moduleId)) dependency manifest.moduleId) := by
  obtain ⟨hperm, hcyclic, hbehind⟩ := dependencySearch_spec hnodup
  have hlength : (dependencySearch result.manifests).order.length = result.manifests.length := by
    rw [hperm.length_eq, List.length_range]
  intro sorted
  have hsorted : sorted = { result with
      manifests := (dependencySearch result.manifests).order.filterMap (result.manifests[·]?)
      modules := (dependencySearch result.manifests).order.filterMap (result.modules[·]?) } :=
    if_pos hlength
  rw [hsorted]
  refine ⟨forall₂_pick hpaired _, ?_, fun hacyclic m hm dependency hreq hselected => ?_⟩
  · have hpick := hperm.filterMap (result.manifests[·]?)
    rwa [range_pick] at hpick
  · obtain ⟨m', hm', rfl⟩ := List.mem_map.mp hselected
    obtain ⟨i, hi⟩ := List.mem_iff_getElem?.mp hm
    obtain ⟨j, hj⟩ := List.mem_iff_getElem?.mp hm'
    have horder := hbehind (hcyclic.mpr hacyclic) i j m m' hi hj hreq
    have hpicked : [m', m].Sublist
        ((dependencySearch result.manifests).order.filterMap (result.manifests[·]?)) := by
      have hsub := horder.filterMap (result.manifests[·]?)
      rwa [List.filterMap_cons_some hj, List.filterMap_cons_some hi, List.filterMap_nil] at hsub
    exact hpicked.map (·.moduleId)

/-- A permutation of the manifests has the same graph. -/
theorem requires_perm {manifests' : List ModuleManifest} (hperm : manifests'.Perm manifests) :
    Requires manifests' = Requires manifests := by
  ext a b
  simp only [Requires, hperm.mem_iff, (hperm.map _).mem_iff]

/-- The manifest a requested id resolves to is blocked: a constraint is against a requested id that
resolves to a manifest with the same module id. -/
def VersionBlocked (composer : ModuleComposer M) (request : ModuleCompositionRequest)
    (moduleId : String) : Prop :=
  ∃ requested ∈ request.requiredModules, ∃ factory,
    composer.Resolves request.createOptions requested factory ∧
      (factory.manifest request.createOptions).moduleId = moduleId ∧
      ∃ constraint ∈ request.versionConstraints,
        violates requested (factory.manifest request.createOptions) constraint = true

/-- What becomes of a requested id. -/
def Accounted (composer : ModuleComposer M) (request : ModuleCompositionRequest)
    (result : ModuleCompositionResult M) (requested : String) : Prop :=
  requested ∈ result.missingModules ∨
    ∃ factory, composer.Resolves request.createOptions requested factory ∧
      (composer.VersionBlocked request (factory.manifest request.createOptions).moduleId ∨
        (factory.manifest request.createOptions).moduleId ∈ result.manifests.map (·.moduleId) ∨
        factory.create request.createOptions = none)

/-- What the three filtering passes leave for the sort. -/
theorem exists_selected (composer : ModuleComposer M) (request : ModuleCompositionRequest) :
    ∃ selected : ModuleCompositionResult M,
      List.Forall₂ (fun module manifest => ∃ factory ∈ composer.factories,
        factory.manifest request.createOptions = manifest ∧
        factory.create request.createOptions = some module)
        selected.modules selected.manifests ∧
      (selected.manifests.map (·.moduleId)).Nodup ∧
      (∀ requested ∈ request.requiredModules, composer.Accounted request selected requested) ∧
      composer.compose request = sortByDependency
        { selected with
          dependencyFailures :=
            missingDependencies selected.manifests (selected.manifests.map (·.moduleId)) ++
              cyclicDependencies selected.manifests (dependencySearch selected.manifests).cyclic }
        (dependencySearch selected.manifests).order := by
  have hresolved := composer.resolve_spec request.createOptions request.requiredModules
  have heq : composer.compose request = composer.compose request := rfl
  conv_rhs at heq => unfold compose
  dsimp only at heq
  generalize request.requiredModules.foldl (composer.resolve request.createOptions) ({}, []) =
    resolved at hresolved heq
  have hblocked := block_spec request.versionConstraints resolved.2 resolved.1
  generalize resolved.2.foldl (block request.versionConstraints) (resolved.1, []) =
    blocked at hblocked heq
  have hselected := composer.select_spec request.createOptions blocked.2 hresolved.pendingFor
    ⟨hblocked.manifests.trans hresolved.nothing.1, hblocked.modules.trans hresolved.nothing.2⟩
  generalize resolved.2.foldl (select request.createOptions blocked.2) (blocked.1, []) =
    selected at hselected heq
  refine ⟨selected.1, hselected.paired, ?_, fun requested hrequested => ?_, ?_⟩
  · rw [hselected.ids]
    exact hselected.nodup
  · rcases hresolved.all requested hrequested with hmissing | ⟨selection, hmem, rfl⟩
    · refine Or.inl (hselected.kept ?_)
      rwa [hblocked.missing]
    · obtain ⟨-, hresolves, hmanifest⟩ := hresolved.pendingFor selection hmem
      refine Or.inr ⟨selection.factory, hresolves, ?_⟩
      rw [← hmanifest, hselected.ids]
      refine (hselected.all selection hmem).imp_left fun hmember => ?_
      obtain ⟨other, hother, hid, constraint, hconstraint, hviolates⟩ :=
        (hblocked.mem_blocked _).mp hmember
      obtain ⟨hrequested', hresolves', hmanifest'⟩ := hresolved.pendingFor other hother
      rw [hmanifest'] at hid hviolates
      exact ⟨_, hrequested', _, hresolves', hid, constraint, hconstraint, hviolates⟩
  · rw [hselected.ids]
    exact heq

/-- **Composition.**  The modules and the manifests correspond position by position, and the module
ids are distinct.  Every requested id is missing, or resolves to a manifest that is blocked or
selected, or whose factory failed.  There are no dependency failures exactly when every required
module is selected and there is no cycle; and then every module comes after those it requires. -/
theorem compose_spec (composer : ModuleComposer M) (request : ModuleCompositionRequest) :
    let result := composer.compose request
    List.Forall₂ (fun module manifest => ∃ factory ∈ composer.factories,
        factory.manifest request.createOptions = manifest ∧
        factory.create request.createOptions = some module) result.modules result.manifests ∧
      (result.manifests.map (·.moduleId)).Nodup ∧
      (∀ requested ∈ request.requiredModules, composer.Accounted request result requested) ∧
      (result.dependencyFailures = [] ↔
        (∀ manifest ∈ result.manifests, ∀ dependency ∈ manifest.requiredModules,
          dependency ∈ result.manifests.map (·.moduleId)) ∧ Acyclic result.manifests) ∧
      (result.dependencyFailures = [] →
        ∀ manifest ∈ result.manifests, ∀ dependency ∈ manifest.requiredModules,
          Precedes (result.manifests.map (·.moduleId)) dependency manifest.moduleId) := by
  obtain ⟨selected, hpaired, hnodup, haccounted, hcompose⟩ := composer.exists_selected request
  intro result
  set failures := missingDependencies selected.manifests (selected.manifests.map (·.moduleId)) ++
    cyclicDependencies selected.manifests (dependencySearch selected.manifests).cyclic with hfailures
  obtain ⟨hpaired', hperm, hbehind⟩ :=
    @sort_spec M _ { selected with dependencyFailures := failures } hpaired hnodup
  rw [← hcompose] at hpaired' hperm hbehind
  have hids : (result.manifests.map (·.moduleId)).Perm (selected.manifests.map (·.moduleId)) :=
    hperm.map _
  have hother : result.dependencyFailures = failures ∧
      result.missingModules = selected.missingModules := by
    show (composer.compose request).dependencyFailures = _ ∧
      (composer.compose request).missingModules = _
    rw [hcompose]
    unfold sortByDependency
    split_ifs
    · exact ⟨rfl, rfl⟩
    · exact ⟨rfl, rfl⟩
  have hnone : result.dependencyFailures = [] ↔
      (∀ manifest ∈ selected.manifests, ∀ dependency ∈ manifest.requiredModules,
        dependency ∈ selected.manifests.map (·.moduleId)) ∧ Acyclic selected.manifests := by
    rw [hother.1, hfailures, List.append_eq_nil_iff, missingDependencies_eq_nil,
      cyclicDependencies, List.map_eq_nil_iff, (dependencySearch_spec hnodup).2.1]
  refine ⟨hpaired', hids.nodup_iff.mpr hnodup, fun requested hrequested => ?_, ?_,
    fun hnil m hm dependency hreq => ?_⟩
  · refine (haccounted requested hrequested).imp (fun h => hother.2 ▸ h) fun h => ?_
    obtain ⟨factory, hresolves, h⟩ := h
    exact ⟨factory, hresolves, h.imp_right fun h => h.imp_left fun h => hids.mem_iff.mpr h⟩
  · rw [hnone, Acyclic, Acyclic, requires_perm hperm]
    refine and_congr_left fun _ => ⟨fun h m hm dependency hreq => ?_,
      fun h m hm dependency hreq => ?_⟩
    · exact hids.mem_iff.mpr (h m (hperm.mem_iff.mp hm) dependency hreq)
    · exact hids.mem_iff.mp (h m (hperm.mem_iff.mpr hm) dependency hreq)
  · obtain ⟨hall, hacyclic⟩ := hnone.mp hnil
    have hm' : m ∈ selected.manifests := hperm.mem_iff.mp hm
    exact hbehind hacyclic m hm' dependency hreq (hall m hm' dependency hreq)

end ModuleComposer

end Module
end FusionDesk
