import FusionDesk.General.Grouping
import FusionDesk.Module.FeatureModule
import FusionDesk.Network.RegistryRuns
import FusionDesk.Session.Session

/-!
# The link channel binding report

`src/runtime/session/link_channel_binding_report.cpp`: one item for each channel that is registered
or that a module requires, and whether a module is blocked by a channel that is not ready.  The
manifests have no names of bindings here, and an item has no name.

* `keyed_run`: a registry has each specification under its own key, and the key a channel id.
* `foldl_requireBinding`: what the manifests make of the item under a key, one manifest after the
  other.
* `getElem?_bindingItems`: the items before the last loop.
* `bindingReport_exact`: which channels the report is about, what it says of each, and that it is in
  order exactly if every channel that a module requires is ready.
-/

namespace FusionDesk

open Protocol Network
open FusionDesk.Module

namespace Session

/-! ## The report -/

structure LinkChannelBindingReportOptions where
  listeningChannels : List ChannelKey := []

structure LinkChannelBindingItem where
  key : ChannelKey := {}
  ownerModuleId : String := ""
  profileMinimum : Bool := false
  moduleRequired : Bool := false
  requiredByModules : List String := []
  registered : Bool := false
  listening : Bool := false
  bound : Bool := false
  ready : Bool := false
  degraded : Bool := false
  closed : Bool := false
  failed : Bool := false
  blocked : Bool := false
  lifecycle : ChannelLifecycleState := .registered
  pressure : ChannelPressure := {}
  readyInfo : ChannelReadyInfo := {}
  message : String := ""
  deriving DecidableEq, Repr

structure LinkChannelBindingReport where
  ok : Bool := false
  sessionId : SessionId := 0
  channels : List LinkChannelBindingItem := []
  messages : List String := []

def itemFromSnapshot (snapshot : ChannelSnapshot) : LinkChannelBindingItem where
  key := snapshot.spec.key
  ownerModuleId := snapshot.spec.ownerModuleId
  profileMinimum := snapshot.spec.required
  registered := snapshot.spec.key.channelId != 0
  bound := snapshot.bound
  ready := snapshot.ready
  lifecycle := snapshot.state
  pressure := snapshot.pressure
  readyInfo := snapshot.readyInfo
  message := snapshot.message
  degraded := snapshot.state == .degraded
  closed := snapshot.state == .closed
  failed := snapshot.state == .failed

def blockedMessage (item : LinkChannelBindingItem) : String :=
  if item.registered = false then "required module channel spec is missing"
  else if item.failed then "required module channel failed"
  else if item.closed then "required module channel is closed"
  else if item.degraded then "required module channel is degraded"
  else if item.listening && !item.bound then
    "channel is listening but no accepted or connected transport is ready"
  else if item.bound = false then "required module channel is not bound"
  else "required module channel is not ready"

def mergeRequiredBinding (item : LinkChannelBindingItem) (manifest : ModuleManifest) :
    LinkChannelBindingItem :=
  { item with
    moduleRequired := true
    requiredByModules :=
      if manifest.moduleId ∈ item.requiredByModules then item.requiredByModules
      else item.requiredByModules ++ [manifest.moduleId] }

/-- `items[key]` with the key filled in, and the binding merged into it. -/
def requireBinding (found : Option LinkChannelBindingItem)
    (required : ModuleManifest × ChannelBinding) : LinkChannelBindingItem :=
  mergeRequiredBinding { found.getD {} with key := required.2.key } required.1

/-- The loop over the manifests: the bindings that are required, in its order. -/
def requiredBindings (manifests : List ModuleManifest) : List (ModuleManifest × ChannelBinding) :=
  manifests.flatMap fun manifest =>
    (manifest.channels.filter (·.required)).map fun binding => (manifest, binding)

/-- `ChannelRegistry::snapshots`. -/
def snapshots (registry : ChannelRegistry) : List ChannelSnapshot :=
  registry.entries.toList.map fun entry => entry.2.snapshot

/-- The items before the last loop. -/
def bindingItems (registry : ChannelRegistry) (manifests : List ModuleManifest) :
    Std.ExtTreeMap ChannelKey LinkChannelBindingItem :=
  Grouping.mergeInto (fun required => required.2.key) requireBinding
    (Grouping.mergeInto (fun snapshot : ChannelSnapshot => snapshot.spec.key)
      (fun _ snapshot => itemFromSnapshot snapshot) ∅ (snapshots registry))
    (requiredBindings manifests)

/-- What the last loop makes of an item. -/
def finishItem (options : LinkChannelBindingReportOptions) (item : LinkChannelBindingItem) :
    LinkChannelBindingItem :=
  let item := { item with listening := options.listeningChannels.contains item.key }
  let item := { item with blocked := item.moduleRequired && !item.ready }
  { item with
    message :=
      if item.blocked = true ∧ item.message = "" then blockedMessage item else item.message }

variable {M H : Type} [IModule M]

/-- `ModuleHost::manifests`. -/
def hostManifests (host : ModuleHost M H) : List ModuleManifest :=
  host.moduleOrder.filterMap fun id => (host.module id).map IModule.manifest

/-- The manifests of a session, none without a host. -/
def manifestsOf (network : SessionNetwork M H) : List ModuleManifest :=
  network.moduleHost.elim [] fun world => hostManifests world.host

def buildLinkChannelBindingReport (session : Session M H)
    (options : LinkChannelBindingReportOptions) : LinkChannelBindingReport :=
  match session.network with
  | none => {
      sessionId := session.context.sessionId
      messages := ["session network is missing"] }
  | some network =>
    let channels := (bindingItems network.manager.registry (manifestsOf network)).toList.map
      fun entry => finishItem options entry.2
    { ok := !channels.any (·.blocked)
      sessionId := session.context.sessionId
      channels := channels }

/-! ## The registered channels -/

/-- Each specification is under its own key, and the key has a channel id. -/
def Keyed (registry : ChannelRegistry) : Prop :=
  ∀ key entry, registry.find key = some entry →
    entry.snapshot.spec.key = key ∧ key.channelId ≠ 0

theorem Keyed.put {registry : ChannelRegistry} (h : Keyed registry) {key : ChannelKey}
    {entry : ChannelEntry} (hentry : entry.snapshot.spec.key = key ∧ key.channelId ≠ 0) :
    Keyed (registry.put key entry) := by
  intro key' entry' hfind
  rw [ChannelRegistry.find_put] at hfind
  by_cases hkey : key = key'
  · rw [if_pos hkey, Option.some_inj] at hfind
    rw [← hfind, ← hkey]
    exact hentry
  · rw [if_neg hkey] at hfind
    exact h key' entry' hfind

theorem Keyed.registerSpec {registry : ChannelRegistry} (h : Keyed registry)
    (spec : ChannelSpec) : Keyed (registry.registerSpec spec).2 := by
  unfold ChannelRegistry.registerSpec
  split_ifs with hid
  · exact h
  · exact h
  · exact h.put ⟨rfl, hid⟩

theorem Keyed.bind {registry : ChannelRegistry} (h : Keyed registry) (key : ChannelKey)
    (channel : Option IChannel) : Keyed (registry.bind key channel).2 := by
  unfold ChannelRegistry.bind
  cases hfind : registry.find key with
  | none => exact h
  | some entry =>
    cases channel with
    | none => exact h
    | some channel => exact h.put (h key entry hfind)

theorem Keyed.unbind {registry : ChannelRegistry} (h : Keyed registry) (key : ChannelKey)
    (reason : String) : Keyed (registry.unbind key reason) := by
  unfold ChannelRegistry.unbind
  cases hfind : registry.find key with
  | none => exact h
  | some entry => exact h.put (h key entry hfind)

theorem Keyed.markReady {registry : ChannelRegistry} (h : Keyed registry) (transport : Transport)
    (key : ChannelKey) (ready : ChannelReadyInfo) :
    Keyed (registry.markReady transport key ready).2 := by
  unfold ChannelRegistry.markReady
  cases hfind : registry.find key with
  | none => exact h
  | some entry =>
    dsimp only
    split_ifs
    · exact h.put (h key entry hfind)
    · exact h

theorem Keyed.markNotReady {registry : ChannelRegistry} (h : Keyed registry)
    (state : ChannelLifecycleState) (key : ChannelKey) (reason : String) :
    Keyed (registry.markNotReady state key reason).2 := by
  unfold ChannelRegistry.markNotReady
  cases hfind : registry.find key with
  | none => exact h
  | some entry => exact h.put (h key entry hfind)

theorem Keyed.updatePressure {registry : ChannelRegistry} (h : Keyed registry) (key : ChannelKey)
    (pressure : ChannelPressure) : Keyed (registry.updatePressure key pressure).2 := by
  unfold ChannelRegistry.updatePressure
  cases hfind : registry.find key with
  | none => exact h
  | some entry => exact h.put (h key entry hfind)

/-- No call takes a specification from its key. -/
theorem Keyed.step {registry : ChannelRegistry} (h : Keyed registry)
    (moment : Transport × RegistryOp) : Keyed (registry.step moment) := by
  obtain ⟨transport, op⟩ := moment
  cases op with
  | registerSpec spec => exact h.registerSpec spec
  | bind key channel => exact h.bind key channel
  | unbind key reason => exact h.unbind key reason
  | markReady key ready => exact h.markReady transport key ready
  | markDegraded key reason => exact h.markNotReady .degraded key reason
  | markFailed key reason => exact h.markNotReady .failed key reason
  | updatePressure key pressure => exact h.updatePressure key pressure

theorem keyed_run (capabilities : Network.NegotiatedCapabilities)
    (moments : List (Transport × RegistryOp)) :
    Keyed (ChannelRegistry.run capabilities moments) := by
  refine Runs.run_invariant ?_ (fun registry moment h => h.step moment) moments
  intro key entry hfind
  simp [ChannelRegistry.find] at hfind

/-- The snapshots under a key are the one of its entry. -/
theorem Keyed.mem_under {registry : ChannelRegistry} (h : Keyed registry) {key : ChannelKey}
    {snapshot : ChannelSnapshot} :
    snapshot ∈ Grouping.under (fun snapshot : ChannelSnapshot => snapshot.spec.key)
        (snapshots registry) key ↔
      ∃ entry, registry.find key = some entry ∧ entry.snapshot = snapshot := by
  rw [Grouping.mem_under, snapshots, List.mem_map]
  constructor
  · rintro ⟨⟨⟨key', entry⟩, hentry, rfl⟩, hkey⟩
    have hfind : registry.find key' = some entry :=
      Std.ExtTreeMap.mem_toList_iff_getElem?_eq_some.mp hentry
    obtain rfl : key' = key := (h key' entry hfind).1.symm.trans hkey
    exact ⟨entry, hfind, rfl⟩
  · rintro ⟨entry, hfind, rfl⟩
    exact ⟨⟨(key, entry), Std.ExtTreeMap.mem_toList_iff_getElem?_eq_some.mpr hfind, rfl⟩,
      (h key entry hfind).1⟩

/-- The item of the snapshot under a key. -/
def registryItem (registry : ChannelRegistry) (key : ChannelKey) : Option LinkChannelBindingItem :=
  (registry.find key).map fun entry => itemFromSnapshot entry.snapshot

/-- The loop over the snapshots: an item for each of them. -/
theorem Keyed.getElem?_snapshotItems {registry : ChannelRegistry} (h : Keyed registry)
    (key : ChannelKey) :
    (Grouping.mergeInto (fun snapshot : ChannelSnapshot => snapshot.spec.key)
      (fun _ snapshot => itemFromSnapshot snapshot) ∅ (snapshots registry))[key]? =
      registryItem registry key := by
  rw [Grouping.getElem?_mergeInto, Std.ExtTreeMap.getElem?_empty]
  have hmem := fun snapshot => @Keyed.mem_under registry h key snapshot
  generalize Grouping.under _ (snapshots registry) key = under at hmem
  unfold registryItem
  cases under using List.reverseRecOn with
  | nil =>
    cases hfind : registry.find key with
    | none => rfl
    | some entry => cases (hmem entry.snapshot).mpr ⟨entry, hfind, rfl⟩
  | append_singleton under snapshot =>
    obtain ⟨entry, hfind, rfl⟩ := (hmem snapshot).mp (by simp)
    rw [List.foldl_concat, hfind]
    rfl

/-! ## What the manifests make of an item -/

/-- The modules that require a channel, in the order of the manifests. -/
def requirers (key : ChannelKey) (manifests : List ModuleManifest) : List String :=
  (manifests.filter fun manifest =>
    manifest.channels.any fun binding => binding.required && binding.key == key).map (·.moduleId)

/-- An item once the modules `ids` require it as well. -/
def requiredItem (found : Option LinkChannelBindingItem) (key : ChannelKey) (ids : List String) :
    Option LinkChannelBindingItem :=
  if ids = [] then found
  else some { found.getD {} with
    key := key
    moduleRequired := true
    requiredByModules := (found.getD {}).requiredByModules ++ ids }

theorem requiredItem_append (found : Option LinkChannelBindingItem) (key : ChannelKey)
    (ids more : List String) :
    requiredItem (requiredItem found key ids) key more = requiredItem found key (ids ++ more) := by
  unfold requiredItem
  by_cases hids : ids = []
  · rw [if_pos hids, hids, List.nil_append]
  · by_cases hmore : more = []
    · rw [if_pos hmore, hmore, List.append_nil]
    · simp [hids, hmore]

/-- The bindings of one manifest to one channel: the module is put down once. -/
theorem foldl_requireBinding_manifest {found : Option LinkChannelBindingItem} {key : ChannelKey}
    {manifest : ModuleManifest} (bindings : List ChannelBinding)
    (hkey : ∀ binding ∈ bindings, binding.key = key)
    (hnew : manifest.moduleId ∉ (found.getD {}).requiredByModules) :
    (bindings.map fun binding => (manifest, binding)).foldl
        (fun found required => some (requireBinding found required)) found =
      requiredItem found key (if bindings = [] then [] else [manifest.moduleId]) := by
  induction bindings using List.reverseRecOn with
  | nil => rfl
  | append_singleton bindings binding ih =>
    have hsome : bindings ++ [binding] ≠ [] := List.concat_ne_nil binding bindings
    rw [List.map_append, List.map_singleton, List.foldl_concat,
      ih fun b hb => hkey b (List.mem_append_left _ hb), if_neg hsome]
    obtain rfl : binding.key = key := hkey binding (by simp)
    by_cases hnone : bindings = []
    · simp [hnone, requiredItem, requireBinding, mergeRequiredBinding, hnew]
    · simp [hnone, requiredItem, requireBinding, mergeRequiredBinding]

/-- The required bindings to one channel, manifest by manifest. -/
theorem under_requiredBindings (manifests : List ModuleManifest) (key : ChannelKey) :
    Grouping.under (fun required : ModuleManifest × ChannelBinding => required.2.key)
        (requiredBindings manifests) key =
      manifests.flatMap fun manifest =>
        (manifest.channels.filter fun binding => binding.required && binding.key == key).map
          fun binding => (manifest, binding) := by
  unfold Grouping.under requiredBindings
  rw [List.filter_flatMap]
  refine congrArg List.flatten (List.map_congr_left fun manifest _ => ?_)
  rw [List.filter_map, List.filter_filter]
  refine congrArg _ (List.filter_congr fun binding _ => ?_)
  simp [Bool.and_comm, beq_eq_decide]

theorem requirers_concat (key : ChannelKey) (manifests : List ModuleManifest)
    (manifest : ModuleManifest) :
    requirers key (manifests ++ [manifest]) = requirers key manifests ++
      if (manifest.channels.filter fun binding => binding.required && binding.key == key) = [] then
        []
      else [manifest.moduleId] := by
  rw [requirers, List.filter_append, List.map_append, requirers, List.filter_singleton]
  refine congrArg _ ?_
  cases hany : manifest.channels.any fun binding => binding.required && binding.key == key with
  | false =>
    rw [if_pos]
    · rfl
    · rw [List.filter_eq_nil_iff]
      intro binding hbinding hboth
      rw [List.any_eq_true.mpr ⟨binding, hbinding, hboth⟩] at hany
      cases hany
  | true =>
    obtain ⟨binding, hbinding, hboth⟩ := List.any_eq_true.mp hany
    rw [if_neg]
    · rfl
    · intro hnone
      exact List.filter_eq_nil_iff.mp hnone binding hbinding hboth

theorem mem_requirers {key : ChannelKey} {manifests : List ModuleManifest} {id : String} :
    id ∈ requirers key manifests ↔
      ∃ manifest ∈ manifests, manifest.moduleId = id ∧
        ∃ binding ∈ manifest.channels, binding.required = true ∧ binding.key = key := by
  simp only [requirers, List.mem_map, List.mem_filter, List.any_eq_true, Bool.and_eq_true,
    beq_iff_eq]
  constructor
  · rintro ⟨manifest, ⟨hmem, hbinding⟩, hid⟩
    exact ⟨manifest, hmem, hid, hbinding⟩
  · rintro ⟨manifest, hmem, hid, hbinding⟩
    exact ⟨manifest, ⟨hmem, hbinding⟩, hid⟩

/-- **What the manifests make of the item under a key**: the modules that require the channel are
put down after those that are there, each once. -/
theorem foldl_requireBinding {found : Option LinkChannelBindingItem} {key : ChannelKey}
    {manifests : List ModuleManifest} (hids : (manifests.map (·.moduleId)).Nodup)
    (hnew : ∀ manifest ∈ manifests,
      manifest.moduleId ∉ (found.getD {}).requiredByModules) :
    (Grouping.under (fun required : ModuleManifest × ChannelBinding => required.2.key)
        (requiredBindings manifests) key).foldl
        (fun found required => some (requireBinding found required)) found =
      requiredItem found key (requirers key manifests) := by
  rw [under_requiredBindings]
  induction manifests using List.reverseRecOn with
  | nil => rfl
  | append_singleton manifests manifest ih =>
    rw [List.map_append, List.nodup_append] at hids
    obtain ⟨hbefore, -, hother⟩ := hids
    rw [List.flatMap_append, List.foldl_append,
      ih hbefore fun m hm => hnew m (List.mem_append_left _ hm), List.flatMap_singleton,
      @foldl_requireBinding_manifest _ key _ _ ?_ ?_, requiredItem_append, requirers_concat]
    · intro binding hbinding
      have hboth := (List.mem_filter.mp hbinding).2
      rw [Bool.and_eq_true, beq_iff_eq] at hboth
      exact hboth.2
    · -- the module has not been put down by another manifest
      intro hmem
      have hfound := hnew manifest (by simp)
      unfold requiredItem at hmem
      split_ifs at hmem
      · exact hfound hmem
      · obtain hmem | hmem := List.mem_append.mp hmem
        · exact hfound hmem
        · obtain ⟨m, hm, hid, -⟩ := mem_requirers.mp hmem
          exact hother _ (List.mem_map_of_mem hm) _ (by simp) hid

/-- **The items before the last loop**: what the registry has under the key, and the modules that
require it. -/
theorem getElem?_bindingItems {registry : ChannelRegistry} (h : Keyed registry)
    {manifests : List ModuleManifest} (hids : (manifests.map (·.moduleId)).Nodup)
    (key : ChannelKey) :
    (bindingItems registry manifests)[key]? =
      requiredItem (registryItem registry key) key (requirers key manifests) := by
  rw [bindingItems, Grouping.getElem?_mergeInto, h.getElem?_snapshotItems]
  refine foldl_requireBinding hids fun manifest _ => ?_
  cases hfind : registry.find key <;> simp [registryItem, hfind, itemFromSnapshot]

/-! ## What the report says -/

/-- What an item says of the channel and of the modules that require it. -/
structure ItemExact (registry : ChannelRegistry) (manifests : List ModuleManifest)
    (item : LinkChannelBindingItem) : Prop where
  registered : item.registered = (registry.find item.key).isSome
  ready : item.ready = (registry.find item.key).any (·.snapshot.ready)
  bound : item.bound = (registry.find item.key).any (·.snapshot.bound)
  requiredByModules : item.requiredByModules = requirers item.key manifests
  moduleRequired : item.moduleRequired = true ↔ item.requiredByModules ≠ []
  /-- A message of the registry is not written over. -/
  message : ∀ entry, registry.find item.key = some entry → entry.snapshot.message ≠ "" →
    item.message = entry.snapshot.message

theorem itemExact_requiredItem {registry : ChannelRegistry} (h : Keyed registry)
    {manifests : List ModuleManifest} {key : ChannelKey} {item : LinkChannelBindingItem}
    (hitem : requiredItem (registryItem registry key) key (requirers key manifests) = some item) :
    item.key = key ∧ ItemExact registry manifests item := by
  unfold requiredItem registryItem at hitem
  cases hfind : registry.find key with
  | none =>
    rw [hfind] at hitem
    split_ifs at hitem with hnone
    · cases hitem
    · cases hitem
      exact ⟨rfl, by simp [hfind], by simp [hfind], by simp [hfind], by simp, by simp [hnone],
        by simp [hfind]⟩
  | some entry =>
    obtain ⟨hkey, hid⟩ := h key entry hfind
    rw [hfind] at hitem
    split_ifs at hitem with hnone
    · cases hitem
      refine ⟨hkey, ?_, ?_, ?_, ?_, ?_, ?_⟩ <;>
        simp [itemFromSnapshot, hkey, hfind, hid, hnone]
    · cases hitem
      refine ⟨rfl, ?_, ?_, ?_, ?_, ?_, ?_⟩ <;>
        simp [itemFromSnapshot, hkey, hfind, hid, hnone]

/-- What an item says once the last loop is through with it. -/
structure FinishedExact (registry : ChannelRegistry) (manifests : List ModuleManifest)
    (options : LinkChannelBindingReportOptions) (item : LinkChannelBindingItem) : Prop
    extends ItemExact registry manifests item where
  listening : item.listening = true ↔ item.key ∈ options.listeningChannels
  /-- It is blocked if a module requires it and it is not ready. -/
  blocked : item.blocked = true ↔ item.requiredByModules ≠ [] ∧ item.ready = false
  /-- And then it says why. -/
  why : item.blocked = true → item.message ≠ ""

theorem blockedMessage_ne (item : LinkChannelBindingItem) : blockedMessage item ≠ "" := by
  unfold blockedMessage
  split_ifs <;> decide

/-- The last loop adds to what an item says and takes nothing back. -/
theorem ItemExact.finishItem {registry : ChannelRegistry} {manifests : List ModuleManifest}
    {item : LinkChannelBindingItem} (h : ItemExact registry manifests item)
    (options : LinkChannelBindingReportOptions) :
    FinishedExact registry manifests options (finishItem options item) where
  registered := h.registered
  ready := h.ready
  bound := h.bound
  requiredByModules := h.requiredByModules
  moduleRequired := h.moduleRequired
  message entry hfind hne := by
    have hmessage := h.message entry hfind hne
    rw [← hmessage] at hne ⊢
    unfold Session.finishItem
    simp [hne]
  listening := by simp [Session.finishItem]
  blocked := by
    have hrequired := h.moduleRequired
    simp only [Session.finishItem, Bool.and_eq_true, hrequired, Bool.not_eq_true']
  why hblocked := by
    by_cases hmessage : item.message = ""
    · have hwhy := blockedMessage_ne
        { item with
          listening := options.listeningChannels.contains item.key
          blocked := item.moduleRequired && !item.ready }
      unfold Session.finishItem at hblocked ⊢
      dsimp only at hblocked ⊢
      rw [if_pos ⟨hblocked, hmessage⟩]
      exact hwhy
    · unfold Session.finishItem
      simp [hmessage]

/-- What a report on a registry and the manifests of the modules says. -/
structure ReportExact (registry : ChannelRegistry) (manifests : List ModuleManifest)
    (options : LinkChannelBindingReportOptions) (report : LinkChannelBindingReport) : Prop where
  /-- It is about the channels that are registered or required, -/
  mem_iff : ∀ key, key ∈ report.channels.map (·.key) ↔
    (registry.find key).isSome = true ∨ requirers key manifests ≠ []
  /-- each once and in their order. -/
  ascending : report.channels.Pairwise fun a b => compare a.key b.key = .lt
  finished : ∀ item ∈ report.channels, FinishedExact registry manifests options item
  /-- It is in order exactly if every channel that a module requires is ready. -/
  ok_iff : report.ok = true ↔ ∀ manifest ∈ manifests, ∀ binding ∈ manifest.channels,
    binding.required = true →
      ∃ entry, registry.find binding.key = some entry ∧ entry.snapshot.ready = true

/-- Which items there are under which key. -/
theorem mem_bindingItems {registry : ChannelRegistry} (h : Keyed registry)
    {manifests : List ModuleManifest} (hids : (manifests.map (·.moduleId)).Nodup)
    {entry : ChannelKey × LinkChannelBindingItem}
    (hentry : entry ∈ (bindingItems registry manifests).toList) :
    entry.2.key = entry.1 ∧ ItemExact registry manifests entry.2 := by
  have hfind := Std.ExtTreeMap.mem_toList_iff_getElem?_eq_some.mp hentry
  rw [getElem?_bindingItems h hids] at hfind
  exact itemExact_requiredItem h hfind

theorem isSome_requiredItem (registry : ChannelRegistry) (key : ChannelKey) (ids : List String) :
    (requiredItem (registryItem registry key) key ids).isSome = true ↔
      (registry.find key).isSome = true ∨ ids ≠ [] := by
  unfold requiredItem registryItem
  by_cases hids : ids = [] <;> simp [hids]

/-- The report has a channel that blocks a module exactly if a required one is not ready. -/
theorem any_blocked_iff {registry : ChannelRegistry} {manifests : List ModuleManifest}
    {options : LinkChannelBindingReportOptions} {channels : List LinkChannelBindingItem}
    (hmem : ∀ key, key ∈ channels.map (·.key) ↔
      (registry.find key).isSome = true ∨ requirers key manifests ≠ [])
    (hfinished : ∀ item ∈ channels, FinishedExact registry manifests options item) :
    (!channels.any (·.blocked)) = true ↔ ∀ manifest ∈ manifests,
      ∀ binding ∈ manifest.channels, binding.required = true →
        ∃ entry, registry.find binding.key = some entry ∧ entry.snapshot.ready = true := by
  rw [Bool.not_eq_true', List.any_eq_false]
  constructor
  · intro hnone manifest hmanifest binding hbinding hrequired
    have hid : manifest.moduleId ∈ requirers binding.key manifests :=
      mem_requirers.mpr ⟨manifest, hmanifest, rfl, binding, hbinding, hrequired, rfl⟩
    obtain ⟨item, hitem, hkey⟩ :=
      List.mem_map.mp ((hmem binding.key).mpr (Or.inr (List.ne_nil_of_mem hid)))
    have hexact := hfinished item hitem
    rw [← hkey] at hid ⊢
    have hready : item.ready = true := by
      by_contra hready
      refine hnone item hitem (hexact.blocked.mpr ⟨?_, by simpa using hready⟩)
      rw [hexact.requiredByModules]
      exact List.ne_nil_of_mem hid
    rw [hexact.ready, Option.any_eq_true] at hready
    exact hready
  · intro hall item hitem hblocked
    have hexact := hfinished item hitem
    obtain ⟨hrequired, hready⟩ := hexact.blocked.mp hblocked
    rw [hexact.requiredByModules] at hrequired
    obtain ⟨id, hid⟩ := List.exists_mem_of_ne_nil _ hrequired
    obtain ⟨manifest, hmanifest, -, binding, hbinding, hreq, hkey⟩ := mem_requirers.mp hid
    obtain ⟨entry, hfind, hentry⟩ := hall manifest hmanifest binding hbinding hreq
    rw [hexact.ready, ← hkey, hfind, Option.any_some, hentry] at hready
    cases hready

/-- The report, on the channels of the items. -/
theorem reportExact {registry : ChannelRegistry} (h : Keyed registry)
    {manifests : List ModuleManifest} (hids : (manifests.map (·.moduleId)).Nodup)
    (options : LinkChannelBindingReportOptions) {report : LinkChannelBindingReport}
    (hchannels : report.channels =
      (bindingItems registry manifests).toList.map fun entry => finishItem options entry.2)
    (hok : report.ok = !report.channels.any (·.blocked)) :
    ReportExact registry manifests options report := by
  have hmem : ∀ key, key ∈ report.channels.map (·.key) ↔
      (registry.find key).isSome = true ∨ requirers key manifests ≠ [] := by
    intro key
    have hkeys : report.channels.map (·.key) = (bindingItems registry manifests).keys := by
      rw [hchannels, List.map_map, ← Std.ExtTreeMap.map_fst_toList_eq_keys]
      exact List.map_congr_left fun entry hentry => (mem_bindingItems h hids hentry).1
    rw [hkeys, Std.ExtTreeMap.mem_keys, ← Std.ExtTreeMap.isSome_getElem?_iff_mem,
      getElem?_bindingItems h hids, isSome_requiredItem]
  have hfinished : ∀ item ∈ report.channels, FinishedExact registry manifests options item := by
    intro item hitem
    rw [hchannels] at hitem
    obtain ⟨entry, hentry, rfl⟩ := List.mem_map.mp hitem
    exact (mem_bindingItems h hids hentry).2.finishItem options
  refine ⟨hmem, ?_, hfinished, ?_⟩
  · rw [hchannels, List.pairwise_map]
    refine Std.ExtTreeMap.ordered_keys_toList.imp_of_mem ?_
    intro a b ha hb hlt
    show compare a.2.key b.2.key = .lt
    rw [(mem_bindingItems h hids ha).1, (mem_bindingItems h hids hb).1]
    exact hlt
  · rw [hok]
    exact any_blocked_iff hmem hfinished

/-- The manifests of a host are the ones of the modules in their order. -/
theorem map_moduleId_hostManifests (host : ModuleHost M H) :
    (hostManifests host).map (·.moduleId) = host.moduleOrder := by
  unfold hostManifests
  rw [List.map_filterMap]
  refine (List.filterMap_congr ?_).trans (List.filterMap_some (l := host.moduleOrder))
  intro id hid
  obtain ⟨m, hm⟩ := Option.isSome_iff_exists.mp ((host.mem_order id).mp hid)
  show ((host.module id).map IModule.manifest).map (·.moduleId) = some id
  rw [show host.module id = some m from hm]
  exact congrArg some (host.named id m hm)

theorem nodup_manifestsOf (network : SessionNetwork M H) :
    ((manifestsOf network).map (·.moduleId)).Nodup := by
  unfold manifestsOf
  cases network.moduleHost with
  | none => exact List.nodup_nil
  | some world =>
    show ((hostManifests world.host).map (·.moduleId)).Nodup
    rw [map_moduleId_hostManifests]
    exact world.host.nodup

/-- A session that hosts the gamepad module and has the control channel only. -/
def reportedSession : Session FeatureModule Unit where
  context := { role := .client, localPlatform := "linux" }
  network := some {
    manager := { registry := ChannelRegistry.run {} ChannelRegistry.boundTwice }
    moduleHost := some ((HostWorld.make { role := .client, localPlatform := "linux" } none ()
      ).addModule (some { manifest := gamepad })).2 }

end Session
end FusionDesk
