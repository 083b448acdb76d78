import FusionDesk.Module.ScreenSender
import FusionDesk.Network.Rebind
import FusionDesk.Session.Session

/-!
# Reconnecting a session

What `Session::reconnect` comes to, over every request and every set of hosted modules whose
callbacks keep the state of their module.

The five phases act on four components: the registry, the module host, the router with the ingress
registry, and the modules.  `Phase` says of a part of the run what it makes of the report, which
calls it makes, and that the session keeps everything else; two parts after another are a `Phase`
again, and a loop is one by induction over its list.

* `affected_iff`: a module a loop deals with is running, and bound to a channel the request names,
  or the request names none.
* `phase_degrade`, `phase_pauseModules`, `phase_rebind`, `phase_replayIngress`,
  `phase_resumeModules`: the phases.
* `reconnect_ends_running`: the whole run.

A callback can change the registry: it sends packets, and a send updates the pressure of its
channel.  So of the entry of a channel the request does not name it holds that callbacks alone
change it; `Reconnected.entry_eq` says when it stays.
-/

namespace FusionDesk
namespace Session

open Protocol Network FusionDesk.Module

/-! ## The channels a request names -/

/-- The channel is on one of the two lists of the request. -/
def ReconnectRequest.Names (request : ReconnectRequest) (key : ChannelKey) : Prop :=
  key ∈ request.degradedChannels ∨
    ∃ replacement ∈ request.replacementChannels, replacement.channel.map IChannel.key = some key

/-- The manifest is bound to a channel the request names, or the request names none. -/
def ReconnectRequest.Affects (request : ReconnectRequest) (manifest : ModuleManifest) : Prop :=
  (∀ key, ¬ request.Names key) ∨ ∃ binding ∈ manifest.channels, request.Names binding.key

theorem key_beq_iff (key key' : ChannelKey) :
    (key.channelId == key'.channelId && key.channelType == key'.channelType) = true ↔
      key = key' := by
  rw [Bool.and_eq_true_iff, beq_iff_eq, beq_iff_eq, ChannelKey.mk.injEq]

theorem containsKey_iff (keys : List ChannelKey) (key : ChannelKey) :
    containsKey keys key = true ↔ key ∈ keys := by
  rw [containsKey, List.any_eq_true]
  constructor
  · rintro ⟨item, hitem, hsame⟩
    rw [key_beq_iff] at hsame
    rwa [← hsame]
  · intro hmem
    exact ⟨key, hmem, (key_beq_iff key key).mpr rfl⟩

theorem mem_addReplaced (keys : List ChannelKey) (replacement : ReconnectChannelReplacement)
    (key : ChannelKey) :
    key ∈ addReplaced keys replacement ↔
      key ∈ keys ∨ replacement.channel.map IChannel.key = some key := by
  rw [addReplaced]
  cases replacement.channel with
  | none =>
    rw [Option.map_none]
    exact (or_iff_left (Option.some_ne_none key).symm).symm
  | some channel =>
    rw [Option.map_some, Option.some_inj]
    dsimp only
    by_cases hold : containsKey keys channel.key = true
    · rw [if_pos hold]
      refine ⟨Or.inl, ?_⟩
      rintro (hmem | rfl)
      · exact hmem
      · exact (containsKey_iff _ _).mp hold
    · rw [if_neg hold, List.mem_append, List.mem_singleton, eq_comm]

/-- The channels a reconnect affects are those the request names. -/
theorem mem_affectedReconnectChannels (request : ReconnectRequest) (key : ChannelKey) :
    key ∈ affectedReconnectChannels request ↔ request.Names key := by
  have hfold : ∀ (replacements : List ReconnectChannelReplacement) (keys : List ChannelKey),
      key ∈ replacements.foldl addReplaced keys ↔
        key ∈ keys ∨ ∃ replacement ∈ replacements,
          replacement.channel.map IChannel.key = some key := by
    intro replacements
    induction replacements with
    | nil => simp
    | cons replacement replacements ih =>
      intro keys
      rw [List.foldl_cons, ih, mem_addReplaced, List.exists_mem_cons_iff, or_assoc]
  exact hfold _ _

theorem affectedByReconnect_iff (request : ReconnectRequest) (manifest : ModuleManifest) :
    affectedByReconnect manifest (affectedReconnectChannels request) = true ↔
      request.Affects manifest := by
  rw [affectedByReconnect, ReconnectRequest.Affects]
  by_cases hnone : affectedReconnectChannels request = []
  · rw [hnone, List.isEmpty_nil, if_pos rfl]
    refine iff_of_true rfl (Or.inl fun key hkey => ?_)
    rw [← mem_affectedReconnectChannels, hnone] at hkey
    cases hkey
  · have hsome : ¬ ∀ key, ¬ request.Names key := by
      intro hall
      obtain ⟨key, hkey⟩ := List.exists_mem_of_ne_nil _ hnone
      exact hall key ((mem_affectedReconnectChannels _ _).mp hkey)
    rw [if_neg (by rwa [List.isEmpty_iff]), or_iff_right hsome]
    simp only [List.any_eq_true, channelMatches]
    refine exists_congr fun binding => and_congr_right fun _ => ?_
    constructor
    · rintro ⟨key, hkey, hsame⟩
      have hbinding : binding.key = key := (key_beq_iff binding.key key).mp hsame
      rwa [hbinding, ← mem_affectedReconnectChannels]
    · intro hnamed
      refine ⟨binding.key, (mem_affectedReconnectChannels _ _).mpr hnamed, ?_⟩
      exact (key_beq_iff binding.key binding.key).mpr rfl

instance (request : ReconnectRequest) (manifest : ModuleManifest) :
    Decidable (request.Affects manifest) :=
  decidable_of_iff _ (affectedByReconnect_iff request manifest)

/-! ## The modules a reconnect deals with -/

/-- The module is running, and the request affects it. -/
def Affected (request : ReconnectRequest) (profile : ModuleProfile) : Prop :=
  profile.state = .running ∧ request.Affects profile.manifest

instance (request : ReconnectRequest) (profile : ModuleProfile) :
    Decidable (Affected request profile) :=
  inferInstanceAs (Decidable (_ ∧ _))

theorem affected_iff (request : ReconnectRequest) (profile : ModuleProfile) :
    profile.affected (affectedReconnectChannels request) = decide (Affected request profile) := by
  rw [Bool.eq_iff_iff, decide_eq_true_iff, ModuleProfile.affected, Bool.and_eq_true_iff,
    beq_iff_eq, affectedByReconnect_iff, Affected]

variable {M H : Type} [IModule M]

/-- The hosted modules in the order of the host that a condition picks, if there is a host. -/
def pickedIn [IReconnectAwareModule M] (p : ModuleProfile → Bool) :
    Option (HostWorld M H) → List String
  | none => []
  | some world => world.picked p world.host.moduleOrder

/-- The affected modules. -/
def affectedModules [IReconnectAwareModule M] (request : ReconnectRequest)
    (host : Option (HostWorld M H)) : List String :=
  pickedIn (fun profile => Affected request profile) host

/-- The affected modules that have the callbacks. -/
def calledModules [IReconnectAwareModule M] (request : ReconnectRequest)
    (host : Option (HostWorld M H)) : List String :=
  pickedIn (fun profile => decide (Affected request profile) && profile.aware) host

/-- The affected modules that consume packets. -/
def consumingModules [IReconnectAwareModule M] (request : ReconnectRequest)
    (host : Option (HostWorld M H)) : List String :=
  pickedIn (fun profile => decide (Affected request profile) && hasConsumedPackets profile.manifest)
    host

/-- What the report on a module says: its name, and whether a callback was called. -/
def entryIn [IReconnectAwareModule M] (host : Option (HostWorld M H)) (id : String) :
    String × Bool :=
  (id, (host.bind (·.profile id)).any ModuleProfile.aware)

/-- The same modules, or no host on both sides. -/
def SameHost [IReconnectAwareModule M] (kept : M → Prop) :
    Option (HostWorld M H) → Option (HostWorld M H) → Prop :=
  Option.Rel (HostWorld.SameModules kept)

theorem SameHost.refl [IReconnectAwareModule M] (kept : M → Prop) (host : Option (HostWorld M H)) :
    SameHost kept host host := by
  cases host with
  | none => exact .none
  | some world => exact .some (.refl kept world)

theorem SameHost.trans [IReconnectAwareModule M] {kept : M → Prop}
    {first second third : Option (HostWorld M H)} (h : SameHost kept first second)
    (h' : SameHost kept second third) : SameHost kept first third := by
  cases h with
  | none => exact h'
  | some h =>
    cases h' with
    | some h' => exact .some (h.trans h')

/-! ## Parts of a run -/

namespace ReconnectRun

/-- The run has a network, and the modules hosted there are those of `host`. -/
def Hosts [IReconnectAwareModule M] (kept : M → Prop) (host : Option (HostWorld M H))
    (run : ReconnectRun M H) : Prop :=
  ∃ network, run.session.network = some network ∧ SameHost kept host network.moduleHost

end ReconnectRun

/-- A part of a run.  It makes `change` of the report, makes the calls `calls`, and keeps the rest:
the context, the inventory of the peer and the hosted modules.  The registry entry of a channel
changes by `changes`. -/
structure Phase [IReconnectAwareModule M] (kept : M → Prop)
    (changes : ChannelKey → Option ChannelEntry → Option ChannelEntry → Prop)
    (change : ReconnectReport → ReconnectReport) (calls : List ReconnectEvent)
    (before after : ReconnectRun M H) : Prop where
  context : after.session.context = before.session.context
  inventory : after.session.remoteModuleInventory = before.session.remoteModuleInventory
  report : after.session.lastReconnectReport = change before.session.lastReconnectReport
  events : after.events = before.events ++ calls
  network : ∀ network, before.session.network = some network →
    ∃ network', after.session.network = some network' ∧
      SameHost kept network.moduleHost network'.moduleHost ∧
      ∀ key, Relation.ReflTransGen (changes key) (network.manager.registry.find key)
        (network'.manager.registry.find key)

namespace Phase

variable [IReconnectAwareModule M] {kept : M → Prop}
  {changes : ChannelKey → Option ChannelEntry → Option ChannelEntry → Prop}
  {change change' : ReconnectReport → ReconnectReport} {calls calls' : List ReconnectEvent}
  {first second third run : ReconnectRun M H} {host : Option (HostWorld M H)}

theorem trans (h : Phase kept changes change calls first second)
    (h' : Phase kept changes change' calls' second third) :
    Phase kept changes (change' ∘ change) (calls ++ calls') first third := by
  refine ⟨h'.context.trans h.context, h'.inventory.trans h.inventory, ?_, ?_, ?_⟩
  · rw [h'.report, h.report, Function.comp_apply]
  · rw [h'.events, h.events, List.append_assoc]
  · intro network hnetwork
    obtain ⟨middle, hmiddle, hsame, hframe⟩ := h.network network hnetwork
    obtain ⟨last, hlast, hsame', hframe'⟩ := h'.network middle hmiddle
    exact ⟨last, hlast, hsame.trans hsame', fun key => (hframe key).trans (hframe' key)⟩

/-- A part that makes no call. -/
theorem quiet (h : Phase kept changes change calls first second)
    (h' : Phase kept changes change' [] second third) :
    Phase kept changes (change' ∘ change) calls first third := by
  have hboth := h.trans h'
  rwa [List.append_nil] at hboth

theorem hosts (h : Phase kept changes change calls first second) (hhost : first.Hosts kept host) :
    second.Hosts kept host := by
  obtain ⟨network, hnetwork, hsame⟩ := hhost
  obtain ⟨network', hnetwork', hsame', -⟩ := h.network network hnetwork
  exact ⟨network', hnetwork', hsame.trans hsame'⟩

/-- The callbacks get the same options later in the run. -/
theorem options_eq (h : Phase kept changes change calls first second)
    (request : ReconnectRequest) : second.options request = first.options request := by
  rw [ReconnectRun.options, ReconnectRun.options, h.context]

/-- Whatever leaves the network and makes no call. -/
theorem of_session {session : Session M H} (hcontext : session.context = run.session.context)
    (hinventory : session.remoteModuleInventory = run.session.remoteModuleInventory)
    (hreport : session.lastReconnectReport = change run.session.lastReconnectReport)
    (hnetwork : session.network = run.session.network) :
    Phase kept changes change [] run { run with session := session } := by
  refine ⟨hcontext, hinventory, hreport, (List.append_nil _).symm, fun network h => ?_⟩
  exact ⟨network, hnetwork.trans h, .refl _ _, fun _ => .refl⟩

theorem publish (run : ReconnectRun M H) (code message : String) :
    Phase kept changes id [] run (run.publish code message) :=
  of_session rfl rfl rfl rfl

theorem transition (run : ReconnectRun M H) (next : SessionState) (message : String) :
    Phase kept changes id [] run (run.transition next message) :=
  of_session rfl rfl rfl rfl

theorem changeReport (run : ReconnectRun M H) (change : ReconnectReport → ReconnectReport) :
    Phase kept changes change [] run (run.report change) :=
  of_session rfl rfl rfl rfl

/-- A part whose result is reported and published. -/
theorem reported (h : Phase kept changes id calls first second)
    (change : ReconnectReport → ReconnectReport) (code message : String) :
    Phase kept changes change calls first ((second.report change).publish code message) :=
  (h.quiet (.changeReport second change)).quiet (.publish _ code message)

/-- Calls on the network. -/
theorem withNetwork {network network' : SessionNetwork M H}
    (hnetwork : run.session.network = some network)
    (hsame : SameHost kept network.moduleHost network'.moduleHost)
    (hframe : ∀ key, Relation.ReflTransGen (changes key)
      (network.manager.registry.find key) (network'.manager.registry.find key))
    (calls : List ReconnectEvent) :
    Phase kept changes id calls run (run.withNetwork network' (run.events ++ calls)) := by
  refine ⟨rfl, rfl, rfl, rfl, fun network₁ h => ⟨network', rfl, ?_⟩⟩
  obtain rfl : network = network₁ := Option.some.inj (hnetwork.symm.trans h)
  exact ⟨hsame, hframe⟩

/-- A loop with a report and a call for each item, in order. -/
theorem foldl {α : Type} {entry : ReconnectChannelReport → ChannelKey × ReconnectChannelOperation}
    {add : List ReconnectChannelReport → ReconnectReport → ReconnectReport}
    (hnil : add [] = id)
    (hcons : ∀ reports reports', add reports' ∘ add reports = add (reports ++ reports'))
    {round : ReconnectRun M H → α → ReconnectRun M H} {call : α → ReconnectEvent}
    {itemEntry : α → ChannelKey × ReconnectChannelOperation} (items : List α)
    (hround : ∀ item ∈ items, ∀ run : ReconnectRun M H, run.Hosts kept host →
      ∃ report, entry report = itemEntry item ∧
        Phase kept changes (add [report]) [call item] run (round run item)) :
    ∀ run : ReconnectRun M H, run.Hosts kept host →
      ∃ reports, reports.map entry = items.map itemEntry ∧
        Phase kept changes (add reports) (items.map call) run (items.foldl round run) := by
  induction items with
  | nil =>
    intro run _
    refine ⟨[], rfl, ?_⟩
    rw [hnil]
    exact of_session rfl rfl rfl rfl
  | cons item items ih =>
    intro run hhost
    obtain ⟨report, hentry, hphase⟩ := hround item List.mem_cons_self run hhost
    obtain ⟨reports, hentries, hphases⟩ :=
      ih (fun later hlater => hround later (List.mem_cons_of_mem item hlater)) _
        (hphase.hosts hhost)
    refine ⟨report :: reports, ?_, ?_⟩
    · rw [List.map_cons, List.map_cons, hentry, hentries]
    · have hboth := hphase.trans hphases
      rwa [hcons] at hboth

end Phase

/-! ## Degrading and rebinding -/

/-- What a report on a channel is about. -/
def ReconnectChannelReport.entry (report : ReconnectChannelReport) :
    ChannelKey × ReconnectChannelOperation :=
  (report.key, report.operation)

def addDegraded (reports : List ReconnectChannelReport) (report : ReconnectReport) :
    ReconnectReport :=
  { report with
    degradedChannels := report.degradedChannels ++ reports
    ok := report.ok && reports.all (·.ok) }

def addRebound (reports : List ReconnectChannelReport) (report : ReconnectReport) :
    ReconnectReport :=
  { report with
    reboundChannels := report.reboundChannels ++ reports
    ok := report.ok && reports.all (·.ok) }

theorem addDegraded_nil : addDegraded [] = id := by
  ext1 report
  rw [addDegraded, List.append_nil, List.all_nil, Bool.and_true, id_eq]

theorem addRebound_nil : addRebound [] = id := by
  ext1 report
  rw [addRebound, List.append_nil, List.all_nil, Bool.and_true, id_eq]

theorem addDegraded_comp (reports reports' : List ReconnectChannelReport) :
    addDegraded reports' ∘ addDegraded reports = addDegraded (reports ++ reports') := by
  ext1 report
  simp only [addDegraded, Function.comp_apply, List.append_assoc, List.all_append, Bool.and_assoc]

theorem addRebound_comp (reports reports' : List ReconnectChannelReport) :
    addRebound reports' ∘ addRebound reports = addRebound (reports ++ reports') := by
  ext1 report
  simp only [addRebound, Function.comp_apply, List.append_assoc, List.all_append, Bool.and_assoc]

theorem find_markDegraded (manager : NetworkManager) {key key' : ChannelKey} (h : key ≠ key')
    (reason : String) :
    (manager.markDegraded key reason).2.registry.find key' = manager.registry.find key' := by
  show (manager.registry.markNotReady .degraded key reason).2.find key' = _
  rw [ChannelRegistry.markNotReady]
  cases manager.registry.find key with
  | none => rfl
  | some entry =>
    rw [ChannelRegistry.find_put, if_neg h]

theorem find_rebindChannel_of_ne (manager : NetworkManager) (transport : Transport)
    {channel : Option IChannel} {key : ChannelKey} (h : channel.map IChannel.key ≠ some key)
    (ready : ChannelReadyInfo) :
    (manager.rebindChannel transport channel ready).2.registry.find key =
      manager.registry.find key := by
  cases channel with
  | none => rfl
  | some channel =>
    rw [NetworkManager.find_rebindChannel, if_neg fun heq => h (congrArg some heq)]

/-- A callback, called in a reconnect with these options, makes the one entry of the other. -/
def CallbackChanges [IReconnectAwareModule M] (kept : M → Prop) (options : ModuleReconnectOptions)
    (key : ChannelKey) (entry entry' : Option ChannelEntry) : Prop :=
  IReconnectAwareModule.pauseForReconnect.Changes kept options key entry entry' ∨
    IReconnectAwareModule.resumeAfterReconnect.Changes kept options key entry entry'

/-- How a reconnect can change the entry of a channel: in any way if the request names the channel,
and else through a callback. -/
def Touches [IReconnectAwareModule M] (kept : M → Prop) (request : ReconnectRequest)
    (options : ModuleReconnectOptions) (key : ChannelKey) (entry entry' : Option ChannelEntry) :
    Prop :=
  request.Names key ∨ CallbackChanges kept options key entry entry'

/-- A call that leaves the entries of the channels the request does not name. -/
theorem touches_of_named [IReconnectAwareModule M] {kept : M → Prop} {request : ReconnectRequest}
    {options : ModuleReconnectOptions} {manager manager' : NetworkManager}
    (hsame : ∀ key, ¬ request.Names key →
      manager'.registry.find key = manager.registry.find key) (key : ChannelKey) :
    Relation.ReflTransGen (Touches kept request options key) (manager.registry.find key)
      (manager'.registry.find key) := by
  by_cases hnamed : request.Names key
  · exact .single (Or.inl hnamed)
  · rw [hsame key hnamed]

section Channels

variable [IReconnectAwareModule M] {kept : M → Prop} {host : Option (HostWorld M H)}
  {request : ReconnectRequest} (options : ModuleReconnectOptions)

/-- What the rounds of the two loops have in common: a call of the manager, a report on it, and one
of two events. -/
theorem phase_channel {run : ReconnectRun M H}
    {network : SessionNetwork M H} (hnetwork : run.session.network = some network)
    {manager : NetworkManager}
    (hframe : ∀ key, ¬ request.Names key →
      manager.registry.find key = network.manager.registry.find key)
    (event : ReconnectEvent) (change : ReconnectReport → ReconnectReport) (ok : Bool)
    (code code' message message' : String) :
    let reported := (run.withNetwork { network with manager := manager }
      (run.events ++ [event])).report change
    Phase kept (Touches kept request options) change [event] run
      (if ok then reported.publish code message else reported.publish code' message') := by
  intro reported
  have hchanged : Phase kept (Touches kept request options) id [event] run
      (run.withNetwork { network with manager := manager } (run.events ++ [event])) := by
    refine .withNetwork hnetwork ?_ (touches_of_named hframe) [event]
    exact .refl _ _
  split_ifs
  · exact hchanged.reported _ _ _
  · exact hchanged.reported _ _ _

/-- One round of the loop over the degraded channels. -/
theorem phase_degrade {key : ChannelKey} (hkey : key ∈ request.degradedChannels)
    {run : ReconnectRun M H} (hhost : run.Hosts kept host) :
    ∃ report : ReconnectChannelReport, report.entry = (key, .degrade) ∧
      Phase kept (Touches kept request options) (addDegraded [report]) [.degrade key] run
        (run.degrade request key) := by
  obtain ⟨network, hnetwork, -⟩ := hhost
  have hframe : ∀ other, ¬ request.Names other →
      (network.manager.markDegraded key (reasonOr request "reconnecting")).2.registry.find other =
        network.manager.registry.find other := by
    intro other hother
    refine find_markDegraded _ ?_ _
    rintro rfl
    exact hother (Or.inl hkey)
  rw [ReconnectRun.degrade, hnetwork]
  dsimp only
  generalize network.manager.markDegraded key (reasonOr request "reconnecting") = degraded
    at hframe ⊢
  refine ⟨makeChannelReport .degrade key degraded.1, rfl, ?_⟩
  have hone : addDegraded [makeChannelReport .degrade key degraded.1] = fun report => { report with
      degradedChannels := report.degradedChannels ++ [makeChannelReport .degrade key degraded.1]
      ok := report.ok && degraded.1.ok } := by
    ext1 report
    rw [addDegraded, List.all_cons, List.all_nil, Bool.and_true]
    rfl
  rw [hone]
  exact phase_channel options hnetwork hframe _ _ _ _ _ _ _

/-- One round of the loop over the replacements. -/
theorem phase_rebind {item : Transport × ReconnectChannelReplacement}
    (hitem : item.2 ∈ request.replacementChannels) {run : ReconnectRun M H}
    (hhost : run.Hosts kept host) :
    ∃ report : ReconnectChannelReport,
      report.entry = (ReconnectRun.replacementKey item.2, .rebind) ∧
      Phase kept (Touches kept request options) (addRebound [report]) [.rebind item.2.channel] run
        (run.rebind request item) := by
  obtain ⟨network, hnetwork, -⟩ := hhost
  have hframe : ∀ other, ¬ request.Names other →
      (network.manager.rebindChannel item.1 item.2.channel item.2.ready).2.registry.find other =
        network.manager.registry.find other := by
    intro other hother
    refine find_rebindChannel_of_ne _ _ ?_ _
    intro hnamed
    exact hother (Or.inr ⟨item.2, hitem, hnamed⟩)
  rw [ReconnectRun.rebind, hnetwork]
  dsimp only
  generalize network.manager.rebindChannel item.1 item.2.channel item.2.ready = rebound
    at hframe ⊢
  refine ⟨makeChannelReport .rebind (ReconnectRun.replacementKey item.2) rebound.1, rfl, ?_⟩
  have hone : addRebound [makeChannelReport .rebind (ReconnectRun.replacementKey item.2)
      rebound.1] = fun report => { report with
        reboundChannels := report.reboundChannels ++
          [makeChannelReport .rebind (ReconnectRun.replacementKey item.2) rebound.1]
        ok := report.ok && rebound.1.ok } := by
    ext1 report
    rw [addRebound, List.all_cons, List.all_nil, Bool.and_true]
    rfl
  rw [hone]
  exact phase_channel options hnetwork hframe _ _ _ _ _ _ _

end Channels

/-! ## Pausing, replaying and resuming -/

section Modules

variable [IReconnectAwareModule M] {kept : M → Prop} {host : Option (HostWorld M H)}
  {request : ReconnectRequest} {options : ModuleReconnectOptions}
  {changes : ChannelKey → Option ChannelEntry → Option ChannelEntry → Prop} {run : ReconnectRun M H}

/-- A loop over the hosted modules that pauses or resumes, in the order `arrange` makes of
theirs. -/
theorem phase_notify {callback : ReconnectCallback M} (hstate : callback.KeepsState kept)
    (haware : ∀ m network options, IReconnectAwareModule.reconnectAware
      (callback.call m network options).1 = IReconnectAwareModule.reconnectAware m)
    (hchanges : ∀ key entry entry', callback.Changes kept options key entry entry' →
      changes key entry entry')
    (event : String → ReconnectEvent) (arrange : List String → List String)
    (harrange : ∀ (p : String → Bool) ids, (arrange ids).filter p = arrange (ids.filter p))
    (hnone : arrange [] = [])
    (hoptions : options.affectedChannels = affectedReconnectChannels request)
    (hall : ∀ world, host = some world → world.All kept) (hhost : run.Hosts kept host) :
    ∃ result : List ModuleReconnectReport × ReconnectRun M H,
      (run.withHost fun world => (arrange world.world.host.moduleOrder).foldl
        (notifyAffected callback event options) ([], world)) = result ∧
      result.1.map ModuleReconnectReport.entry =
        (arrange (affectedModules request host)).map (entryIn host) ∧
      Phase kept changes id ((arrange (calledModules request host)).map event) run result.2 := by
  obtain ⟨⟨manager, hosted⟩, hnetwork, hsame⟩ := hhost
  refine ⟨_, rfl, ?_⟩
  rw [ReconnectRun.withHost, hnetwork]
  cases hsame with
  | none =>
    dsimp only [affectedModules, calledModules, pickedIn]
    rw [hnone]
    exact ⟨rfl, .of_session rfl rfl rfl rfl⟩
  | @some before world hsame =>
    dsimp only
    have hloop := foldl_notifyAffected hstate haware event options
      (arrange world.host.moduleOrder)
      ([], { world := world, network := manager, events := run.events })
      (hsame.all (hall before rfl))
    generalize (arrange world.host.moduleOrder).foldl (notifyAffected callback event options) _ =
      result at hloop
    have hpicked : ∀ (p p' : ModuleProfile → Bool), p = p' →
        world.picked p (arrange world.host.moduleOrder) =
          arrange (pickedIn p' (some before)) := by
      rintro p _ rfl
      rw [hsame.picked, hsame.order, HostWorld.picked, harrange]
      rfl
    have haffected : (fun profile : ModuleProfile => profile.affected options.affectedChannels) =
        fun profile => decide (Affected request profile) := by
      ext1 profile
      rw [hoptions, affected_iff]
    have hcalled : (fun profile : ModuleProfile => profile.called options.affectedChannels) =
        fun profile => decide (Affected request profile) && profile.aware := by
      ext1 profile
      rw [ModuleProfile.called, hoptions, affected_iff]
    have hentry : world.entryOf = entryIn (some before) := by
      ext1 id
      rw [HostWorld.entryOf, hsame.profile]
      rfl
    constructor
    · have hreports := hloop.reports
      rw [hpicked _ _ haffected, hentry] at hreports
      exact hreports
    · have hevents := hloop.events
      rw [hpicked _ _ hcalled] at hevents
      dsimp only at hevents
      rw [hevents]
      refine .withNetwork hnetwork ?_ (fun key => ?_) _
      · exact .some hloop.same
      · exact Relation.ReflTransGen.mono (hchanges key) _ _ (hloop.network key)

theorem phase_pauseModules
    (hstate : IReconnectAwareModule.pauseForReconnect.KeepsState kept)
    (hoptions : run.options request = options)
    (hall : ∀ world, host = some world → world.All kept) (hhost : run.Hosts kept host) :
    ∃ reports : List ModuleReconnectReport,
      reports.map ModuleReconnectReport.entry =
        (affectedModules request host).reverse.map (entryIn host) ∧
      Phase kept (Touches kept request options)
        (fun report => { report with pausedModules := reports })
        ((calledModules request host).reverse.map .pause) run (run.pauseModules request) := by
  have hdraining : Phase kept (Touches kept request options) id [] run
      (run.transition .draining "draining for reconnect") := .transition _ _ _
  have haffected : options.affectedChannels = affectedReconnectChannels request := by
    rw [← hoptions]
    rfl
  obtain ⟨result, hresult, hentries, hphase⟩ := phase_notify hstate
    IReconnectAwareModule.aware_pause (fun _ _ _ h => Or.inr (Or.inl h)) .pause List.reverse
    (fun _ _ => List.filter_reverse) List.reverse_nil haffected hall (hdraining.hosts hhost)
  refine ⟨result.1, hentries, ?_⟩
  have hpaused : ((run.transition .draining "draining for reconnect").withHost fun world =>
      pauseRunningModulesForReconnect world (run.options request)) = result := by
    rw [hoptions]
    exact hresult
  rw [ReconnectRun.pauseModules, hpaused]
  exact (hdraining.trans hphase).reported _ _ _

theorem phase_resumeModules
    (hstate : IReconnectAwareModule.resumeAfterReconnect.KeepsState kept)
    (hoptions : run.options request = options)
    (hall : ∀ world, host = some world → world.All kept) (hhost : run.Hosts kept host) :
    ∃ reports : List ModuleReconnectReport,
      reports.map ModuleReconnectReport.entry =
        (affectedModules request host).map (entryIn host) ∧
      Phase kept (Touches kept request options)
        (fun report => { report with resumedModules := reports })
        ((calledModules request host).map .resume) run (run.resumeModules request) := by
  rw [ReconnectRun.resumeModules]
  have hasked : Phase kept (Touches kept request options) id [] run
      (if request.requestDisplayKeyframe then
        run.publish "display.keyframe_requested" (reasonOr request "reconnect") else run) := by
    split_ifs
    · exact .publish _ _ _
    · exact .of_session rfl rfl rfl rfl
  generalize (if request.requestDisplayKeyframe then _ else run) = asked at hasked ⊢
  have hready : Phase kept (Touches kept request options) id [] run
      (asked.transition .networkReady "network rebound") := hasked.quiet (.transition _ _ _)
  have haffected : options.affectedChannels = affectedReconnectChannels request := by
    rw [← hoptions]
    rfl
  obtain ⟨result, hresult, hentries, hphase⟩ := phase_notify hstate
    IReconnectAwareModule.aware_resume (fun _ _ _ h => Or.inr (Or.inr h)) .resume id
    (fun _ _ => rfl) rfl haffected hall (hready.hosts hhost)
  refine ⟨result.1, hentries, ?_⟩
  have hresumed : ((asked.transition .networkReady "network rebound").withHost fun world =>
      resumeRunningModulesAfterReconnect world (run.options request)) = result := by
    rw [hoptions]
    exact hresult
  rw [hresumed]
  exact (hready.trans hphase).reported _ _ _

/-- The loop over the hosted modules that replays. -/
theorem phase_replay (refuses : ModuleRouter H → RouteMatch → Bool)
    {options : ModuleReconnectOptions}
    (hoptions : options.affectedChannels = affectedReconnectChannels request)
    (hhost : run.Hosts kept host) :
    let result := run.withHost fun world =>
      replayRunningModuleIngressForReconnect refuses world options
    result.1.map (·.moduleId) = consumingModules request host ∧
      Phase kept changes id ((consumingModules request host).map .replay) run result.2 := by
  obtain ⟨⟨manager, hosted⟩, hnetwork, hsame⟩ := hhost
  rw [ReconnectRun.withHost, hnetwork]
  cases hsame with
  | none => exact ⟨rfl, .of_session rfl rfl rfl rfl⟩
  | @some before world hsame =>
    dsimp only [replayRunningModuleIngressForReconnect]
    have hloop := foldl_replayAffected kept refuses options world.host.moduleOrder
      ([], { world := world, network := manager, events := run.events })
    generalize world.host.moduleOrder.foldl (@replayAffected M H _ refuses options) _ =
      result at hloop ⊢
    have hpicked : world.picked (·.replayed options.affectedChannels) world.host.moduleOrder =
        consumingModules request (some before) := by
      rw [hsame.picked, hsame.order, hoptions]
      refine congrArg (before.picked · before.host.moduleOrder) ?_
      ext1 profile
      rw [ModuleProfile.replayed, affected_iff]
    have hreports := hloop.reports
    have hevents := hloop.events
    rw [hpicked] at hreports hevents
    refine ⟨hreports, ?_⟩
    dsimp only at hevents ⊢
    rw [hevents]
    refine .withNetwork hnetwork ?_ (fun key => ?_) _
    · exact .some hloop.same
    · rw [hloop.network]

/-- What the replays make of the report. -/
def addReplayed (reports : List ModuleIngressReplayReport) (report : ReconnectReport) :
    ReconnectReport :=
  { report with
    replayedIngress := reports
    ok := report.ok && reports.all (·.replayed) }

theorem phase_replayIngress (refuses : ModuleRouter H → RouteMatch → Bool)
    (hhost : run.Hosts kept host) :
    ∃ reports : List ModuleIngressReplayReport,
      reports.map (·.moduleId) = consumingModules request host ∧
      Phase kept changes (addReplayed reports) ((consumingModules request host).map .replay) run
        (run.replayIngress refuses request) := by
  have hoptions : (run.options request).affectedChannels = affectedReconnectChannels request := rfl
  obtain ⟨hreports, hphase⟩ := phase_replay refuses hoptions hhost
  exact ⟨_, hreports, hphase.reported _ _ _⟩

theorem phase_finish (run : ReconnectRun M H) : Phase kept changes id [] run run.finish :=
  Phase.quiet (.publish run _ _) (.transition _ _ _)

end Modules

/-! ## The whole run -/

/-- The options the callbacks of a reconnect get. -/
def reconnectOptions (request : ReconnectRequest) (before : Session M H) :
    ModuleReconnectOptions :=
  { reason := request.reason
    affectedChannels := affectedReconnectChannels request
    reconnectCount := before.context.reconnectCount + 1
    requestFreshState := request.requestDisplayKeyframe }

/-- What a reconnect makes of a session with a network. -/
structure Reconnected [IReconnectAwareModule M] (kept : M → Prop) (request : ReconnectRequest)
    (before : Session M H) (network : SessionNetwork M H)
    (result : Bool × Session M H × List ReconnectEvent) : Prop where
  running : result.2.1.state = .running
  context : result.2.1.context =
    { before.context with reconnectCount := before.context.reconnectCount + 1 }
  inventory : result.2.1.remoteModuleInventory = before.remoteModuleInventory
  /-- One report for each degraded channel, in order, and one for each replacement. -/
  degraded : result.2.1.lastReconnectReport.degradedChannels.map ReconnectChannelReport.entry =
    request.degradedChannels.map (·, .degrade)
  rebound : result.2.1.lastReconnectReport.reboundChannels.map ReconnectChannelReport.entry =
    request.replacementChannels.map fun replacement =>
      (ReconnectRun.replacementKey replacement, .rebind)
  /-- The modules paused are the affected ones in reverse, each once, and those resumed are the
  same in the order of the host. -/
  paused : result.2.1.lastReconnectReport.pausedModules.map ModuleReconnectReport.entry =
    (affectedModules request network.moduleHost).reverse.map (entryIn network.moduleHost)
  resumed : result.2.1.lastReconnectReport.resumedModules.map ModuleReconnectReport.entry =
    (affectedModules request network.moduleHost).map (entryIn network.moduleHost)
  replayed : result.2.1.lastReconnectReport.replayedIngress.map (·.moduleId) =
    consumingModules request network.moduleHost
  once : (affectedModules request network.moduleHost).Nodup
  exactly : ∀ world, network.moduleHost = some world → ∀ id m, world.host.module id = some m →
    (id ∈ affectedModules request network.moduleHost ↔
      IModule.state m = .running ∧ request.Affects (IModule.manifest m))
  /-- The callbacks that pause come before every rebinding, and those that resume after. -/
  calls : result.2.2 = request.degradedChannels.map ReconnectEvent.degrade ++
    (calledModules request network.moduleHost).reverse.map ReconnectEvent.pause ++
    request.replacementChannels.map (ReconnectEvent.rebind ·.channel) ++
    (consumingModules request network.moduleHost).map ReconnectEvent.replay ++
    (calledModules request network.moduleHost).map ReconnectEvent.resume
  /-- The hosted modules stay, and the registry entry of a channel that the request does not name
  is changed by callbacks alone. -/
  stays : ∃ network', result.2.1.network = some network' ∧
    SameHost kept network.moduleHost network'.moduleHost ∧
    ∀ key, ¬ request.Names key →
      Relation.ReflTransGen (CallbackChanges kept (reconnectOptions request before) key)
        (network.manager.registry.find key) (network'.manager.registry.find key)
  returns : result.1 = true ↔
    (∀ report ∈ result.2.1.lastReconnectReport.degradedChannels, report.ok = true) ∧
    (∀ report ∈ result.2.1.lastReconnectReport.reboundChannels, report.ok = true) ∧
    ∀ report ∈ result.2.1.lastReconnectReport.replayedIngress, report.replayed = true

section Run

variable [IReconnectAwareModule M] {kept : M → Prop}

/-- The entry of a channel which the request does not name and no callback changes stays. -/
theorem Reconnected.entry_eq {request : ReconnectRequest} {before : Session M H}
    {network network' : SessionNetwork M H} {result : Bool × Session M H × List ReconnectEvent}
    (h : Reconnected kept request before network result)
    (hnetwork' : result.2.1.network = some network') {key : ChannelKey}
    (hnamed : ¬ request.Names key)
    (hleaves : ∀ entry entry', CallbackChanges kept (reconnectOptions request before) key entry
      entry' → entry = entry') :
    network'.manager.registry.find key = network.manager.registry.find key := by
  obtain ⟨after, hafter, -, hentries⟩ := h.stays
  obtain rfl : after = network' := Option.some.inj (hafter.symm.trans hnetwork')
  have hsame : ∀ {entry entry' : Option ChannelEntry}, Relation.ReflTransGen
      (CallbackChanges kept (reconnectOptions request before) key) entry entry' →
        entry = entry' := by
    intro entry entry' hchanges
    induction hchanges with
    | refl => rfl
    | tail _ hstep ih => exact ih.trans (hleaves _ _ hstep)
  exact (hsame (hentries key hnamed)).symm

theorem nodup_affectedModules (request : ReconnectRequest) (host : Option (HostWorld M H)) :
    (affectedModules request host).Nodup := by
  cases host with
  | none => exact List.nodup_nil
  | some world => exact world.host.nodup.filter _

theorem mem_affectedModules (request : ReconnectRequest) {world : HostWorld M H} {id : String}
    {m : M} (hfind : world.host.module id = some m) :
    id ∈ affectedModules request (some world) ↔
      IModule.state m = .running ∧ request.Affects (IModule.manifest m) := by
  have hmem : id ∈ world.host.moduleOrder := (world.host.mem_moduleOrder_iff id).mpr ⟨m, hfind⟩
  show id ∈ List.filter _ _ ↔ _
  rw [List.mem_filter, and_iff_right hmem, HostWorld.profile, hfind, Option.map_some,
    Option.any_some, decide_eq_true_iff]
  rfl

/-- What the replacements are apart from the moments they are bound at. -/
theorem map_moments {β : Type} (moments : ℕ → Transport)
    (replacements : List ReconnectChannelReplacement) (f : ReconnectChannelReplacement → β) :
    ((replacements.zipIdx.map fun item => (moments item.2, item.1)).map fun item => f item.2) =
      replacements.map f := by
  rw [List.map_map]
  calc (replacements.zipIdx.map fun item => f item.1)
      = (replacements.zipIdx.map Prod.fst).map f := by rw [List.map_map]; rfl
    _ = replacements.map f := by rw [List.zipIdx_map_fst]

/-- The run of a session that is running or has its network ready. -/
theorem phases_spec
    (hpause : IReconnectAwareModule.pauseForReconnect.KeepsState kept)
    (hresume : IReconnectAwareModule.resumeAfterReconnect.KeepsState kept)
    (refuses : ModuleRouter H → RouteMatch → Bool) (moments : ℕ → Transport)
    (request : ReconnectRequest) {session : Session M H} {network : SessionNetwork M H}
    (hnetwork : session.network = some network)
    (hall : ∀ world, network.moduleHost = some world → world.All kept) :
    let run := ReconnectRun.phases refuses moments request { session := session }
    Reconnected kept request session network
      (run.session.lastReconnectReport.ok, run.session, run.events) := by
  intro run
  have hbegun : (({ session := session } : ReconnectRun M H).begin request).Hosts kept
      network.moduleHost := ⟨network, hnetwork, .refl _ _⟩
  obtain ⟨degraded, hdegraded, hphase₁⟩ := Phase.foldl addDegraded_nil addDegraded_comp
    request.degradedChannels
    (fun _ hkey _ hhost => phase_degrade (reconnectOptions request session) hkey hhost) _ hbegun
  have hhost₁ := hphase₁.hosts hbegun
  have hoptions₁ := hphase₁.options_eq request
  obtain ⟨paused, hpaused, hphase₂⟩ := phase_pauseModules hpause hoptions₁ hall hhost₁
  have hhost₂ := hphase₂.hosts hhost₁
  have hoptions₂ := (hphase₂.options_eq request).trans hoptions₁
  have hitems : ∀ item ∈ request.replacementChannels.zipIdx.map fun item =>
      (moments item.2, item.1), item.2 ∈ request.replacementChannels := by
    intro item hitem
    obtain ⟨indexed, hindexed, rfl⟩ := List.mem_map.mp hitem
    exact List.fst_mem_of_mem_zipIdx hindexed
  obtain ⟨rebound, hrebound, hphase₃⟩ := Phase.foldl addRebound_nil addRebound_comp _
    (fun item hitem _ hhost => phase_rebind (reconnectOptions request session)
      (hitems item hitem) hhost) _ hhost₂
  have hhost₃ := hphase₃.hosts hhost₂
  have hoptions₃ := (hphase₃.options_eq request).trans hoptions₂
  obtain ⟨replayed, hreplayed, hphase₄⟩ := @phase_replayIngress M H _ _ kept _ request
    (Touches kept request (reconnectOptions request session)) _ refuses hhost₃
  have hhost₄ := hphase₄.hosts hhost₃
  have hoptions₄ := (hphase₄.options_eq request).trans hoptions₃
  obtain ⟨resumed, hresumed, hphase₅⟩ := phase_resumeModules hresume hoptions₄ hall hhost₄
  have hrun := ((((hphase₁.trans hphase₂).trans hphase₃).trans hphase₄).trans hphase₅).quiet
    (phase_finish _)
  have hreport : run.session.lastReconnectReport =
      { attempted := true
        ok := ((true && degraded.all (·.ok)) && rebound.all (·.ok)) && replayed.all (·.replayed)
        reconnectCount := session.context.reconnectCount + 1
        reason := request.reason
        requestedFreshState := request.requestDisplayKeyframe
        degradedChannels := [] ++ degraded
        reboundChannels := [] ++ rebound
        pausedModules := paused
        replayedIngress := replayed
        resumedModules := resumed } := hrun.report
  constructor
  case running => rfl
  case context => exact hrun.context
  case inventory => exact hrun.inventory
  case degraded => rw [hreport]; exact hdegraded
  case rebound =>
    rw [hreport]
    exact hrebound.trans (map_moments moments _ fun replacement =>
      (ReconnectRun.replacementKey replacement, ReconnectChannelOperation.rebind))
  case paused => rw [hreport]; exact hpaused
  case resumed => rw [hreport]; exact hresumed
  case replayed => rw [hreport]; exact hreplayed
  case once => exact nodup_affectedModules _ _
  case exactly =>
    intro world hworld id m hfind
    rw [hworld]
    exact mem_affectedModules request hfind
  case calls =>
    have hevents := hrun.events
    rw [map_moments moments request.replacementChannels fun replacement =>
      ReconnectEvent.rebind replacement.channel] at hevents
    exact hevents
  case stays =>
    obtain ⟨network', hnetwork', hsame, hentries⟩ := hrun.network network hnetwork
    refine ⟨network', hnetwork', hsame, fun key hkey => ?_⟩
    exact Relation.ReflTransGen.mono (fun _ _ h => h.resolve_left hkey) _ _ (hentries key)
  case returns =>
    dsimp only
    rw [hreport]
    simp only [Bool.true_and, Bool.and_eq_true, List.all_eq_true, List.nil_append, and_assoc]

/-- **A reconnect of a session ends with the session running**, if it was running or had its network
ready; in every other state it does nothing.  The hosted modules are of `kept`, whose callbacks keep
the state of their module. -/
theorem reconnect_ends_running (kept : M → Prop)
    (hpause : IReconnectAwareModule.pauseForReconnect.KeepsState kept)
    (hresume : IReconnectAwareModule.resumeAfterReconnect.KeepsState kept)
    (refuses : ModuleRouter H → RouteMatch → Bool) (moments : ℕ → Transport)
    (session : Session M H) (request : ReconnectRequest)
    (hall : ∀ network world, session.network = some network →
      network.moduleHost = some world → world.All kept) :
    (session.state = .running ∨ session.state = .networkReady →
      ∀ network, session.network = some network →
        Reconnected kept request session network (session.reconnect refuses moments request)) ∧
    (session.state ≠ .running ∧ session.state ≠ .networkReady →
      session.reconnect refuses moments request = (false, session, [])) := by
  constructor
  · intro hstate network hnetwork
    have hready : ¬ (session.state ≠ .running ∧ session.state ≠ .networkReady) := by
      rintro ⟨hrunning, hnetworkReady⟩
      exact hstate.elim hrunning hnetworkReady
    rw [reconnect, if_neg hready]
    exact phases_spec hpause hresume refuses moments request hnetwork fun world hworld =>
      hall network world hnetwork hworld
  · intro hstate
    rw [reconnect, if_pos hstate]

end Run

/-! ## A session a callback sends in -/

/-- The default channels ready, and two frames queued on the screen channel. -/
def sendingNetwork : NetworkManager :=
  NetworkManager.run
    { channelTypes := [.video], packetTypes := [.video], messageKinds := [.event] }
    (NetworkManager.bringUp defaultMvpChannelSpecs ++
      [(.allOpen, .enqueue (ScreenSender.frame false)),
        (.allOpen, .enqueue { ScreenSender.frame false with sequence := 1 })])

/-- The sender running, with every channel instance closed by now. -/
def sendingHost : HostWorld ScreenSender Unit :=
  (startAllowedModules refusesNothing (some sendingNetwork.registry)
    ((HostWorld.make { role := .agent, localPlatform := "linux" } none ()).addModule
      (some { feature := { manifest := displayScreenAgent }, transport := .allClosed })).2 {}).world

def sendingSession : Session ScreenSender Unit :=
  { context := { role := .agent, localPlatform := "linux" }
    state := .running
    network := some ⟨sendingNetwork, some sendingHost⟩ }

/-- The screen channel degraded, and a replacement that is null. -/
theorem reconnect_ends_running_sending :
    let request : ReconnectRequest :=
      { degradedChannels := [screenChannelKey], replacementChannels := [{}] }
    Reconnected (fun _ => True) request sendingSession ⟨sendingNetwork, some sendingHost⟩
      (sendingSession.reconnect refusesNothing (fun _ => .allClosed) request) :=
  (reconnect_ends_running _ ScreenSender.keepsState_pause ScreenSender.keepsState_resume _ _ _ _
    fun _ _ _ _ _ _ _ => trivial).1 (Or.inl rfl) _ rfl

/-- A request that names no channel, and the entry of the screen channel changes: the module sends a
key frame when it resumes. -/
theorem not_entries_unchanged :
    ¬ ∀ (session : Session ScreenSender Unit) (request : ReconnectRequest)
      (moments : ℕ → Transport) (before after : SessionNetwork ScreenSender Unit),
      IReconnectAwareModule.pauseForReconnect.KeepsState (fun _ : ScreenSender => True) →
      IReconnectAwareModule.resumeAfterReconnect.KeepsState (fun _ : ScreenSender => True) →
      session.state = .running → session.network = some before →
      (session.reconnect refusesNothing moments request).2.1.network = some after →
      ∀ key, ¬ request.Names key →
        after.manager.registry.find key = before.manager.registry.find key := by
  intro h
  obtain ⟨after, hafter⟩ : ∃ after, (sendingSession.reconnect refusesNothing
      (fun _ => .allClosed) {}).2.1.network = some after :=
    Option.isSome_iff_exists.mp (by decide +kernel)
  have hnamed : ¬ ReconnectRequest.Names {} screenChannelKey := by
    rintro (hnamed | ⟨_, hnamed, -⟩) <;> cases hnamed
  have hsame := h sendingSession {} (fun _ => .allClosed) _ after ScreenSender.keepsState_pause
    ScreenSender.keepsState_resume rfl rfl hafter screenChannelKey hnamed
  have hother : (sendingSession.reconnect refusesNothing (fun _ => .allClosed) {}).2.1.network.map
      (fun network => (network.manager.registry.find screenChannelKey).map (·.snapshot.pressure)) ≠
      some ((sendingNetwork.registry.find screenChannelKey).map (·.snapshot.pressure)) := by
    decide +kernel
  refine hother ?_
  rw [hafter, Option.map_some, hsame]

end Session
end FusionDesk
