import FusionDesk.Module.Host
import FusionDesk.Network.NetworkManager
import Mathlib.Logic.Relation

/-!
# The module host in a reconnect

`pauseRunningModulesForReconnect`, `replayRunningModuleIngressForReconnect` and
`resumeRunningModulesAfterReconnect` of `ModuleHost`.  Each goes through the modules and deals with
the running ones that are bound to an affected channel: the first in reverse, the others in the
order of the host.

A module that implements `IReconnectAwareModule` has its callback called.  The callback changes the
module, and the network manager the module's runtime points to: modules send packets from it.

* `notifyAffected`, `replayAffected`: one round of each loop.
* `profile`: what the loops ask of a module.
* `foldl_notifyAffected`, `foldl_replayAffected`: which modules a loop deals with, what it reports
  and calls, and what stays.
-/

namespace FusionDesk
namespace Module

open Protocol Network Session

structure ModuleReconnectOptions where
  reason : String := ""
  affectedChannels : List ChannelKey := []
  reconnectCount : UInt32 := 0
  requestFreshState : Bool := false
  deriving DecidableEq, Repr

structure ModuleReconnectReport where
  moduleId : String := ""
  notified : Bool := false
  diagnostics : String := ""
  deriving DecidableEq, Repr

structure ModuleIngressReplayReport where
  moduleId : String := ""
  replayed : Bool := false
  tokenCount : ℕ := 0
  diagnostics : String := ""
  message : String := ""
  deriving DecidableEq, Repr

/-- A callback of `IReconnectAwareModule`: what it makes of the module and of the network
manager. -/
structure ReconnectCallback (M : Type) [IModule M] where
  call : M → NetworkManager → ModuleReconnectOptions → M × NetworkManager
  manifest_call : ∀ m network options,
    IModule.manifest (call m network options).1 = IModule.manifest m

/-- `class IReconnectAwareModule`, and which modules implement it. -/
class IReconnectAwareModule (M : Type) [IModule M] where
  reconnectAware : M → Bool
  pauseForReconnect : ReconnectCallback M
  resumeAfterReconnect : ReconnectCallback M
  /-- An object keeps its class. -/
  aware_pause : ∀ m network options,
    reconnectAware (pauseForReconnect.call m network options).1 = reconnectAware m
  aware_resume : ∀ m network options,
    reconnectAware (resumeAfterReconnect.call m network options).1 = reconnectAware m

/-- A call a reconnect makes. -/
inductive ReconnectEvent
  /-- `markDegraded`. -/
  | degrade (key : ChannelKey)
  | pause (moduleId : String)
  /-- `rebindChannel`. -/
  | rebind (channel : Option IChannel)
  /-- `registerManifest` of a module that is running. -/
  | replay (moduleId : String)
  | resume (moduleId : String)
  deriving DecidableEq, Repr

/-- The host, the network manager of its runtime, and the calls made. -/
structure ReconnectWorld (M H : Type) [IModule M] where
  world : HostWorld M H
  network : NetworkManager
  events : List ReconnectEvent := []

variable {M H : Type} [IModule M]

/-! ## The loops -/

/-- `notifyPause` and `notifyResume`, which differ in the callback. -/
def notify [IReconnectAwareModule M] (callback : ReconnectCallback M)
    (event : String → ReconnectEvent) (options : ModuleReconnectOptions)
    (current : ReconnectWorld M H) (id : String) (target : M) :
    ModuleReconnectReport × ReconnectWorld M H :=
  if IReconnectAwareModule.reconnectAware target then
    let called := callback.call target current.network options
    (⟨(IModule.manifest target).moduleId, true, IModule.diagnostics called.1⟩,
      { world := current.world.update id (fun m => (callback.call m current.network options).1)
          fun m => callback.manifest_call m current.network options
        network := called.2
        events := current.events ++ [event id] })
  else (⟨(IModule.manifest target).moduleId, false, IModule.diagnostics target⟩, current)

/-- One round of the loops that pause and resume. -/
def notifyAffected [IReconnectAwareModule M] (callback : ReconnectCallback M)
    (event : String → ReconnectEvent) (options : ModuleReconnectOptions)
    (acc : List ModuleReconnectReport × ReconnectWorld M H) (id : String) :
    List ModuleReconnectReport × ReconnectWorld M H :=
  match acc.2.world.host.module id with
  | none => acc
  | some target =>
    if IModule.state target ≠ .running then acc
    else if ¬ affectedByReconnect (IModule.manifest target) options.affectedChannels then acc
    else
      let notified := notify callback event options acc.2 id target
      (acc.1 ++ [notified.1], notified.2)

def pauseRunningModulesForReconnect [IReconnectAwareModule M] (current : ReconnectWorld M H)
    (options : ModuleReconnectOptions) : List ModuleReconnectReport × ReconnectWorld M H :=
  current.world.host.moduleOrder.reverse.foldl
    (notifyAffected IReconnectAwareModule.pauseForReconnect .pause options) ([], current)

def resumeRunningModulesAfterReconnect [IReconnectAwareModule M] (current : ReconnectWorld M H)
    (options : ModuleReconnectOptions) : List ModuleReconnectReport × ReconnectWorld M H :=
  current.world.host.moduleOrder.foldl
    (notifyAffected IReconnectAwareModule.resumeAfterReconnect .resume options) ([], current)

/-- `replayIngress`. -/
def replayIngress (refuses : ModuleRouter H → RouteMatch → Bool) (current : ReconnectWorld M H)
    (id : String) (target : M) : ModuleIngressReplayReport × ReconnectWorld M H :=
  let registered := current.world.registerManifest refuses (IModule.manifest target)
  let replayed := ¬ registered.1.tokens.isEmpty
  ({ moduleId := (IModule.manifest target).moduleId
     replayed := replayed
     tokenCount := registered.1.tokens.length
     diagnostics := IModule.diagnostics target
     message := if replayed then "module ingress replayed" else "module ingress replay failed" },
    { current with world := registered.2, events := current.events ++ [.replay id] })

/-- One round of the loop that replays. -/
def replayAffected (refuses : ModuleRouter H → RouteMatch → Bool)
    (options : ModuleReconnectOptions)
    (acc : List ModuleIngressReplayReport × ReconnectWorld M H) (id : String) :
    List ModuleIngressReplayReport × ReconnectWorld M H :=
  match acc.2.world.host.module id with
  | none => acc
  | some target =>
    if IModule.state target ≠ .running then acc
    else if ¬ hasConsumedPackets (IModule.manifest target) then acc
    else if ¬ affectedByReconnect (IModule.manifest target) options.affectedChannels then acc
    else
      let replayed := replayIngress refuses acc.2 id target
      (acc.1 ++ [replayed.1], replayed.2)

def replayRunningModuleIngressForReconnect (refuses : ModuleRouter H → RouteMatch → Bool)
    (current : ReconnectWorld M H) (options : ModuleReconnectOptions) :
    List ModuleIngressReplayReport × ReconnectWorld M H :=
  current.world.host.moduleOrder.foldl (replayAffected refuses options) ([], current)

/-! ## What the loops ask of a module -/

/-- A module's manifest, its state, and whether it has the callbacks. -/
structure ModuleProfile where
  manifest : ModuleManifest
  state : ModuleState
  aware : Bool
  deriving DecidableEq, Repr

namespace ModuleProfile

/-- The module is running and bound to an affected channel. -/
def affected (profile : ModuleProfile) (channels : List ChannelKey) : Bool :=
  profile.state == .running && affectedByReconnect profile.manifest channels

/-- And it consumes packets. -/
def replayed (profile : ModuleProfile) (channels : List ChannelKey) : Bool :=
  profile.affected channels && hasConsumedPackets profile.manifest

end ModuleProfile

def profileOf [IReconnectAwareModule M] (m : M) : ModuleProfile :=
  ⟨IModule.manifest m, IModule.state m, IReconnectAwareModule.reconnectAware m⟩

namespace HostWorld

/-- The profile of a hosted module. -/
def profile [IReconnectAwareModule M] (world : HostWorld M H) (id : String) :
    Option ModuleProfile :=
  (world.host.module id).map profileOf

/-- The modules of a list that a condition on the profile picks. -/
def picked [IReconnectAwareModule M] (world : HostWorld M H) (p : ModuleProfile → Bool)
    (ids : List String) : List String :=
  ids.filter fun id => (world.profile id).any p

/-- Every hosted module is one of `kept`. -/
def All (kept : M → Prop) (world : HostWorld M H) : Prop :=
  ∀ id m, world.host.module id = some m → kept m

/-- The same modules are hosted in the same order, each with the same manifest and in the same
state, and they are still of `kept` if they were. -/
structure SameModules [IReconnectAwareModule M] (kept : M → Prop) (before after : HostWorld M H) :
    Prop where
  order : after.host.moduleOrder = before.host.moduleOrder
  profile : ∀ id, after.profile id = before.profile id
  all : before.All kept → after.All kept

theorem SameModules.refl [IReconnectAwareModule M] (kept : M → Prop) (world : HostWorld M H) :
    SameModules kept world world := ⟨rfl, fun _ => rfl, id⟩

theorem SameModules.trans [IReconnectAwareModule M] {kept : M → Prop}
    {first second third : HostWorld M H} (h : SameModules kept first second)
    (h' : SameModules kept second third) : SameModules kept first third :=
  ⟨h'.order.trans h.order, fun id => (h'.profile id).trans (h.profile id),
    fun hall => h'.all (h.all hall)⟩

theorem SameModules.picked [IReconnectAwareModule M] {kept : M → Prop}
    {before after : HostWorld M H} (h : SameModules kept before after)
    (p : ModuleProfile → Bool) (ids : List String) :
    after.picked p ids = before.picked p ids := by
  unfold HostWorld.picked
  simp only [h.profile]

theorem picked_append [IReconnectAwareModule M] (world : HostWorld M H) (p : ModuleProfile → Bool)
    (ids ids' : List String) :
    world.picked p (ids ++ ids') = world.picked p ids ++ world.picked p ids' :=
  List.filter_append _ _

/-- A module is picked by what its profile is. -/
theorem picked_of_profile [IReconnectAwareModule M] {world : HostWorld M H}
    {p : ModuleProfile → Bool} {id : String} {profile : Option ModuleProfile}
    (h : world.profile id = profile) :
    world.picked p [id] = if profile.any p then [id] else [] := by
  rw [picked, List.filter_cons, List.filter_nil, h]

end HostWorld

open HostWorld

/-! ## Pausing and resuming -/

namespace ReconnectCallback

/-- On the modules of `kept` the callback does not change the state of its module, which is still
of `kept` after it. -/
structure KeepsState (callback : ReconnectCallback M) (kept : M → Prop) : Prop where
  state : ∀ m network options, kept m →
    IModule.state (callback.call m network options).1 = IModule.state m
  kept : ∀ m network options, kept m → kept (callback.call m network options).1

end ReconnectCallback

namespace ModuleProfile

/-- The module has its callback called. -/
def called (profile : ModuleProfile) (channels : List ChannelKey) : Bool :=
  profile.affected channels && profile.aware

end ModuleProfile

/-- The callback, called on a module of `kept` that a loop with these options calls, makes the one
registry entry of a channel of the other. -/
def ReconnectCallback.Changes [IReconnectAwareModule M] (callback : ReconnectCallback M)
    (kept : M → Prop) (options : ModuleReconnectOptions) (key : ChannelKey)
    (entry entry' : Option ChannelEntry) : Prop :=
  ∃ m network, kept m ∧ (profileOf m).called options.affectedChannels = true ∧
    network.registry.find key = entry ∧
    (callback.call m network options).2.registry.find key = entry'

/-- What a report says about its module. -/
def ModuleReconnectReport.entry (report : ModuleReconnectReport) : String × Bool :=
  (report.moduleId, report.notified)

/-- The entry of a hosted module in a list of such reports. -/
def HostWorld.entryOf [IReconnectAwareModule M] (world : HostWorld M H) (id : String) :
    String × Bool :=
  (id, (world.profile id).any ModuleProfile.aware)

/-- A loop has dealt with the modules `ids`: it reported on the affected ones and called those that
have a callback. -/
structure Notified [IReconnectAwareModule M] (kept : M → Prop) (callback : ReconnectCallback M)
    (event : String → ReconnectEvent) (options : ModuleReconnectOptions) (ids : List String)
    (before after : List ModuleReconnectReport × ReconnectWorld M H) : Prop where
  same : SameModules kept before.2.world after.2.world
  reports : after.1.map ModuleReconnectReport.entry =
    before.1.map ModuleReconnectReport.entry ++
      (before.2.world.picked (·.affected options.affectedChannels) ids).map
        before.2.world.entryOf
  events : after.2.events =
    before.2.events ++ (before.2.world.picked (·.called options.affectedChannels) ids).map event
  /-- What an entry becomes, the callbacks make of it. -/
  network : ∀ key, Relation.ReflTransGen (callback.Changes kept options key)
    (before.2.network.registry.find key) (after.2.network.registry.find key)

theorem Notified.append [IReconnectAwareModule M] {kept : M → Prop}
    {callback : ReconnectCallback M} {event : String → ReconnectEvent}
    {options : ModuleReconnectOptions} {ids ids' : List String}
    {first second third : List ModuleReconnectReport × ReconnectWorld M H}
    (h : Notified kept callback event options ids first second)
    (h' : Notified kept callback event options ids' second third) :
    Notified kept callback event options (ids ++ ids') first third := by
  have hentry : second.2.world.entryOf = first.2.world.entryOf := by
    ext1 id
    rw [entryOf, h.same.profile, entryOf]
  refine ⟨h.same.trans h'.same, ?_, ?_, fun key => (h.network key).trans (h'.network key)⟩
  · rw [h'.reports, h.reports, h.same.picked, hentry, picked_append, List.map_append,
      List.append_assoc]
  · rw [h'.events, h.events, h.same.picked, picked_append, List.map_append, List.append_assoc]

/-- A round that leaves its module alone. -/
theorem Notified.skip [IReconnectAwareModule M] (kept : M → Prop) (callback : ReconnectCallback M)
    (event : String → ReconnectEvent) {options : ModuleReconnectOptions} {id : String}
    {acc : List ModuleReconnectReport × ReconnectWorld M H} {profile : Option ModuleProfile}
    (hprofile : acc.2.world.profile id = profile)
    (hnot : profile.any (·.affected options.affectedChannels) = false) :
    Notified kept callback event options [id] acc acc := by
  have hcalled : profile.any (·.called options.affectedChannels) = false := by
    cases profile with
    | none => rfl
    | some profile =>
      change profile.affected options.affectedChannels = false at hnot
      show (profile.affected options.affectedChannels && profile.aware) = false
      rw [hnot, Bool.false_and]
  refine ⟨.refl _ _, ?_, ?_, fun _ => .refl⟩
  · rw [picked_of_profile hprofile, hnot, if_neg Bool.false_ne_true, List.map_nil, List.append_nil]
  · rw [picked_of_profile hprofile, hcalled, if_neg Bool.false_ne_true, List.map_nil,
      List.append_nil]

/-- A callback that keeps the state leaves every profile as it was. -/
theorem sameModules_update [IReconnectAwareModule M] {kept : M → Prop}
    {callback : ReconnectCallback M} (hstate : callback.KeepsState kept)
    (haware : ∀ m network options, IReconnectAwareModule.reconnectAware
      (callback.call m network options).1 = IReconnectAwareModule.reconnectAware m)
    {world : HostWorld M H} (hall : world.All kept) (id : String) (network : NetworkManager)
    (options : ModuleReconnectOptions) :
    SameModules kept world (world.update id (fun m => (callback.call m network options).1)
      fun m => callback.manifest_call m network options) := by
  refine ⟨HostWorld.order_update _ _ _ _, fun n => ?_, fun _ n m hm => ?_⟩
  · rw [profile, HostWorld.module_update, profile]
    by_cases hn : id = n
    · rw [if_pos hn]
      cases hfind : world.host.module n with
      | none => rfl
      | some m =>
        rw [Option.map_some, Option.map_some, Option.map_some, profileOf, profileOf,
          callback.manifest_call, hstate.state _ _ _ (hall n m hfind), haware]
    · rw [if_neg hn]
  · rw [HostWorld.module_update] at hm
    by_cases hn : id = n
    · rw [if_pos hn] at hm
      obtain ⟨m', hm', rfl⟩ := Option.map_eq_some_iff.mp hm
      exact hstate.kept _ _ _ (hall n m' hm')
    · rw [if_neg hn] at hm
      exact hall n m hm

/-- A round on a module that is running and affected. -/
theorem notify_spec [IReconnectAwareModule M] {kept : M → Prop} {callback : ReconnectCallback M}
    (hstate : callback.KeepsState kept)
    (haware : ∀ m network options, IReconnectAwareModule.reconnectAware
      (callback.call m network options).1 = IReconnectAwareModule.reconnectAware m)
    (event : String → ReconnectEvent) (options : ModuleReconnectOptions)
    {acc : List ModuleReconnectReport × ReconnectWorld M H} (hall : acc.2.world.All kept)
    {id : String} {target : M}
    (hfind : acc.2.world.host.module id = some target)
    (haffected : (profileOf target).affected options.affectedChannels = true) :
    Notified kept callback event options [id] acc
      (acc.1 ++ [(notify callback event options acc.2 id target).1],
        (notify callback event options acc.2 id target).2) := by
  have hprofile : acc.2.world.profile id = some (profileOf target) := by
    rw [profile, hfind, Option.map_some]
  have hname : (IModule.manifest target).moduleId = id := acc.2.world.host.named _ _ hfind
  have hpicked : acc.2.world.picked (·.affected options.affectedChannels) [id] = [id] := by
    rw [picked_of_profile hprofile, Option.any_some, if_pos haffected]
  have hentry : acc.2.world.entryOf id =
      ((IModule.manifest target).moduleId, IReconnectAwareModule.reconnectAware target) := by
    rw [entryOf, hprofile, hname]
    rfl
  have hcalled : (profileOf target).called options.affectedChannels =
      IReconnectAwareModule.reconnectAware target := by
    rw [ModuleProfile.called, haffected, Bool.true_and]
    rfl
  rw [notify]
  cases hcallback : IReconnectAwareModule.reconnectAware target with
  | true =>
    rw [if_pos rfl]
    refine ⟨sameModules_update hstate haware hall _ _ _, ?_, ?_, fun key => .single ?_⟩
    · rw [hpicked, List.map_append, List.map_singleton, List.map_singleton, hentry, hcallback]
      rfl
    · rw [picked_of_profile hprofile, Option.any_some, hcalled, hcallback, if_pos rfl]
      rfl
    · exact ⟨target, acc.2.network, hall id target hfind, hcalled.trans hcallback, rfl, rfl⟩
  | false =>
    rw [if_neg Bool.false_ne_true]
    refine ⟨.refl _ _, ?_, ?_, fun _ => .refl⟩
    · rw [hpicked, List.map_append, List.map_singleton, List.map_singleton, hentry, hcallback]
      rfl
    · rw [picked_of_profile hprofile, Option.any_some, hcalled, hcallback,
        if_neg Bool.false_ne_true, List.map_nil, List.append_nil]

theorem notifyAffected_spec [IReconnectAwareModule M] {kept : M → Prop}
    {callback : ReconnectCallback M} (hstate : callback.KeepsState kept)
    (haware : ∀ m network options, IReconnectAwareModule.reconnectAware
      (callback.call m network options).1 = IReconnectAwareModule.reconnectAware m)
    (event : String → ReconnectEvent) (options : ModuleReconnectOptions)
    {acc : List ModuleReconnectReport × ReconnectWorld M H} (hall : acc.2.world.All kept)
    (id : String) :
    Notified kept callback event options [id] acc
      (notifyAffected callback event options acc id) := by
  rw [notifyAffected]
  cases hfind : acc.2.world.host.module id with
  | none =>
    have hprofile : acc.2.world.profile id = none := by rw [profile, hfind, Option.map_none]
    exact .skip kept callback event hprofile rfl
  | some target =>
    have hprofile : acc.2.world.profile id = some (profileOf target) := by
      rw [profile, hfind, Option.map_some]
    dsimp only
    by_cases hrunning : IModule.state target = .running
    · rw [if_neg (not_not_intro hrunning)]
      by_cases haffected :
          affectedByReconnect (IModule.manifest target) options.affectedChannels = true
      · rw [if_neg (not_not_intro haffected)]
        refine notify_spec hstate haware event options hall hfind ?_
        exact Bool.and_eq_true_iff.mpr ⟨beq_iff_eq.mpr hrunning, haffected⟩
      · rw [if_pos haffected]
        refine .skip kept callback event hprofile ?_
        exact Bool.and_eq_false_iff.mpr (Or.inr (Bool.eq_false_of_not_eq_true haffected))
    · rw [if_pos hrunning]
      refine .skip kept callback event hprofile ?_
      exact Bool.and_eq_false_iff.mpr (Or.inl (beq_false_of_ne hrunning))

/-- **The loop deals with the modules of its list in order.** -/
theorem foldl_notifyAffected [IReconnectAwareModule M] {kept : M → Prop}
    {callback : ReconnectCallback M} (hstate : callback.KeepsState kept)
    (haware : ∀ m network options, IReconnectAwareModule.reconnectAware
      (callback.call m network options).1 = IReconnectAwareModule.reconnectAware m)
    (event : String → ReconnectEvent) (options : ModuleReconnectOptions) (ids : List String) :
    ∀ acc : List ModuleReconnectReport × ReconnectWorld M H, acc.2.world.All kept →
      Notified kept callback event options ids acc
        (ids.foldl (notifyAffected callback event options) acc) := by
  induction ids with
  | nil =>
    intro acc _
    refine ⟨.refl _ _, ?_, ?_, fun _ => .refl⟩
    · exact (List.append_nil _).symm
    · exact (List.append_nil _).symm
  | cons id ids ih =>
    intro acc hall
    have hround := notifyAffected_spec hstate haware event options hall id
    exact hround.append (ih _ (hround.same.all hall))

/-! ## Replaying -/

/-- The loop that replays has dealt with the modules `ids`. -/
structure Replayed [IReconnectAwareModule M] (kept : M → Prop) (channels : List ChannelKey)
    (ids : List String) (before after : List ModuleIngressReplayReport × ReconnectWorld M H) :
    Prop where
  same : SameModules kept before.2.world after.2.world
  reports : after.1.map (·.moduleId) =
    before.1.map (·.moduleId) ++ before.2.world.picked (·.replayed channels) ids
  events : after.2.events =
    before.2.events ++ (before.2.world.picked (·.replayed channels) ids).map ReconnectEvent.replay
  network : after.2.network = before.2.network

theorem Replayed.append [IReconnectAwareModule M] {kept : M → Prop} {channels : List ChannelKey}
    {ids ids' : List String}
    {first second third : List ModuleIngressReplayReport × ReconnectWorld M H}
    (h : Replayed kept channels ids first second) (h' : Replayed kept channels ids' second third) :
    Replayed kept channels (ids ++ ids') first third := by
  refine ⟨h.same.trans h'.same, ?_, ?_, h'.network.trans h.network⟩
  · rw [h'.reports, h.reports, h.same.picked, picked_append, List.append_assoc]
  · rw [h'.events, h.events, h.same.picked, picked_append, List.map_append, List.append_assoc]

theorem Replayed.skip [IReconnectAwareModule M] {kept : M → Prop} {channels : List ChannelKey}
    {id : String}
    {acc : List ModuleIngressReplayReport × ReconnectWorld M H} {profile : Option ModuleProfile}
    (hprofile : acc.2.world.profile id = profile)
    (hnot : profile.any (·.replayed channels) = false) : Replayed kept channels [id] acc acc := by
  refine ⟨.refl _ _, ?_, ?_, rfl⟩
  · rw [picked_of_profile hprofile, hnot, if_neg Bool.false_ne_true, List.append_nil]
  · rw [picked_of_profile hprofile, hnot, if_neg Bool.false_ne_true, List.map_nil,
      List.append_nil]

theorem replayAffected_spec [IReconnectAwareModule M] (kept : M → Prop)
    (refuses : ModuleRouter H → RouteMatch → Bool) (options : ModuleReconnectOptions)
    (acc : List ModuleIngressReplayReport × ReconnectWorld M H) (id : String) :
    Replayed kept options.affectedChannels [id] acc (replayAffected refuses options acc id) := by
  rw [replayAffected]
  cases hfind : acc.2.world.host.module id with
  | none =>
    have hprofile : acc.2.world.profile id = none := by rw [profile, hfind, Option.map_none]
    exact .skip hprofile rfl
  | some target =>
    have hprofile : acc.2.world.profile id = some (profileOf target) := by
      rw [profile, hfind, Option.map_some]
    have hname : (IModule.manifest target).moduleId = id := acc.2.world.host.named _ _ hfind
    have hreplayed : (profileOf target).replayed options.affectedChannels =
        (IModule.state target == .running &&
          affectedByReconnect (IModule.manifest target) options.affectedChannels &&
          hasConsumedPackets (IModule.manifest target)) := rfl
    dsimp only
    by_cases hrunning : IModule.state target = .running
    · rw [if_neg (not_not_intro hrunning)]
      by_cases hconsumes : hasConsumedPackets (IModule.manifest target) = true
      · rw [if_neg (not_not_intro hconsumes)]
        by_cases haffected :
            affectedByReconnect (IModule.manifest target) options.affectedChannels = true
        · rw [if_neg (not_not_intro haffected)]
          have hpicked : acc.2.world.picked (·.replayed options.affectedChannels) [id] = [id] := by
            rw [picked_of_profile hprofile, Option.any_some, hreplayed, hrunning, haffected,
              hconsumes]
            rfl
          refine ⟨⟨rfl, fun _ => rfl, fun hall => hall⟩, ?_, ?_, rfl⟩
          · rw [hpicked, List.map_append, ← hname]
            rfl
          · rw [hpicked]
            rfl
        · rw [if_pos haffected]
          refine .skip hprofile ?_
          rw [Option.any_some, hreplayed, Bool.eq_false_of_not_eq_true haffected, Bool.and_false,
            Bool.false_and]
      · rw [if_pos hconsumes]
        refine .skip hprofile ?_
        rw [Option.any_some, hreplayed, Bool.eq_false_of_not_eq_true hconsumes, Bool.and_false]
    · rw [if_pos hrunning]
      refine .skip hprofile ?_
      rw [Option.any_some, hreplayed, beq_false_of_ne hrunning, Bool.false_and, Bool.false_and]

theorem foldl_replayAffected [IReconnectAwareModule M] (kept : M → Prop)
    (refuses : ModuleRouter H → RouteMatch → Bool) (options : ModuleReconnectOptions)
    (ids : List String) :
    ∀ acc : List ModuleIngressReplayReport × ReconnectWorld M H,
      Replayed kept options.affectedChannels ids acc
        (ids.foldl (replayAffected refuses options) acc) := by
  induction ids with
  | nil =>
    intro acc
    refine ⟨.refl _ _, ?_, ?_, rfl⟩
    · exact (List.append_nil _).symm
    · exact (List.append_nil _).symm
  | cons id ids ih =>
    intro acc
    exact (replayAffected_spec kept refuses options acc id).append (ih _)

end Module
end FusionDesk
