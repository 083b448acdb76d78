import FusionDesk.General.Runs
import FusionDesk.Module.Ingress
import Mathlib.Algebra.Ring.Nat

/-!
# The subscriptions after any sequence of calls

The registry of a module host and the router it was given, through registrations and removals in
any order: a module is registered when it starts, once more when its ingress is replayed after a
reconnect, and taken back by a rollback or a stop.

* `latest`: the manifest each module is registered with after a sequence of calls.
* `Exact`: the invariant. The subscriptions held for a module are the routes of its latest manifest,
  their tokens are those in the registry's list, and the subscriptions of others are as they were.
* `ingress_table_exact`: it holds after every sequence of calls, and `submitIncoming` hands a packet
  to a module as often as its latest manifest lists the packet.
-/

namespace FusionDesk
namespace Module

open Protocol Network ModuleIngressRegistry

variable {H : Type}

/-- A call of the registry. -/
inductive IngressCall (H : Type)
  | registerManifest (manifest : ModuleManifest) (handler : Option H)
  | unregisterModule (moduleId : String)
  deriving DecidableEq, Repr

/-- The registry and its router. -/
structure IngressState (H : Type) where
  registry : ModuleIngressRegistry := {}
  router : Option (ModuleRouter H)

def IngressState.call (state : IngressState H) : IngressCall H → IngressState H
  | .registerManifest manifest handler =>
    let registered := state.registry.registerManifest refusesNothing state.router manifest handler
    ⟨registered.2.1, registered.2.2⟩
  | .unregisterModule moduleId =>
    let cleared := state.registry.unregisterModule state.router moduleId
    ⟨cleared.1, cleared.2⟩

/-! ## What is registered -/

/-- What a call does to the manifest and handler each module is registered with.  A registration
without a module id or a handler is none. -/
def noteCall (noted : String → Option (ModuleManifest × H)) :
    IngressCall H → String → Option (ModuleManifest × H)
  | .registerManifest manifest (some handler) =>
    if manifest.moduleId = "" then noted
    else Function.update noted manifest.moduleId (some (manifest, handler))
  | .registerManifest _ none => noted
  | .unregisterModule moduleId => Function.update noted moduleId none

/-- The latest manifest registered and not unregistered of each module, and its handler. -/
def latest (calls : List (IngressCall H)) : String → Option (ModuleManifest × H) :=
  calls.foldl noteCall fun _ => none

/-- The subscriptions of a registration: one for each binding and packet type it consumes. -/
def subscriptionsOf (registration : Option (ModuleManifest × H)) :
    List (Subscription (PacketHandler H)) :=
  registration.elim [] fun registered =>
    (routesOf registered.1.channels).map fun route =>
      ⟨route, .module registered.1.moduleId registered.2⟩

/-- How often a manifest lists the channel id, channel type and packet type of a packet. -/
def timesListed (manifest : ModuleManifest) (packet : PacketEnvelope) : ℕ :=
  (manifest.channels.map fun channel =>
    if channel.channelId = packet.channelId ∧ channel.channelType = packet.channelType then
      channel.consumes.count packet.packetType
    else 0).sum

/-! ## The invariant -/

/-- The state after the calls noted, on a router that held `others` for other components. -/
structure Exact (others : List (ℕ × Subscription (PacketHandler H)))
    (noted : String → Option (ModuleManifest × H)) (state : IngressState H)
    (router : ModuleRouter H) : Prop where
  router_eq : state.router = some router
  agree : state.registry.TokensAgree router
  held : ∀ m, (heldFor router m).map Prod.snd = subscriptionsOf (noted m)
  others_eq : heldForOthers router = others

theorem Exact.unregisterModule {others : List (ℕ × Subscription (PacketHandler H))}
    {noted : String → Option (ModuleManifest × H)} {state : IngressState H}
    {router : ModuleRouter H} (h : Exact others noted state router) (moduleId : String) :
    Exact others (Function.update noted moduleId none) (state.call (.unregisterModule moduleId))
      (state.registry.unregisterFrom router moduleId).2 := by
  obtain ⟨hheld, hothers, -⟩ := unregisterFrom_spec h.agree moduleId
  have hcall : state.call (.unregisterModule moduleId) =
      ⟨(state.registry.unregisterFrom router moduleId).1,
        some (state.registry.unregisterFrom router moduleId).2⟩ := by
    rw [IngressState.call, h.router_eq]
    rfl
  rw [hcall]
  refine ⟨rfl, h.agree.unregisterFrom moduleId, fun m => ?_, hothers.trans h.others_eq⟩
  rw [hheld]
  by_cases hm : moduleId = m
  · rw [if_pos hm, ← hm, Function.update_self]
    rfl
  · rw [if_neg hm, Function.update_of_ne (Ne.symm hm), h.held]

theorem Exact.registerManifest {others : List (ℕ × Subscription (PacketHandler H))}
    {noted : String → Option (ModuleManifest × H)} {state : IngressState H}
    {router : ModuleRouter H} (h : Exact others noted state router) {manifest : ModuleManifest}
    (hid : manifest.moduleId ≠ "") (handler : H) :
    Exact others (Function.update noted manifest.moduleId (some (manifest, handler)))
      (state.call (.registerManifest manifest (some handler)))
      (state.registry.registerInto refusesNothing router manifest handler).2.2 := by
  obtain ⟨taken, -, hheld, hothers, -, hroutes⟩ :=
    @registerInto_spec H refusesNothing _ _ h.agree manifest handler
  have hcall : state.call (.registerManifest manifest (some handler)) =
      ⟨(state.registry.registerInto refusesNothing router manifest handler).2.1,
        some (state.registry.registerInto refusesNothing router manifest handler).2.2⟩ := by
    rw [IngressState.call, h.router_eq, ModuleIngressRegistry.registerManifest, if_neg hid]
  rw [hcall]
  refine ⟨rfl, h.agree.registerInto manifest handler, fun m => ?_, hothers.trans h.others_eq⟩
  rw [hheld]
  by_cases hm : manifest.moduleId = m
  · rw [if_pos hm, ← hm, Function.update_self, entriesOf, List.map_map]
    show _ = (routesOf manifest.channels).map _
    rw [← hroutes fun _ _ => rfl, List.map_map]
    rfl
  · rw [if_neg hm, Function.update_of_ne (Ne.symm hm), h.held]

/-- **A call keeps the invariant**, for what is registered after it. -/
theorem Exact.call {others : List (ℕ × Subscription (PacketHandler H))}
    {noted : String → Option (ModuleManifest × H)} {state : IngressState H}
    {router : ModuleRouter H} (h : Exact others noted state router) (call : IngressCall H) :
    ∃ after, Exact others (noteCall noted call) (state.call call) after := by
  cases call with
  | unregisterModule moduleId => exact ⟨_, h.unregisterModule moduleId⟩
  | registerManifest manifest handler =>
    cases handler with
    | none =>
      have hcall : state.call (.registerManifest manifest none) = state := by
        rw [IngressState.call, h.router_eq]
        show (⟨state.registry, some router⟩ : IngressState H) = state
        rw [← h.router_eq]
      rw [hcall]
      exact ⟨router, h⟩
    | some handler =>
      by_cases hid : manifest.moduleId = ""
      · have hcall : state.call (.registerManifest manifest (some handler)) = state := by
          rw [IngressState.call, h.router_eq, ModuleIngressRegistry.registerManifest, if_pos hid]
          show (⟨state.registry, some router⟩ : IngressState H) = state
          rw [← h.router_eq]
        rw [hcall, noteCall, if_pos hid]
        exact ⟨router, h⟩
      · rw [noteCall, if_neg hid]
        exact ⟨_, h.registerManifest hid handler⟩

theorem Exact.run {others : List (ℕ × Subscription (PacketHandler H))}
    (calls : List (IngressCall H)) :
    ∀ {noted : String → Option (ModuleManifest × H)} {state : IngressState H}
      {router : ModuleRouter H}, Exact others noted state router →
      ∃ after, Exact others (calls.foldl noteCall noted) (Runs.run IngressState.call state calls)
        after := by
  induction calls with
  | nil => exact fun h => ⟨_, h⟩
  | cons call calls ih =>
    intro noted state router h
    obtain ⟨after, hafter⟩ := h.call call
    exact ih hafter

/-- The module a registration is for is the one it is noted under. -/
theorem moduleId_of_latest (calls : List (IngressCall H)) :
    ∀ {noted : String → Option (ModuleManifest × H)},
      (∀ m manifest handler, noted m = some (manifest, handler) → manifest.moduleId = m) →
      ∀ m manifest handler, calls.foldl noteCall noted m = some (manifest, handler) →
        manifest.moduleId = m := by
  induction calls with
  | nil => exact fun h => h
  | cons call calls ih =>
    intro noted h
    refine ih fun m manifest handler hm => ?_
    rcases call with ⟨registered, _ | handler'⟩ | moduleId
    · exact h m manifest handler hm
    · by_cases hid : registered.moduleId = ""
      · rw [noteCall, if_pos hid] at hm
        exact h m manifest handler hm
      · rw [noteCall, if_neg hid] at hm
        by_cases hsame : m = registered.moduleId
        · rw [hsame, Function.update_self] at hm
          cases hm
          exact hsame.symm
        · rw [Function.update_of_ne hsame] at hm
          exact h m manifest handler hm
    · rw [noteCall] at hm
      by_cases hsame : m = moduleId
      · rw [hsame, Function.update_self] at hm
        cases hm
      · rw [Function.update_of_ne hsame] at hm
        exact h m manifest handler hm

/-! ## What a packet reaches -/

theorem routeMatches_routeOf (channel : ChannelBinding) (packetType : PacketType)
    (packet : PacketEnvelope) : routeMatches (routeOf channel packetType) packet =
      decide (channel.channelId = packet.channelId ∧ channel.channelType = packet.channelType ∧
        packetType = packet.packetType) := by
  rw [routeMatches, routeOf]
  by_cases hid : channel.channelId = packet.channelId
  · by_cases htype : channel.channelType = packet.channelType
    · simp [hid, htype, Bool.beq_eq_decide_eq]
    · simp [htype]
  · simp [hid]

theorem countP_routesOf (channels : List ChannelBinding) (packet : PacketEnvelope) :
    (routesOf channels).countP (routeMatches · packet) =
      (channels.map fun channel =>
        if channel.channelId = packet.channelId ∧ channel.channelType = packet.channelType then
          channel.consumes.count packet.packetType
        else 0).sum := by
  rw [routesOf, List.countP_flatMap]
  refine congrArg List.sum (List.map_congr_left fun channel _ => ?_)
  show ((channel.consumes.map (routeOf channel)).countP fun route => routeMatches route packet) = _
  rw [List.countP_map]
  by_cases hkey : channel.channelId = packet.channelId ∧ channel.channelType = packet.channelType
  · rw [if_pos hkey, List.count]
    refine List.countP_congr fun packetType _ => ?_
    show routeMatches (routeOf channel packetType) packet = true ↔ _
    rw [routeMatches_routeOf, decide_eq_true_iff, beq_iff_eq, ← and_assoc]
    exact and_iff_right hkey
  · rw [if_neg hkey, List.countP_eq_zero]
    intro packetType _ hmatch
    change routeMatches (routeOf channel packetType) packet = true at hmatch
    rw [routeMatches_routeOf, decide_eq_true_iff, ← and_assoc] at hmatch
    exact hkey hmatch.1

/-- The handlers of a module that a packet calls, where the router holds a registration for it. -/
theorem submitIncoming_of_held {router : ModuleRouter H} {m : String}
    {registration : Option (ModuleManifest × H)}
    (h : (heldFor router m).map Prod.snd = subscriptionsOf registration)
    (packet : PacketEnvelope) :
    (router.submitIncoming packet).filter (·.isFor m) =
      registration.elim [] fun registered =>
        List.replicate (timesListed registered.1 packet)
          (.module registered.1.moduleId registered.2) := by
  have hsplit : (router.submitIncoming packet).filter (·.isFor m) =
      (((heldFor router m).map Prod.snd).filter fun subscription =>
        routeMatches subscription.route packet).map Subscription.handler := by
    rw [SubscriptionTable.submitIncoming_filter, List.filter_map, List.map_map]
    rfl
  rw [hsplit, h]
  cases registration with
  | none => rfl
  | some registered =>
    show (((routesOf registered.1.channels).map _).filter _).map _ = List.replicate _ _
    rw [List.filter_map, List.map_map]
    show (((routesOf registered.1.channels).filter (routeMatches · packet)).map
      fun _ => PacketHandler.module registered.1.moduleId registered.2) = _
    rw [List.map_const', ← List.countP_eq_length_filter, countP_routesOf, timesListed]

/-- **The table is exact after every sequence of calls.**  On a router that held nothing for the
registry, the subscriptions held for a module are those of its latest manifest and no others, the
registry has their tokens, other components keep theirs, and a packet is handed to the module as
often as that manifest lists its channel id, channel type and packet type. -/
theorem ingress_table_exact (router : ModuleRouter H) (hidle : ∀ m, heldFor router m = [])
    (calls : List (IngressCall H)) :
    ∃ after, (Runs.run IngressState.call ⟨{}, some router⟩ calls).router = some after ∧
      (∀ m, (heldFor after m).map Prod.snd = subscriptionsOf (latest calls m)) ∧
      (∀ m, (Runs.run IngressState.call ⟨{}, some router⟩ calls).registry.tokensOf m =
        (heldFor after m).map Prod.fst) ∧
      heldForOthers after = heldForOthers router ∧
      ∀ packet m, (after.submitIncoming packet).filter (·.isFor m) =
        (latest calls m).elim [] fun registered =>
          List.replicate (timesListed registered.1 packet) (.module m registered.2) := by
  have hstart : Exact (heldForOthers router) (fun _ => none) ⟨{}, some router⟩ router := by
    refine ⟨rfl, fun m => ?_, fun m => ?_, rfl⟩
    · rw [hidle m, tokensOf, Std.ExtTreeMap.getElem?_empty]
      rfl
    · rw [hidle m]
      rfl
  obtain ⟨after, hafter⟩ := hstart.run calls
  refine ⟨after, hafter.router_eq, hafter.held, fun m => (hafter.agree m).symm, hafter.others_eq,
    fun packet m => ?_⟩
  rw [submitIncoming_of_held (hafter.held m) packet]
  cases hlatest : calls.foldl noteCall (fun _ => none) m with
  | none => rw [latest, hlatest]; rfl
  | some registered =>
    have hm : registered.1.moduleId = m := by
      refine moduleId_of_latest calls ?_ m _ _ hlatest
      intro n manifest handler hnone
      cases hnone
    rw [latest, hlatest]
    show List.replicate _ (PacketHandler.module registered.1.moduleId _) = _
    rw [hm]
    rfl

/-- A module registered again with one packet type more and then taken back, next to one that
stays, on a router another component uses. -/
theorem ingress_table_exact_reregistered :
    let manifest : ModuleManifest := { moduleId := "a", channels := [{ consumes := [.video] }] }
    let wider : ModuleManifest :=
      { moduleId := "a", channels := [{ consumes := [.video, .mouse] }] }
    let other : ModuleManifest := { moduleId := "b", channels := [{ consumes := [.video] }] }
    let router : ModuleRouter ℕ := (SubscriptionTable.empty.subscribe {} (some (.other 9))).2
    ∃ after, (Runs.run IngressState.call ⟨{}, some router⟩
        [.registerManifest manifest (some 1), .registerManifest wider (some 2),
          .registerManifest other (some 3), .unregisterModule "a"]).router = some after ∧
      (heldFor after "a").map Prod.snd = [] ∧
      ∀ packet, ((after.submitIncoming packet).filter (·.isFor "b")) =
        List.replicate (timesListed other packet) (.module "b" 3) := by
  intro manifest wider other router
  have hidle : ∀ m, heldFor router m = [] := by
    intro m
    rw [heldFor, SubscriptionTable.held_subscribe, SubscriptionTable.held_empty]
    rfl
  obtain ⟨after, hrouter, hheld, -, -, hsubmit⟩ := ingress_table_exact router hidle
    [.registerManifest manifest (some 1), .registerManifest wider (some 2),
      .registerManifest other (some 3), .unregisterModule "a"]
  refine ⟨after, hrouter, ?_, fun packet => ?_⟩
  · rw [hheld]
    rfl
  · rw [hsubmit]
    rfl

end Module
end FusionDesk
