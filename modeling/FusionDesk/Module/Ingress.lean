import FusionDesk.Module.Manifest
import FusionDesk.Network.Subscriptions

/-!
# The ingress registry

`ModuleIngressRegistry` under `src/core/module/module_ingress.cpp`: it subscribes a module to the
packets its manifest consumes, and keeps the tokens so that it can take the subscriptions back.

The registry calls the router through `INetworkRouter`.  An implementation of that interface may
refuse a subscription and return token 0; `refuses` says when the one at hand does, and
`refusesNothing` is `NetworkRouter`.  The router is `none` where the pointer is null.

* `registerRoutes`, `registerManifest`, `unregisterModule`: the code.
* `TokensAgree`: the lists of the registry are the tokens of the module's subscriptions.
* `unregisterFrom_spec`, `registerInto_spec`: what each call does to the subscriptions of every
  module and to those of others.
-/

namespace FusionDesk
namespace Module

open Protocol Network

/-- A callable as the router stores it. -/
inductive PacketHandler (H : Type)
  /-- The closure of `registerManifest`, which calls `handler(moduleId, packet)`. -/
  | module (moduleId : String) (handler : H)
  /-- A handler of another component. -/
  | other (handler : H)
  deriving DecidableEq, Repr

namespace PacketHandler

variable {H : Type}

/-- The handler hands the packet to the module. -/
def isFor (moduleId : String) : PacketHandler H → Bool
  | module owner _ => owner == moduleId
  | other _ => false

/-- The handler is not one of the registry. -/
def isOther : PacketHandler H → Bool
  | module _ _ => false
  | other _ => true

@[simp] theorem isFor_module (owner m : String) (handler : H) :
    (module owner handler).isFor m = true ↔ owner = m := beq_iff_eq

@[simp] theorem isOther_module (owner : String) (handler : H) :
    (module owner handler).isOther = false := rfl

theorem isFor_unique {m n : String} (hne : m ≠ n) {handler : PacketHandler H}
    (h : handler.isFor m = true) : handler.isFor n = false := by
  cases handler with
  | module owner _ =>
    obtain rfl : owner = m := beq_iff_eq.mp h
    exact beq_false_of_ne hne
  | other _ => rfl

theorem isOther_of_isFor {m : String} {handler : PacketHandler H} (h : handler.isFor m = true) :
    handler.isOther = false := by
  cases handler with
  | module _ _ => rfl
  | other _ => cases h

end PacketHandler

/-- The router of the process, as the registry holds it. -/
abbrev ModuleRouter (H : Type) := SubscriptionTable (PacketHandler H)

structure RegisteredIngress where
  moduleId : String := ""
  tokens : List ℕ := []
  deriving DecidableEq, Repr

/-- `class ModuleIngressRegistry`. -/
structure ModuleIngressRegistry where
  tokensByModule : Std.ExtTreeMap String (List ℕ) := ∅

section

variable {H : Type} (refuses : ModuleRouter H → RouteMatch → Bool)

/-- `NetworkRouter` takes every subscription. -/
def refusesNothing : ModuleRouter H → RouteMatch → Bool := fun _ _ => false

/-- `INetworkRouter::subscribe`. -/
def subscribeTo (router : ModuleRouter H) (route : RouteMatch) (handler : PacketHandler H) :
    ℕ × ModuleRouter H :=
  if refuses router route then (0, router) else router.subscribe route (some handler)

/-- One round of the loop over the packet types: the tokens so far, and the router. -/
def registerRoute (handler : PacketHandler H) (acc : List ℕ × ModuleRouter H)
    (route : RouteMatch) : List ℕ × ModuleRouter H :=
  let subscribed := subscribeTo refuses acc.2 route handler
  (if subscribed.1 ≠ 0 then acc.1 ++ [subscribed.1] else acc.1, subscribed.2)

/-- The route of a binding for one packet type. -/
def routeOf (channel : ChannelBinding) (packetType : PacketType) : RouteMatch :=
  { channelId := some channel.channelId
    channelType := some channel.channelType
    packetType := packetType }

/-- The two loops of `registerManifest`. -/
def registerRoutes (handler : PacketHandler H) (router : ModuleRouter H)
    (channels : List ChannelBinding) : List ℕ × ModuleRouter H :=
  channels.foldl
    (fun acc channel => channel.consumes.foldl
      (fun acc packetType => registerRoute refuses handler acc (routeOf channel packetType)) acc)
    ([], router)

namespace ModuleIngressRegistry

/-- The token list the registry has for a module. -/
def tokensOf (registry : ModuleIngressRegistry) (moduleId : String) : List ℕ :=
  (registry.tokensByModule[moduleId]?).getD []

/-- `unregisterModule`, where there is a router. -/
def unregisterFrom (registry : ModuleIngressRegistry) (router : ModuleRouter H)
    (moduleId : String) : ModuleIngressRegistry × ModuleRouter H :=
  match registry.tokensByModule[moduleId]? with
  | none => (registry, router)
  | some tokens =>
    ({ registry with tokensByModule := registry.tokensByModule.erase moduleId },
      router.unsubscribeAll tokens)

def unregisterModule (registry : ModuleIngressRegistry) (router : Option (ModuleRouter H))
    (moduleId : String) : ModuleIngressRegistry × Option (ModuleRouter H) :=
  match router with
  | none => (registry, none)
  | some router =>
    let cleared := registry.unregisterFrom router moduleId
    (cleared.1, some cleared.2)

/-- `registerManifest` after its guard. -/
def registerInto (registry : ModuleIngressRegistry) (router : ModuleRouter H)
    (manifest : ModuleManifest) (handler : H) :
    RegisteredIngress × ModuleIngressRegistry × ModuleRouter H :=
  let cleared := registry.unregisterFrom router manifest.moduleId
  let registered := registerRoutes refuses (.module manifest.moduleId handler) cleared.2
    manifest.channels
  (⟨manifest.moduleId, registered.1⟩,
    if registered.1 ≠ [] then
      { cleared.1 with
        tokensByModule := cleared.1.tokensByModule.insert manifest.moduleId registered.1 }
    else cleared.1,
    registered.2)

/-- `registerManifest`; the handler is `none` for a `std::function` that holds nothing. -/
def registerManifest (registry : ModuleIngressRegistry) (router : Option (ModuleRouter H))
    (manifest : ModuleManifest) (handler : Option H) :
    RegisteredIngress × ModuleIngressRegistry × Option (ModuleRouter H) :=
  match router, handler with
  | some router, some handler =>
    if manifest.moduleId = "" then (⟨manifest.moduleId, []⟩, registry, some router)
    else
      let registered := registry.registerInto refuses router manifest handler
      (registered.1, registered.2.1, some registered.2.2)
  | router, _ => (⟨manifest.moduleId, []⟩, registry, router)

end ModuleIngressRegistry

end

/-! ## What the calls do to the subscriptions -/

section

variable {H : Type} {refuses : ModuleRouter H → RouteMatch → Bool}

/-- The routes a list of bindings asks for, in order. -/
def routesOf (channels : List ChannelBinding) : List RouteMatch :=
  channels.flatMap fun channel => channel.consumes.map (routeOf channel)

theorem registerRoutes_eq (handler : PacketHandler H) (router : ModuleRouter H)
    (channels : List ChannelBinding) :
    registerRoutes refuses handler router channels =
      (routesOf channels).foldl (registerRoute refuses handler) ([], router) := by
  rw [registerRoutes, routesOf, List.foldl_flatMap]
  simp only [List.foldl_map]

/-- The entries of the table for a list of tokens and routes with one handler. -/
def entriesOf (handler : PacketHandler H) (taken : List (ℕ × RouteMatch)) :
    List (ℕ × Subscription (PacketHandler H)) :=
  taken.map fun item => (item.1, ⟨item.2, handler⟩)

/-- **The loop appends the tokens of the subscriptions it made**, and these come last in the table.
A router that refuses nothing makes one for every route. -/
theorem foldl_registerRoute (handler : PacketHandler H) (routes : List RouteMatch) :
    ∀ acc : List ℕ × ModuleRouter H, ∃ taken : List (ℕ × RouteMatch),
      (routes.foldl (registerRoute refuses handler) acc).1 = acc.1 ++ taken.map Prod.fst ∧
      (∀ p, (routes.foldl (registerRoute refuses handler) acc).2.held p =
        acc.2.held p ++ if p handler then entriesOf handler taken else []) ∧
      ((∀ router route, refuses router route = false) → taken.map Prod.snd = routes) := by
  induction routes with
  | nil =>
    intro acc
    refine ⟨[], (List.append_nil _).symm, fun p => ?_, fun _ => rfl⟩
    rw [entriesOf, List.map_nil, ite_self, List.append_nil]
    rfl
  | cons route routes ih =>
    intro acc
    by_cases hrefuse : refuses acc.2 route = true
    · have hstep : registerRoute refuses handler acc route = acc := by
        rw [registerRoute, subscribeTo, if_pos hrefuse]
        rfl
      obtain ⟨taken, htokens, hheld, -⟩ := ih acc
      rw [List.foldl_cons, hstep]
      refine ⟨taken, htokens, hheld, fun htakes => ?_⟩
      rw [htakes] at hrefuse
      cases hrefuse
    · have hstep : registerRoute refuses handler acc route =
          (acc.1 ++ [acc.2.nextToken], (acc.2.subscribe route (some handler)).2) := by
        rw [registerRoute, subscribeTo, if_neg hrefuse]
        exact congrArg (·, _) (if_pos (Nat.pos_iff_ne_zero.mp acc.2.pos))
      obtain ⟨taken, htokens, hheld, hroutes⟩ :=
        ih (acc.1 ++ [acc.2.nextToken], (acc.2.subscribe route (some handler)).2)
      rw [List.foldl_cons, hstep]
      refine ⟨(acc.2.nextToken, route) :: taken, ?_, fun p => ?_, fun htakes => ?_⟩
      · rw [htokens, List.append_assoc]
        rfl
      · rw [hheld, SubscriptionTable.held_subscribe, List.append_assoc]
        by_cases hp : p handler = true
        · rw [if_pos hp, if_pos hp, if_pos hp]
          rfl
        · rw [if_neg hp, if_neg hp, if_neg hp]
          rfl
      · rw [List.map_cons, hroutes htakes]

namespace ModuleIngressRegistry

/-- The subscriptions the router holds for a module. -/
def heldFor (router : ModuleRouter H) (moduleId : String) :
    List (ℕ × Subscription (PacketHandler H)) :=
  router.held fun handler => handler.isFor moduleId

/-- The subscriptions of other components. -/
def heldForOthers (router : ModuleRouter H) : List (ℕ × Subscription (PacketHandler H)) :=
  router.held PacketHandler.isOther

/-- The lists of the registry are the tokens of the subscriptions, module by module. -/
def TokensAgree (registry : ModuleIngressRegistry) (router : ModuleRouter H) : Prop :=
  ∀ moduleId, (heldFor router moduleId).map Prod.fst = registry.tokensOf moduleId

theorem tokensOf_erase (registry : ModuleIngressRegistry) (m n : String) :
    tokensOf { registry with tokensByModule := registry.tokensByModule.erase m } n =
      if m = n then [] else registry.tokensOf n := by
  rw [tokensOf, Std.ExtTreeMap.getElem?_erase]
  by_cases h : m = n
  · rw [if_pos (by simp [h]), if_pos h, Option.getD_none]
  · rw [if_neg (by simp [h]), if_neg h, tokensOf]

theorem tokensOf_insert (registry : ModuleIngressRegistry) (m n : String) (tokens : List ℕ) :
    tokensOf { registry with tokensByModule := registry.tokensByModule.insert m tokens } n =
      if m = n then tokens else registry.tokensOf n := by
  rw [tokensOf, Std.ExtTreeMap.getElem?_insert]
  by_cases h : m = n
  · rw [if_pos (by simp [h]), if_pos h, Option.getD_some]
  · rw [if_neg (by simp [h]), if_neg h, tokensOf]

/-- **Unregistering a module takes back exactly the subscriptions held for it.** -/
theorem unregisterFrom_spec {registry : ModuleIngressRegistry} {router : ModuleRouter H}
    (h : registry.TokensAgree router) (m : String) :
    (∀ n, heldFor (registry.unregisterFrom router m).2 n =
      if m = n then [] else heldFor router n) ∧
    heldForOthers (registry.unregisterFrom router m).2 = heldForOthers router ∧
    (∀ n, (registry.unregisterFrom router m).1.tokensOf n =
      if m = n then [] else registry.tokensOf n) := by
  have hm := h m
  rw [unregisterFrom]
  cases hfind : registry.tokensByModule[m]? with
  | none =>
    have hnone : registry.tokensOf m = [] := by rw [tokensOf, hfind, Option.getD_none]
    have hheld : heldFor router m = [] := List.map_eq_nil_iff.mp (hm.trans hnone)
    refine ⟨fun n => ?_, rfl, fun n => ?_⟩
    · by_cases hn : m = n
      · rw [if_pos hn, ← hn]
        exact hheld
      · rw [if_neg hn]
    · by_cases hn : m = n
      · rw [if_pos hn, ← hn]
        exact hnone
      · rw [if_neg hn]
  | some tokens =>
    have htokens : tokens = (heldFor router m).map Prod.fst := by
      rw [hm, tokensOf, hfind, Option.getD_some]
    subst htokens
    refine ⟨fun n => ?_, ?_, fun n => tokensOf_erase registry m n⟩
    · by_cases hn : m = n
      · rw [if_pos hn, ← hn]
        exact SubscriptionTable.held_unsubscribeAll_self _ _
      · rw [if_neg hn]
        exact SubscriptionTable.held_unsubscribeAll_disjoint _
          fun _ => PacketHandler.isFor_unique hn
    · exact SubscriptionTable.held_unsubscribeAll_disjoint _
        fun _ => PacketHandler.isOther_of_isFor

theorem TokensAgree.unregisterFrom {registry : ModuleIngressRegistry} {router : ModuleRouter H}
    (h : registry.TokensAgree router) (m : String) :
    (registry.unregisterFrom router m).1.TokensAgree (registry.unregisterFrom router m).2 := by
  obtain ⟨hheld, -, htokens⟩ := unregisterFrom_spec h m
  intro n
  rw [hheld, htokens]
  by_cases hn : m = n
  · rw [if_pos hn, if_pos hn, List.map_nil]
  · rw [if_neg hn, if_neg hn, h n]

/-- **Registering a manifest leaves the module with the subscriptions of this manifest alone**: the
old ones are gone, and the tokens returned are those of the new ones, in order.  A router that
refuses nothing holds one for every consumed packet type of every binding. -/
theorem registerInto_spec {registry : ModuleIngressRegistry} {router : ModuleRouter H}
    (h : registry.TokensAgree router) (manifest : ModuleManifest) (handler : H) :
    ∃ taken : List (ℕ × RouteMatch),
      (registry.registerInto refuses router manifest handler).1.tokens = taken.map Prod.fst ∧
      (∀ n, heldFor (registry.registerInto refuses router manifest handler).2.2 n =
        if manifest.moduleId = n then entriesOf (.module manifest.moduleId handler) taken
        else heldFor router n) ∧
      heldForOthers (registry.registerInto refuses router manifest handler).2.2 =
        heldForOthers router ∧
      (∀ n, (registry.registerInto refuses router manifest handler).2.1.tokensOf n =
        if manifest.moduleId = n then taken.map Prod.fst else registry.tokensOf n) ∧
      ((∀ router route, refuses router route = false) →
        taken.map Prod.snd = routesOf manifest.channels) := by
  obtain ⟨hclearedHeld, hclearedOthers, hclearedTokens⟩ := unregisterFrom_spec h manifest.moduleId
  obtain ⟨taken, htokens, hheld, hroutes⟩ := @foldl_registerRoute H refuses
    (.module manifest.moduleId handler) (routesOf manifest.channels)
    ([], (registry.unregisterFrom router manifest.moduleId).2)
  rw [List.nil_append] at htokens
  rw [← registerRoutes_eq] at htokens hheld
  refine ⟨taken, htokens, fun n => ?_, ?_, fun n => ?_, hroutes⟩
  · refine (hheld _).trans ?_
    show heldFor _ n ++ _ = _
    rw [hclearedHeld]
    simp only [PacketHandler.isFor_module]
    by_cases hn : manifest.moduleId = n
    · rw [if_pos hn, if_pos hn, if_pos hn, List.nil_append]
    · rw [if_neg hn, if_neg hn, if_neg hn, List.append_nil]
  · refine (hheld _).trans ?_
    rw [if_neg (fun hother => Bool.noConfusion hother), List.append_nil]
    exact hclearedOthers
  · show tokensOf (if _ then _ else _) n = _
    rw [htokens]
    by_cases hnil : taken.map Prod.fst = []
    · rw [if_neg (not_not_intro hnil), hclearedTokens, hnil]
    · rw [if_pos hnil, tokensOf_insert, hclearedTokens]
      by_cases hn : manifest.moduleId = n
      · rw [if_pos hn, if_pos hn]
      · rw [if_neg hn, if_neg hn, if_neg hn]

theorem TokensAgree.registerInto {registry : ModuleIngressRegistry} {router : ModuleRouter H}
    (h : registry.TokensAgree router) (manifest : ModuleManifest) (handler : H) :
    (registry.registerInto refuses router manifest handler).2.1.TokensAgree
      (registry.registerInto refuses router manifest handler).2.2 := by
  obtain ⟨taken, -, hheld, -, htokens, -⟩ := registerInto_spec h manifest handler
  intro n
  rw [hheld, htokens]
  by_cases hn : manifest.moduleId = n
  · rw [if_pos hn, if_pos hn, entriesOf, List.map_map]
    rfl
  · rw [if_neg hn, if_neg hn, h n]

/-! ## The same through the pointer -/

/-- The subscriptions the router at the pointer holds for a module. -/
def heldIn (router : Option (ModuleRouter H)) (moduleId : String) :
    List (ℕ × Subscription (PacketHandler H)) :=
  match router with
  | none => []
  | some router => heldFor router moduleId

/-- The lists of the registry are the tokens of the subscriptions, where there is a router. -/
def AgreesWith (registry : ModuleIngressRegistry) (router : Option (ModuleRouter H)) : Prop :=
  ∀ r, router = some r → registry.TokensAgree r

theorem AgreesWith.unregisterModule {registry : ModuleIngressRegistry}
    {router : Option (ModuleRouter H)} (h : registry.AgreesWith router) (m : String) :
    (registry.unregisterModule router m).1.AgreesWith (registry.unregisterModule router m).2 := by
  cases router with
  | none =>
    intro r hr
    cases hr
  | some router =>
    intro r hr
    cases hr
    exact (h router rfl).unregisterFrom m

theorem heldIn_unregisterModule {registry : ModuleIngressRegistry}
    {router : Option (ModuleRouter H)} (h : registry.AgreesWith router) (m n : String) :
    heldIn (registry.unregisterModule router m).2 n = if m = n then [] else heldIn router n := by
  cases router with
  | none => exact (ite_self _).symm
  | some router => exact (unregisterFrom_spec (h router rfl) m).1 n

theorem AgreesWith.registerManifest {registry : ModuleIngressRegistry}
    {router : Option (ModuleRouter H)} (h : registry.AgreesWith router)
    (manifest : ModuleManifest) (handler : H) :
    (registry.registerManifest refuses router manifest (some handler)).2.1.AgreesWith
      (registry.registerManifest refuses router manifest (some handler)).2.2 := by
  cases router with
  | none =>
    intro r hr
    cases hr
  | some router =>
    unfold ModuleIngressRegistry.registerManifest
    by_cases hid : manifest.moduleId = ""
    · simp only [if_pos hid]
      exact h
    · simp only [if_neg hid]
      intro r hr
      cases hr
      exact (h router rfl).registerInto manifest handler

/-- Registering a manifest that names its module: the tokens returned are those of the module's
subscriptions after it, and no other module's change. -/
theorem heldIn_registerManifest {registry : ModuleIngressRegistry}
    {router : Option (ModuleRouter H)} (h : registry.AgreesWith router)
    {manifest : ModuleManifest} (hid : manifest.moduleId ≠ "") (handler : H) :
    (registry.registerManifest refuses router manifest (some handler)).1.tokens =
        (heldIn (registry.registerManifest refuses router manifest (some handler)).2.2
          manifest.moduleId).map Prod.fst ∧
      ∀ n, manifest.moduleId ≠ n →
        heldIn (registry.registerManifest refuses router manifest (some handler)).2.2 n =
          heldIn router n := by
  cases router with
  | none => exact ⟨rfl, fun n _ => rfl⟩
  | some router =>
    unfold ModuleIngressRegistry.registerManifest
    simp only [if_neg hid]
    obtain ⟨taken, htokens, hheld, -⟩ := registerInto_spec (h router rfl) manifest handler
    constructor
    · refine htokens.trans ?_
      show _ = (heldFor _ manifest.moduleId).map Prod.fst
      rw [hheld, if_pos rfl, entriesOf, List.map_map]
      rfl
    · intro n hn
      exact (hheld n).trans (if_neg hn)

end ModuleIngressRegistry

end

end Module
end FusionDesk
