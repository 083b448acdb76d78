import FusionDesk.General.TokenTable
import FusionDesk.Protocol.Types

/-!
# The receiving half of the router

`NetworkRouter::subscribe`, `unsubscribe`, `submitIncoming` and `routeMatches` under
`src/core/network/network_router.cpp`.  The router calls a handler for every subscription whose
route a packet meets, in the order of the tokens.

A handler is a callable the router only stores and calls, so its type is a parameter, and
`submitIncoming` returns the handlers it calls.  They are copied out of the table before the first
of them runs, so what a handler does to the table does not change which of them are called.
`nextToken` counts in ℕ: the counter of the source has 64 bits and counts the subscriptions ever
made.
-/

namespace FusionDesk
namespace Network

open Protocol

/-- `struct RouteMatch`; an absent part matches every packet. -/
structure RouteMatch where
  channelId : Option ChannelId := none
  channelType : Option ChannelType := none
  messageKind : Option MessageKind := none
  packetType : PacketType := .heartbeat
  deriving DecidableEq, Repr

def routeMatches (route : RouteMatch) (packet : PacketEnvelope) : Bool :=
  if route.channelId.any (· ≠ packet.channelId) then false
  else if route.channelType.any (· ≠ packet.channelType) then false
  else if route.messageKind.any (· ≠ packet.messageKind) then false
  else route.packetType == packet.packetType

/-- `NetworkRouter::Subscription`. -/
structure Subscription (H : Type) where
  route : RouteMatch
  handler : H
  deriving DecidableEq, Repr

/-- `class NetworkRouter`, its table of subscriptions. -/
structure SubscriptionTable (H : Type) where
  subscriptions : Std.ExtTreeMap ℕ (Subscription H) := ∅
  nextToken : ℕ := 1
  /-- The tokens in the table were handed out before the next one. -/
  fresh : TokenTable.Fresh subscriptions nextToken
  /-- No subscription has token 0, which stands for a refusal. -/
  pos : 0 < nextToken

namespace SubscriptionTable

variable {H : Type}

/-- The table of a router that was just made. -/
def empty : SubscriptionTable H := ⟨∅, 1, TokenTable.Fresh.empty 1, Nat.one_pos⟩

/-- `subscribe`; the handler is `none` for a `std::function` that holds nothing. -/
def subscribe (router : SubscriptionTable H) (route : RouteMatch) (handler : Option H) :
    ℕ × SubscriptionTable H :=
  match handler with
  | none => (0, router)
  | some handler =>
    (router.nextToken,
      { subscriptions := router.subscriptions.insert router.nextToken ⟨route, handler⟩
        nextToken := router.nextToken + 1
        fresh := router.fresh.insert _
        pos := Nat.succ_pos _ })

def unsubscribe (router : SubscriptionTable H) (token : ℕ) : SubscriptionTable H :=
  { router with
    subscriptions := router.subscriptions.erase token
    fresh := router.fresh.erase token }

/-- `submitIncoming`: the handlers that are called with the packet, in order. -/
def submitIncoming (router : SubscriptionTable H) (packet : PacketEnvelope) : List H :=
  (router.subscriptions.toList.filter fun item => routeMatches item.2.route packet).map
    fun item => item.2.handler

/-! ## The subscriptions of one holder -/

/-- The subscriptions whose handler meets the condition, under their tokens, in order. -/
def held (router : SubscriptionTable H) (p : H → Bool) : List (ℕ × Subscription H) :=
  TokenTable.select (fun subscription => p subscription.handler) router.subscriptions

theorem held_empty (p : H → Bool) : (empty : SubscriptionTable H).held p = [] := by
  rw [held, List.eq_nil_iff_forall_not_mem]
  intro item hitem
  have hentry := (TokenTable.mem_select.mp hitem).1
  rw [empty, Std.ExtTreeMap.getElem?_empty] at hentry
  cases hentry

/-- A new subscription comes last. -/
theorem held_subscribe (router : SubscriptionTable H) (route : RouteMatch) (handler : H)
    (p : H → Bool) :
    (router.subscribe route (some handler)).2.held p =
      router.held p ++ if p handler then [(router.nextToken, ⟨route, handler⟩)] else [] :=
  TokenTable.select_insert_fresh router.fresh _ _

/-- Unsubscribe from a list of tokens, one after the other. -/
def unsubscribeAll (router : SubscriptionTable H) (tokens : List ℕ) : SubscriptionTable H :=
  tokens.foldl unsubscribe router

theorem subscriptions_unsubscribeAll (tokens : List ℕ) : ∀ router : SubscriptionTable H,
    (router.unsubscribeAll tokens).subscriptions =
      TokenTable.dropAll router.subscriptions tokens := by
  induction tokens with
  | nil => exact fun _ => rfl
  | cons token tokens ih => exact fun router => ih (router.unsubscribe token)

/-- Who unsubscribes from all the tokens it holds holds none after that. -/
theorem held_unsubscribeAll_self (router : SubscriptionTable H) (p : H → Bool) :
    (router.unsubscribeAll ((router.held p).map Prod.fst)).held p = [] := by
  rw [held, subscriptions_unsubscribeAll]
  exact TokenTable.select_dropAll_self _ _

/-- And the subscriptions of others stay. -/
theorem held_unsubscribeAll_disjoint (router : SubscriptionTable H) {p q : H → Bool}
    (hpq : ∀ handler, p handler = true → q handler = false) :
    (router.unsubscribeAll ((router.held p).map Prod.fst)).held q = router.held q := by
  rw [held, subscriptions_unsubscribeAll]
  refine TokenTable.select_dropAll_disjoint (fun subscription => ?_) _
  exact hpq (Subscription.handler subscription)

/-- The handlers of one holder that a packet calls are those of the subscriptions it holds. -/
theorem submitIncoming_filter (router : SubscriptionTable H) (packet : PacketEnvelope)
    (p : H → Bool) :
    (router.submitIncoming packet).filter p =
      ((router.held p).filter fun item => routeMatches item.2.route packet).map
        fun item => item.2.handler := by
  rw [submitIncoming, held, TokenTable.select, List.filter_map, List.filter_filter,
    List.filter_filter]
  refine congrArg _ (List.filter_congr fun item _ => ?_)
  rw [Bool.and_comm]
  rfl

end SubscriptionTable

end Network
end FusionDesk
