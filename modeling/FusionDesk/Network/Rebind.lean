import FusionDesk.Network.NetworkManagerRuns

/-!
# Rebinding a channel

`NetworkManager::rebindChannel` puts a replacement under the key of a channel in three steps, each
a change of its own: the registry binds the instance, the router registers it, and the registry
marks the channel ready.  The last one asks the instance whether it is open.

What the three come to is read off through the lookups: `find_rebindChannel` for the registry,
`router_rebindChannel` for the router and `rebindChannel_ok_iff` for the result.  By then a
replacement that is closed has taken the place of the instance in service, and
`rebindChannel_atomic_iff` says when a call is atomic: it rebinds and says so, or it fails and the
channel in service stays.
-/

namespace FusionDesk
namespace Network

open Protocol

namespace NetworkManager

/-! ## What a rebinding does -/

/-- The entry a rebinding leaves. -/
def rebound (transport : Transport) (channel : IChannel) (ready : ChannelReadyInfo)
    (entry : ChannelEntry) : ChannelEntry :=
  if transport.isOpen channel then
    { entry with
      channel := some channel
      snapshot := { entry.snapshot with
        bound := true, ready := true, readyInfo := ready, state := .ready, message := "" } }
  else
    { entry with
      channel := some channel
      snapshot := { entry.snapshot with bound := true, state := .bound, message := "" } }

/-- A key without an entry: the call fails before anything is changed. -/
theorem rebindChannel_of_not_found {manager : NetworkManager} {channel : IChannel}
    (hfind : manager.registry.find channel.key = none) (transport : Transport)
    (ready : ChannelReadyInfo) :
    manager.rebindChannel transport (some channel) ready =
      (ChannelRegistry.notFound, manager) := by
  have hbind : manager.registry.bind channel.key (some channel) =
      (ChannelRegistry.notFound, manager.registry) := by
    unfold ChannelRegistry.bind
    rw [hfind]
  simp only [rebindChannel, hbind]
  rfl

/-- A key with an entry: what is left of the three steps is the question whether the instance is
open. -/
theorem rebindChannel_of_found {manager : NetworkManager} {channel : IChannel}
    {entry : ChannelEntry} (hfind : manager.registry.find channel.key = some entry)
    (transport : Transport) (ready : ChannelReadyInfo) :
    ((manager.rebindChannel transport (some channel) ready).1.ok = transport.isOpen channel) ∧
      (manager.rebindChannel transport (some channel) ready).2.router =
        (manager.router.registerChannel (some channel)).2 ∧
      (manager.rebindChannel transport (some channel) ready).2.scheduler = manager.scheduler ∧
      ∀ key, (manager.rebindChannel transport (some channel) ready).2.registry.find key =
        if channel.key = key then some (rebound transport channel ready entry)
        else manager.registry.find key := by
  have hbind : manager.registry.bind channel.key (some channel) =
      (.success, manager.registry.put channel.key { entry with
        channel := some channel
        snapshot := { entry.snapshot with bound := true, state := .bound, message := "" } }) := by
    unfold ChannelRegistry.bind
    rw [hfind]
  simp only [rebindChannel, hbind, ChannelRegistryResult.success, not_true_eq_false, if_false,
    ChannelRegistry.markReady, ChannelRegistry.find_put, if_true, Option.any_some, rebound]
  cases hopen : transport.isOpen channel with
  | false =>
    simp only [Bool.false_eq_true, not_false_eq_true, if_true, if_false]
    refine ⟨rfl, trivial, trivial, fun key => ?_⟩
    rw [ChannelRegistry.find_put]
  | true =>
    simp only [not_true_eq_false, if_false, if_true]
    refine ⟨trivial, trivial, trivial, fun key => ?_⟩
    rw [ChannelRegistry.find_put, ChannelRegistry.find_put]
    by_cases hkey : channel.key = key
    · simp only [if_pos hkey]
    · simp only [if_neg hkey]

/-- The call succeeds exactly if the key has an entry and the instance is open. -/
theorem rebindChannel_ok_iff (manager : NetworkManager) (transport : Transport)
    (channel : IChannel) (ready : ChannelReadyInfo) :
    (manager.rebindChannel transport (some channel) ready).1.ok = true ↔
      (manager.registry.find channel.key).isSome = true ∧ transport.isOpen channel = true := by
  cases hfind : manager.registry.find channel.key with
  | none =>
    rw [rebindChannel_of_not_found hfind]
    simp [ChannelRegistry.notFound, ChannelRegistryResult.failed]
  | some entry =>
    rw [(rebindChannel_of_found hfind transport ready).1]
    simp

/-- The registry after a rebinding, looked at under any key. -/
theorem find_rebindChannel (manager : NetworkManager) (transport : Transport) (channel : IChannel)
    (ready : ChannelReadyInfo) (key : ChannelKey) :
    (manager.rebindChannel transport (some channel) ready).2.registry.find key =
      if channel.key = key then (manager.registry.find key).map (rebound transport channel ready)
      else manager.registry.find key := by
  cases hfind : manager.registry.find channel.key with
  | none =>
    rw [rebindChannel_of_not_found hfind]
    by_cases hkey : channel.key = key
    · rw [if_pos hkey, ← hkey, hfind]
      rfl
    · rw [if_neg hkey]
  | some entry =>
    rw [(rebindChannel_of_found hfind transport ready).2.2.2 key]
    by_cases hkey : channel.key = key
    · rw [if_pos hkey, if_pos hkey, ← hkey, hfind]
      rfl
    · rw [if_neg hkey, if_neg hkey]

/-- The router after a rebinding, looked at under any key. -/
theorem router_rebindChannel (manager : NetworkManager) (transport : Transport)
    (channel : IChannel) (ready : ChannelReadyInfo) (key : ChannelKey) :
    (manager.rebindChannel transport (some channel) ready).2.router.channels[key]? =
      if channel.key = key ∧ (manager.registry.find channel.key).isSome = true then some channel
      else manager.router.channels[key]? := by
  cases hfind : manager.registry.find channel.key with
  | none =>
    rw [rebindChannel_of_not_found hfind]
    simp
  | some entry =>
    rw [(rebindChannel_of_found hfind transport ready).2.1]
    simp only [NetworkRouter.registerChannel, Std.ExtTreeMap.getElem?_insert,
      Std.LawfulEqOrd.compare_eq_iff_eq, Option.isSome_some, and_true]

/-! ## Atomicity -/

/-- What a key has in service: of its entry the instance, the state, the flag and the ready
information, and the instance the router holds. -/
def inService (manager : NetworkManager) (key : ChannelKey) :
    Option (Option IChannel × ChannelLifecycleState × Bool × ChannelReadyInfo) × Option IChannel :=
  ((manager.registry.find key).map fun entry =>
      (entry.channel, entry.snapshot.state, entry.snapshot.ready, entry.snapshot.readyInfo),
    manager.router.channels[key]?)

/-- The call has put the instance in service: the key is ready, and both tables hold it. -/
def PutInService (manager : NetworkManager) (channel : IChannel) : Prop :=
  manager.registry.isReady channel.key = true ∧
    (∃ entry, manager.registry.find channel.key = some entry ∧ entry.channel = some channel) ∧
      manager.router.channels[channel.key]? = some channel

/-- The call is atomic: it succeeds and puts the instance in service, or it fails and changes
nothing that is in service. -/
def RebindAtomic (manager : NetworkManager) (transport : Transport) (channel : Option IChannel)
    (ready : ChannelReadyInfo) : Prop :=
  let result := manager.rebindChannel transport channel ready
  (result.1.ok = true ∧ ∃ replacement, channel = some replacement ∧
      result.2.PutInService replacement) ∨
    (result.1.ok = false ∧ ∀ key, result.2.inService key = manager.inService key)

/-- The replacement is already what both tables hold, bound and not yet ready. -/
def BoundAlready (manager : NetworkManager) (channel : IChannel) : Prop :=
  (∃ entry, manager.registry.find channel.key = some entry ∧ entry.channel = some channel ∧
      entry.snapshot.state = .bound) ∧
    manager.router.channels[channel.key]? = some channel

/-- A replacement that is open is put in service. -/
theorem putInService_rebindChannel {manager : NetworkManager} {transport : Transport}
    {channel : IChannel} {entry : ChannelEntry}
    (hfind : manager.registry.find channel.key = some entry)
    (hopen : transport.isOpen channel = true) (ready : ChannelReadyInfo) :
    (manager.rebindChannel transport (some channel) ready).2.PutInService channel := by
  have hafter : (manager.rebindChannel transport (some channel) ready).2.registry.find
      channel.key = some (rebound transport channel ready entry) := by
    rw [find_rebindChannel, if_pos rfl, hfind]
    rfl
  refine ⟨?_, ⟨_, hafter, ?_⟩, ?_⟩
  · unfold ChannelRegistry.isReady
    rw [hafter]
    simp [rebound, hopen]
  · simp [rebound, hopen]
  · rw [router_rebindChannel, if_pos ⟨rfl, by rw [hfind]; rfl⟩]

/-- A replacement that is closed leaves everything in service as it was exactly if it was already
bound there. -/
theorem inService_rebindChannel_iff {manager : NetworkManager} {transport : Transport}
    {channel : IChannel} {entry : ChannelEntry}
    (hfind : manager.registry.find channel.key = some entry)
    (hclosed : transport.isOpen channel = false) (ready : ChannelReadyInfo) :
    (∀ key, (manager.rebindChannel transport (some channel) ready).2.inService key =
        manager.inService key) ↔ manager.BoundAlready channel := by
  have hsome : (manager.registry.find channel.key).isSome = true := by
    rw [hfind]
    rfl
  have hkey : (manager.rebindChannel transport (some channel) ready).2.inService channel.key =
      (some (some channel, .bound, entry.snapshot.ready, entry.snapshot.readyInfo),
        some channel) := by
    unfold inService
    rw [find_rebindChannel, router_rebindChannel, if_pos rfl, if_pos ⟨rfl, hsome⟩, hfind]
    simp [rebound, hclosed]
  constructor
  · intro h
    have hsame := (h channel.key).symm.trans hkey
    unfold inService at hsame
    rw [hfind] at hsame
    simp only [Option.map_some, Prod.mk.injEq, Option.some_inj] at hsame
    exact ⟨⟨entry, hfind, hsame.1.1, hsame.1.2.1⟩, hsame.2⟩
  · rintro ⟨⟨entry', hfind', hchannel, hstate⟩, hrouter⟩ key
    obtain rfl : entry = entry' := Option.some.inj (hfind.symm.trans hfind')
    by_cases heq : channel.key = key
    · rw [← heq, hkey]
      unfold inService
      rw [hfind, hrouter, ← hchannel, ← hstate]
      rfl
    · unfold inService
      rw [find_rebindChannel, router_rebindChannel, if_neg heq, if_neg fun h => heq h.1]

/-- **When a rebinding is atomic**: there is no replacement, or no entry for its key, or it is
open, or it is what is bound there already and no more than that. -/
theorem rebindChannel_atomic_iff (manager : NetworkManager) (transport : Transport)
    (channel : Option IChannel) (ready : ChannelReadyInfo) :
    manager.RebindAtomic transport channel ready ↔
      ∀ replacement, channel = some replacement →
        manager.registry.find replacement.key = none ∨ transport.isOpen replacement = true ∨
          manager.BoundAlready replacement := by
  cases channel with
  | none =>
    refine iff_of_true (Or.inr ⟨rfl, fun key => rfl⟩) ?_
    intro replacement hreplacement
    cases hreplacement
  | some channel =>
    simp only [Option.some_inj, forall_eq']
    unfold RebindAtomic
    cases hfind : manager.registry.find channel.key with
    | none =>
      rw [rebindChannel_of_not_found hfind]
      exact iff_of_true (Or.inr ⟨rfl, fun key => rfl⟩) (Or.inl rfl)
    | some entry =>
      have hresult := (rebindChannel_of_found hfind transport ready).1
      cases hopen : transport.isOpen channel with
      | true =>
        refine iff_of_true (Or.inl ⟨hresult.trans hopen, channel, rfl, ?_⟩) (Or.inr (Or.inl rfl))
        exact putInService_rebindChannel hfind hopen ready
      | false =>
        have hfailed := hresult.trans hopen
        have hunchanged := inService_rebindChannel_iff hfind hopen ready
        constructor
        · rintro (⟨hok, -⟩ | ⟨-, hsame⟩)
          · rw [hfailed] at hok
            cases hok
          · exact Or.inr (Or.inr (hunchanged.mp hsame))
        · rintro (hnone | htrue | hbound)
          · cases hnone
          · cases htrue
          · exact Or.inr ⟨hfailed, hunchanged.mpr hbound⟩

/-- A second instance for the control channel. -/
def replacementControl : IChannel := ⟨1, ChannelIdValue.userAuthMain, .control⟩

/-- A closed replacement takes the place of the instance in service, and the call fails. -/
theorem not_rebindAtomic_closed : ¬ ∀ capabilities moments transport channel ready,
    (run capabilities moments).RebindAtomic transport channel ready := by
  intro h
  rcases h {} (bringUp [makeControlSpec]) .allClosed (some replacementControl) {} with
    ⟨hok, -⟩ | ⟨-, hsame⟩
  · have hfailed : ((run {} (bringUp [makeControlSpec])).rebindChannel .allClosed
        (some replacementControl) {}).1.ok = false := by decide +kernel
    rw [hfailed] at hok
    cases hok
  · have hother : ((run {} (bringUp [makeControlSpec])).rebindChannel .allClosed
        (some replacementControl) {}).2.inService replacementControl.key ≠
          (run {} (bringUp [makeControlSpec])).inService replacementControl.key := by
      decide +kernel
    exact hother (hsame replacementControl.key)

end NetworkManager
end Network
end FusionDesk
