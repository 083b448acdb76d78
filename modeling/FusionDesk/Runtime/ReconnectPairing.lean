import FusionDesk.General.Runs
import FusionDesk.Runtime.ReconnectPlan

/-!
# When a reconnect is planned, and for which channels

The three planning functions check a request piece by piece and pile up what is wrong with it.  Here
is what a request has to be like (`ReconnectRequestValid`), and what both sides get for it: the
degraded channels, each once, in the order of the connection plan, with one spec and one endpoint for
both ends of a channel.

* `foldl_resolveChannel`: the loop over the requested channels.
* `checkDegraded_eq_none`: the loop over the degraded channels.
* `reconnectPlan_pairsBothEnds`: the three functions together.
-/

namespace FusionDesk
namespace Runtime

open Protocol Network

namespace PeerProfile

open PayloadFields

/-! ## The requested channels -/

/-- **The requested channels are well formed**: their keys are those of known specs and not zero, and
no two channels have one key or one endpoint. -/
structure ChannelsValid (knownSpecs : List ChannelSpec)
    (channels : List PeerConnectionChannelRequest) : Prop where
  nonzero : ∀ channel ∈ channels, channel.key.channelId ≠ 0
  keys : (channels.map (·.key)).Nodup
  known : ∀ channel ∈ channels, channel.key ∈ knownSpecs.map (·.key)
  nonempty : ∀ channel ∈ channels, channel.endpoint ≠ []
  endpoints : (channels.map (·.endpoint)).Nodup

/-- What is asked of one more channel. -/
structure ChannelValid (knownSpecs : List ChannelSpec)
    (earlier : List PeerConnectionChannelRequest) (channel : PeerConnectionChannelRequest) :
    Prop where
  nonzero : channel.key.channelId ≠ 0
  key : channel.key ∉ earlier.map (·.key)
  known : channel.key ∈ knownSpecs.map (·.key)
  nonempty : channel.endpoint ≠ []
  endpoint : channel.endpoint ∉ earlier.map (·.endpoint)

variable {knownSpecs : List ChannelSpec} {channels : List PeerConnectionChannelRequest}
  {channel : PeerConnectionChannelRequest}

theorem channelsValid_nil : ChannelsValid knownSpecs [] :=
  ⟨nofun, List.nodup_nil, nofun, nofun, List.nodup_nil⟩

theorem nodup_concat_iff {α : Type*} {values : List α} {a : α} :
    (values ++ [a]).Nodup ↔ values.Nodup ∧ a ∉ values := by
  rw [List.nodup_append_comm, List.singleton_append, List.nodup_cons, and_comm]

theorem channelsValid_concat :
    ChannelsValid knownSpecs (channels ++ [channel]) ↔
      ChannelsValid knownSpecs channels ∧ ChannelValid knownSpecs channels channel := by
  have hmem : ∀ {P : PeerConnectionChannelRequest → Prop},
      (∀ c ∈ channels ++ [channel], P c) ↔ (∀ c ∈ channels, P c) ∧ P channel := by
    intro P
    rw [List.forall_mem_append, List.forall_mem_singleton]
  constructor
  · intro h
    have hkeys := h.keys
    have hendpoints := h.endpoints
    rw [List.map_append, List.map_singleton, nodup_concat_iff] at hkeys hendpoints
    obtain ⟨hnonzero, hnonzero'⟩ := hmem.mp h.nonzero
    obtain ⟨hknown, hknown'⟩ := hmem.mp h.known
    obtain ⟨hnonempty, hnonempty'⟩ := hmem.mp h.nonempty
    exact ⟨⟨hnonzero, hkeys.1, hknown, hnonempty, hendpoints.1⟩,
      ⟨hnonzero', hkeys.2, hknown', hnonempty', hendpoints.2⟩⟩
  · rintro ⟨hearlier, hlast⟩
    refine ⟨hmem.mpr ⟨hearlier.nonzero, hlast.nonzero⟩, ?_,
      hmem.mpr ⟨hearlier.known, hlast.known⟩, hmem.mpr ⟨hearlier.nonempty, hlast.nonempty⟩, ?_⟩
    · rw [List.map_append, List.map_singleton, nodup_concat_iff]
      exact ⟨hearlier.keys, hlast.key⟩
    · rw [List.map_append, List.map_singleton, nodup_concat_iff]
      exact ⟨hearlier.endpoints, hlast.endpoint⟩

/-! ## The loop over the requested channels -/

theorem isSome_findSpec {key : ChannelKey} :
    (findSpec knownSpecs key).isSome = true ↔ key ∈ knownSpecs.map (·.key) := by
  simp only [findSpec, List.find?_isSome, beq_iff_eq, List.mem_map]

/-- A requested channel as it is planned. -/
def plannedChannel (knownSpecs : List ChannelSpec) (channel : PeerConnectionChannelRequest) :
    Option PeerConnectionPlanChannel :=
  (findSpec knownSpecs channel.key).map fun spec =>
    ⟨spec, channel.endpoint, channel.clientReadyEndpoint, channel.agentReadyEndpoint⟩

/-- **What the loop knows of the channels it has seen.** -/
structure LoopHolds (knownSpecs : List ChannelSpec) (done : List PeerConnectionChannelRequest)
    (loop : ConnectionPlanLoop) : Prop where
  keys : ∀ key, key ∈ loop.requestedKeys ↔ key ∈ done.map (·.key)
  endpoints : ∀ endpoint, endpoint ≠ [] →
    (endpoint ∈ loop.endpoints ↔ endpoint ∈ done.map (·.endpoint))
  messages : loop.messages = [] ↔ ChannelsValid knownSpecs done
  resolved : loop.messages = [] → loop.resolved = done.filterMap (plannedChannel knownSpecs)

theorem ite_singleton_eq_nil {α : Type*} {c : Prop} [Decidable c] {a : α} :
    (if c then [a] else []) = [] ↔ ¬c := by
  by_cases hc : c
  · simp [hc]
  · simp [hc]

/-- **Nothing is wrong with a channel that is as it has to be**, and only with such a one. -/
theorem channelMessages_eq_nil {loop : ConnectionPlanLoop} (h : LoopHolds knownSpecs channels loop) :
    channelMessages knownSpecs loop channel = [] ↔ ChannelValid knownSpecs channels channel := by
  have hspec : (findSpec knownSpecs channel.key).isNone = true ↔
      channel.key ∉ knownSpecs.map (·.key) := by
    rw [← isSome_findSpec, Option.not_isSome_iff_eq_none, Option.isNone_iff_eq_none]
  simp only [channelMessages, List.append_eq_nil_iff, ite_singleton_eq_nil, hspec, not_not, h.keys]
  by_cases hempty : channel.endpoint = []
  · simp only [hempty, if_true, List.cons_ne_nil, and_false, false_and]
    exact iff_of_false id fun hvalid => hvalid.nonempty hempty
  · simp only [hempty, if_false, ite_singleton_eq_nil, h.endpoints _ hempty]
    constructor
    · rintro ⟨⟨⟨hnonzero, hkey⟩, hendpoint⟩, hknown⟩
      exact ⟨hnonzero, hkey, hknown, hempty, hendpoint⟩
    · intro hvalid
      exact ⟨⟨⟨hvalid.nonzero, hvalid.key⟩, hvalid.endpoint⟩, hvalid.known⟩

theorem LoopHolds.step {loop : ConnectionPlanLoop} (h : LoopHolds knownSpecs channels loop) :
    LoopHolds knownSpecs (channels ++ [channel]) (resolveChannel knownSpecs loop channel) := by
  have hmessages : (resolveChannel knownSpecs loop channel).messages = [] ↔
      loop.messages = [] ∧ channelMessages knownSpecs loop channel = [] := List.append_eq_nil_iff
  refine ⟨fun key => ?_, fun endpoint hnonempty => ?_, ?_, fun hnil => ?_⟩
  · show key ∈ loop.requestedKeys.insert channel.key ↔ _
    rw [List.mem_insert_iff, h.keys, List.map_append, List.mem_append, List.map_singleton,
      List.mem_singleton, or_comm]
  · show endpoint ∈ (if channel.endpoint = [] then loop.endpoints
      else loop.endpoints.insert channel.endpoint) ↔ _
    rw [List.map_append, List.mem_append, List.map_singleton, List.mem_singleton,
      ← h.endpoints endpoint hnonempty]
    by_cases hempty : channel.endpoint = []
    · rw [if_pos hempty, hempty]
      exact (or_iff_left hnonempty).symm
    · rw [if_neg hempty, List.mem_insert_iff, or_comm]
  · rw [hmessages, h.messages, channelMessages_eq_nil h, channelsValid_concat]
  · obtain ⟨hloop, hchannel⟩ := hmessages.mp hnil
    have hknown := isSome_findSpec.mpr ((channelMessages_eq_nil h).mp hchannel).known
    obtain ⟨spec, hspec⟩ := Option.isSome_iff_exists.mp hknown
    simp only [resolveChannel, hspec, if_pos hchannel, h.resolved hloop, List.filterMap_append, List.filterMap_cons,
      List.filterMap_nil, plannedChannel, Option.map_some]

/-- **The loop over the requested channels.** -/
theorem foldl_resolveChannel (knownSpecs : List ChannelSpec)
    (channels : List PeerConnectionChannelRequest) :
    LoopHolds knownSpecs channels (channels.foldl (resolveChannel knownSpecs) {}) := by
  refine Runs.foldl_of_append ?_ (fun done loop channel h => h.step) channels
  exact ⟨fun _ => Iff.rfl, fun _ _ => Iff.rfl, iff_of_true rfl channelsValid_nil, fun _ => rfl⟩

/-! ## The connection plan -/

/-- **A request that can be planned.** -/
structure ConnectionRequestValid (request : PeerConnectionPlanRequest) : Prop where
  specs : request.knownSpecs ≠ []
  requested : request.channels ≠ []
  channels : ChannelsValid request.knownSpecs request.channels

/-- Every requested channel is planned, under its key and with its endpoint. -/
theorem map_plannedChannel (h : ∀ channel ∈ channels, channel.key ∈ knownSpecs.map (·.key)) :
    (channels.filterMap (plannedChannel knownSpecs)).map (fun planned =>
      (planned.spec.key, planned.endpoint)) =
    channels.map fun channel => (channel.key, channel.endpoint) := by
  induction channels with
  | nil => rfl
  | cons channel channels ih =>
    obtain ⟨spec, hspec⟩ := Option.isSome_iff_exists.mp
      (isSome_findSpec.mpr (h channel List.mem_cons_self))
    have hkey : spec.key = channel.key := by
      have := List.find?_some hspec
      exact eq_of_beq this
    have hplanned : plannedChannel knownSpecs channel = some ⟨spec, channel.endpoint,
        channel.clientReadyEndpoint, channel.agentReadyEndpoint⟩ := by
      rw [plannedChannel, hspec, Option.map_some]
    rw [List.filterMap_cons_some hplanned, List.map_cons, List.map_cons, hkey,
      ih fun channel hchannel => h channel (List.mem_cons_of_mem _ hchannel)]

theorem resolvePeerConnectionPlan_of_valid {request : PeerConnectionPlanRequest}
    (h : ConnectionRequestValid request) :
    resolvePeerConnectionPlan request =
      { ok := true, channels := request.channels.filterMap (plannedChannel request.knownSpecs) } := by
  have hloop := foldl_resolveChannel request.knownSpecs request.channels
  have hmessages := hloop.messages.mpr h.channels
  have hresolved := hloop.resolved hmessages
  have hnonempty : request.channels.filterMap (plannedChannel request.knownSpecs) ≠ [] := by
    intro hnil
    have hmap := map_plannedChannel h.channels.known
    rw [hnil, List.map_nil] at hmap
    exact h.requested (List.map_eq_nil_iff.mp hmap.symm)
  rw [resolvePeerConnectionPlan]
  simp only [List.isEmpty_iff, h.specs, h.requested, if_false, List.append_nil, ne_eq,
    not_true_eq_false, hmessages, hresolved]
  rw [List.isEmpty_eq_false_iff.mpr hnonempty, Bool.not_false]

/-- **The connection plan is made for the valid requests only.** -/
theorem resolvePeerConnectionPlan_ok (request : PeerConnectionPlanRequest) :
    (resolvePeerConnectionPlan request).ok = true ↔ ConnectionRequestValid request := by
  refine ⟨fun hok => ?_, fun h => by rw [resolvePeerConnectionPlan_of_valid h]⟩
  by_cases hasked : request.knownSpecs = [] ∨ request.channels = []
  · rw [resolvePeerConnectionPlan, if_pos] at hok
    · cases hok
    · simp only [ne_eq, List.append_eq_nil_iff, ite_singleton_eq_nil, List.isEmpty_iff]
      tauto
  obtain ⟨hspecs, hrequested⟩ := not_or.mp hasked
  have hloop := foldl_resolveChannel request.knownSpecs request.channels
  refine ⟨hspecs, hrequested, hloop.messages.mp ?_⟩
  by_contra hmessages
  rw [resolvePeerConnectionPlan] at hok
  simp only [List.isEmpty_iff, hspecs, hrequested, if_false, List.append_nil, ne_eq,
    not_true_eq_false, hmessages, not_false_eq_true, if_true] at hok
  cases hok

theorem resolvePeerProfileExchange_ok (request : PeerProfileExchangeRequest) :
    (resolvePeerProfileExchange request).ok = true ↔
      ConnectionRequestValid request.connectionPlan := by
  rw [← resolvePeerConnectionPlan_ok, resolvePeerProfileExchange]
  cases hplan : (resolvePeerConnectionPlan request.connectionPlan).ok with
  | false => simp only [if_true]
  | true => simp only [Bool.true_eq_false, if_false]

end PeerProfile

open PeerProfile

/-! ## The degraded channels -/

/-- **The loop over the degraded channels ends without a message** if each of them is known and
replaced on both sides, and none comes twice. -/
theorem checkDegraded_eq_none {known client agent : List ChannelKey} (keys degraded : List ChannelKey) :
    checkDegraded known client agent degraded keys = none ↔
      (∀ key ∈ keys, key ∈ known ∧ key ∈ client ∧ key ∈ agent) ∧ keys.Nodup ∧
        ∀ key ∈ keys, key ∉ degraded := by
  induction keys generalizing degraded with
  | nil => simp [checkDegraded]
  | cons key keys ih =>
    rw [checkDegraded, List.forall_mem_cons, List.forall_mem_cons, List.nodup_cons]
    by_cases hknown : key ∈ known
    · rw [if_neg (not_not.mpr hknown)]
      by_cases hplanned : key ∉ client ∨ key ∉ agent
      · rw [if_pos hplanned]
        refine iff_of_false nofun ?_
        rintro ⟨⟨⟨-, hclient, hagent⟩, -⟩, -⟩
        exact hplanned.elim (fun h => h hclient) fun h => h hagent
      · rw [if_neg hplanned]
        rw [not_or, not_not, not_not] at hplanned
        by_cases hdegraded : key ∈ degraded
        · rw [if_pos hdegraded]
          exact iff_of_false nofun fun h => h.2.2.1 hdegraded
        · rw [if_neg hdegraded, ih]
          constructor
          · rintro ⟨hall, hnodup, hnew⟩
            refine ⟨⟨⟨hknown, hplanned⟩, hall⟩, ⟨fun hmem => ?_, hnodup⟩, hdegraded, ?_⟩
            · exact hnew key hmem (List.mem_append_right _ (List.mem_singleton_self key))
            · exact fun other hother hmem => hnew other hother (List.mem_append_left _ hmem)
          · rintro ⟨⟨-, hall⟩, ⟨hkey, hnodup⟩, -, hnew⟩
            refine ⟨hall, hnodup, fun other hother hmem => ?_⟩
            rcases List.mem_append.mp hmem with hold | hlast
            · exact hnew other hother hold
            · exact hkey (List.mem_singleton.mp hlast ▸ hother)
    · rw [if_pos hknown]
      exact iff_of_false nofun fun h => hknown h.1.1.1

/-! ## The reconnect plan -/

/-- **A reconnect that can be planned.** -/
structure ReconnectRequestValid (request : ReconnectOrchestrationRequest) : Prop where
  degraded : request.degradedChannels ≠ []
  nodup : request.degradedChannels.Nodup
  connection : ConnectionRequestValid request.profile.connectionPlan
  requested : ∀ key ∈ request.degradedChannels,
    key ∈ request.profile.connectionPlan.channels.map (·.key)

/-- The key and the endpoint of each degraded channel, in the order of the connection plan. -/
def degradedEndpoints (request : ReconnectOrchestrationRequest) : List (ChannelKey × PayloadFields.StdString) :=
  (request.profile.connectionPlan.channels.map fun channel => (channel.key, channel.endpoint)).filter
    fun channel => channel.1 ∈ request.degradedChannels

/-- **The plan pairs both ends**: they replace the degraded channels and no other, each once and in
the order of the connection plan, with one spec and one endpoint for both ends of a channel; and they
tear down the degraded channels. -/
structure PairsBothEnds (request : ReconnectOrchestrationRequest) (plan : ReconnectOrchestrationPlan) :
    Prop where
  clientChannels : (plan.client.tcpChannels.map fun channel =>
    (channel.spec.key, channel.endpoint)) = degradedEndpoints request
  agentChannels : (plan.agent.tcpListenChannels.map fun channel =>
    (channel.spec.key, channel.endpoint)) = degradedEndpoints request
  clientDegraded :
    (plan.client.tcpChannels.map (·.spec.key)).Perm request.degradedChannels
  agentDegraded :
    (plan.agent.tcpListenChannels.map (·.spec.key)).Perm request.degradedChannels
  nodup : request.degradedChannels.Nodup
  paired : (plan.client.tcpChannels.map fun channel => (channel.spec, channel.endpoint)) =
    plan.agent.tcpListenChannels.map fun channel => (channel.spec, channel.endpoint)
  endpoints : (plan.client.tcpChannels.map (·.endpoint)).Nodup
  clientTeardown : plan.client.teardownAfterSuccessfulRebind = request.degradedChannels
  agentTeardown : plan.agent.teardownAfterSuccessfulRebind = request.degradedChannels

/-- The keys that a side of the exchange has. -/
theorem keys_resolvePeerProfileExchange {request : PeerProfileExchangeRequest}
    (h : ConnectionRequestValid request.connectionPlan) :
    ((resolvePeerProfileExchange request).pair.client.tcpChannels.map fun channel =>
        (channel.spec.key, channel.endpoint)) =
      (request.connectionPlan.channels.map fun channel => (channel.key, channel.endpoint)) ∧
    ((resolvePeerProfileExchange request).pair.agent.tcpListenChannels.map fun channel =>
        (channel.spec.key, channel.endpoint)) =
      request.connectionPlan.channels.map fun channel => (channel.key, channel.endpoint) := by
  rw [resolvePeerProfileExchange, resolvePeerConnectionPlan_of_valid h]
  simp only [Bool.true_eq_false, if_false, List.map_map]
  exact ⟨map_plannedChannel h.channels.known, map_plannedChannel h.channels.known⟩

/-- The channels of one side that are replaced. -/
theorem map_replacementChannels {α : Type*} {channels : List PeerProfileChannel}
    {degraded : List ChannelKey} (f : PeerProfileChannel → α) :
    ((replacementChannels channels degraded).map fun channel => (channel.spec.key, f channel)) =
      (channels.map fun channel => (channel.spec.key, f channel)).filter
        fun channel => channel.1 ∈ degraded := by
  rw [List.filter_map]
  rfl

section Valid

variable {request : ReconnectOrchestrationRequest}

theorem checkDegraded_of_connection (h : ConnectionRequestValid request.profile.connectionPlan) :
    checkDegraded (request.profile.connectionPlan.knownSpecs.map fun spec => spec.key)
        ((resolvePeerProfileExchange request.profile).pair.client.tcpChannels.map
          fun channel => channel.spec.key)
        ((resolvePeerProfileExchange request.profile).pair.agent.tcpListenChannels.map
          fun channel => channel.spec.key) [] request.degradedChannels = none ↔
      request.degradedChannels.Nodup ∧ ∀ key ∈ request.degradedChannels,
        key ∈ request.profile.connectionPlan.channels.map (·.key) := by
  obtain ⟨hclient, hagent⟩ := keys_resolvePeerProfileExchange h
  have hclientKeys := congrArg (List.map Prod.fst) hclient
  have hagentKeys := congrArg (List.map Prod.fst) hagent
  simp only [List.map_map, Function.comp_def] at hclientKeys hagentKeys
  rw [hclientKeys, hagentKeys, checkDegraded_eq_none]
  constructor
  · rintro ⟨hall, hnodup, -⟩
    exact ⟨hnodup, fun key hkey => (hall key hkey).2.1⟩
  · rintro ⟨hnodup, hrequested⟩
    refine ⟨fun key hkey => ?_, hnodup, fun _ _ => List.not_mem_nil⟩
    obtain ⟨channel, hchannel, rfl⟩ := List.mem_map.mp (hrequested key hkey)
    exact ⟨h.channels.known channel hchannel, hrequested _ hkey, hrequested _ hkey⟩

theorem messages_resolvePeerProfileExchange {request : PeerProfileExchangeRequest}
    (h : ConnectionRequestValid request.connectionPlan) :
    (resolvePeerProfileExchange request).messages = [] := by
  rw [resolvePeerProfileExchange, resolvePeerConnectionPlan_of_valid h]
  rfl

theorem resolveReconnectOrchestrationPlan_ok :
    (resolveReconnectOrchestrationPlan request).ok = true ↔ ReconnectRequestValid request := by
  by_cases hdegraded : request.degradedChannels = []
  · rw [resolveReconnectOrchestrationPlan, if_pos (List.isEmpty_iff.mpr hdegraded)]
    exact iff_of_false nofun fun h => h.degraded hdegraded
  rw [resolveReconnectOrchestrationPlan, if_neg (by rwa [List.isEmpty_iff])]
  by_cases hconnection : ConnectionRequestValid request.profile.connectionPlan
  · have hok := (resolvePeerProfileExchange_ok request.profile).mpr hconnection
    simp only [hok, Bool.true_eq_false, if_false,
      messages_resolvePeerProfileExchange hconnection, List.map_nil, List.nil_append]
    cases hmessage : checkDegraded _ _ _ [] request.degradedChannels with
    | none =>
      obtain ⟨hnodup, hrequested⟩ := (checkDegraded_of_connection hconnection).mp hmessage
      exact iff_of_true rfl ⟨hdegraded, hnodup, hconnection, hrequested⟩
    | some message =>
      refine iff_of_false nofun fun h => ?_
      have hnone := (checkDegraded_of_connection hconnection).mpr ⟨h.nodup, h.requested⟩
      rw [hmessage] at hnone
      cases hnone
  · have hok : (resolvePeerProfileExchange request.profile).ok = false := by
      rw [← Bool.not_eq_true, resolvePeerProfileExchange_ok]
      exact hconnection
    simp only [hok, if_true]
    exact iff_of_false nofun fun h => hconnection h.connection

/-- The two sides of the plan. -/
theorem sides_resolveReconnectOrchestrationPlan (h : ReconnectRequestValid request) :
    let plan := (resolveReconnectOrchestrationPlan request).plan
    let pair := (resolvePeerProfileExchange request.profile).pair
    plan.client.tcpChannels =
        replacementChannels pair.client.tcpChannels request.degradedChannels ∧
      plan.agent.tcpListenChannels =
        replacementChannels pair.agent.tcpListenChannels request.degradedChannels ∧
      plan.client.teardownAfterSuccessfulRebind = request.degradedChannels ∧
      plan.agent.teardownAfterSuccessfulRebind = request.degradedChannels := by
  have hok := (resolvePeerProfileExchange_ok request.profile).mpr h.connection
  have hnone := (checkDegraded_of_connection h.connection).mpr ⟨h.nodup, h.requested⟩
  rw [resolveReconnectOrchestrationPlan, if_neg (by rw [List.isEmpty_iff]; exact h.degraded)]
  simp only [hok, Bool.true_eq_false, if_false, hnone,
    messages_resolvePeerProfileExchange h.connection, List.map_nil, List.nil_append,
    Option.toList_none, ne_eq, not_true_eq_false, and_self]

/-- The degraded channels, found among the requested ones. -/
theorem perm_degradedEndpoints (h : ReconnectRequestValid request) :
    ((degradedEndpoints request).map Prod.fst).Perm request.degradedChannels := by
  have hkeys : (degradedEndpoints request).map Prod.fst =
      (request.profile.connectionPlan.channels.map (·.key)).filter
        fun key => key ∈ request.degradedChannels := by
    rw [degradedEndpoints, List.filter_map, List.filter_map, List.map_map]
    rfl
  rw [hkeys, List.perm_ext_iff_of_nodup (h.connection.channels.keys.filter _) h.nodup]
  intro key
  rw [List.mem_filter, decide_eq_true_eq]
  exact and_iff_right_of_imp (h.requested key)

theorem pairsBothEnds_of_valid (h : ReconnectRequestValid request) :
    PairsBothEnds request (resolveReconnectOrchestrationPlan request).plan := by
  obtain ⟨hclient, hagent⟩ := keys_resolvePeerProfileExchange h.connection
  obtain ⟨hclientSide, hagentSide, hclientTeardown, hagentTeardown⟩ :=
    sides_resolveReconnectOrchestrationPlan h
  have hclientChannels := (congrArg (List.map fun channel : PeerProfileChannel =>
    (channel.spec.key, channel.endpoint)) hclientSide).trans (map_replacementChannels _)
  have hagentChannels := (congrArg (List.map fun channel : PeerProfileChannel =>
    (channel.spec.key, channel.endpoint)) hagentSide).trans (map_replacementChannels _)
  rw [hclient] at hclientChannels
  rw [hagent] at hagentChannels
  refine ⟨hclientChannels, hagentChannels, ?_, ?_, h.nodup, ?_, ?_, hclientTeardown,
    hagentTeardown⟩
  · have hkeys := congrArg (List.map Prod.fst) hclientChannels
    rw [List.map_map] at hkeys
    exact (List.Perm.of_eq hkeys).trans (perm_degradedEndpoints h)
  · have hkeys := congrArg (List.map Prod.fst) hagentChannels
    rw [List.map_map] at hkeys
    exact (List.Perm.of_eq hkeys).trans (perm_degradedEndpoints h)
  · rw [hclientSide, hagentSide, resolvePeerProfileExchange,
      resolvePeerConnectionPlan_of_valid h.connection]
    simp only [Bool.true_eq_false, if_false, replacementChannels, List.filter_map, List.map_map]
    rfl
  · have hendpoints := congrArg (List.map Prod.snd) hclientChannels
    rw [List.map_map] at hendpoints
    have hsublist : ((degradedEndpoints request).map Prod.snd).Sublist
        (request.profile.connectionPlan.channels.map (·.endpoint)) := by
      have hfiltered := (List.filter_sublist (p := fun channel : ChannelKey × _ =>
        channel.1 ∈ request.degradedChannels)
        (l := request.profile.connectionPlan.channels.map fun channel =>
          (channel.key, channel.endpoint))).map Prod.snd
      rwa [List.map_map] at hfiltered
    exact hendpoints ▸ hsublist.nodup h.connection.channels.endpoints

end Valid

/-- **A reconnect plan pairs both ends**: it is made for the valid requests only, and then it is about
the degraded channels and no other. -/
theorem reconnectPlan_pairsBothEnds (request : ReconnectOrchestrationRequest) :
    ((resolveReconnectOrchestrationPlan request).ok = true ↔ ReconnectRequestValid request) ∧
      ((resolveReconnectOrchestrationPlan request).ok = true →
        PairsBothEnds request (resolveReconnectOrchestrationPlan request).plan) :=
  ⟨resolveReconnectOrchestrationPlan_ok,
    fun hok => pairsBothEnds_of_valid (resolveReconnectOrchestrationPlan_ok.mp hok)⟩

end Runtime
end FusionDesk
