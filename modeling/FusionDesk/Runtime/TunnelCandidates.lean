import FusionDesk.General.FirstMatch
import FusionDesk.General.Matching
import FusionDesk.Network.ChannelRegistry
import FusionDesk.Protocol.PayloadFields

/-!
# The candidates of a tunnel

`negotiateTunnelCandidates` of `tunnel_candidate_profile.cpp`: for every requested channel the
transport mode, and the pair of a client's and an agent's candidate, that a replacement tunnel will
use.

* `HasPair`: what two lists of candidates have to offer for a channel and a mode.
* `Selects`: what is selected for a channel, the first mode with a pair and the first candidate of
  each list.
* `isSome_selectChannel`, `selects_of_selectChannel`: the search for one channel.
* `negotiateTunnelCandidates_exact`: when a negotiation succeeds, and with what.
-/

namespace FusionDesk
namespace Runtime

open Protocol Network FirstMatch Matching PayloadFields

inductive TunnelTransportMode
  | lanTcp
  | relay
  | directP2P
  deriving DecidableEq, Repr

structure TunnelReconnectExecutorOptions where
  preferredMode : TunnelTransportMode := .lanTcp
  allowLanTcpFallback : Bool := true
  allowRelayFallback : Bool := true
  allowDirectP2P : Bool := true
  requireEncryptedTransport : Bool := true
  deriving DecidableEq, Repr

structure TunnelReplacementCandidate where
  spec : ChannelSpec := {}
  endpoint : StdString := []
  readyEndpoint : StdString := []
  mode : TunnelTransportMode := .lanTcp
  listener : Bool := false
  encrypted : Bool := true
  deriving DecidableEq, Repr

structure TunnelCandidateProfile where
  sessionId : SessionId := 0
  candidates : List TunnelReplacementCandidate := []
  deriving DecidableEq, Repr

structure TunnelCandidateNegotiationRequest where
  client : TunnelCandidateProfile := {}
  agent : TunnelCandidateProfile := {}
  requestedChannels : List ChannelKey := []
  options : TunnelReconnectExecutorOptions := {}
  deriving DecidableEq, Repr

structure TunnelCandidateSelection where
  key : ChannelKey := {}
  mode : TunnelTransportMode := .lanTcp
  client : TunnelReplacementCandidate := {}
  agent : TunnelReplacementCandidate := {}
  deriving DecidableEq, Repr

structure TunnelCandidateNegotiationResult where
  ok : Bool := false
  selections : List TunnelCandidateSelection := []
  messages : List String := []
  deriving DecidableEq, Repr

def appendFailure (result : TunnelCandidateNegotiationResult) (message : String) :
    TunnelCandidateNegotiationResult :=
  { result with ok := false, messages := result.messages ++ [message] }

def sameChannel (lhs rhs : ChannelKey) : Bool :=
  lhs.channelId == rhs.channelId && lhs.channelType == rhs.channelType

def modeAllowed (mode : TunnelTransportMode) (options : TunnelReconnectExecutorOptions) : Bool :=
  match mode with
  | .lanTcp => options.preferredMode == .lanTcp || options.allowLanTcpFallback
  | .relay => options.preferredMode == .relay || options.allowRelayFallback
  | .directP2P => options.allowDirectP2P

def candidateAllowed (candidate : TunnelReplacementCandidate) (mode : TunnelTransportMode)
    (listener : Bool) (options : TunnelReconnectExecutorOptions) : Bool :=
  candidate.listener == listener && candidate.mode == mode && modeAllowed mode options &&
    !candidate.endpoint.isEmpty && (!options.requireEncryptedTransport || candidate.encrypted)

def modeOrder (options : TunnelReconnectExecutorOptions) : List TunnelTransportMode :=
  if options.preferredMode = .directP2P then [.directP2P, .relay, .lanTcp]
  else if options.preferredMode = .relay then [.relay, .directP2P, .lanTcp]
  else [.lanTcp, .directP2P, .relay]

def findCandidate (candidates : List TunnelReplacementCandidate) (key : ChannelKey)
    (mode : TunnelTransportMode) (listener : Bool) (options : TunnelReconnectExecutorOptions) :
    Option TunnelReplacementCandidate :=
  candidates.find? fun candidate =>
    sameChannel candidate.spec.key key && candidateAllowed candidate mode listener options

def hasDuplicateRequestedChannels : List ChannelKey → Bool
  | [] => false
  | key :: requested => requested.any (sameChannel key) || hasDuplicateRequestedChannels requested

/-- The body of the loop over the modes. -/
def selectMode (request : TunnelCandidateNegotiationRequest) (key : ChannelKey)
    (mode : TunnelTransportMode) : Option TunnelCandidateSelection :=
  match findCandidate request.client.candidates key mode false request.options,
    findCandidate request.agent.candidates key mode true request.options with
  | some client, some agent => some ⟨key, mode, client, agent⟩
  | _, _ => none

/-- The loop over the modes, for one channel. -/
def selectChannel (request : TunnelCandidateNegotiationRequest) (key : ChannelKey) :
    Option TunnelCandidateSelection :=
  (modeOrder request.options).findSome? (selectMode request key)

/-- The loop over the requested channels, which returns at the first without a pair. -/
def selectChannels (request : TunnelCandidateNegotiationRequest) :
    List ChannelKey → TunnelCandidateNegotiationResult → TunnelCandidateNegotiationResult
  | [], result => { result with ok := true }
  | key :: requested, result =>
    match selectChannel request key with
    | none =>
      appendFailure result "tunnel candidate negotiation has no compatible candidate pair"
    | some selection =>
      selectChannels request requested
        { result with selections := result.selections ++ [selection] }

/-- What the request itself is checked for, before any candidate is looked at. -/
def checkNegotiation (request : TunnelCandidateNegotiationRequest) :
    TunnelCandidateNegotiationResult :=
  let result : TunnelCandidateNegotiationResult := {}
  let result := if request.client.sessionId = 0 then
      appendFailure result "tunnel candidate negotiation requires client session id"
    else result
  let result := if request.agent.sessionId = 0 then
      appendFailure result "tunnel candidate negotiation requires agent session id"
    else result
  let result := if request.requestedChannels.isEmpty then
      appendFailure result "tunnel candidate negotiation requires requested channels"
    else result
  if hasDuplicateRequestedChannels request.requestedChannels then
    appendFailure result "tunnel candidate negotiation has duplicate requested channels"
  else result

def negotiateTunnelCandidates (request : TunnelCandidateNegotiationRequest) :
    TunnelCandidateNegotiationResult :=
  let result := checkNegotiation request
  if result.messages ≠ [] then result
  else selectChannels request request.requestedChannels result

/-! ## The checks of the request -/

theorem sameChannel_iff {lhs rhs : ChannelKey} : sameChannel lhs rhs = true ↔ lhs = rhs := by
  cases lhs
  cases rhs
  rw [sameChannel, Bool.and_eq_true, beq_iff_eq, beq_iff_eq, ChannelKey.mk.injEq]

theorem hasDuplicateRequestedChannels_eq_false_iff {requested : List ChannelKey} :
    hasDuplicateRequestedChannels requested = false ↔ requested.Nodup := by
  induction requested with
  | nil => exact iff_of_true rfl List.nodup_nil
  | cons key requested ih =>
    have hany : requested.any (sameChannel key) = false ↔ key ∉ requested := by
      rw [List.any_eq_false]
      simp only [sameChannel_iff]
      exact ⟨fun h hkey => h key hkey rfl, fun h other hother heq => h (heq ▸ hother)⟩
    rw [hasDuplicateRequestedChannels, Bool.or_eq_false_iff, hany, ih, List.nodup_cons]

/-- **A request that is looked at**: both sessions are known, and the requested channels are there
and pairwise distinct. -/
structure NegotiationRequestValid (request : TunnelCandidateNegotiationRequest) : Prop where
  client : request.client.sessionId ≠ 0
  agent : request.agent.sessionId ≠ 0
  requested : request.requestedChannels ≠ []
  distinct : request.requestedChannels.Nodup

/-- One check: a failure is said if there is one, and nothing else changes. -/
theorem ite_appendFailure (result : TunnelCandidateNegotiationResult) (c : Prop) [Decidable c]
    (message : String) (hok : result.ok = false) :
    ((if c then appendFailure result message else result).messages = [] ↔
      result.messages = [] ∧ ¬c) ∧
    (if c then appendFailure result message else result).ok = false ∧
    (if c then appendFailure result message else result).selections = result.selections := by
  by_cases hc : c
  · rw [if_pos hc]
    refine ⟨iff_of_false ?_ fun h => h.2 hc, rfl, rfl⟩
    exact List.append_ne_nil_of_right_ne_nil _ (List.cons_ne_nil _ _)
  · rw [if_neg hc]
    exact ⟨(and_iff_left hc).symm, hok, rfl⟩

/-- **Nothing is said of a valid request**, something is of every other, and nothing is selected
yet. -/
theorem checkNegotiation_spec (request : TunnelCandidateNegotiationRequest) :
    ((checkNegotiation request).messages = [] ↔ NegotiationRequestValid request) ∧
      (checkNegotiation request).ok = false ∧ (checkNegotiation request).selections = [] := by
  obtain ⟨hclient, hclientOk, hclientNone⟩ := ite_appendFailure {}
    (request.client.sessionId = 0)
    "tunnel candidate negotiation requires client session id" rfl
  obtain ⟨hagent, hagentOk, hagentNone⟩ := ite_appendFailure _
    (request.agent.sessionId = 0)
    "tunnel candidate negotiation requires agent session id" hclientOk
  obtain ⟨hrequested, hrequestedOk, hrequestedNone⟩ := ite_appendFailure _
    (request.requestedChannels.isEmpty = true)
    "tunnel candidate negotiation requires requested channels" hagentOk
  obtain ⟨hdistinct, hdistinctOk, hdistinctNone⟩ := ite_appendFailure _
    (hasDuplicateRequestedChannels request.requestedChannels = true)
    "tunnel candidate negotiation has duplicate requested channels" hrequestedOk
  refine ⟨hdistinct.trans ?_, hdistinctOk,
    hdistinctNone.trans (hrequestedNone.trans (hagentNone.trans hclientNone))⟩
  rw [hrequested, hagent, hclient, List.isEmpty_iff]
  constructor
  · rintro ⟨⟨⟨⟨-, hclient⟩, hagent⟩, hrequested⟩, hdistinct⟩
    exact ⟨hclient, hagent, hrequested,
      hasDuplicateRequestedChannels_eq_false_iff.mp (Bool.not_eq_true _ ▸ hdistinct)⟩
  · intro h
    refine ⟨⟨⟨⟨rfl, h.client⟩, h.agent⟩, h.requested⟩, ?_⟩
    rw [hasDuplicateRequestedChannels_eq_false_iff.mpr h.distinct]
    exact Bool.false_ne_true

/-! ## The search for one channel -/

/-- **A candidate that can serve** a channel in a mode, on the listening side or the other. -/
structure Serves (options : TunnelReconnectExecutorOptions) (key : ChannelKey)
    (mode : TunnelTransportMode) (listener : Bool) (candidate : TunnelReplacementCandidate) :
    Prop where
  channel : candidate.spec.key = key
  listener : candidate.listener = listener
  mode : candidate.mode = mode
  endpoint : candidate.endpoint ≠ []
  encrypted : options.requireEncryptedTransport = true → candidate.encrypted = true

/-- **A mode that is allowed and has a pair**: a candidate of the client that does not listen, and
one of the agent that does. -/
structure HasPair (request : TunnelCandidateNegotiationRequest) (key : ChannelKey)
    (mode : TunnelTransportMode) : Prop where
  allowed : modeAllowed mode request.options = true
  client : ∃ candidate ∈ request.client.candidates,
    Serves request.options key mode false candidate
  agent : ∃ candidate ∈ request.agent.candidates,
    Serves request.options key mode true candidate

/-- **What is selected for a channel**: the first mode of the preference order with a pair, and of
either list the first candidate that can serve. -/
structure Selects (request : TunnelCandidateNegotiationRequest) (key : ChannelKey)
    (selection : TunnelCandidateSelection) : Prop where
  channel : selection.key = key
  mode : IsFirst (HasPair request key) (modeOrder request.options) selection.mode
  client : IsFirst (Serves request.options key selection.mode false) request.client.candidates
    selection.client
  agent : IsFirst (Serves request.options key selection.mode true) request.agent.candidates
    selection.agent

variable {request : TunnelCandidateNegotiationRequest} {options : TunnelReconnectExecutorOptions}
  {candidates : List TunnelReplacementCandidate} {candidate : TunnelReplacementCandidate} {key : ChannelKey} {mode : TunnelTransportMode}
  {listener : Bool} {selection : TunnelCandidateSelection}

/-- The preference order lacks no mode. -/
theorem mem_modeOrder (mode : TunnelTransportMode) (options : TunnelReconnectExecutorOptions) :
    mode ∈ modeOrder options := by
  rw [modeOrder]
  split_ifs
  all_goals cases mode <;> decide

/-- The preferred mode comes first. -/
theorem head_modeOrder (options : TunnelReconnectExecutorOptions) :
    (modeOrder options).head? = some options.preferredMode := by
  rw [modeOrder]
  cases options.preferredMode
  all_goals rfl

/-- The test of the loop over the candidates. -/
theorem serves_iff :
    (sameChannel candidate.spec.key key && candidateAllowed candidate mode listener options) = true
      ↔ modeAllowed mode options = true ∧ Serves options key mode listener candidate := by
  have hencrypted : (!options.requireEncryptedTransport || candidate.encrypted) = true ↔
      (options.requireEncryptedTransport = true → candidate.encrypted = true) := by
    rw [Bool.or_eq_true, Bool.not_eq_true', imp_iff_not_or, Bool.not_eq_true]
  have hendpoint : (!candidate.endpoint.isEmpty) = true ↔ candidate.endpoint ≠ [] := by
    rw [Bool.not_eq_true', ← Bool.not_eq_true, List.isEmpty_iff]
  simp only [candidateAllowed, Bool.and_eq_true, sameChannel_iff, beq_iff_eq, hencrypted, hendpoint]
  constructor
  · rintro ⟨hkey, ⟨⟨⟨hlistener, hmode⟩, hallowed⟩, hendpoint⟩, hencrypted⟩
    exact ⟨hallowed, hkey, hlistener, hmode, hendpoint, hencrypted⟩
  · rintro ⟨hallowed, h⟩
    exact ⟨h.channel, ⟨⟨⟨h.listener, h.mode⟩, hallowed⟩, h.endpoint⟩, h.encrypted⟩

theorem findCandidate_eq_some_iff (hallowed : modeAllowed mode options = true) :
    findCandidate candidates key mode listener options = some candidate ↔
      IsFirst (Serves options key mode listener) candidates candidate := by
  have htest : ∀ candidate : TunnelReplacementCandidate,
      (sameChannel candidate.spec.key key && candidateAllowed candidate mode listener options) =
        true ↔ Serves options key mode listener candidate := by
    intro candidate
    rw [serves_iff, and_iff_right hallowed]
  classical
  rw [← find?_eq_some_iff_isFirst, findCandidate]
  congr! 3 with other
  rw [Bool.eq_iff_iff, htest, decide_eq_true_iff]

theorem isSome_findCandidate :
    (findCandidate candidates key mode listener options).isSome = true ↔
      modeAllowed mode options = true ∧
        ∃ candidate ∈ candidates, Serves options key mode listener candidate := by
  rw [findCandidate, List.find?_isSome]
  simp only [serves_iff]
  constructor
  · rintro ⟨candidate, hmem, hallowed, hserves⟩
    exact ⟨hallowed, candidate, hmem, hserves⟩
  · rintro ⟨hallowed, candidate, hmem, hserves⟩
    exact ⟨candidate, hmem, hallowed, hserves⟩

theorem selectMode_eq_some_iff :
    selectMode request key mode = some selection ↔
      ∃ client agent,
        findCandidate request.client.candidates key mode false request.options = some client ∧
        findCandidate request.agent.candidates key mode true request.options = some agent ∧
        ⟨key, mode, client, agent⟩ = selection := by
  rw [selectMode]
  cases findCandidate request.client.candidates key mode false request.options with
  | none => simp
  | some client =>
    cases findCandidate request.agent.candidates key mode true request.options with
    | none => simp
    | some agent => simp

theorem isSome_selectMode :
    (selectMode request key mode).isSome = true ↔ HasPair request key mode := by
  constructor
  · intro h
    obtain ⟨selection, hselection⟩ := Option.isSome_iff_exists.mp h
    obtain ⟨client, agent, hclient, hagent, -⟩ := selectMode_eq_some_iff.mp hselection
    obtain ⟨hallowed, hclient⟩ := isSome_findCandidate.mp (Option.isSome_iff_exists.mpr ⟨_, hclient⟩)
    obtain ⟨-, hagent⟩ := isSome_findCandidate.mp (Option.isSome_iff_exists.mpr ⟨_, hagent⟩)
    exact ⟨hallowed, hclient, hagent⟩
  · rintro ⟨hallowed, hclient, hagent⟩
    obtain ⟨client, hclient⟩ := Option.isSome_iff_exists.mp
      (isSome_findCandidate.mpr ⟨hallowed, hclient⟩)
    obtain ⟨agent, hagent⟩ := Option.isSome_iff_exists.mp
      (isSome_findCandidate.mpr ⟨hallowed, hagent⟩)
    exact Option.isSome_iff_exists.mpr
      ⟨_, selectMode_eq_some_iff.mpr ⟨client, agent, hclient, hagent, rfl⟩⟩

/-- **The search for one channel misses no pair**. -/
theorem isSome_selectChannel :
    (selectChannel request key).isSome = true ↔ ∃ mode, HasPair request key mode := by
  rw [selectChannel, List.findSome?_isSome_iff]
  simp only [isSome_selectMode]
  exact ⟨fun ⟨mode, _, hpair⟩ => ⟨mode, hpair⟩,
    fun ⟨mode, hpair⟩ => ⟨mode, mem_modeOrder mode request.options, hpair⟩⟩

/-- **What the search for one channel finds.** -/
theorem selects_of_selectChannel (h : selectChannel request key = some selection) :
    Selects request key selection := by
  obtain ⟨mode, hmode, hfirst⟩ := isFirst_of_findSome? h
  simp only [isSome_selectMode] at hfirst
  obtain ⟨client, agent, hclient, hagent, rfl⟩ := selectMode_eq_some_iff.mp hmode
  have hallowed := hfirst.1.allowed
  exact ⟨rfl, hfirst, (findCandidate_eq_some_iff hallowed).mp hclient,
    (findCandidate_eq_some_iff hallowed).mp hagent⟩

/-- No selection is against the options, whichever channel it is for. -/
theorem Selects.permitted (h : Selects request key selection) :
    modeAllowed selection.mode request.options = true ∧
      (request.options.requireEncryptedTransport = true →
        selection.client.encrypted = true ∧ selection.agent.encrypted = true) :=
  ⟨h.mode.1.allowed,
    fun hencrypted => ⟨h.client.1.encrypted hencrypted, h.agent.1.encrypted hencrypted⟩⟩

/-! ## The loop over the channels -/

/-- **The loop selects for one channel after the other**, and gets to the end when each of them has
a pair. -/
theorem selectChannels_spec (request : TunnelCandidateNegotiationRequest)
    (requested : List ChannelKey) (result : TunnelCandidateNegotiationResult)
    (hok : result.ok = false) :
    ((selectChannels request requested result).ok = true ↔
      ∀ key ∈ requested, ∃ mode, HasPair request key mode) ∧
    ∃ chosen, (selectChannels request requested result).selections = result.selections ++ chosen ∧
      List.Forall₂ (Selects request) (requested.take chosen.length) chosen ∧
      ((selectChannels request requested result).ok = true →
        chosen.length = requested.length) := by
  induction requested generalizing result with
  | nil =>
    exact ⟨iff_of_true rfl nofun, [], (List.append_nil _).symm, List.Forall₂.nil, fun _ => rfl⟩
  | cons key requested ih =>
    have hpair : (selectChannel request key).isSome = true ↔ ∃ mode, HasPair request key mode :=
      isSome_selectChannel
    rw [selectChannels, List.forall_mem_cons, ← hpair]
    cases hselect : selectChannel request key with
    | none =>
      refine ⟨iff_of_false Bool.false_ne_true fun h => Bool.false_ne_true h.1, [],
        (List.append_nil _).symm, List.Forall₂.nil, fun h => absurd h Bool.false_ne_true⟩
    | some selection =>
      obtain ⟨hexact, chosen, hselections, hchosen, hlength⟩ :=
        ih { result with selections := result.selections ++ [selection] } hok
      refine ⟨hexact.trans (and_iff_right rfl).symm, selection :: chosen, ?_,
        List.Forall₂.cons (selects_of_selectChannel hselect) hchosen, fun h => ?_⟩
      · rw [hselections, List.append_assoc, List.singleton_append]
      · rw [List.length_cons, List.length_cons, hlength h]

/-- **A negotiation succeeds exactly when the request is valid and every channel has a pair**, and
then selects for every channel, in order, the first pair in the first mode.  What it selects, also
where it fails later, is never against the options. -/
theorem negotiateTunnelCandidates_exact (request : TunnelCandidateNegotiationRequest) :
    ((negotiateTunnelCandidates request).ok = true ↔
      (request.client.sessionId ≠ 0 ∧ request.agent.sessionId ≠ 0) ∧
      (request.requestedChannels ≠ [] ∧ request.requestedChannels.Nodup) ∧
      ∀ key ∈ request.requestedChannels, ∃ mode, HasPair request key mode) ∧
    ((negotiateTunnelCandidates request).ok = true →
      List.Forall₂ (Selects request) request.requestedChannels
        (negotiateTunnelCandidates request).selections) ∧
    ∀ selection ∈ (negotiateTunnelCandidates request).selections,
      modeAllowed selection.mode request.options = true ∧
        (request.options.requireEncryptedTransport = true →
          selection.client.encrypted = true ∧ selection.agent.encrypted = true) := by
  obtain ⟨hmessages, hok, hnone⟩ := checkNegotiation_spec request
  by_cases hvalid : NegotiationRequestValid request
  · obtain ⟨hexact, chosen, hselections, hchosen, hlength⟩ :=
      selectChannels_spec request request.requestedChannels _ hok
    rw [hnone, List.nil_append] at hselections
    rw [negotiateTunnelCandidates, if_neg (not_not.mpr (hmessages.mpr hvalid)), hselections]
    refine ⟨hexact.trans ⟨fun h => ?_, fun h => h.2.2⟩, fun h => ?_, fun selection hmem => ?_⟩
    · exact ⟨⟨hvalid.client, hvalid.agent⟩, ⟨hvalid.requested, hvalid.distinct⟩, h⟩
    · rwa [hlength h, List.take_length] at hchosen
    · obtain ⟨key, -, hselects⟩ := exists_left_of_forall₂ hchosen hmem
      exact hselects.permitted
  · have hrefused : negotiateTunnelCandidates request = checkNegotiation request :=
      if_pos fun hnil => hvalid (hmessages.mp hnil)
    rw [hrefused, hnone, hok]
    refine ⟨iff_of_false Bool.false_ne_true ?_, fun h => absurd h Bool.false_ne_true,
      fun _ hmem => absurd hmem List.not_mem_nil⟩
    rintro ⟨⟨hclient, hagent⟩, ⟨hrequested, hdistinct⟩, -⟩
    exact hvalid ⟨hclient, hagent, hrequested, hdistinct⟩

end Runtime
end FusionDesk
