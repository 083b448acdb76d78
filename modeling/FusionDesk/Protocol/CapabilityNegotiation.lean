import FusionDesk.Protocol.Capabilities
import Mathlib.Data.List.Nodup

/-!
# Capability negotiation

`CapabilityNegotiator::negotiate` of `src/core/protocol/capability_negotiation.cpp`.  Each peer runs
it by itself, with its own capabilities first, so the two runs have their arguments in opposite
order.  Nothing is exchanged afterwards: that both peers enforce the same contract is a fact about
the function.

* `mem_intersectValues`, `nodup_intersectValues`: the intersection of two lists as a set, whatever
  the order and the repetitions of its arguments.
* `negotiateLimits_comm`: the limits do not depend on the order, and `negotiateLimits_timeouts` puts
  the default timeout between its bounds.
* `negotiate_agreement`: what the two runs have in common, and what a compatible result promises.
-/

namespace FusionDesk
namespace Protocol

inductive CapabilityKind
  | protocolVersion
  | feature
  | channelType
  | packetType
  | messageKind
  | limit
  | directTunnel
  deriving DecidableEq, Repr

inductive CapabilityDenialReason
  | unsupportedByLocal
  | unsupportedByRemote
  | incompatibleProtocol
  | noCommonValue
  | limitConflict
  deriving DecidableEq, Repr

structure CapabilityDenial where
  kind : CapabilityKind := .feature
  value : UInt64 := 0
  reason : CapabilityDenialReason := .unsupportedByRemote
  message : String := ""
  deriving DecidableEq, Repr

structure CapabilityNegotiationResult where
  compatible : Bool := false
  negotiated : NegotiatedCapabilities := {}
  denials : List CapabilityDenial := []
  message : String := ""
  deriving DecidableEq, Repr

/-! ## The functions of the source -/

def intersectValues {α : Type*} [DecidableEq α] (own remote : List α) : List α :=
  own.foldl (fun result value =>
    if value ∉ result ∧ value ∈ remote then result ++ [value] else result) []

/-- The denials `addUnsupportedValues` adds. -/
def unsupportedValues {α : Type*} [DecidableEq α] (raw : α → UInt64) (kind : CapabilityKind)
    (offered supported : List α) (reason : CapabilityDenialReason) (message : String) :
    List CapabilityDenial :=
  (offered.filter (· ∉ supported)).map fun value => ⟨kind, raw value, reason, message⟩

/-- A denial that is added under a condition. -/
def denialIf (condition : Bool) (denial : CapabilityDenial) : List CapabilityDenial :=
  if condition then [denial] else []

def negotiateLimits (own remote : ProtocolLimits) : ProtocolLimits :=
  let minRequestTimeoutMs := max own.minRequestTimeoutMs remote.minRequestTimeoutMs
  let maxRequestTimeoutMs := min own.maxRequestTimeoutMs remote.maxRequestTimeoutMs
  let preferredDefault := min own.defaultRequestTimeoutMs remote.defaultRequestTimeoutMs
  { maxPayloadBytes := min own.maxPayloadBytes remote.maxPayloadBytes
    maxStreamChunkBytes := min own.maxStreamChunkBytes remote.maxStreamChunkBytes
    minRequestTimeoutMs := minRequestTimeoutMs
    maxRequestTimeoutMs := maxRequestTimeoutMs
    maxChannels := min own.maxChannels remote.maxChannels
    maxPendingRequests := min own.maxPendingRequests remote.maxPendingRequests
    defaultRequestTimeoutMs :=
      if minRequestTimeoutMs ≤ maxRequestTimeoutMs then
        min (max preferredDefault minRequestTimeoutMs) maxRequestTimeoutMs
      else preferredDefault }

/-- One check of `validateLimits`, on whether the limits are valid so far and the denials. -/
def checkLimit (bad : Bool) (message : String) (state : Bool × List CapabilityDenial) :
    Bool × List CapabilityDenial :=
  if bad then (false, state.2 ++ [⟨.limit, 0, .limitConflict, message⟩]) else state

def validateLimits (limits : ProtocolLimits) (denials : List CapabilityDenial) :
    Bool × List CapabilityDenial :=
  let state := (true, denials)
  let state := checkLimit (limits.maxPayloadBytes == 0)
    "negotiated max payload size is zero" state
  let state := checkLimit (limits.maxStreamChunkBytes == 0)
    "negotiated max stream chunk size is zero" state
  let state := checkLimit (limits.minRequestTimeoutMs > limits.maxRequestTimeoutMs)
    "request timeout ranges do not overlap" state
  let state := checkLimit (limits.maxChannels == 0)
    "negotiated max channel count is zero" state
  checkLimit (limits.maxPendingRequests == 0)
    "negotiated max pending request count is zero" state

/-- `CapabilityNegotiator::negotiate`. -/
def negotiate (own remote : ProtocolCapabilities) : CapabilityNegotiationResult :=
  let protocolMinor := min own.protocolMinor remote.protocolMinor
  if own.protocolMajor ≠ remote.protocolMajor then
    { negotiated := { protocolMajor := own.protocolMajor, protocolMinor := protocolMinor }
      denials := [⟨.protocolVersion, remote.protocolMajor.toUInt64, .incompatibleProtocol,
        "protocol major versions do not match"⟩]
      message := "capability negotiation failed" }
  else
    let features := own.features.bits &&& remote.features.bits
    let localOnlyFeatures := own.features.bits &&& ~~~remote.features.bits
    let remoteOnlyFeatures := remote.features.bits &&& ~~~own.features.bits
    let channelTypes := intersectValues own.channelTypes remote.channelTypes
    let packetTypes := intersectValues own.packetTypes remote.packetTypes
    let messageKinds := intersectValues own.messageKinds remote.messageKinds
    let denials :=
      denialIf (localOnlyFeatures != 0) ⟨.feature, localOnlyFeatures, .unsupportedByRemote,
        "local features are not supported by remote"⟩ ++
      denialIf (remoteOnlyFeatures != 0) ⟨.feature, remoteOnlyFeatures, .unsupportedByLocal,
        "remote features are not supported by local"⟩ ++
      unsupportedValues (·.raw.toUInt64) .channelType own.channelTypes remote.channelTypes
        .unsupportedByRemote "local channel type is not supported by remote" ++
      unsupportedValues (·.raw.toUInt64) .channelType remote.channelTypes own.channelTypes
        .unsupportedByLocal "remote channel type is not supported by local" ++
      unsupportedValues (·.raw.toUInt64) .packetType own.packetTypes remote.packetTypes
        .unsupportedByRemote "local packet type is not supported by remote" ++
      unsupportedValues (·.raw.toUInt64) .packetType remote.packetTypes own.packetTypes
        .unsupportedByLocal "remote packet type is not supported by local" ++
      unsupportedValues (·.raw.toUInt64) .messageKind own.messageKinds remote.messageKinds
        .unsupportedByRemote "local message kind is not supported by remote" ++
      unsupportedValues (·.raw.toUInt64) .messageKind remote.messageKinds own.messageKinds
        .unsupportedByLocal "remote message kind is not supported by local" ++
      denialIf channelTypes.isEmpty ⟨.channelType, 0, .noCommonValue, "no common channel type"⟩ ++
      denialIf packetTypes.isEmpty ⟨.packetType, 0, .noCommonValue, "no common packet type"⟩ ++
      denialIf messageKinds.isEmpty ⟨.messageKind, 0, .noCommonValue, "no common message kind"⟩
    let common := !channelTypes.isEmpty && !packetTypes.isEmpty && !messageKinds.isEmpty
    let limits := negotiateLimits own.limits remote.limits
    let validated := validateLimits limits denials
    let compatible := validated.1 && common
    { compatible := compatible
      negotiated :=
        { protocolMajor := own.protocolMajor
          protocolMinor := protocolMinor
          features := ⟨features⟩
          channelTypes := channelTypes
          packetTypes := packetTypes
          messageKinds := messageKinds
          limits := limits
          directTunnelEnabled := own.directTunnelSupported && remote.directTunnelSupported }
      denials := validated.2 ++
        denialIf (own.directTunnelSupported && !remote.directTunnelSupported)
          ⟨.directTunnel, 1, .unsupportedByRemote, "direct tunnel is not supported by remote"⟩ ++
        denialIf (!own.directTunnelSupported && remote.directTunnelSupported)
          ⟨.directTunnel, 1, .unsupportedByLocal, "direct tunnel is not supported by local"⟩
      message := if compatible then "capabilities negotiated" else "capability negotiation failed" }

/-! ## The intersection of two lists -/

section Intersection

variable {α : Type*} [DecidableEq α]

/-- The loop of `intersectValues` keeps what it has free of repetitions, and adds to it the values
of both lists. -/
theorem intersectValues_loop (own remote result : List α) (hresult : result.Nodup) :
    (own.foldl (fun result value =>
        if value ∉ result ∧ value ∈ remote then result ++ [value] else result) result).Nodup ∧
      ∀ v, v ∈ own.foldl (fun result value =>
          if value ∉ result ∧ value ∈ remote then result ++ [value] else result) result ↔
        v ∈ result ∨ v ∈ own ∧ v ∈ remote := by
  induction own generalizing result with
  | nil => exact ⟨hresult, fun v => by simp⟩
  | cons value own ih =>
    rw [List.foldl_cons]
    by_cases hnew : value ∉ result ∧ value ∈ remote
    · rw [if_pos hnew]
      have hnodup : (result ++ [value]).Nodup := by
        rw [List.nodup_append_comm]
        exact List.nodup_cons.mpr ⟨hnew.1, hresult⟩
      obtain ⟨hloop, hmem⟩ := ih (result ++ [value]) hnodup
      refine ⟨hloop, fun v => ?_⟩
      rw [hmem v, List.mem_append, List.mem_singleton, List.mem_cons]
      by_cases hv : v = value
      · rw [hv]
        simp [hnew.2]
      · simp [hv]
    · rw [if_neg hnew]
      obtain ⟨hloop, hmem⟩ := ih result hresult
      refine ⟨hloop, fun v => ?_⟩
      rw [hmem v, List.mem_cons]
      by_cases hv : v = value
      · rw [hv]
        -- a value that is not added is there already, or is not one of the other list
        by_cases hold : value ∈ result
        · simp [hold]
        · have hother : value ∉ remote := fun hremote => hnew ⟨hold, hremote⟩
          simp [hold, hother]
      · simp [hv]

theorem nodup_intersectValues (own remote : List α) : (intersectValues own remote).Nodup :=
  (intersectValues_loop own remote [] List.nodup_nil).1

theorem mem_intersectValues (own remote : List α) (v : α) :
    v ∈ intersectValues own remote ↔ v ∈ own ∧ v ∈ remote := by
  rw [intersectValues, (intersectValues_loop own remote [] List.nodup_nil).2 v]
  simp

theorem mem_intersectValues_comm (own remote : List α) (v : α) :
    v ∈ intersectValues own remote ↔ v ∈ intersectValues remote own := by
  rw [mem_intersectValues, mem_intersectValues, and_comm]

theorem isEmpty_intersectValues_comm (own remote : List α) :
    (intersectValues own remote).isEmpty = (intersectValues remote own).isEmpty := by
  rw [Bool.eq_iff_iff, List.isEmpty_iff, List.isEmpty_iff, List.eq_nil_iff_forall_not_mem,
    List.eq_nil_iff_forall_not_mem]
  exact forall_congr' fun v => not_congr (mem_intersectValues_comm own remote v)

end Intersection

/-! ## The limits -/

theorem toNat_min_u16 (a b : UInt16) : (min a b).toNat = min a.toNat b.toNat := by
  show (if a ≤ b then a else b).toNat = _
  have hle := UInt16.le_iff_toNat_le (a := a) (b := b)
  split_ifs with h
  · have hnat := hle.mp h
    omega
  · have hnat := mt hle.mpr h
    omega

theorem toNat_min_u32 (a b : UInt32) : (min a b).toNat = min a.toNat b.toNat := by
  show (if a ≤ b then a else b).toNat = _
  have hle := UInt32.le_iff_toNat_le (a := a) (b := b)
  split_ifs with h
  · have hnat := hle.mp h
    omega
  · have hnat := mt hle.mpr h
    omega

theorem toNat_max_u32 (a b : UInt32) : (max a b).toNat = max a.toNat b.toNat := by
  show (if a ≤ b then b else a).toNat = _
  have hle := UInt32.le_iff_toNat_le (a := a) (b := b)
  split_ifs with h
  · have hnat := hle.mp h
    omega
  · have hnat := mt hle.mpr h
    omega

theorem min_comm_u16 (a b : UInt16) : min a b = min b a := by
  rw [← UInt16.toNat_inj, toNat_min_u16, toNat_min_u16, Nat.min_comm]

theorem min_comm_u32 (a b : UInt32) : min a b = min b a := by
  rw [← UInt32.toNat_inj, toNat_min_u32, toNat_min_u32, Nat.min_comm]

theorem max_comm_u32 (a b : UInt32) : max a b = max b a := by
  rw [← UInt32.toNat_inj, toNat_max_u32, toNat_max_u32, Nat.max_comm]

/-- **The limits do not depend on the order.** -/
theorem negotiateLimits_comm (own remote : ProtocolLimits) :
    negotiateLimits own remote = negotiateLimits remote own := by
  unfold negotiateLimits
  rw [min_comm_u32 own.maxPayloadBytes, min_comm_u32 own.maxStreamChunkBytes,
    max_comm_u32 own.minRequestTimeoutMs, min_comm_u32 own.maxRequestTimeoutMs,
    min_comm_u16 own.maxChannels, min_comm_u32 own.maxPendingRequests,
    min_comm_u32 own.defaultRequestTimeoutMs]

/-- **The default timeout is between its bounds**, wherever the three of either peer are, once the
bounds are in order. -/
theorem negotiateLimits_timeouts {own remote : ProtocolLimits}
    (h : (negotiateLimits own remote).minRequestTimeoutMs ≤
      (negotiateLimits own remote).maxRequestTimeoutMs) :
    (negotiateLimits own remote).minRequestTimeoutMs ≤
        (negotiateLimits own remote).defaultRequestTimeoutMs ∧
      (negotiateLimits own remote).defaultRequestTimeoutMs ≤
        (negotiateLimits own remote).maxRequestTimeoutMs := by
  have hdefault : (negotiateLimits own remote).defaultRequestTimeoutMs =
      min (max (min own.defaultRequestTimeoutMs remote.defaultRequestTimeoutMs)
        (negotiateLimits own remote).minRequestTimeoutMs)
          (negotiateLimits own remote).maxRequestTimeoutMs := if_pos h
  rw [hdefault]
  rw [UInt32.le_iff_toNat_le] at h
  rw [UInt32.le_iff_toNat_le, UInt32.le_iff_toNat_le, toNat_min_u32, toNat_max_u32]
  omega

/-- What the five checks of the limits say. -/
structure LimitsUsable (limits : ProtocolLimits) : Prop where
  maxPayloadBytes : limits.maxPayloadBytes ≠ 0
  maxStreamChunkBytes : limits.maxStreamChunkBytes ≠ 0
  timeouts : limits.minRequestTimeoutMs ≤ limits.maxRequestTimeoutMs
  maxChannels : limits.maxChannels ≠ 0
  maxPendingRequests : limits.maxPendingRequests ≠ 0

theorem checkLimit_fst (bad : Bool) (message : String) (state : Bool × List CapabilityDenial) :
    (checkLimit bad message state).1 = (!bad && state.1) := by
  unfold checkLimit
  cases bad with
  | false => rfl
  | true => rfl

/-- **The limits pass exactly if they are usable**, whatever was denied before. -/
theorem validateLimits_iff (limits : ProtocolLimits) (denials : List CapabilityDenial) :
    (validateLimits limits denials).1 = true ↔ LimitsUsable limits := by
  simp only [validateLimits, checkLimit_fst, Bool.and_true, Bool.and_eq_true, Bool.not_eq_true',
    beq_eq_false_iff_ne, decide_eq_false_iff_not, gt_iff_lt, UInt32.not_lt]
  constructor
  · rintro ⟨hpending, hchannels, htimeouts, hchunk, hpayload⟩
    exact ⟨hpayload, hchunk, htimeouts, hchannels, hpending⟩
  · rintro ⟨hpayload, hchunk, htimeouts, hchannels, hpending⟩
    exact ⟨hpending, hchannels, htimeouts, hchunk, hpayload⟩

/-! ## The agreement -/

/-- One list of the two runs: the same values, each of them once. -/
structure SameValues {α : Type*} (here there : List α) : Prop where
  nodup_here : here.Nodup
  nodup_there : there.Nodup
  mem_iff : ∀ v, v ∈ here ↔ v ∈ there

/-- What the two runs of the negotiation agree on. -/
structure SameContract (here there : NegotiatedCapabilities) : Prop where
  protocolMinor : here.protocolMinor = there.protocolMinor
  features : here.features = there.features
  limits : here.limits = there.limits
  directTunnelEnabled : here.directTunnelEnabled = there.directTunnelEnabled
  channelTypes : SameValues here.channelTypes there.channelTypes
  packetTypes : SameValues here.packetTypes there.packetTypes
  messageKinds : SameValues here.messageKinds there.messageKinds

/-- Everything in the contract is something a peer has offered. -/
structure OfferedBy (negotiated : NegotiatedCapabilities) (peer : ProtocolCapabilities) :
    Prop where
  features : ∀ i, negotiated.features.bits.toNat.testBit i = true →
    peer.features.bits.toNat.testBit i = true
  channelTypes : ∀ v ∈ negotiated.channelTypes, v ∈ peer.channelTypes
  packetTypes : ∀ v ∈ negotiated.packetTypes, v ∈ peer.packetTypes
  messageKinds : ∀ v ∈ negotiated.messageKinds, v ∈ peer.messageKinds

/-- The limits ask no more of a peer than it has offered. -/
structure LimitsWithin (limits peer : ProtocolLimits) : Prop where
  maxPayloadBytes : limits.maxPayloadBytes ≤ peer.maxPayloadBytes
  maxStreamChunkBytes : limits.maxStreamChunkBytes ≤ peer.maxStreamChunkBytes
  maxChannels : limits.maxChannels ≤ peer.maxChannels
  maxPendingRequests : limits.maxPendingRequests ≤ peer.maxPendingRequests

/-- The request timeouts of the contract: the tighter of the bounds, and a default between them. -/
structure TimeoutsBetween (limits a b : ProtocolLimits) : Prop where
  min_eq : limits.minRequestTimeoutMs = max a.minRequestTimeoutMs b.minRequestTimeoutMs
  min_le : limits.minRequestTimeoutMs ≤ limits.defaultRequestTimeoutMs
  le_max : limits.defaultRequestTimeoutMs ≤ limits.maxRequestTimeoutMs
  max_eq : limits.maxRequestTimeoutMs = min a.maxRequestTimeoutMs b.maxRequestTimeoutMs

/-- What a compatible result promises. -/
structure Enforceable (negotiated : NegotiatedCapabilities) (a b : ProtocolCapabilities) :
    Prop where
  protocolMajor : a.protocolMajor = b.protocolMajor
  channelTypes : negotiated.channelTypes ≠ []
  packetTypes : negotiated.packetTypes ≠ []
  messageKinds : negotiated.messageKinds ≠ []
  usable : LimitsUsable negotiated.limits
  within_left : LimitsWithin negotiated.limits a.limits
  within_right : LimitsWithin negotiated.limits b.limits
  timeouts : TimeoutsBetween negotiated.limits a.limits b.limits

theorem sameValues_intersectValues {α : Type*} [DecidableEq α] (own remote : List α) :
    SameValues (intersectValues own remote) (intersectValues remote own) where
  nodup_here := nodup_intersectValues own remote
  nodup_there := nodup_intersectValues remote own
  mem_iff := mem_intersectValues_comm own remote

theorem sameValues_nil {α : Type*} : SameValues ([] : List α) [] :=
  ⟨List.nodup_nil, List.nodup_nil, fun _ => Iff.rfl⟩

/-- The limits of the contract are within those of the first peer. -/
theorem limitsWithin_negotiateLimits (own remote : ProtocolLimits) :
    LimitsWithin (negotiateLimits own remote) own :=
  ⟨Std.min_le_left, Std.min_le_left, Std.min_le_left, Std.min_le_left⟩

/-- A run between peers of different major versions. -/
theorem negotiate_of_ne {own remote : ProtocolCapabilities}
    (h : own.protocolMajor ≠ remote.protocolMajor) :
    (negotiate own remote).compatible = false ∧
      (negotiate own remote).negotiated =
        { protocolMajor := own.protocolMajor
          protocolMinor := min own.protocolMinor remote.protocolMinor } := by
  unfold negotiate
  rw [if_pos h]
  exact ⟨rfl, rfl⟩

/-- A run between peers of one major version. -/
theorem negotiate_of_eq {own remote : ProtocolCapabilities}
    (h : own.protocolMajor = remote.protocolMajor) :
    ((negotiate own remote).compatible = true ↔
        LimitsUsable (negotiateLimits own.limits remote.limits) ∧
          (intersectValues own.channelTypes remote.channelTypes).isEmpty = false ∧
          (intersectValues own.packetTypes remote.packetTypes).isEmpty = false ∧
          (intersectValues own.messageKinds remote.messageKinds).isEmpty = false) ∧
      (negotiate own remote).negotiated =
        { protocolMajor := own.protocolMajor
          protocolMinor := min own.protocolMinor remote.protocolMinor
          features := ⟨own.features.bits &&& remote.features.bits⟩
          channelTypes := intersectValues own.channelTypes remote.channelTypes
          packetTypes := intersectValues own.packetTypes remote.packetTypes
          messageKinds := intersectValues own.messageKinds remote.messageKinds
          limits := negotiateLimits own.limits remote.limits
          directTunnelEnabled := own.directTunnelSupported && remote.directTunnelSupported } := by
  unfold negotiate
  rw [if_neg (not_not.mpr h)]
  refine ⟨?_, rfl⟩
  simp only [Bool.and_eq_true, validateLimits_iff, Bool.not_eq_true', and_assoc]

/-- **The verdict does not depend on the order.** -/
theorem negotiate_compatible_comm (a b : ProtocolCapabilities) :
    (negotiate a b).compatible = (negotiate b a).compatible := by
  by_cases h : a.protocolMajor = b.protocolMajor
  · rw [Bool.eq_iff_iff, (negotiate_of_eq h).1, (negotiate_of_eq h.symm).1,
      negotiateLimits_comm a.limits, isEmpty_intersectValues_comm a.channelTypes,
      isEmpty_intersectValues_comm a.packetTypes, isEmpty_intersectValues_comm a.messageKinds]
  · rw [(negotiate_of_ne h).1, (negotiate_of_ne (Ne.symm h)).1]

/-- **The contract does not depend on the order.** -/
theorem negotiate_sameContract (a b : ProtocolCapabilities) :
    SameContract (negotiate a b).negotiated (negotiate b a).negotiated := by
  by_cases h : a.protocolMajor = b.protocolMajor
  · rw [(negotiate_of_eq h).2, (negotiate_of_eq h.symm).2]
    constructor
    · exact min_comm_u16 _ _
    · show (⟨_⟩ : FeatureSet) = ⟨_⟩
      rw [UInt64.and_comm]
    · exact negotiateLimits_comm _ _
    · exact Bool.and_comm _ _
    · exact sameValues_intersectValues _ _
    · exact sameValues_intersectValues _ _
    · exact sameValues_intersectValues _ _
  · rw [(negotiate_of_ne h).2, (negotiate_of_ne (Ne.symm h)).2]
    refine ⟨min_comm_u16 _ _, rfl, rfl, rfl, ?_, ?_, ?_⟩
    · exact sameValues_nil
    · exact sameValues_nil
    · exact sameValues_nil

/-- Everything in the contract has been offered by the peer that runs the negotiation. -/
theorem negotiate_offeredBy_own (own remote : ProtocolCapabilities) :
    OfferedBy (negotiate own remote).negotiated own := by
  by_cases h : own.protocolMajor = remote.protocolMajor
  · rw [(negotiate_of_eq h).2]
    constructor
    · intro i hi
      rw [UInt64.toNat_and, Nat.testBit_and, Bool.and_eq_true] at hi
      exact hi.1
    · exact fun v hv => ((mem_intersectValues _ _ v).mp hv).1
    · exact fun v hv => ((mem_intersectValues _ _ v).mp hv).1
    · exact fun v hv => ((mem_intersectValues _ _ v).mp hv).1
  · rw [(negotiate_of_ne h).2]
    constructor
    · intro i hi
      rw [show (0 : UInt64).toNat = 0 from rfl, Nat.zero_testBit] at hi
      cases hi
    · exact fun v hv => absurd hv List.not_mem_nil
    · exact fun v hv => absurd hv List.not_mem_nil
    · exact fun v hv => absurd hv List.not_mem_nil

/-- What has been offered does not depend on which of two runs with one contract is asked. -/
theorem OfferedBy.congr {here there : NegotiatedCapabilities} (h : SameContract here there)
    {peer : ProtocolCapabilities} (hthere : OfferedBy there peer) : OfferedBy here peer where
  features := by
    rw [h.features]
    exact hthere.features
  channelTypes v hv := hthere.channelTypes v ((h.channelTypes.mem_iff v).mp hv)
  packetTypes v hv := hthere.packetTypes v ((h.packetTypes.mem_iff v).mp hv)
  messageKinds v hv := hthere.messageKinds v ((h.messageKinds.mem_iff v).mp hv)

/-- **A compatible result can be enforced.** -/
theorem negotiate_enforceable {a b : ProtocolCapabilities}
    (h : (negotiate a b).compatible = true) : Enforceable (negotiate a b).negotiated a b := by
  by_cases hmajor : a.protocolMajor = b.protocolMajor
  · obtain ⟨husable, hchannels, hpackets, hkinds⟩ := (negotiate_of_eq hmajor).1.mp h
    rw [(negotiate_of_eq hmajor).2]
    refine ⟨hmajor, ?_, ?_, ?_, husable, ?_, ?_, ?_⟩
    · exact List.isEmpty_eq_false_iff.mp hchannels
    · exact List.isEmpty_eq_false_iff.mp hpackets
    · exact List.isEmpty_eq_false_iff.mp hkinds
    · exact limitsWithin_negotiateLimits a.limits b.limits
    · show LimitsWithin (negotiateLimits a.limits b.limits) b.limits
      rw [negotiateLimits_comm]
      exact limitsWithin_negotiateLimits b.limits a.limits
    · obtain ⟨hmin, hmax⟩ := negotiateLimits_timeouts husable.timeouts
      exact ⟨rfl, hmin, hmax, rfl⟩
  · rw [(negotiate_of_ne hmajor).1] at h
    cases h

/-- **Both peers end with the same contract**: the two runs agree on whether there is one and on
all it says, it says nothing that both peers have not offered, and a compatible one can be
enforced. -/
theorem negotiate_agreement (a b : ProtocolCapabilities) :
    (negotiate a b).compatible = (negotiate b a).compatible ∧
      SameContract (negotiate a b).negotiated (negotiate b a).negotiated ∧
      OfferedBy (negotiate a b).negotiated a ∧ OfferedBy (negotiate a b).negotiated b ∧
      ((negotiate a b).compatible = true → Enforceable (negotiate a b).negotiated a b) := by
  have hsame := negotiate_sameContract a b
  refine ⟨negotiate_compatible_comm a b, hsame, negotiate_offeredBy_own a b, ?_, ?_⟩
  · exact (negotiate_offeredBy_own b a).congr hsame
  · exact negotiate_enforceable

end Protocol
end FusionDesk
