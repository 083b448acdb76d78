import FusionDesk.Network.Channel

/-!
# The channel registry

`channel_allowlist` and `channel_registry` under `include/fusiondesk/core/network/` and
`src/core/network/`: the channels a session has, each with its specification, the instance bound to
it and the state it is in, and the validation of a packet against them.

Of the negotiated capabilities only the three lists the allowlist reads are here.  The operations
that change one entry look it up and put a changed one back; `find_put` is how the rest sees it.
-/

namespace FusionDesk
namespace Network

open Protocol

/-- The lists of `struct NegotiatedCapabilities`. -/
structure NegotiatedCapabilities where
  channelTypes : List ChannelType := []
  packetTypes : List PacketType := []
  messageKinds : List MessageKind := []
  deriving DecidableEq, Repr

/-! ## The allowlist -/

inductive ChannelAllowlistStatus
  | allowed
  | channelTypeNotNegotiated
  | packetTypeNotNegotiated
  | messageKindNotNegotiated
  deriving DecidableEq, Repr

structure ChannelAllowlistResult where
  allowed : Bool := false
  status : ChannelAllowlistStatus := .packetTypeNotNegotiated
  responseStatus : ResponseStatus := .unsupported
  message : String := ""
  deriving DecidableEq, Repr

namespace ChannelAllowlistResult

def ok : ChannelAllowlistResult := ⟨true, .allowed, .ok, ""⟩

def denied (status : ChannelAllowlistStatus) (responseStatus : ResponseStatus)
    (message : String) : ChannelAllowlistResult :=
  ⟨false, status, responseStatus, message⟩

end ChannelAllowlistResult

/-- `ChannelAllowlistValidator(capabilities).validate(packet)`. -/
def NegotiatedCapabilities.validate (capabilities : NegotiatedCapabilities)
    (packet : PacketEnvelope) : ChannelAllowlistResult :=
  if ¬ capabilities.channelTypes.contains packet.channelType then
    .denied .channelTypeNotNegotiated .unsupported "channel type is not negotiated"
  else if ¬ capabilities.packetTypes.contains packet.packetType then
    .denied .packetTypeNotNegotiated .unsupported "packet type is not negotiated"
  else if ¬ capabilities.messageKinds.contains packet.messageKind then
    .denied .messageKindNotNegotiated .unsupported "message kind is not negotiated"
  else .ok

/-! ## The registry -/

structure ChannelSpec where
  key : ChannelKey := {}
  name : String := ""
  socketClass : SocketClass := .control
  defaultPriority : PacketPriority := .normal
  reliability : ReliabilityMode := .reliable
  ordering : OrderingMode := .ordered
  flowControl : FlowControlMode := .pressure
  queuePolicy : QueuePolicy := .bounded
  allowlist : List PacketType := []
  ownerModuleId : String := ""
  required : Bool := false
  deriving DecidableEq, Repr

structure ChannelReadyInfo where
  monotonicTimestampUsec : UInt64 := 0
  endpoint : String := ""
  deriving DecidableEq, Repr

structure ChannelSnapshot where
  spec : ChannelSpec := {}
  state : ChannelLifecycleState := .registered
  bound : Bool := false
  ready : Bool := false
  readyInfo : ChannelReadyInfo := {}
  pressure : ChannelPressure := {}
  message : String := ""
  deriving DecidableEq, Repr

inductive ChannelRegistryStatus
  | ok
  | alreadyRegistered
  | notFound
  | notReady
  | notNegotiated
  | packetTypeNotAllowed
  | invalidArgument
  deriving DecidableEq, Repr

structure ChannelRegistryResult where
  ok : Bool := false
  status : ChannelRegistryStatus := .invalidArgument
  responseStatus : ResponseStatus := .failed
  message : String := ""
  deriving DecidableEq, Repr

namespace ChannelRegistryResult

def success : ChannelRegistryResult := ⟨true, .ok, .ok, ""⟩

def failed (status : ChannelRegistryStatus) (responseStatus : ResponseStatus) (message : String) :
    ChannelRegistryResult :=
  ⟨false, status, responseStatus, message⟩

end ChannelRegistryResult

/-- `ChannelRegistry::Entry`. -/
structure ChannelEntry where
  snapshot : ChannelSnapshot := {}
  /-- `none` for a null pointer. -/
  channel : Option IChannel := none
  deriving DecidableEq, Repr

/-- `class ChannelRegistry`. -/
structure ChannelRegistry where
  capabilities : NegotiatedCapabilities
  entries : Std.ExtTreeMap ChannelKey ChannelEntry := ∅

namespace ChannelRegistry

def find (registry : ChannelRegistry) (key : ChannelKey) : Option ChannelEntry :=
  registry.entries[key]?

def put (registry : ChannelRegistry) (key : ChannelKey) (entry : ChannelEntry) : ChannelRegistry :=
  { registry with entries := registry.entries.insert key entry }

def notFound : ChannelRegistryResult :=
  .failed .notFound .channelUnavailable "channel spec not found"

def registerSpec (registry : ChannelRegistry) (spec : ChannelSpec) :
    ChannelRegistryResult × ChannelRegistry :=
  if spec.key.channelId = 0 then
    (.failed .invalidArgument .invalidArgument "channel id is required", registry)
  else if (registry.find spec.key).isSome then
    (.failed .alreadyRegistered .conflict "channel spec already registered", registry)
  else
    (.success, registry.put spec.key { snapshot := { spec := spec, state := .registered } })

def bind (registry : ChannelRegistry) (key : ChannelKey) (channel : Option IChannel) :
    ChannelRegistryResult × ChannelRegistry :=
  match registry.find key with
  | none => (notFound, registry)
  | some entry =>
    match channel with
    | none =>
      (.failed .invalidArgument .invalidArgument "channel instance is required", registry)
    | some channel =>
      (.success, registry.put key { entry with
        channel := some channel
        snapshot := { entry.snapshot with bound := true, state := .bound, message := "" } })

def unbind (registry : ChannelRegistry) (key : ChannelKey) (reason : String) : ChannelRegistry :=
  match registry.find key with
  | none => registry
  | some entry =>
    registry.put key { entry with
      channel := none
      snapshot := { entry.snapshot with
        bound := false
        ready := false
        state := .closed
        message := reason } }

def markReady (registry : ChannelRegistry) (transport : Transport) (key : ChannelKey)
    (ready : ChannelReadyInfo) : ChannelRegistryResult × ChannelRegistry :=
  match registry.find key with
  | none => (notFound, registry)
  | some entry =>
    if ¬ entry.channel.any transport.isOpen then
      (.failed .notReady .channelUnavailable "channel is not bound or open", registry)
    else
      (.success, registry.put key { entry with
        snapshot := { entry.snapshot with
          ready := true
          readyInfo := ready
          state := .ready
          message := "" } })

/-- What `markDegraded` and `markFailed` have in common. -/
def markNotReady (registry : ChannelRegistry) (state : ChannelLifecycleState) (key : ChannelKey)
    (reason : String) : ChannelRegistryResult × ChannelRegistry :=
  match registry.find key with
  | none => (notFound, registry)
  | some entry =>
    (.success, registry.put key { entry with
      snapshot := { entry.snapshot with ready := false, state := state, message := reason } })

def markDegraded (registry : ChannelRegistry) (key : ChannelKey) (reason : String) :
    ChannelRegistryResult × ChannelRegistry :=
  registry.markNotReady .degraded key reason

def markFailed (registry : ChannelRegistry) (key : ChannelKey) (reason : String) :
    ChannelRegistryResult × ChannelRegistry :=
  registry.markNotReady .failed key reason

def updatePressure (registry : ChannelRegistry) (key : ChannelKey) (pressure : ChannelPressure) :
    ChannelRegistryResult × ChannelRegistry :=
  match registry.find key with
  | none => (notFound, registry)
  | some entry =>
    (.success, registry.put key { entry with
      snapshot := { entry.snapshot with pressure := pressure } })

def isReady (registry : ChannelRegistry) (key : ChannelKey) : Bool :=
  match registry.find key with
  | none => false
  | some entry => entry.snapshot.ready && entry.snapshot.state == .ready

def packetTypeAllowed (spec : ChannelSpec) (packetType : PacketType) : Bool :=
  spec.allowlist.isEmpty || spec.allowlist.contains packetType

def validatePacket (registry : ChannelRegistry) (packet : PacketEnvelope) :
    ChannelRegistryResult :=
  match registry.find (keyOf packet) with
  | none => .failed .notFound .channelUnavailable "channel is not registered"
  | some entry =>
    let negotiated := registry.capabilities.validate packet
    if ¬ negotiated.allowed then
      .failed .notNegotiated negotiated.responseStatus negotiated.message
    else if ¬ packetTypeAllowed entry.snapshot.spec packet.packetType then
      .failed .packetTypeNotAllowed .unsupported "packet type is not allowed on channel"
    else if ¬ registry.isReady (keyOf packet) then
      .failed .notReady .channelUnavailable "channel is not ready"
    else .success

/-! ## Looking at an entry -/

theorem find_put (registry : ChannelRegistry) (key key' : ChannelKey) (entry : ChannelEntry) :
    (registry.put key entry).find key' = if key = key' then some entry else registry.find key' := by
  unfold find put
  rw [Std.ExtTreeMap.getElem?_insert]
  simp only [Std.LawfulEqOrd.compare_eq_iff_eq]

/-- What binding an instance comes to. -/
theorem bind_cases (registry : ChannelRegistry) (key : ChannelKey) (channel : IChannel) :
    registry.bind key (some channel) = (notFound, registry) ∨
      ∃ entry : ChannelEntry, entry.channel = some channel ∧ entry.snapshot.state = .bound ∧
        registry.bind key (some channel) = (.success, registry.put key entry) := by
  unfold bind
  cases registry.find key with
  | none => exact Or.inl rfl
  | some entry => exact Or.inr ⟨_, rfl, rfl, rfl⟩

/-- A pressure changes no readiness. -/
theorem isReady_updatePressure (registry : ChannelRegistry) (key key' : ChannelKey)
    (pressure : ChannelPressure) :
    (registry.updatePressure key pressure).2.isReady key' = registry.isReady key' := by
  unfold updatePressure
  cases hfind : registry.find key with
  | none => rfl
  | some entry =>
    unfold isReady
    rw [find_put]
    by_cases hkey : key = key'
    · rw [if_pos hkey, ← hkey, hfind]
    · rw [if_neg hkey]

/-- A packet that passes is on a channel that is ready. -/
theorem isReady_of_validatePacket {registry : ChannelRegistry} {packet : PacketEnvelope}
    (h : (registry.validatePacket packet).ok) : registry.isReady (keyOf packet) := by
  unfold validatePacket at h
  cases hfind : registry.find (keyOf packet) with
  | none =>
    rw [hfind] at h
    cases h
  | some entry =>
    rw [hfind] at h
    dsimp only at h
    by_contra hready
    split_ifs at h <;> cases h

end ChannelRegistry
end Network
end FusionDesk
