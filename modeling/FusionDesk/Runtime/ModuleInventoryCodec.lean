import FusionDesk.Protocol.PayloadFields

/-!
# The module inventory codec

`encodeInventoryPayload` and `decodeInventoryPayload` of `module_inventory_exchange.cpp`: the modules
a peer has, with what they need and the channels they are bound to.  Not all of a manifest is
written; `onWire` is what is.

* `reads_manifest`: a manifest is read back, with its lists.
* `moduleInventory_roundTrip`: an inventory is read back as the kind it was written as, and only as
  that; and an accepted payload ends at the last manifest.
-/

namespace FusionDesk
namespace Runtime
namespace ModuleInventoryExchange

open Protocol ByteReader Reader PayloadFields

/-! ## Types -/

structure ModuleVersion where
  major : UInt16 := 1
  minor : UInt16 := 0
  patch : UInt16 := 0
  deriving DecidableEq, Repr

structure ModulePeerCompatibility where
  peerModuleId : StdString := []
  minPeerVersion : ModuleVersion := {}
  maxPeerVersion : ModuleVersion := {}
  compatibilityMode : StdString := [0x6e, 0x61, 0x74, 0x69, 0x76, 0x65]
  deriving DecidableEq, Repr

structure ChannelBinding where
  name : StdString := []
  channelId : ChannelId := 0
  channelType : ChannelType := .standard
  required : Bool := true
  shared : Bool := false
  consumes : List PacketType := []
  produces : List PacketType := []
  deriving DecidableEq, Repr

structure ModuleManifest where
  moduleId : StdString := []
  displayName : StdString := []
  sku : StdString := []
  version : ModuleVersion := {}
  feature : UInt64 := 0
  roleFlags : UInt32 := 0
  runModeFlags : UInt32 := 0
  standaloneSaleUnit : Bool := false
  disableAtRuntime : Bool := true
  supportedPlatforms : List StdString := []
  requiredModules : List StdString := []
  optionalModules : List StdString := []
  compatiblePeers : List ModulePeerCompatibility := []
  channels : List ChannelBinding := []
  deriving DecidableEq, Repr

structure ModuleInventory where
  sessionId : SessionId := 0
  manifests : List ModuleManifest := []
  deriving DecidableEq, Repr

structure ModuleInventoryDecodeResult where
  ok : Bool := false
  inventory : ModuleInventory := {}
  message : String := ""
  deriving DecidableEq, Repr

def moduleInventoryPayloadMagic : UInt32 := 0x46444d49
def moduleInventoryPayloadVersion : UInt16 := 1
def moduleInventoryPayloadKindRequest : UInt16 := 1
def moduleInventoryPayloadKindResponse : UInt16 := 2

/-! ## Writing -/

def appendVersion (output : ByteBuffer) (version : ModuleVersion) : ByteBuffer :=
  let output := appendU16 output version.major
  let output := appendU16 output version.minor
  appendU16 output version.patch

def appendStringVector (output : ByteBuffer) (values : List StdString) : Option ByteBuffer :=
  appendList appendString output values

def appendPacketTypes (output : ByteBuffer) (packetTypes : List PacketType) : Option ByteBuffer :=
  appendList (fun output packetType => some (appendU16 output packetType.raw)) output packetTypes

/-- The body of the loop of `appendPeerCompatibility`. -/
def appendPeer (output : ByteBuffer) (peer : ModulePeerCompatibility) : Option ByteBuffer := do
  let output ← appendString output peer.peerModuleId
  let output := appendVersion output peer.minPeerVersion
  let output := appendVersion output peer.maxPeerVersion
  appendString output peer.compatibilityMode

def appendPeerCompatibility (output : ByteBuffer) (peers : List ModulePeerCompatibility) :
    Option ByteBuffer :=
  appendList appendPeer output peers

/-- The body of the loop of `appendChannels`. -/
def appendChannel (output : ByteBuffer) (channel : ChannelBinding) : Option ByteBuffer := do
  let output ← appendString output channel.name
  let output := appendU16 output channel.channelId
  let output := appendU16 output channel.channelType.raw
  let output := appendU8 output (flag channel.required)
  let output := appendU8 output (flag channel.shared)
  let output ← appendPacketTypes output channel.consumes
  appendPacketTypes output channel.produces

def appendChannels (output : ByteBuffer) (channels : List ChannelBinding) : Option ByteBuffer :=
  appendList appendChannel output channels

def appendManifest (output : ByteBuffer) (manifest : ModuleManifest) : Option ByteBuffer := do
  let output ← appendString output manifest.moduleId
  let output := appendVersion output manifest.version
  let output := appendU64 output manifest.feature
  let output := appendU32 output manifest.roleFlags
  let output := appendU32 output manifest.runModeFlags
  let output ← appendStringVector output manifest.requiredModules
  let output ← appendPeerCompatibility output manifest.compatiblePeers
  appendChannels output manifest.channels

/-- A payload that could not be written is empty. -/
def encodeInventoryPayload (inventory : ModuleInventory) (kind : UInt16) : ByteBuffer :=
  Option.getD (do
    let output := appendU32 [] moduleInventoryPayloadMagic
    let output := appendU16 output moduleInventoryPayloadVersion
    let output := appendU16 output kind
    let output := appendU64 output inventory.sessionId
    appendList appendManifest output inventory.manifests) []

def encodeModuleInventoryRequestPayload (inventory : ModuleInventory) : ByteBuffer :=
  encodeInventoryPayload inventory moduleInventoryPayloadKindRequest

def encodeModuleInventoryResponsePayload (inventory : ModuleInventory) : ByteBuffer :=
  encodeInventoryPayload inventory moduleInventoryPayloadKindResponse

/-! ## Reading -/

def readVersion : Reader Unit ModuleVersion := do
  let major ← readU16
  let minor ← readU16
  let patch ← readU16
  return ⟨major, minor, patch⟩

def readStringVector : Reader Unit (List StdString) := readList readString

/-- The body of the loop of `readPacketTypes`. -/
def readPacketType : Reader Unit PacketType := do
  let value ← readU16
  return ⟨value⟩

def readPacketTypes : Reader Unit (List PacketType) := readList readPacketType

/-- The body of the loop of `readPeerCompatibility`. -/
def readPeer : Reader Unit ModulePeerCompatibility := do
  let peerModuleId ← readString
  let minPeerVersion ← readVersion
  let maxPeerVersion ← readVersion
  let compatibilityMode ← readString
  return ⟨peerModuleId, minPeerVersion, maxPeerVersion, compatibilityMode⟩

def readPeerCompatibility : Reader Unit (List ModulePeerCompatibility) := readList readPeer

/-- The body of the loop of `readChannels`. -/
def readChannel : Reader Unit ChannelBinding := do
  let name ← readString
  let channelId ← readU16
  let channelType ← readU16
  let required ← readU8
  let shared ← readU8
  let consumes ← readPacketTypes
  let produces ← readPacketTypes
  return {
    name := name
    channelId := channelId
    channelType := ⟨channelType⟩
    required := required != 0
    shared := shared != 0
    consumes := consumes
    produces := produces }

def readChannels : Reader Unit (List ChannelBinding) := readList readChannel

def readManifest : Reader Unit ModuleManifest := do
  let moduleId ← readString
  let version ← readVersion
  let feature ← readU64
  let roleFlags ← readU32
  let runModeFlags ← readU32
  let requiredModules ← readStringVector
  let compatiblePeers ← readPeerCompatibility
  let channels ← readChannels
  refuseIf (moduleId.isEmpty = true) ()
  return {
    moduleId := moduleId
    version := version
    feature := feature
    roleFlags := roleFlags
    runModeFlags := runModeFlags
    requiredModules := requiredModules
    compatiblePeers := compatiblePeers
    channels := channels }

/-- The text of a group of reads. -/
def withMessage {α : Type} (message : String) (r : Reader Unit α) : Reader String α :=
  named (fun _ => message) r

/-- The magic, the version and the kind. -/
def readHeaderFields : Reader Unit (UInt32 × UInt16 × UInt16) := do
  let magic ← readU32
  let version ← readU16
  let kind ← readU16
  return (magic, version, kind)

/-- The session id, and the count of the manifests. -/
def readBodyFields : Reader Unit (SessionId × UInt16) := do
  let sessionId ← readU64
  let manifestCount ← readU16
  return (sessionId, manifestCount)

/-- `decodeInventoryPayload`, as far as the last manifest. -/
def readInventory (expectedKind : UInt16) : Reader String ModuleInventory := do
  let (magic, version, kind) ←
    withMessage "module inventory payload header is incomplete" readHeaderFields
  refuseIf (magic ≠ moduleInventoryPayloadMagic) "module inventory payload magic mismatch"
  refuseIf (version ≠ moduleInventoryPayloadVersion)
    "module inventory payload version is unsupported"
  refuseIf (kind ≠ expectedKind) "module inventory payload kind is unexpected"
  let (sessionId, manifestCount) ←
    withMessage "module inventory payload body is incomplete" readBodyFields
  let manifests ←
    withMessage "module inventory manifest is invalid" (times readManifest manifestCount.toNat)
  return ⟨sessionId, manifests⟩

def readInventoryPayload (expectedKind : UInt16) : Reader String ModuleInventory := do
  let inventory ← readInventory expectedKind
  expectEnd "module inventory payload has trailing bytes"
  return inventory

/-- Where a decoder fails, the source leaves the manifests it has read in the result; nothing looks
at them. -/
def decodeInventoryPayload (payload : ByteBuffer) (expectedKind : UInt16) :
    ModuleInventoryDecodeResult :=
  match (readInventoryPayload expectedKind).outcome payload with
  | .ok (inventory, _) =>
    { ok := true, inventory := inventory, message := "module inventory payload decoded" }
  | .error message => { message := message }

/-! ## What the format can say -/

structure PeerLimits (peer : ModulePeerCompatibility) : Prop where
  peerModuleId : peer.peerModuleId.length < 2 ^ 32
  compatibilityMode : peer.compatibilityMode.length < 2 ^ 32

structure ChannelLimits (channel : ChannelBinding) : Prop where
  name : channel.name.length < 2 ^ 32
  consumes : channel.consumes.length < 2 ^ 16
  produces : channel.produces.length < 2 ^ 16

structure ManifestLimits (manifest : ModuleManifest) : Prop where
  moduleId : manifest.moduleId.length < 2 ^ 32
  moduleIdGiven : manifest.moduleId ≠ []
  requiredCount : manifest.requiredModules.length < 2 ^ 16
  requiredModules : ∀ value ∈ manifest.requiredModules, value.length < 2 ^ 32
  peerCount : manifest.compatiblePeers.length < 2 ^ 16
  compatiblePeers : ∀ peer ∈ manifest.compatiblePeers, PeerLimits peer
  channelCount : manifest.channels.length < 2 ^ 16
  channels : ∀ channel ∈ manifest.channels, ChannelLimits channel

structure InventoryLimits (inventory : ModuleInventory) : Prop where
  count : inventory.manifests.length < 2 ^ 16
  manifests : ∀ manifest ∈ inventory.manifests, ManifestLimits manifest

/-- What is written of a manifest. -/
def ModuleManifest.onWire (manifest : ModuleManifest) : ModuleManifest where
  moduleId := manifest.moduleId
  version := manifest.version
  feature := manifest.feature
  roleFlags := manifest.roleFlags
  runModeFlags := manifest.runModeFlags
  requiredModules := manifest.requiredModules
  compatiblePeers := manifest.compatiblePeers
  channels := manifest.channels

/-! ## The bytes -/

def versionBytes (version : ModuleVersion) : ByteBuffer :=
  u16Bytes version.major ++ (u16Bytes version.minor ++ u16Bytes version.patch)

def packetTypesBytes (packetTypes : List PacketType) : ByteBuffer :=
  listBytes (fun packetType => u16Bytes packetType.raw) packetTypes

def peerBytes (peer : ModulePeerCompatibility) : ByteBuffer :=
  stringBytes peer.peerModuleId ++ (versionBytes peer.minPeerVersion ++
    (versionBytes peer.maxPeerVersion ++ stringBytes peer.compatibilityMode))

def channelBytes (channel : ChannelBinding) : ByteBuffer :=
  stringBytes channel.name ++ (u16Bytes channel.channelId ++ (u16Bytes channel.channelType.raw ++
    ([flag channel.required] ++ ([flag channel.shared] ++
      (packetTypesBytes channel.consumes ++ packetTypesBytes channel.produces)))))

def manifestBytes (manifest : ModuleManifest) : ByteBuffer :=
  stringBytes manifest.moduleId ++ (versionBytes manifest.version ++
    (u64Bytes manifest.feature ++ (u32Bytes manifest.roleFlags ++
      (u32Bytes manifest.runModeFlags ++ (listBytes stringBytes manifest.requiredModules ++
        (listBytes peerBytes manifest.compatiblePeers ++
          listBytes channelBytes manifest.channels))))))

def inventoryBytes (inventory : ModuleInventory) (kind : UInt16) : ByteBuffer :=
  (u32Bytes moduleInventoryPayloadMagic ++ (u16Bytes moduleInventoryPayloadVersion ++
    u16Bytes kind)) ++
  ((u64Bytes inventory.sessionId ++ u16Bytes (UInt16.ofNat inventory.manifests.length)) ++
    inventory.manifests.flatMap manifestBytes)

section Append

variable (output : ByteBuffer)

@[simp] theorem appendVersion_eq (version : ModuleVersion) :
    appendVersion output version = output ++ versionBytes version := by
  simp [appendVersion, versionBytes]

theorem appendPacketTypes_eq {packetTypes : List PacketType} (h : packetTypes.length < 2 ^ 16) :
    appendPacketTypes output packetTypes = some (output ++ packetTypesBytes packetTypes) :=
  appendList_eq output _ h fun packetType _ output =>
    congrArg some (appendU16_eq output packetType.raw)

theorem appendPeer_eq {peer : ModulePeerCompatibility} (h : PeerLimits peer) :
    appendPeer output peer = some (output ++ peerBytes peer) := by
  simp [appendPeer, appendString_eq _ h.peerModuleId, appendString_eq _ h.compatibilityMode,
    peerBytes]

theorem appendChannel_eq {channel : ChannelBinding} (h : ChannelLimits channel) :
    appendChannel output channel = some (output ++ channelBytes channel) := by
  simp [appendChannel, appendString_eq _ h.name, appendPacketTypes_eq _ h.consumes,
    appendPacketTypes_eq _ h.produces, channelBytes]

theorem appendManifest_eq {manifest : ModuleManifest} (h : ManifestLimits manifest) :
    appendManifest output manifest = some (output ++ manifestBytes manifest) := by
  have hrequired := fun output => appendList_eq output appendString h.requiredCount
    fun value hmem output => appendString_eq output (h.requiredModules value hmem)
  have hpeers := fun output => appendList_eq output appendPeer h.peerCount
    fun peer hmem output => appendPeer_eq output (h.compatiblePeers peer hmem)
  have hchannels := fun output => appendList_eq output appendChannel h.channelCount
    fun channel hmem output => appendChannel_eq output (h.channels channel hmem)
  simp [appendManifest, appendStringVector, appendPeerCompatibility, appendChannels,
    appendString_eq _ h.moduleId, hrequired, hpeers, hchannels, manifestBytes]

end Append

theorem encodeInventoryPayload_eq {inventory : ModuleInventory} (h : InventoryLimits inventory)
    (kind : UInt16) : encodeInventoryPayload inventory kind = inventoryBytes inventory kind := by
  have hmanifests := fun output => appendList_eq output appendManifest h.count
    fun manifest hmem output => appendManifest_eq output (h.manifests manifest hmem)
  simp [encodeInventoryPayload, hmanifests, inventoryBytes, listBytes]

/-! ## Reading back -/

section Reads

variable (rest : ByteBuffer)

theorem reads_version (version : ModuleVersion) :
    Reads readVersion version (versionBytes version) rest :=
  (reads_u16 _ _).bind <| (reads_u16 _ _).bind <| Reads.last (reads_u16 _ _) <| Reads.pure _ _

theorem reads_packetTypes {packetTypes : List PacketType} (h : packetTypes.length < 2 ^ 16) :
    Reads readPacketTypes packetTypes (packetTypesBytes packetTypes) rest :=
  reads_list rest h fun _ _ _ => Reads.last (reads_u16 _ _) <| Reads.pure _ _

theorem reads_peer {peer : ModulePeerCompatibility} (h : PeerLimits peer) :
    Reads readPeer peer (peerBytes peer) rest :=
  (reads_string _ h.peerModuleId).bind <| (reads_version _ _).bind <| (reads_version _ _).bind <|
    Reads.last (reads_string _ h.compatibilityMode) <| Reads.pure _ _

theorem reads_channel {channel : ChannelBinding} (h : ChannelLimits channel) :
    Reads readChannel channel (channelBytes channel) rest := by
  refine (reads_string _ h.name).bind <| (reads_u16 _ _).bind <| (reads_u16 _ _).bind <|
    (reads_u8 _ _).bind <| (reads_u8 _ _).bind <| (reads_packetTypes _ h.consumes).bind <|
    Reads.last (reads_packetTypes _ h.produces) ?_
  rw [flag_ne_zero, flag_ne_zero]
  exact Reads.pure _ _

theorem reads_manifest {manifest : ModuleManifest} (h : ManifestLimits manifest) :
    Reads readManifest manifest.onWire (manifestBytes manifest) rest := by
  refine (reads_string _ h.moduleId).bind <| (reads_version _ _).bind <| (reads_u64 _ _).bind <|
    (reads_u32 _ _).bind <| (reads_u32 _ _).bind <|
    (reads_list _ h.requiredCount fun value hmem rest => ?_).bind <|
    (reads_list _ h.peerCount fun peer hmem rest => ?_).bind <|
    Reads.last (reads_list _ h.channelCount fun channel hmem rest => ?_) <|
    Reads.bind_refuseIf (by simpa using h.moduleIdGiven) <| Reads.pure _ _
  · exact reads_string rest (h.requiredModules value hmem)
  · exact reads_peer rest (h.compatiblePeers peer hmem)
  · exact reads_channel rest (h.channels channel hmem)

/-- The manifests, one after the other. -/
theorem reads_manifests {manifests : List ModuleManifest}
    (h : ∀ manifest ∈ manifests, ManifestLimits manifest) :
    Reads (times readManifest manifests.length) (manifests.map ModuleManifest.onWire)
      (manifests.flatMap manifestBytes) rest := by
  have hwritten : (manifests.map ModuleManifest.onWire).flatMap manifestBytes =
      manifests.flatMap manifestBytes := by
    rw [List.flatMap_map]
    rfl
  have hreads : ∀ manifest ∈ manifests.map ModuleManifest.onWire, ∀ rest,
      Reads readManifest manifest (manifestBytes manifest) rest := by
    intro manifest hmem rest
    obtain ⟨written, hwritten, rfl⟩ := List.mem_map.mp hmem
    exact reads_manifest rest (h written hwritten)
  rw [← hwritten, ← List.length_map ModuleManifest.onWire]
  exact Reads.times hreads

theorem reads_headerFields (kind : UInt16) :
    Reads readHeaderFields (moduleInventoryPayloadMagic, moduleInventoryPayloadVersion, kind)
      (u32Bytes moduleInventoryPayloadMagic ++
        (u16Bytes moduleInventoryPayloadVersion ++ u16Bytes kind)) rest :=
  (reads_u32 _ _).bind <| (reads_u16 _ _).bind <| Reads.last (reads_u16 _ _) <| Reads.pure _ _

/-- What a peer reads of an inventory. -/
def ModuleInventory.onWire (inventory : ModuleInventory) : ModuleInventory :=
  ⟨inventory.sessionId, inventory.manifests.map ModuleManifest.onWire⟩

theorem reads_inventory {inventory : ModuleInventory} (h : InventoryLimits inventory)
    (kind : UInt16) :
    Reads (readInventory kind) inventory.onWire (inventoryBytes inventory kind) rest := by
  have hcount : (UInt16.ofNat inventory.manifests.length).toNat = inventory.manifests.length :=
    UInt16.toNat_ofNat_of_lt' h.count
  refine (Reads.named _ (reads_headerFields _ kind)).bind <| Reads.bind_refuseIf (by simp) <|
    Reads.bind_refuseIf (by simp) <| Reads.bind_refuseIf (by simp) <|
    Reads.bind (a := (inventory.sessionId, UInt16.ofNat inventory.manifests.length))
      (Reads.named _ ?_) ?_
  · exact (reads_u64 _ _).bind <| Reads.last (reads_u16 _ _) <| Reads.pure _ _
  · dsimp only
    rw [hcount]
    exact Reads.last (Reads.named _ (reads_manifests _ h.manifests)) <| Reads.pure _ _

end Reads

/-- A payload of another kind is refused. -/
theorem run_readInventory_of_ne (inventory : ModuleInventory) {kind other : UInt16}
    (hother : kind ≠ other) :
    (readInventory other).run (inventoryBytes inventory kind) 0 =
      some (.error "module inventory payload kind is unexpected") := by
  have hheader := Reads.named (fun _ => "module inventory payload header is incomplete")
    (reads_headerFields ((u64Bytes inventory.sessionId ++
      u16Bytes (UInt16.ofNat inventory.manifests.length)) ++
        inventory.manifests.flatMap manifestBytes) kind) []
  rw [readInventory, withMessage, inventoryBytes]
  refine (run_bind_of_ok hheader _).trans ?_
  dsimp only
  rw [run_bind_refuseIf (by simp), run_bind_refuseIf (by simp), run_bind_refuseIf_pos hother]

/-- An accepted payload ends at its last manifest. -/
theorem run_of_decode_ok {payload : ByteBuffer} {expectedKind : UInt16}
    (h : (decodeInventoryPayload payload expectedKind).ok = true) :
    (readInventory expectedKind).run payload 0 =
      some (.ok ((decodeInventoryPayload payload expectedKind).inventory, payload.length)) := by
  unfold decodeInventoryPayload at h ⊢
  split at h
  next inventory next houtcome =>
    obtain ⟨found, offset, hfound, hrest⟩ := exists_of_run_bind (outcome_eq_iff.mp houtcome)
    obtain ⟨u, last, hlast, hvalue⟩ := exists_of_run_bind hrest
    rw [run_expectEnd] at hlast
    split at hlast
    · cases hlast
    next hend =>
      cases hvalue
      rw [hfound, not_not.mp hend]
  · cases h

/-- **What is written is read back**, as the kind it was written as and only as that; and every
payload is read within its bounds, and ends at the last manifest if it is accepted. -/
theorem moduleInventory_roundTrip {inventory : ModuleInventory} (h : InventoryLimits inventory)
    {kind other : UInt16} (hother : kind ≠ other) :
    decodeInventoryPayload (encodeInventoryPayload inventory kind) kind =
        ⟨true, inventory.onWire, "module inventory payload decoded"⟩ ∧
      decodeInventoryPayload (encodeInventoryPayload inventory kind) other =
        { message := "module inventory payload kind is unexpected" } ∧
      ∀ payload expectedKind, ((readInventoryPayload expectedKind).run payload 0).isSome ∧
        ((decodeInventoryPayload payload expectedKind).ok = true →
          (readInventory expectedKind).run payload 0 = some (.ok
            ((decodeInventoryPayload payload expectedKind).inventory, payload.length))) := by
  rw [encodeInventoryPayload_eq h]
  refine ⟨?_, ?_, fun payload expectedKind => ⟨isSome_run _ (Nat.zero_le _), run_of_decode_ok⟩⟩
  · have hreads : Reads (readInventoryPayload kind) inventory.onWire
        (inventoryBytes inventory kind) [] :=
      Reads.last (reads_inventory [] h kind) <| Reads.bind_expectEnd <| Reads.pure _ _
    have hrun := hreads []
    rw [List.append_nil, List.nil_append, List.length_nil, Nat.zero_add] at hrun
    rw [decodeInventoryPayload, outcome_eq_iff.mpr hrun]
  · have hrun := run_bind_of_error (run_readInventory_of_ne inventory hother) fun found => do
      expectEnd "module inventory payload has trailing bytes"
      return found
    have hwhole : (readInventoryPayload other).run (inventoryBytes inventory kind) 0 =
        some (.error "module inventory payload kind is unexpected") := hrun
    rw [decodeInventoryPayload, outcome_eq_iff.mpr hwhole]

/-- A module with a peer and a channel. -/
def screenManifest : ModuleManifest where
  moduleId := [0x73]
  displayName := [0x53]
  feature := 3
  roleFlags := 1
  requiredModules := [[0x61]]
  compatiblePeers := [{ peerModuleId := [0x63] }]
  channels := [{ name := [0x76], channelType := .video, produces := [.video] }]

def screenInventory : ModuleInventory := ⟨7, [screenManifest]⟩

theorem screenManifest_limits : ManifestLimits screenManifest where
  moduleId := by decide
  moduleIdGiven := by decide
  requiredCount := by decide
  requiredModules := by decide
  peerCount := by decide
  compatiblePeers := List.forall_mem_singleton.mpr ⟨by decide, by decide⟩
  channelCount := by decide
  channels := List.forall_mem_singleton.mpr ⟨by decide, by decide, by decide⟩

theorem screenInventory_limits : InventoryLimits screenInventory where
  count := by decide
  manifests := List.forall_mem_singleton.mpr screenManifest_limits

theorem moduleInventory_roundTrip_screen :
    decodeInventoryPayload (encodeModuleInventoryRequestPayload screenInventory)
        moduleInventoryPayloadKindRequest =
      ⟨true, screenInventory.onWire, "module inventory payload decoded"⟩ := by
  have hkinds : moduleInventoryPayloadKindRequest ≠ moduleInventoryPayloadKindResponse := by decide
  exact (moduleInventory_roundTrip screenInventory_limits hkinds).1

end ModuleInventoryExchange
end Runtime
end FusionDesk
