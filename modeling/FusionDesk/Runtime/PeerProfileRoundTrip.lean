import FusionDesk.Runtime.PeerProfileCodec

/-!
# The peer profile round trip

What is written is read back, structure by structure, and a version of the payload without extensions
is read as a value without extensions.

* `SpecLimits` to `ResultLimits`: what the format can say.
* `reads_requestPayload`, `reads_resultPayload`: the payloads of both versions.
* `asVersion1_eq`: what a payload of the first version is.
* `peerProfile_roundTrip`: both packets, in both versions, and where an accepted payload ends.
-/

namespace FusionDesk
namespace Runtime
namespace PeerProfile

open Protocol Network BigEndian ByteReader Reader PayloadFields

/-! ## Enumerations -/

@[simp] theorem knownSocketClass_raw (value : SocketClass) :
    knownSocketClass (socketClassRaw value) = some value := by
  cases value <;> rfl

@[simp] theorem knownReliabilityMode_raw (value : ReliabilityMode) :
    knownReliabilityMode (reliabilityModeRaw value) = some value := by
  cases value <;> rfl

@[simp] theorem knownOrderingMode_raw (value : OrderingMode) :
    knownOrderingMode (orderingModeRaw value) = some value := by
  cases value <;> rfl

@[simp] theorem knownFlowControlMode_raw (value : FlowControlMode) :
    knownFlowControlMode (flowControlModeRaw value) = some value := by
  cases value <;> rfl

@[simp] theorem knownQueuePolicy_raw (value : QueuePolicy) :
    knownQueuePolicy (queuePolicyRaw value) = some value := by
  cases value <;> rfl

/-! ## Specifications -/

structure SpecLimits (spec : ChannelSpec) : Prop where
  channelId : spec.key.channelId ≠ 0
  channelType : knownChannelType spec.key.channelType = true
  priority : knownPacketPriority spec.defaultPriority = true
  name : spec.name.length < 2 ^ 32
  ownerModuleId : spec.ownerModuleId.length < 2 ^ 32
  allowlistCount : spec.allowlist.length < 2 ^ 16
  allowlist : ∀ packetType ∈ spec.allowlist, knownPacketType packetType = true

def packetTypeBytes (packetType : PacketType) : ByteBuffer := u16Bytes packetType.raw

def specBytes (spec : ChannelSpec) : ByteBuffer :=
  u16Bytes spec.key.channelId ++ (u16Bytes spec.key.channelType.raw ++ (stringBytes spec.name ++
    ([socketClassRaw spec.socketClass] ++ ([spec.defaultPriority.raw] ++
      ([reliabilityModeRaw spec.reliability] ++ ([orderingModeRaw spec.ordering] ++
        ([flowControlModeRaw spec.flowControl] ++ ([queuePolicyRaw spec.queuePolicy] ++
          ([flag spec.required] ++ (u16Bytes (UInt16.ofNat spec.allowlist.length) ++
            (spec.allowlist.flatMap packetTypeBytes ++ stringBytes spec.ownerModuleId)))))))))))

theorem appendSpec_eq {spec : ChannelSpec} (h : SpecLimits spec) (output : ByteBuffer) :
    appendSpec output spec = some (output ++ specBytes spec) := by
  have hallowlist : ∀ output, appendList (fun output (packetType : PacketType) =>
      some (output ++ u16Bytes packetType.raw)) output spec.allowlist =
        some (output ++ listBytes packetTypeBytes spec.allowlist) := fun output =>
    appendList_eq output _ h.allowlistCount fun _ _ _ => rfl
  simp [appendSpec, appendString_eq _ h.name, appendString_eq _ h.ownerModuleId, hallowlist,
    specBytes, listBytes]

theorem reads_packetType (rest : ByteBuffer) {packetType : PacketType}
    (h : knownPacketType packetType = true) :
    Reads readPacketType packetType (packetTypeBytes packetType) rest :=
  Reads.last (reads_u16 _ _) <| Reads.bind_refuseIf (by simp [h]) <| Reads.pure _ _

theorem reads_spec (rest : ByteBuffer) {spec : ChannelSpec} (h : SpecLimits spec) :
    Reads readSpec spec (specBytes spec) rest := by
  have hcount : (UInt16.ofNat spec.allowlist.length).toNat = spec.allowlist.length :=
    UInt16.toNat_ofNat_of_lt' h.allowlistCount
  refine (reads_u16 _ _).bind <| (reads_u16 _ _).bind <| (reads_string _ h.name).bind <|
    (reads_u8 _ _).bind <| (reads_u8 _ _).bind <| (reads_u8 _ _).bind <| (reads_u8 _ _).bind <|
    (reads_u8 _ _).bind <| (reads_u8 _ _).bind <| (reads_u8 _ _).bind <| (reads_u16 _ _).bind ?_
  refine Reads.bind_refuseIf h.channelId <| Reads.bind_refuseIf (by simp [h.channelType]) <|
    Reads.bind_refuseIf (by simp [h.priority]) <|
    Reads.bind_ofOption (knownSocketClass_raw _) <|
    Reads.bind_ofOption (knownReliabilityMode_raw _) <|
    Reads.bind_ofOption (knownOrderingMode_raw _) <|
    Reads.bind_ofOption (knownFlowControlMode_raw _) <|
    Reads.bind_ofOption (knownQueuePolicy_raw _) ?_
  rw [hcount]
  refine (Reads.times fun packetType hmem rest => reads_packetType rest (h.allowlist _ hmem)).bind ?_
  refine Reads.last (reads_string _ h.ownerModuleId) ?_
  rw [flag_ne_zero]
  exact Reads.pure _ _

/-! ## Sides and extensions -/

structure ChannelLimits (channel : PeerProfileChannel) : Prop where
  spec : SpecLimits channel.spec
  endpoint : channel.endpoint.length < 2 ^ 32
  readyEndpoint : channel.readyEndpoint.length < 2 ^ 32

def channelBytes (channel : PeerProfileChannel) : ByteBuffer :=
  specBytes channel.spec ++ (stringBytes channel.endpoint ++ stringBytes channel.readyEndpoint)

theorem appendChannel_eq {channel : PeerProfileChannel} (h : ChannelLimits channel)
    (output : ByteBuffer) : appendChannel output channel = some (output ++ channelBytes channel) := by
  simp [appendChannel, appendSpec_eq h.spec, appendString_eq _ h.endpoint,
    appendString_eq _ h.readyEndpoint, channelBytes]

theorem reads_channel (rest : ByteBuffer) {channel : PeerProfileChannel}
    (h : ChannelLimits channel) : Reads readChannel channel (channelBytes channel) rest :=
  (reads_spec _ h.spec).bind <| (reads_string _ h.endpoint).bind <|
    Reads.last (reads_string _ h.readyEndpoint) <| Reads.pure _ _

structure SideLimits (side : PeerProfileSide) : Prop where
  tcpCount : side.tcpChannels.length < 2 ^ 16
  tcpChannels : ∀ channel ∈ side.tcpChannels, ChannelLimits channel
  listenCount : side.tcpListenChannels.length < 2 ^ 16
  tcpListenChannels : ∀ channel ∈ side.tcpListenChannels, ChannelLimits channel

def sideBytes (side : PeerProfileSide) : ByteBuffer :=
  u64Bytes side.sessionId ++ (listBytes channelBytes side.tcpChannels ++
    listBytes channelBytes side.tcpListenChannels)

theorem appendSide_eq {side : PeerProfileSide} (h : SideLimits side) (output : ByteBuffer) :
    appendSide output side = some (output ++ sideBytes side) := by
  have htcp := fun output => appendList_eq output appendChannel h.tcpCount
    fun channel hmem => appendChannel_eq (h.tcpChannels channel hmem)
  have hlisten := fun output => appendList_eq output appendChannel h.listenCount
    fun channel hmem => appendChannel_eq (h.tcpListenChannels channel hmem)
  simp [appendSide, htcp, hlisten, sideBytes]

theorem reads_side (rest : ByteBuffer) {side : PeerProfileSide} (h : SideLimits side) :
    Reads readSide side (sideBytes side) rest := by
  refine (reads_u64 _ _).bind <|
    (reads_list _ h.tcpCount fun channel hmem rest => ?_).bind <|
    Reads.last (reads_list _ h.listenCount fun channel hmem rest => ?_) <| Reads.pure _ _
  · exact reads_channel rest (h.tcpChannels channel hmem)
  · exact reads_channel rest (h.tcpListenChannels channel hmem)

structure ExtensionLimits (extension : PeerProfileExtension) : Prop where
  key : extension.key.length < 2 ^ 32
  keyGiven : extension.key ≠ []
  payload : extension.payload.length < 2 ^ 32

def extensionBytes (extension : PeerProfileExtension) : ByteBuffer :=
  stringBytes extension.key ++ stringBytes extension.payload

theorem appendExtension_eq {extension : PeerProfileExtension} (h : ExtensionLimits extension)
    (output : ByteBuffer) :
    appendExtension output extension = some (output ++ extensionBytes extension) := by
  simp [appendExtension, appendString_eq _ h.key, appendString_eq _ h.payload, extensionBytes]

theorem reads_extension (rest : ByteBuffer) {extension : PeerProfileExtension}
    (h : ExtensionLimits extension) :
    Reads readExtension extension (extensionBytes extension) rest :=
  (reads_string _ h.key).bind <| Reads.last (reads_string _ h.payload) <|
    Reads.bind_refuseIf (by simpa using h.keyGiven) <| Reads.pure _ _

structure ExtensionsLimits (extensions : List PeerProfileExtension) : Prop where
  count : extensions.length < 2 ^ 16
  each : ∀ extension ∈ extensions, ExtensionLimits extension

def extensionsBytes (extensions : List PeerProfileExtension) : ByteBuffer :=
  listBytes extensionBytes extensions

theorem appendExtensions_eq {extensions : List PeerProfileExtension}
    (h : ExtensionsLimits extensions) (output : ByteBuffer) :
    appendExtensions output extensions = some (output ++ extensionsBytes extensions) :=
  appendList_eq output _ h.count fun extension hmem => appendExtension_eq (h.each extension hmem)

/-! ## Payloads -/

/-- The versions of the format. -/
def Version (version : UInt16) : Prop := version = 1 ∨ version = peerProfilePayloadCurrentVersion

/-- What a version keeps of the extensions. -/
def versionExtensions (version : UInt16) (extensions : List PeerProfileExtension) :
    List PeerProfileExtension :=
  if version ≥ 2 then extensions else []

def versionExtensionsBytes (version : UInt16) (extensions : List PeerProfileExtension) :
    ByteBuffer :=
  if version ≥ 2 then extensionsBytes extensions else []

theorem reads_versionExtensions (rest : ByteBuffer) {extensions : List PeerProfileExtension}
    (h : ExtensionsLimits extensions) (version : UInt16) (message : String) :
    Reads (readVersionExtensions version message) (versionExtensions version extensions)
      (versionExtensionsBytes version extensions) rest := by
  unfold readVersionExtensions versionExtensions versionExtensionsBytes
  split
  · exact Reads.named _ <| reads_list rest h.count fun extension hmem rest =>
      reads_extension rest (h.each extension hmem)
  · exact Reads.pure [] rest

def headerBytes (version kind : UInt16) : ByteBuffer :=
  u32Bytes peerProfilePayloadMagic ++ (u16Bytes version ++ u16Bytes kind)

theorem reads_header (rest : ByteBuffer) {version : UInt16} (h : Version version) (kind : UInt16) :
    Reads (readHeader kind) version (headerBytes version kind) rest := by
  have hversion : ¬(version < peerProfilePayloadMinVersion ∨
      version > peerProfilePayloadCurrentVersion) := by
    rcases h with rfl | rfl <;> decide
  refine Reads.last (a := (peerProfilePayloadMagic, version, kind)) (Reads.named _ ?_) ?_
  · exact (reads_u32 _ _).bind <| (reads_u16 _ _).bind <| Reads.last (reads_u16 _ _) <|
      Reads.pure _ _
  · exact Reads.bind_refuseIf (by simp) <| Reads.bind_refuseIf hversion <|
      Reads.bind_refuseIf (by simp) <| Reads.pure _ _

structure ChannelRequestLimits (channel : PeerConnectionChannelRequest) : Prop where
  channelId : channel.key.channelId ≠ 0
  channelType : knownChannelType channel.key.channelType = true
  endpoint : channel.endpoint.length < 2 ^ 32
  clientReadyEndpoint : channel.clientReadyEndpoint.length < 2 ^ 32
  agentReadyEndpoint : channel.agentReadyEndpoint.length < 2 ^ 32

def channelRequestBytes (channel : PeerConnectionChannelRequest) : ByteBuffer :=
  u16Bytes channel.key.channelId ++ (u16Bytes channel.key.channelType.raw ++
    (stringBytes channel.endpoint ++ (stringBytes channel.clientReadyEndpoint ++
      stringBytes channel.agentReadyEndpoint)))

theorem appendChannelRequest_eq {channel : PeerConnectionChannelRequest}
    (h : ChannelRequestLimits channel) (output : ByteBuffer) :
    appendChannelRequest output channel = some (output ++ channelRequestBytes channel) := by
  simp [appendChannelRequest, appendString_eq _ h.endpoint, appendString_eq _ h.clientReadyEndpoint,
    appendString_eq _ h.agentReadyEndpoint, channelRequestBytes]

theorem reads_channelRequest (rest : ByteBuffer) {channel : PeerConnectionChannelRequest}
    (h : ChannelRequestLimits channel) :
    Reads readChannelRequest channel (channelRequestBytes channel) rest := by
  refine Reads.last (a := channel) (Reads.named _ ?_) ?_
  · exact (reads_u16 _ _).bind <| (reads_u16 _ _).bind <| (reads_string _ h.endpoint).bind <|
      (reads_string _ h.clientReadyEndpoint).bind <|
      Reads.last (reads_string _ h.agentReadyEndpoint) <| Reads.pure _ _
  · refine Reads.bind_refuseIf ?_ (Reads.pure _ _)
    rw [h.channelType]
    simpa using h.channelId

/-- The requests that the format can say. -/
structure RequestLimits (request : PeerProfileExchangeRequest) : Prop where
  specCount : request.connectionPlan.knownSpecs.length < 2 ^ 16
  knownSpecs : ∀ spec ∈ request.connectionPlan.knownSpecs, SpecLimits spec
  channelCount : request.connectionPlan.channels.length < 2 ^ 16
  channels : ∀ channel ∈ request.connectionPlan.channels, ChannelRequestLimits channel
  extensions : ExtensionsLimits request.extensions

/-- The fields of a request in front of its extensions. -/
def requestFields (request : PeerProfileExchangeRequest) : ByteBuffer :=
  (u64Bytes request.clientSessionId ++ (u64Bytes request.agentSessionId ++
    u16Bytes (UInt16.ofNat request.connectionPlan.knownSpecs.length))) ++
  (request.connectionPlan.knownSpecs.flatMap specBytes ++
    (u16Bytes (UInt16.ofNat request.connectionPlan.channels.length) ++
      request.connectionPlan.channels.flatMap channelRequestBytes))

def requestBytes (version : UInt16) (request : PeerProfileExchangeRequest) : ByteBuffer :=
  headerBytes version peerProfilePayloadKindRequest ++
    (requestFields request ++ versionExtensionsBytes version request.extensions)

/-- What a version keeps of a request. -/
def PeerProfileExchangeRequest.inVersion (request : PeerProfileExchangeRequest)
    (version : UInt16) : PeerProfileExchangeRequest :=
  { request with extensions := versionExtensions version request.extensions }

theorem PeerProfileExchangeRequest.inVersion_current (request : PeerProfileExchangeRequest) :
    request.inVersion peerProfilePayloadCurrentVersion = request := by
  rw [inVersion, versionExtensions, if_pos (by decide)]

theorem PeerProfileExchangeRequest.inVersion_one (request : PeerProfileExchangeRequest) :
    request.inVersion 1 = { request with extensions := [] } := by
  rw [inVersion, versionExtensions, if_neg (by decide)]

theorem encode_request {request : PeerProfileExchangeRequest} (h : RequestLimits request) :
    encodePeerProfileExchangeRequestPayload request =
      requestBytes peerProfilePayloadCurrentVersion request := by
  have hspecs := fun output => appendList_eq output appendSpec h.specCount
    fun spec hmem => appendSpec_eq (h.knownSpecs spec hmem)
  have hchannels := fun output => appendList_eq output appendChannelRequest
    h.channelCount fun channel hmem => appendChannelRequest_eq (h.channels channel hmem)
  have hcurrent : versionExtensionsBytes peerProfilePayloadCurrentVersion request.extensions =
      extensionsBytes request.extensions := rfl
  simp [encodePeerProfileExchangeRequestPayload, appendHeader, hspecs, hchannels,
    appendExtensions_eq h.extensions, requestBytes, hcurrent, requestFields, headerBytes, listBytes]

/-- **The payload of a request is read back, in both versions.** -/
theorem reads_requestPayload (rest : ByteBuffer) {request : PeerProfileExchangeRequest}
    (h : RequestLimits request) {version : UInt16} (hversion : Version version) :
    Reads readRequestPayload (request.inVersion version) (requestBytes version request) rest := by
  have hspecs : (UInt16.ofNat request.connectionPlan.knownSpecs.length).toNat =
      request.connectionPlan.knownSpecs.length := UInt16.toNat_ofNat_of_lt' h.specCount
  have hchannels : (UInt16.ofNat request.connectionPlan.channels.length).toNat =
      request.connectionPlan.channels.length := UInt16.toNat_ofNat_of_lt' h.channelCount
  rw [requestBytes, requestFields]
  simp only [List.append_assoc _ _ (versionExtensionsBytes _ _)]
  refine (reads_header _ hversion _).bind <|
    Reads.bind (a := (request.clientSessionId, request.agentSessionId,
      UInt16.ofNat request.connectionPlan.knownSpecs.length)) (Reads.named _ ?_) ?_
  · exact (reads_u64 _ _).bind <| (reads_u64 _ _).bind <| Reads.last (reads_u16 _ _) <|
      Reads.pure _ _
  · dsimp only
    rw [hspecs]
    refine (Reads.named _ (Reads.times fun spec hmem rest => ?_)).bind <|
      (Reads.named _ (reads_u16 _ _)).bind ?_
    · exact reads_spec rest (h.knownSpecs spec hmem)
    rw [hchannels]
    refine (Reads.times fun channel hmem rest => ?_).bind <|
      Reads.last (reads_versionExtensions _ h.extensions version _) <| Reads.pure _ _
    exact reads_channelRequest rest (h.channels channel hmem)

/-- The results that the format can say. -/
structure ResultLimits (exchange : PeerProfileExchangeResult) : Prop where
  messageCount : exchange.messages.length < 2 ^ 16
  messages : ∀ message ∈ exchange.messages, message.length < 2 ^ 32
  client : SideLimits exchange.pair.client
  agent : SideLimits exchange.pair.agent
  extensions : ExtensionsLimits exchange.extensions

/-- The fields of a result in front of its extensions. -/
def resultFields (exchange : PeerProfileExchangeResult) : ByteBuffer :=
  [flag exchange.ok] ++ (listBytes stringBytes exchange.messages ++
    (sideBytes exchange.pair.client ++ sideBytes exchange.pair.agent))

def resultBytes (version : UInt16) (exchange : PeerProfileExchangeResult) : ByteBuffer :=
  headerBytes version peerProfilePayloadKindResponse ++
    (resultFields exchange ++ versionExtensionsBytes version exchange.extensions)

/-- What a version keeps of a result. -/
def PeerProfileExchangeResult.inVersion (exchange : PeerProfileExchangeResult)
    (version : UInt16) : PeerProfileExchangeResult :=
  { exchange with extensions := versionExtensions version exchange.extensions }

theorem PeerProfileExchangeResult.inVersion_current (exchange : PeerProfileExchangeResult) :
    exchange.inVersion peerProfilePayloadCurrentVersion = exchange := by
  rw [inVersion, versionExtensions, if_pos (by decide)]

theorem PeerProfileExchangeResult.inVersion_one (exchange : PeerProfileExchangeResult) :
    exchange.inVersion 1 = { exchange with extensions := [] } := by
  rw [inVersion, versionExtensions, if_neg (by decide)]

theorem encode_result {exchange : PeerProfileExchangeResult} (h : ResultLimits exchange) :
    encodePeerProfileExchangeResultPayload exchange =
      resultBytes peerProfilePayloadCurrentVersion exchange := by
  have hmessages := fun output => appendList_eq output appendString h.messageCount
    fun message hmem output => appendString_eq output (h.messages message hmem)
  have hcurrent : versionExtensionsBytes peerProfilePayloadCurrentVersion exchange.extensions =
      extensionsBytes exchange.extensions := rfl
  simp [encodePeerProfileExchangeResultPayload, appendHeader, appendMessages, hmessages,
    appendSide_eq h.client, appendSide_eq h.agent, appendExtensions_eq h.extensions, resultBytes,
    hcurrent, resultFields, headerBytes]

/-- **The payload of a response is read back, in both versions.** -/
theorem reads_resultPayload (rest : ByteBuffer) {exchange : PeerProfileExchangeResult}
    (h : ResultLimits exchange) {version : UInt16} (hversion : Version version) :
    Reads readResultPayload (exchange.inVersion version) (resultBytes version exchange) rest := by
  refine (reads_header _ hversion _).bind <|
    Reads.bind (a := { exchange with extensions := [] }) (Reads.named _ ?_) <|
    Reads.last (reads_versionExtensions _ h.extensions version _) <| Reads.pure _ _
  refine (reads_u8 _ _).bind <|
    (reads_list _ h.messageCount fun message hmem rest => ?_).bind <|
    (reads_side _ h.client).bind <| Reads.last (reads_side _ h.agent) ?_
  · exact reads_string rest (h.messages message hmem)
  · rw [flag_ne_zero]
    exact Reads.pure _ _

/-! ## The first version -/

/-- The payload as one of the first version: the version in the header is 1, and the section of the
extensions is gone. -/
def asVersion1 (payload : ByteBuffer) (extensions : List PeerProfileExtension) : ByteBuffer :=
  let extensionSection := (appendExtensions [] extensions).getD []
  overwrite (payload.take (payload.length - extensionSection.length)) 4 [0, 1]

theorem asVersion1_eq {extensions : List PeerProfileExtension} (h : ExtensionsLimits extensions)
    (kind : UInt16) (fields : ByteBuffer) :
    asVersion1 (headerBytes peerProfilePayloadCurrentVersion kind ++
        (fields ++ versionExtensionsBytes peerProfilePayloadCurrentVersion extensions)) extensions =
      headerBytes 1 kind ++ (fields ++ versionExtensionsBytes 1 extensions) := by
  have hcurrent : versionExtensionsBytes peerProfilePayloadCurrentVersion extensions =
      extensionsBytes extensions := rfl
  have hfirst : versionExtensionsBytes 1 extensions = [] := rfl
  have htake : (headerBytes peerProfilePayloadCurrentVersion kind ++ (fields ++
      extensionsBytes extensions)).take
        ((headerBytes peerProfilePayloadCurrentVersion kind ++ (fields ++
          extensionsBytes extensions)).length - (extensionsBytes extensions).length) =
      headerBytes peerProfilePayloadCurrentVersion kind ++ fields := by
    rw [← List.append_assoc, List.length_append, Nat.add_sub_cancel, List.take_left]
  rw [asVersion1, appendExtensions_eq h, Option.getD_some, List.nil_append, hcurrent, hfirst, htake,
    List.append_nil]
  rfl

/-! ## Whole payloads -/

theorem outcome_readWhole {α : Type} {r : Reader StdString α} {value : α} {payload : ByteBuffer}
    (h : Reads r value payload []) (message : String) :
    (readWhole r message).outcome payload = .ok (value, payload.length) := by
  have hwhole : Reads (readWhole r message) value payload [] :=
    Reads.last h <| Reads.bind_expectEnd <| Reads.pure value []
  have hrun := hwhole []
  rw [List.append_nil, List.nil_append, List.length_nil, Nat.zero_add] at hrun
  exact outcome_eq_iff.mpr hrun

/-- What is accepted as a whole payload ends where its last field does. -/
theorem run_of_outcome_readWhole {α : Type} {r : Reader StdString α} {value : α}
    {payload : ByteBuffer} {message : String} {next : ℕ}
    (h : (readWhole r message).outcome payload = .ok (value, next)) :
    r.run payload 0 = some (.ok (value, payload.length)) := by
  obtain ⟨found, offset, hfound, hrest⟩ := exists_of_run_bind (outcome_eq_iff.mp h)
  obtain ⟨u, last, hlast, hvalue⟩ := exists_of_run_bind hrest
  rw [run_expectEnd] at hlast
  split at hlast
  · cases hlast
  next hend =>
    cases hvalue
    rw [hfound, not_not.mp hend]

/-! ## Packets -/

theorem normalizedControlChannel_eq (requested : ChannelKey) :
    normalizedControlChannel requested = defaultControlChannel := by
  unfold normalizedControlChannel
  split
  · assumption
  · rfl

/-- A packet with a request is accepted when its payload is. -/
theorem decode_requestPacket (packet : PacketEnvelope) (htype : packet.packetType = .control)
    (hkind : packet.messageKind = .request) (hroute : keyOf packet = defaultControlChannel)
    (hflags : packet.flags = packetFlagResponseRequired) (hsession : packet.sessionId ≠ 0)
    (hmessage : packet.messageId ≠ 0) (hcorrelation : packet.correlationId ≠ 0)
    (htimeout : packet.timeoutMs ≠ 0) {request : PeerProfileExchangeRequest}
    (hpayload : Reads readRequestPayload request packet.payload []) :
    decodePeerProfileExchangeRequestPacket packet = { ok := true, request := request } := by
  have hflag : packet.flags &&& packetFlagResponseRequired ≠ 0 := by
    rw [hflags]
    decide
  have hfields : ¬(packet.flags &&& packetFlagResponseRequired = 0 ∨ packet.sessionId = 0 ∨
      packet.messageId = 0 ∨ packet.correlationId = 0 ∨ packet.timeoutMs = 0) := by
    simp only [not_or]
    exact ⟨hflag, hsession, hmessage, hcorrelation, htimeout⟩
  rw [decodePeerProfileExchangeRequestPacket, if_neg (not_not.mpr htype),
    if_neg (not_not.mpr hkind), if_neg (not_not.mpr hroute), if_neg hfields,
    outcome_readWhole hpayload]

/-- A packet with a result is accepted when its payload is. -/
theorem decode_responsePacket (packet : PacketEnvelope) (htype : packet.packetType = .control)
    (hkind : packet.messageKind = .response) (hroute : keyOf packet = defaultControlChannel)
    (hresponseTo : packet.responseTo ≠ 0) (hcorrelation : packet.correlationId ≠ 0)
    {exchange : PeerProfileExchangeResult} (hok : exchange.ok = true)
    (hpayload : Reads readResultPayload exchange packet.payload []) :
    decodePeerProfileExchangeResponsePacket packet = { ok := true, exchange := exchange } := by
  have hfields : ¬(packet.responseTo = 0 ∨ packet.correlationId = 0) :=
    not_or.mpr ⟨hresponseTo, hcorrelation⟩
  have herror : packet.messageKind ≠ .error := by
    rw [hkind]
    decide
  rw [decodePeerProfileExchangeResponsePacket, if_neg (not_not.mpr htype),
    if_neg (not_not.mpr hroute), if_neg hfields, if_neg herror, if_neg (not_not.mpr hkind),
    outcome_readWhole hpayload]
  simp only [hok, if_true]

/-- The builder's request, with a payload of either version. -/
theorem decode_builtRequest {request value : PeerProfileExchangeRequest}
    {options : PeerProfileServiceWireOptions}
    (hsession : request.clientSessionId ≠ 0 ∨ request.agentSessionId ≠ 0)
    (hmessage : options.messageId ≠ 0) (htimeout : options.timeoutMs ≠ 0) {payload : ByteBuffer}
    (hpayload : Reads readRequestPayload value payload []) :
    decodePeerProfileExchangeRequestPacket
        { makePeerProfileExchangeRequestPacket request options with payload := payload } =
      { ok := true, request := value } := by
  refine decode_requestPacket
    { makePeerProfileExchangeRequestPacket request options with payload := payload } rfl rfl
    (normalizedControlChannel_eq _) rfl ?_ hmessage ?_ htimeout hpayload
  · show (if request.clientSessionId ≠ 0 then request.clientSessionId
      else request.agentSessionId) ≠ 0
    split
    · assumption
    next hclient => exact hsession.resolve_left hclient
  · show (if options.correlationId ≠ 0 then options.correlationId else options.messageId) ≠ 0
    split
    · assumption
    · exact hmessage

/-- The builder's response, with a payload of either version. -/
theorem decode_builtResponse {packet : PacketEnvelope} {exchange value : PeerProfileExchangeResult}
    {options : PeerProfileServiceWireResponseOptions}
    (hroute : keyOf packet = defaultControlChannel) (hmessage : packet.messageId ≠ 0)
    (hok : exchange.ok = true) (hstatus : options.status = .ok) (hvalue : value.ok = true)
    {payload : ByteBuffer} (hpayload : Reads readResultPayload value payload []) :
    decodePeerProfileExchangeResponsePacket
        { makePeerProfileExchangeResponsePacket packet exchange options with payload := payload } =
      { ok := true, exchange := value } := by
  refine decode_responsePacket
    { makePeerProfileExchangeResponsePacket packet exchange options with payload := payload } rfl ?_
    hroute hmessage ?_ hvalue hpayload
  · show responseKindForStatus (if exchange.ok then options.status else .invalidArgument) = .response
    rw [hok, hstatus]
    rfl
  · show (if packet.correlationId ≠ 0 then packet.correlationId else packet.messageId) ≠ 0
    split
    · assumption
    · exact hmessage

/-- An accepted packet with a request has nothing behind its last field. -/
theorem requestPacket_ends {packet : PacketEnvelope}
    (h : (decodePeerProfileExchangeRequestPacket packet).ok = true) :
    readRequestPayload.run packet.payload 0 =
      some (.ok ((decodePeerProfileExchangeRequestPacket packet).request,
        packet.payload.length)) := by
  unfold decodePeerProfileExchangeRequestPacket at h ⊢
  split at h
  · cases h
  next htype =>
  rw [if_neg htype]
  split at h
  · cases h
  next hkind =>
  rw [if_neg hkind]
  split at h
  · cases h
  next hroute =>
  rw [if_neg hroute]
  split at h
  · cases h
  next hfields =>
  rw [if_neg hfields]
  split at h
  next request next houtcome =>
    exact run_of_outcome_readWhole houtcome
  · cases h

/-- An accepted packet with a result has nothing behind its last field. -/
theorem responsePacket_ends {packet : PacketEnvelope}
    (h : (decodePeerProfileExchangeResponsePacket packet).ok = true) :
    readResultPayload.run packet.payload 0 =
      some (.ok ((decodePeerProfileExchangeResponsePacket packet).exchange,
        packet.payload.length)) := by
  unfold decodePeerProfileExchangeResponsePacket at h ⊢
  split at h
  · cases h
  next htype =>
  rw [if_neg htype]
  split at h
  · cases h
  next hroute =>
  rw [if_neg hroute]
  split at h
  · cases h
  next hfields =>
  rw [if_neg hfields]
  split at h
  · cases h
  next herror =>
  rw [if_neg herror]
  split at h
  · cases h
  next hkind =>
  rw [if_neg hkind]
  split at h
  next exchange next houtcome =>
    exact run_of_outcome_readWhole houtcome
  · cases h

/-- **What the encoders write is read back**: from the packets of the builders as it was, from the
same packets of the first version without its extensions; and what is accepted ends exactly at the
last field. -/
theorem peerProfile_roundTrip {request : PeerProfileExchangeRequest}
    (options : PeerProfileServiceWireOptions) (hrequest : RequestLimits request)
    (hsession : request.clientSessionId ≠ 0 ∨ request.agentSessionId ≠ 0)
    (hmessage : options.messageId ≠ 0) (htimeout : options.timeoutMs ≠ 0)
    (asked : PacketEnvelope) {exchange : PeerProfileExchangeResult}
    (responseOptions : PeerProfileServiceWireResponseOptions) (hresult : ResultLimits exchange)
    (hroute : keyOf asked = defaultControlChannel) (hasked : asked.messageId ≠ 0)
    (hok : exchange.ok = true) (hstatus : responseOptions.status = .ok) :
    (let packet := makePeerProfileExchangeRequestPacket request options
     decodePeerProfileExchangeRequestPacket packet = { ok := true, request := request } ∧
     decodePeerProfileExchangeRequestPacket
         { packet with payload := asVersion1 packet.payload request.extensions } =
       { ok := true, request := { request with extensions := [] } }) ∧
    (let packet := makePeerProfileExchangeResponsePacket asked exchange responseOptions
     decodePeerProfileExchangeResponsePacket packet = { ok := true, exchange := exchange } ∧
     decodePeerProfileExchangeResponsePacket
         { packet with payload := asVersion1 packet.payload exchange.extensions } =
       { ok := true, exchange := { exchange with extensions := [] } }) ∧
    (∀ packet, (decodePeerProfileExchangeRequestPacket packet).ok = true →
      readRequestPayload.run packet.payload 0 =
        some (.ok ((decodePeerProfileExchangeRequestPacket packet).request,
          packet.payload.length))) ∧
    (∀ packet, (decodePeerProfileExchangeResponsePacket packet).ok = true →
      readResultPayload.run packet.payload 0 =
        some (.ok ((decodePeerProfileExchangeResponsePacket packet).exchange,
          packet.payload.length))) := by
  have hcurrent : Version peerProfilePayloadCurrentVersion := Or.inr rfl
  have hfirst : Version 1 := Or.inl rfl
  have hrequestPayload : (makePeerProfileExchangeRequestPacket request options).payload =
      requestBytes peerProfilePayloadCurrentVersion request := encode_request hrequest
  have hresultPayload : (makePeerProfileExchangeResponsePacket asked exchange
      responseOptions).payload = resultBytes peerProfilePayloadCurrentVersion exchange := by
    have hkind : responseKindForStatus .ok = .response := rfl
    show (if responseKindForStatus (if exchange.ok then responseOptions.status
      else .invalidArgument) = .response then encodePeerProfileExchangeResultPayload exchange
      else _) = _
    rw [hok, hstatus, if_pos rfl, if_pos hkind, encode_result hresult]
  have hrequestFirst := reads_requestPayload [] hrequest hfirst
  rw [PeerProfileExchangeRequest.inVersion_one] at hrequestFirst
  have hresultFirst := reads_resultPayload [] hresult hfirst
  rw [PeerProfileExchangeResult.inVersion_one] at hresultFirst
  have hrequestCurrent := reads_requestPayload [] hrequest hcurrent
  rw [PeerProfileExchangeRequest.inVersion_current, ← hrequestPayload] at hrequestCurrent
  have hresultCurrent := reads_resultPayload [] hresult hcurrent
  rw [PeerProfileExchangeResult.inVersion_current, ← hresultPayload] at hresultCurrent
  refine ⟨⟨?_, ?_⟩, ⟨?_, ?_⟩, fun _ => requestPacket_ends, fun _ => responsePacket_ends⟩
  · exact decode_builtRequest hsession hmessage htimeout hrequestCurrent
  · rw [hrequestPayload, requestBytes, asVersion1_eq hrequest.extensions]
    exact decode_builtRequest hsession hmessage htimeout hrequestFirst
  · exact decode_builtResponse hroute hasked hok hstatus hok hresultCurrent
  · rw [hresultPayload, resultBytes, asVersion1_eq hresult.extensions]
    have hvalue : ({ exchange with extensions := [] } : PeerProfileExchangeResult).ok = true := hok
    exact decode_builtResponse hroute hasked hok hstatus hvalue hresultFirst

/-- A specification of the screen channel. -/
def screenSpec : ChannelSpec :=
  { key := ⟨ChannelIdValue.desktopScreen, .video⟩, name := text "screen", socketClass := .realtime,
    allowlist := [.video, .payloadAck], required := true }

/-- A request for the screen channel, with one extension. -/
def screenRequest : PeerProfileExchangeRequest :=
  { connectionPlan := ⟨[screenSpec], [{ key := screenSpec.key, endpoint := text "127.0.0.1:4000" }]⟩
    clientSessionId := 7
    extensions := [⟨text "display.codec.v1", [1, 2, 3]⟩] }

/-- A result with the screen channel on both sides. -/
def screenResult : PeerProfileExchangeResult :=
  { ok := true
    pair := ⟨⟨7, [⟨screenSpec, text "127.0.0.1:4000", []⟩], []⟩,
      ⟨8, [], [⟨screenSpec, text "0.0.0.0:4000", []⟩]⟩⟩
    extensions := [⟨text "display.codec.v1", []⟩]
    messages := [text "accepted"] }

theorem screenSpec_limits : SpecLimits screenSpec :=
  ⟨by decide, by decide, by decide, by decide, by decide, by decide, by decide⟩

theorem screenRequest_limits : RequestLimits screenRequest where
  specCount := by decide
  knownSpecs := List.forall_mem_singleton.mpr screenSpec_limits
  channelCount := by decide
  channels := List.forall_mem_singleton.mpr
    ⟨by decide, by decide, by decide, by decide, by decide⟩
  extensions := ⟨by decide, List.forall_mem_singleton.mpr ⟨by decide, by decide, by decide⟩⟩

theorem screenResult_limits : ResultLimits screenResult where
  messageCount := by decide
  messages := by decide
  client := ⟨by decide, List.forall_mem_singleton.mpr ⟨screenSpec_limits, by decide, by decide⟩,
    by decide, List.forall_mem_nil _⟩
  agent := ⟨by decide, List.forall_mem_nil _, by decide,
    List.forall_mem_singleton.mpr ⟨screenSpec_limits, by decide, by decide⟩⟩
  extensions := ⟨by decide, List.forall_mem_singleton.mpr ⟨by decide, by decide, by decide⟩⟩

theorem peerProfile_roundTrip_screen :
    decodePeerProfileExchangeRequestPacket (makePeerProfileExchangeRequestPacket screenRequest {}) =
        { ok := true, request := screenRequest } ∧
      decodePeerProfileExchangeResponsePacket (makePeerProfileExchangeResponsePacket
          (makePeerProfileExchangeRequestPacket screenRequest {}) screenResult {}) =
        { ok := true, exchange := screenResult } := by
  have hroute : keyOf (makePeerProfileExchangeRequestPacket screenRequest {}) =
      defaultControlChannel := rfl
  have h := peerProfile_roundTrip {} screenRequest_limits (Or.inl (by decide)) (by decide)
    (by decide) (makePeerProfileExchangeRequestPacket screenRequest {}) {} screenResult_limits
    hroute (by decide) rfl rfl
  exact ⟨h.1.1, h.2.1.1⟩

end PeerProfile
end Runtime
end FusionDesk
