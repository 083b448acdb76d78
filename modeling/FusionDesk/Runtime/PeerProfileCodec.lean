import FusionDesk.Network.Channel
import FusionDesk.Protocol.PayloadFields
import FusionDesk.Protocol.Validator

/-!
# The peer profile codec

`peer_profile_exchange.h` and the codec of `peer_profile_service.cpp`: what a client asks an agent
to open, and what comes back, as the payloads and packets of the control channel.

A decoder is a reader (`General.ByteReader`); a group of reads has the text of the group.  Where a
decoder fails, the source leaves what it has read so far in the result; nothing looks at it, and here
such a result has the message only.  The enumerations of a channel's specification are cast and then
checked; here the two are one (`declared`).
-/

namespace FusionDesk
namespace Runtime
namespace PeerProfile

open Protocol Network ByteReader Reader PayloadFields

/-- The bytes of a literal. -/
def text (literal : String) : StdString := literal.toList.map fun c => UInt8.ofNat c.toNat

/-! ## Types -/

/-- `struct ChannelSpec`. -/
structure ChannelSpec where
  key : ChannelKey := {}
  name : StdString := []
  socketClass : SocketClass := .control
  defaultPriority : PacketPriority := .normal
  reliability : ReliabilityMode := .reliable
  ordering : OrderingMode := .ordered
  flowControl : FlowControlMode := .pressure
  queuePolicy : QueuePolicy := .bounded
  allowlist : List PacketType := []
  ownerModuleId : StdString := []
  required : Bool := false
  deriving DecidableEq, Repr

structure PeerConnectionChannelRequest where
  key : ChannelKey := {}
  endpoint : StdString := []
  clientReadyEndpoint : StdString := []
  agentReadyEndpoint : StdString := []
  deriving DecidableEq, Repr

structure PeerConnectionPlanRequest where
  knownSpecs : List ChannelSpec := []
  channels : List PeerConnectionChannelRequest := []
  deriving DecidableEq, Repr

/-- `struct PeerProfileConnectChannel`, and `struct PeerProfileListenChannel`. -/
structure PeerProfileChannel where
  spec : ChannelSpec := {}
  endpoint : StdString := []
  readyEndpoint : StdString := []
  deriving DecidableEq, Repr

structure PeerProfileSide where
  sessionId : SessionId := 0
  tcpChannels : List PeerProfileChannel := []
  tcpListenChannels : List PeerProfileChannel := []
  deriving DecidableEq, Repr

structure PeerProfilePair where
  client : PeerProfileSide := {}
  agent : PeerProfileSide := {}
  deriving DecidableEq, Repr

structure PeerProfileExtension where
  key : StdString := []
  payload : ByteBuffer := []
  deriving DecidableEq, Repr

structure PeerProfileExchangeRequest where
  connectionPlan : PeerConnectionPlanRequest := {}
  clientSessionId : SessionId := 0
  agentSessionId : SessionId := 0
  extensions : List PeerProfileExtension := []
  deriving DecidableEq, Repr

structure PeerProfileExchangeResult where
  ok : Bool := false
  pair : PeerProfilePair := {}
  extensions : List PeerProfileExtension := []
  messages : List StdString := []
  deriving DecidableEq, Repr

def defaultControlChannel : ChannelKey := ⟨ChannelIdValue.userAuthMain, .control⟩

structure PeerProfileServiceWireOptions where
  messageId : MessageId := 1
  correlationId : MessageId := 0
  timeoutMs : UInt32 := 1000
  traceId : TraceId := 0
  sequence : UInt64 := 0
  monotonicTimestampUsec : UInt64 := 0
  controlChannel : ChannelKey := defaultControlChannel
  priority : PacketPriority := .critical

structure PeerProfileServiceWireResponseOptions where
  messageId : MessageId := 0
  sequence : UInt64 := 0
  monotonicTimestampUsec : UInt64 := 0
  status : ResponseStatus := .ok
  message : StdString := []

structure PeerProfileServiceRequestDecodeResult where
  ok : Bool := false
  request : PeerProfileExchangeRequest := {}
  message : StdString := []
  deriving DecidableEq, Repr

structure PeerProfileServiceResponseDecodeResult where
  ok : Bool := false
  exchange : PeerProfileExchangeResult := {}
  message : StdString := []
  deriving DecidableEq, Repr

def peerProfilePayloadMagic : UInt32 := 0x46445050
def peerProfilePayloadMinVersion : UInt16 := 1
def peerProfilePayloadCurrentVersion : UInt16 := 2
def peerProfilePayloadKindRequest : UInt16 := 1
def peerProfilePayloadKindResponse : UInt16 := 2

/-! ## Enumerations -/

/-- The declared value that a number is cast to, if there is one. -/
def declared {α ρ : Type} [BEq ρ] (all : List α) (raw : α → ρ) (value : ρ) : Option α :=
  all.find? fun a => raw a == value

def socketClassRaw : SocketClass → UInt8
  | .control => 0
  | .realtime => 1
  | .bulk => 2
  | .auxiliary => 3

def reliabilityModeRaw : ReliabilityMode → UInt8
  | .reliable => 0
  | .bestEffort => 1

def orderingModeRaw : OrderingMode → UInt8
  | .ordered => 0
  | .latestOnly => 1
  | .unordered => 2

def flowControlModeRaw : FlowControlMode → UInt8
  | .none => 0
  | .credit => 1
  | .pressure => 2

def queuePolicyRaw : QueuePolicy → UInt8
  | .bounded => 0
  | .dropNewest => 1
  | .dropOldest => 2
  | .keepLatest => 3

def knownSocketClass (value : UInt8) : Option SocketClass :=
  declared [.control, .realtime, .bulk, .auxiliary] socketClassRaw value

def knownReliabilityMode (value : UInt8) : Option ReliabilityMode :=
  declared [.reliable, .bestEffort] reliabilityModeRaw value

def knownOrderingMode (value : UInt8) : Option OrderingMode :=
  declared [.ordered, .latestOnly, .unordered] orderingModeRaw value

def knownFlowControlMode (value : UInt8) : Option FlowControlMode :=
  declared [.none, .credit, .pressure] flowControlModeRaw value

def knownQueuePolicy (value : UInt8) : Option QueuePolicy :=
  declared [.bounded, .dropNewest, .dropOldest, .keepLatest] queuePolicyRaw value

/-- The lists of the three are those of `ProtocolValidator`. -/
def knownChannelType (value : ChannelType) : Bool := isKnownChannelType value
def knownPacketPriority (value : PacketPriority) : Bool := isKnownPriority value
def knownPacketType (value : PacketType) : Bool := isKnownPacketType value

/-! ## Writing -/

def appendSpec (output : ByteBuffer) (spec : ChannelSpec) : Option ByteBuffer := do
  let output := appendU16 output spec.key.channelId
  let output := appendU16 output spec.key.channelType.raw
  let output ← appendString output spec.name
  let output := appendU8 output (socketClassRaw spec.socketClass)
  let output := appendU8 output spec.defaultPriority.raw
  let output := appendU8 output (reliabilityModeRaw spec.reliability)
  let output := appendU8 output (orderingModeRaw spec.ordering)
  let output := appendU8 output (flowControlModeRaw spec.flowControl)
  let output := appendU8 output (queuePolicyRaw spec.queuePolicy)
  let output := appendU8 output (flag spec.required)
  let output ← appendList (fun output packetType => some (appendU16 output packetType.raw)) output
    spec.allowlist
  appendString output spec.ownerModuleId

/-- `appendConnectChannel`, and `appendListenChannel`. -/
def appendChannel (output : ByteBuffer) (channel : PeerProfileChannel) : Option ByteBuffer := do
  let output ← appendSpec output channel.spec
  let output ← appendString output channel.endpoint
  appendString output channel.readyEndpoint

def appendMessages (output : ByteBuffer) (messages : List StdString) : Option ByteBuffer :=
  appendList appendString output messages

def appendExtension (output : ByteBuffer) (extension : PeerProfileExtension) :
    Option ByteBuffer := do
  let output ← appendString output extension.key
  appendString output extension.payload

def appendExtensions (output : ByteBuffer) (extensions : List PeerProfileExtension) :
    Option ByteBuffer :=
  appendList appendExtension output extensions

def appendSide (output : ByteBuffer) (side : PeerProfileSide) : Option ByteBuffer := do
  let output := appendU64 output side.sessionId
  let output ← appendList appendChannel output side.tcpChannels
  appendList appendChannel output side.tcpListenChannels

def appendHeader (output : ByteBuffer) (kind : UInt16) : ByteBuffer :=
  let output := appendU32 output peerProfilePayloadMagic
  let output := appendU16 output peerProfilePayloadCurrentVersion
  appendU16 output kind

/-- The body of the loop over the channels of a request. -/
def appendChannelRequest (output : ByteBuffer) (channel : PeerConnectionChannelRequest) :
    Option ByteBuffer := do
  let output := appendU16 output channel.key.channelId
  let output := appendU16 output channel.key.channelType.raw
  let output ← appendString output channel.endpoint
  let output ← appendString output channel.clientReadyEndpoint
  appendString output channel.agentReadyEndpoint

/-- A payload that could not be written is empty. -/
def encodePeerProfileExchangeRequestPayload (request : PeerProfileExchangeRequest) : ByteBuffer :=
  Option.getD (do
    let output := appendHeader [] peerProfilePayloadKindRequest
    let output := appendU64 output request.clientSessionId
    let output := appendU64 output request.agentSessionId
    let output ← appendList appendSpec output request.connectionPlan.knownSpecs
    let output ← appendList appendChannelRequest output request.connectionPlan.channels
    appendExtensions output request.extensions) []

def encodePeerProfileExchangeResultPayload (exchange : PeerProfileExchangeResult) : ByteBuffer :=
  Option.getD (do
    let output := appendHeader [] peerProfilePayloadKindResponse
    let output := appendU8 output (flag exchange.ok)
    let output ← appendMessages output exchange.messages
    let output ← appendSide output exchange.pair.client
    let output ← appendSide output exchange.pair.agent
    appendExtensions output exchange.extensions) []

/-! ## Reading -/

/-- The body of the loop over an allow list. -/
def readPacketType : Reader Unit PacketType := do
  let packetType ← readU16
  refuseIf (knownPacketType ⟨packetType⟩ = false) ()
  return ⟨packetType⟩

def readSpec : Reader Unit ChannelSpec := do
  let channelId ← readU16
  let channelType ← readU16
  let name ← readString
  let socketClass ← readU8
  let priority ← readU8
  let reliability ← readU8
  let ordering ← readU8
  let flowControl ← readU8
  let queuePolicy ← readU8
  let required ← readU8
  let allowlistCount ← readU16
  refuseIf (channelId = 0) ()
  refuseIf (knownChannelType ⟨channelType⟩ = false) ()
  refuseIf (knownPacketPriority ⟨priority⟩ = false) ()
  let socketClass ← ofOption (knownSocketClass socketClass) ()
  let reliability ← ofOption (knownReliabilityMode reliability) ()
  let ordering ← ofOption (knownOrderingMode ordering) ()
  let flowControl ← ofOption (knownFlowControlMode flowControl) ()
  let queuePolicy ← ofOption (knownQueuePolicy queuePolicy) ()
  let allowlist ← times readPacketType allowlistCount.toNat
  let ownerModuleId ← readString
  return {
    key := ⟨channelId, ⟨channelType⟩⟩
    name := name
    socketClass := socketClass
    defaultPriority := ⟨priority⟩
    reliability := reliability
    ordering := ordering
    flowControl := flowControl
    queuePolicy := queuePolicy
    required := required != 0
    allowlist := allowlist
    ownerModuleId := ownerModuleId }

/-- `readConnectChannel`, and `readListenChannel`. -/
def readChannel : Reader Unit PeerProfileChannel := do
  let spec ← readSpec
  let endpoint ← readString
  let readyEndpoint ← readString
  return ⟨spec, endpoint, readyEndpoint⟩

def readMessages : Reader Unit (List StdString) := readList readString

def readExtension : Reader Unit PeerProfileExtension := do
  let key ← readString
  let payload ← readString
  refuseIf (key.isEmpty = true) ()
  return ⟨key, payload⟩

def readExtensions : Reader Unit (List PeerProfileExtension) := readList readExtension

def readSide : Reader Unit PeerProfileSide := do
  let sessionId ← readU64
  let tcpChannels ← readList readChannel
  let tcpListenChannels ← readList readChannel
  return ⟨sessionId, tcpChannels, tcpListenChannels⟩

/-- The text of a group of reads. -/
def withMessage {α : Type} (message : String) (r : Reader Unit α) : Reader StdString α :=
  named (fun _ => text message) r

/-- The magic, the version and the kind. -/
def readHeaderFields : Reader Unit (UInt32 × UInt16 × UInt16) := do
  let magic ← readU32
  let version ← readU16
  let kind ← readU16
  return (magic, version, kind)

/-- `readHeader`: the version. -/
def readHeader (expectedKind : UInt16) : Reader StdString UInt16 := do
  let (magic, version, kind) ← withMessage "peer profile payload is truncated" readHeaderFields
  refuseIf (magic ≠ peerProfilePayloadMagic) (text "peer profile payload magic is invalid")
  refuseIf (version < peerProfilePayloadMinVersion ∨ version > peerProfilePayloadCurrentVersion)
    (text "peer profile payload version is unsupported")
  refuseIf (kind ≠ expectedKind) (text "peer profile payload kind is invalid")
  return version

/-- The two session ids, and the count of the specifications. -/
def readSessionIds : Reader Unit (SessionId × SessionId × UInt16) := do
  let clientSessionId ← readU64
  let agentSessionId ← readU64
  let specCount ← readU16
  return (clientSessionId, agentSessionId, specCount)

/-- The fields of a channel of a request. -/
def readChannelEntry : Reader Unit PeerConnectionChannelRequest := do
  let channelId ← readU16
  let channelType ← readU16
  let endpoint ← readString
  let clientReadyEndpoint ← readString
  let agentReadyEndpoint ← readString
  return ⟨⟨channelId, ⟨channelType⟩⟩, endpoint, clientReadyEndpoint, agentReadyEndpoint⟩

/-- The body of the loop over the channels of a request. -/
def readChannelRequest : Reader StdString PeerConnectionChannelRequest := do
  let channel ← withMessage "peer profile request channel entry is invalid" readChannelEntry
  refuseIf (channel.key.channelId = 0 ∨ knownChannelType channel.key.channelType = false)
    (text "peer profile request channel key is invalid")
  return channel

/-- The extensions, which the first version has not. -/
def readVersionExtensions (version : UInt16) (message : String) :
    Reader StdString (List PeerProfileExtension) :=
  if version ≥ 2 then withMessage message readExtensions else return []

/-- The payload of a request, as far as its last field. -/
def readRequestPayload : Reader StdString PeerProfileExchangeRequest := do
  let version ← readHeader peerProfilePayloadKindRequest
  let (clientSessionId, agentSessionId, specCount) ←
    withMessage "peer profile request payload is truncated" readSessionIds
  let knownSpecs ←
    withMessage "peer profile request channel spec is invalid" (times readSpec specCount.toNat)
  let channelCount ← withMessage "peer profile request channel count is missing" readU16
  let channels ← times readChannelRequest channelCount.toNat
  let extensions ←
    readVersionExtensions version "peer profile request extensions are invalid"
  return {
    connectionPlan := ⟨knownSpecs, channels⟩
    clientSessionId := clientSessionId
    agentSessionId := agentSessionId
    extensions := extensions }

/-- The fields of a result in front of its extensions. -/
def readResultFields : Reader Unit PeerProfileExchangeResult := do
  let ok ← readU8
  let messages ← readMessages
  let client ← readSide
  let agent ← readSide
  return { ok := ok != 0, pair := ⟨client, agent⟩, messages := messages }

/-- The payload of a response, as far as its last field. -/
def readResultPayload : Reader StdString PeerProfileExchangeResult := do
  let version ← readHeader peerProfilePayloadKindResponse
  let exchange ← withMessage "peer profile response payload is invalid" readResultFields
  let extensions ←
    readVersionExtensions version "peer profile response extensions are invalid"
  return { exchange with extensions := extensions }

/-- A payload and nothing behind it. -/
def readWhole {α : Type} (r : Reader StdString α) (message : String) : Reader StdString α := do
  let value ← r
  expectEnd (text message)
  return value

def decodePeerProfileExchangeRequestPacket (packet : PacketEnvelope) :
    PeerProfileServiceRequestDecodeResult :=
  if packet.packetType ≠ .control then
    { message := text "peer profile request must use control packet type" }
  else if packet.messageKind ≠ .request then
    { message := text "peer profile request must use request message kind" }
  else if keyOf packet ≠ defaultControlChannel then
    { message := text "peer profile request must use the control route" }
  else if packet.flags &&& packetFlagResponseRequired = 0 ∨ packet.sessionId = 0 ∨
      packet.messageId = 0 ∨ packet.correlationId = 0 ∨ packet.timeoutMs = 0 then
    { message := text "peer profile request is missing correlation fields" }
  else
    match (readWhole readRequestPayload "peer profile request payload has trailing bytes").outcome
        packet.payload with
    | .ok (request, _) => { ok := true, request := request }
    | .error message => { message := message }

def decodePeerProfileExchangeResponsePacket (packet : PacketEnvelope) :
    PeerProfileServiceResponseDecodeResult :=
  if packet.packetType ≠ .control then
    { message := text "peer profile response must use control packet type" }
  else if keyOf packet ≠ defaultControlChannel then
    { message := text "peer profile response must use the control route" }
  else if packet.responseTo = 0 ∨ packet.correlationId = 0 then
    { message := text "peer profile response is missing correlation fields" }
  else if packet.messageKind = .error then
    { exchange := { messages := if packet.payload.isEmpty then [] else [packet.payload] }
      message := packet.payload }
  else if packet.messageKind ≠ .response then
    { message := text "peer profile response must be terminal" }
  else
    match (readWhole readResultPayload "peer profile response payload has trailing bytes").outcome
        packet.payload with
    | .ok (exchange, _) =>
      { ok := exchange.ok
        exchange := exchange
        message := if exchange.ok then [] else exchange.messages.headD [] }
    | .error message => { message := message }

/-! ## Packets -/

def normalizedControlChannel (requested : ChannelKey) : ChannelKey :=
  if requested = defaultControlChannel then requested else defaultControlChannel

def responseKindForStatus (status : ResponseStatus) : MessageKind :=
  if status = .ok then .response else .error

def responseMessageId (request : PacketEnvelope) (configuredMessageId : MessageId) : MessageId :=
  if configuredMessageId ≠ 0 then configuredMessageId
  else if request.messageId ≠ 0xFFFFFFFFFFFFFFFF then request.messageId + 1
  else 1

def makePeerProfileExchangeRequestPacket (request : PeerProfileExchangeRequest)
    (options : PeerProfileServiceWireOptions) : PacketEnvelope where
  sessionId :=
    if request.clientSessionId ≠ 0 then request.clientSessionId else request.agentSessionId
  traceId := options.traceId
  messageId := options.messageId
  correlationId := if options.correlationId ≠ 0 then options.correlationId else options.messageId
  channelId := (normalizedControlChannel options.controlChannel).channelId
  channelType := (normalizedControlChannel options.controlChannel).channelType
  packetType := .control
  messageKind := .request
  priority := options.priority
  sequence := options.sequence
  monotonicTimestampUsec := options.monotonicTimestampUsec
  timeoutMs := options.timeoutMs
  flags := packetFlagResponseRequired
  payload := encodePeerProfileExchangeRequestPayload request

def makePeerProfileExchangeResponsePacket (request : PacketEnvelope)
    (exchange : PeerProfileExchangeResult) (options : PeerProfileServiceWireResponseOptions) :
    PacketEnvelope :=
  let status := if exchange.ok then options.status else .invalidArgument
  let message := if options.message ≠ [] then options.message else exchange.messages.headD []
  { protocolMajor := request.protocolMajor
    protocolMinor := request.protocolMinor
    sessionId := request.sessionId
    traceId := request.traceId
    messageId := responseMessageId request options.messageId
    correlationId := if request.correlationId ≠ 0 then request.correlationId else request.messageId
    responseTo := request.messageId
    channelId := request.channelId
    channelType := request.channelType
    packetType := .control
    messageKind := responseKindForStatus status
    priority := .critical
    responseStatus := status
    sequence := options.sequence
    monotonicTimestampUsec := options.monotonicTimestampUsec
    payload :=
      if responseKindForStatus status = .response then
        encodePeerProfileExchangeResultPayload exchange
      else message }

end PeerProfile
end Runtime
end FusionDesk
