import FusionDesk.Protocol.ByteIO
import FusionDesk.Protocol.Validator

/-!
# The packet codec

`include/fusiondesk/core/protocol/packet_codec.h` and `src/core/protocol/packet_codec.cpp`: one
packet is a header of 100 bytes followed by its payload, with a checksum of each.

The header is written into a zeroed buffer field by field at fixed offsets, the payload is copied
behind it, the payload's checksum goes into the header, and the checksum of the header, taken with
its own field blank, goes in last.
-/

namespace FusionDesk
namespace Protocol

open BigEndian

def packetWireMagic : UInt32 := 0x46443250
def packetWireHeaderLength : UInt16 := 100

def kOffsetMagic : ℕ := 0
def kOffsetHeaderLength : ℕ := 4
def kOffsetProtocolMajor : ℕ := 6
def kOffsetProtocolMinor : ℕ := 8
def kOffsetChannelId : ℕ := 10
def kOffsetChannelType : ℕ := 12
def kOffsetPacketType : ℕ := 14
def kOffsetMessageKind : ℕ := 16
def kOffsetPriority : ℕ := 18
def kOffsetResponseStatus : ℕ := 20
def kOffsetFlags : ℕ := 24
def kOffsetSessionId : ℕ := 28
def kOffsetTraceId : ℕ := 36
def kOffsetMessageId : ℕ := 44
def kOffsetCorrelationId : ℕ := 52
def kOffsetResponseTo : ℕ := 60
def kOffsetSequence : ℕ := 68
def kOffsetTimestamp : ℕ := 76
def kOffsetTimeout : ℕ := 84
def kOffsetPayloadLength : ℕ := 88
def kOffsetHeaderCrc : ℕ := 92
def kOffsetPayloadCrc : ℕ := 96

structure PacketCodecOptions where
  maxPayloadBytes : ℕ := 16 * 1024 * 1024
  validatePayloadCrc : Bool := true
  validateHeaderCrc : Bool := true
  deriving DecidableEq, Repr

inductive PacketDecodeStatus
  | ok
  | incomplete
  | invalidMagic
  | invalidHeaderLength
  | unsupportedVersion
  | payloadTooLarge
  | lengthMismatch
  | headerChecksumMismatch
  | payloadChecksumMismatch
  | validationFailed
  deriving DecidableEq, Repr

structure PacketDecodeResult where
  status : PacketDecodeStatus := .validationFailed
  packet : PacketEnvelope := {}
  message : String := ""
  deriving DecidableEq, Repr

def PacketDecodeResult.ok (result : PacketDecodeResult) : Bool :=
  result.status == .ok

structure PacketFrameInspection where
  status : PacketDecodeStatus := .incomplete
  frameSize : ℕ := 0
  complete : Bool := false
  message : String := ""
  deriving DecidableEq, Repr

def PacketFrameInspection.ok (result : PacketFrameInspection) : Bool :=
  result.status == .ok

/-! ## The functions of the source -/

/-- The four local readers ignore whether the read happened and start from zero. -/
def readU8 (bytes : ByteBuffer) (offset : ℕ) : UInt8 := (readU8At bytes offset).getD 0
def readU16 (bytes : ByteBuffer) (offset : ℕ) : UInt16 := (readU16At bytes offset).getD 0
def readU32 (bytes : ByteBuffer) (offset : ℕ) : UInt32 := (readU32At bytes offset).getD 0
def readU64 (bytes : ByteBuffer) (offset : ℕ) : UInt64 := (readU64At bytes offset).getD 0

/-- One turn of the inner loop of `crc32`. -/
def crcBit (crc : UInt32) : UInt32 :=
  let mask : UInt32 := 0 - (crc &&& 1)
  (crc >>> 1) ^^^ (0xedb88320 &&& mask)

/-- One turn of the outer loop of `crc32`. -/
def crcByte (crc : UInt32) (byte : UInt8) : UInt32 :=
  Nat.iterate crcBit 8 (crc ^^^ byte.toUInt32)

def crc32 (data : ByteBuffer) : UInt32 :=
  ~~~ (data.foldl crcByte 0xffffffff)

def headerForChecksum (bytes : ByteBuffer) : ByteBuffer :=
  overwrite bytes kOffsetHeaderCrc (List.replicate 4 0)

def fail (status : PacketDecodeStatus) (message : String) : PacketDecodeResult :=
  { status := status, message := message }

/-- `class PacketCodec`. -/
structure PacketCodec where
  options : PacketCodecOptions := {}
  deriving DecidableEq, Repr

namespace PacketCodec

/-- The first part of `PacketCodec::encode`: the fields before the two checksums, each written at
its offset.  The results of the writes are ignored, as in the source. -/
def writeHeader (bytes : ByteBuffer) (packet : PacketEnvelope) (payloadLength : UInt32) :
    ByteBuffer :=
  let bytes := (writeU32At bytes kOffsetMagic packetWireMagic).2
  let bytes := (writeU16At bytes kOffsetHeaderLength packetWireHeaderLength).2
  let bytes := (writeU16At bytes kOffsetProtocolMajor packet.protocolMajor).2
  let bytes := (writeU16At bytes kOffsetProtocolMinor packet.protocolMinor).2
  let bytes := (writeU16At bytes kOffsetChannelId packet.channelId).2
  let bytes := (writeU16At bytes kOffsetChannelType packet.channelType.raw).2
  let bytes := (writeU16At bytes kOffsetPacketType packet.packetType.raw).2
  let bytes := (writeU16At bytes kOffsetMessageKind packet.messageKind.raw).2
  let bytes := (writeU8At bytes kOffsetPriority packet.priority.raw).2
  let bytes := (writeU16At bytes kOffsetResponseStatus packet.responseStatus.raw).2
  let bytes := (writeU32At bytes kOffsetFlags packet.flags).2
  let bytes := (writeU64At bytes kOffsetSessionId packet.sessionId).2
  let bytes := (writeU64At bytes kOffsetTraceId packet.traceId).2
  let bytes := (writeU64At bytes kOffsetMessageId packet.messageId).2
  let bytes := (writeU64At bytes kOffsetCorrelationId packet.correlationId).2
  let bytes := (writeU64At bytes kOffsetResponseTo packet.responseTo).2
  let bytes := (writeU64At bytes kOffsetSequence packet.sequence).2
  let bytes := (writeU64At bytes kOffsetTimestamp packet.monotonicTimestampUsec).2
  let bytes := (writeU32At bytes kOffsetTimeout packet.timeoutMs).2
  (writeU32At bytes kOffsetPayloadLength payloadLength).2

/-- `PacketCodec::encode`. -/
def encode (_codec : PacketCodec) (packet : PacketEnvelope) : ByteBuffer :=
  let payloadLength : UInt32 := UInt32.ofNat packet.payload.length
  let bytes : ByteBuffer :=
    List.replicate (packetWireHeaderLength.toNat + packet.payload.length) 0
  let bytes := writeHeader bytes packet payloadLength
  -- `std::copy` of the payload behind the header
  let bytes := overwrite bytes packetWireHeaderLength.toNat packet.payload
  let bytes := (writeU32At bytes kOffsetPayloadCrc (crc32 packet.payload)).2
  let header := headerForChecksum (bytes.take packetWireHeaderLength.toNat)
  (writeU32At bytes kOffsetHeaderCrc (crc32 header)).2

/-- `PacketCodec::inspectFrame`. -/
def inspectFrame (codec : PacketCodec) (bytes : ByteBuffer) : PacketFrameInspection :=
  if bytes.length < packetWireHeaderLength.toNat then
    { status := .incomplete, message := "packet is shorter than header" }
  else if readU32 bytes kOffsetMagic ≠ packetWireMagic then
    { status := .invalidMagic, message := "packet magic mismatch" }
  else
    let headerLength := readU16 bytes kOffsetHeaderLength
    if headerLength ≠ packetWireHeaderLength then
      { status := .invalidHeaderLength, message := "unsupported packet header length" }
    else
      let protocolMajor := readU16 bytes kOffsetProtocolMajor
      if protocolMajor ≠ currentProtocolMajor then
        { status := .unsupportedVersion, message := "unsupported protocol major version" }
      else
        let payloadLength := readU32 bytes kOffsetPayloadLength
        if payloadLength.toNat > codec.options.maxPayloadBytes then
          { status := .payloadTooLarge, message := "payload exceeds codec limit" }
        else
          let frameSize := headerLength.toNat + payloadLength.toNat
          let complete := decide (bytes.length ≥ frameSize)
          { status := if complete then .ok else .incomplete
            frameSize := frameSize
            complete := complete
            message := if complete then "" else "packet payload is incomplete" }

/-- The packet `PacketCodec::decode` assembles once the checks on the header have passed. -/
def decodeFields (bytes payload : ByteBuffer) : PacketEnvelope where
  protocolMajor := readU16 bytes kOffsetProtocolMajor
  protocolMinor := readU16 bytes kOffsetProtocolMinor
  channelId := readU16 bytes kOffsetChannelId
  channelType := ⟨readU16 bytes kOffsetChannelType⟩
  packetType := ⟨readU16 bytes kOffsetPacketType⟩
  messageKind := ⟨readU16 bytes kOffsetMessageKind⟩
  priority := ⟨readU8 bytes kOffsetPriority⟩
  responseStatus := ⟨readU16 bytes kOffsetResponseStatus⟩
  flags := readU32 bytes kOffsetFlags
  sessionId := readU64 bytes kOffsetSessionId
  traceId := readU64 bytes kOffsetTraceId
  messageId := readU64 bytes kOffsetMessageId
  correlationId := readU64 bytes kOffsetCorrelationId
  responseTo := readU64 bytes kOffsetResponseTo
  sequence := readU64 bytes kOffsetSequence
  monotonicTimestampUsec := readU64 bytes kOffsetTimestamp
  timeoutMs := readU32 bytes kOffsetTimeout
  payload := payload

/-- The options `PacketCodec::decode` validates with: the codec's limit, defaults otherwise. -/
def validationOptions (codec : PacketCodec) : ProtocolValidationOptions :=
  { maxPayloadBytes := codec.options.maxPayloadBytes }

/-- The header checksum a buffer should carry. -/
def actualHeaderCrc (bytes : ByteBuffer) (headerLength : UInt16) : UInt32 :=
  crc32 (headerForChecksum (bytes.take headerLength.toNat))

/-- `PacketCodec::decode`. -/
def decode (codec : PacketCodec) (bytes : ByteBuffer) : PacketDecodeResult :=
  if bytes.length < packetWireHeaderLength.toNat then
    fail .incomplete "packet is shorter than header"
  else if readU32 bytes kOffsetMagic ≠ packetWireMagic then
    fail .invalidMagic "packet magic mismatch"
  else
    let headerLength := readU16 bytes kOffsetHeaderLength
    if headerLength ≠ packetWireHeaderLength then
      fail .invalidHeaderLength "unsupported packet header length"
    else if readU16 bytes kOffsetProtocolMajor ≠ currentProtocolMajor then
      fail .unsupportedVersion "unsupported protocol major version"
    else
      let payloadLength := readU32 bytes kOffsetPayloadLength
      if payloadLength.toNat > codec.options.maxPayloadBytes then
        fail .payloadTooLarge "payload exceeds codec limit"
      else if bytes.length ≠ headerLength.toNat + payloadLength.toNat then
        fail .lengthMismatch "packet length does not match payload length"
      else if codec.options.validateHeaderCrc ∧
          actualHeaderCrc bytes headerLength ≠
            readU32 (bytes.take headerLength.toNat) kOffsetHeaderCrc then
        fail .headerChecksumMismatch "header crc mismatch"
      else
        let payload := bytes.drop headerLength.toNat
        if codec.options.validatePayloadCrc ∧
            crc32 payload ≠ readU32 bytes kOffsetPayloadCrc then
          fail .payloadChecksumMismatch "payload crc mismatch"
        else
          let packet := decodeFields bytes payload
          let validation := validate codec.validationOptions packet
          if ¬ validation.valid then fail .validationFailed validation.message
          else { status := .ok, packet := packet }

end PacketCodec
end Protocol
end FusionDesk
