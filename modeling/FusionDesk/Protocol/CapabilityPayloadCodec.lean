import FusionDesk.Protocol.ByteIO
import FusionDesk.Protocol.Capabilities

/-!
# The capability payload codec

`CapabilityPayloadCodec` of `src/core/protocol/capability_negotiation.cpp`: the capabilities of a
peer as the payload of a packet.  A fixed part of 46 bytes is followed by three lists, each behind a
count of two bytes.

The readers of this file do not check bounds, so a read past the end would be an access outside the
vector.  Here it is `none`, and `decode` as a whole is `none` if one of its reads is.
-/

namespace FusionDesk
namespace Protocol
namespace CapabilityPayload

open BigEndian

def capabilityPayloadMagic : UInt32 := 0x46443243
def capabilityPayloadVersion : UInt16 := 1
def kMinimumPayloadSize : ℕ := 52
def kCapabilityFlagDirectTunnel : UInt16 := 0x0001

inductive CapabilityDecodeStatus
  | ok
  | incomplete
  | invalidMagic
  | unsupportedPayloadVersion
  | payloadTooLarge
  | malformed
  deriving DecidableEq, Repr

structure CapabilityDecodeResult where
  status : CapabilityDecodeStatus := .malformed
  capabilities : ProtocolCapabilities := {}
  message : String := ""
  deriving DecidableEq, Repr

def CapabilityDecodeResult.ok (result : CapabilityDecodeResult) : Bool :=
  result.status == .ok

structure CapabilityPayloadOptions where
  maxPayloadBytes : ℕ := 64 * 1024
  maxListItems : ℕ := 256
  deriving DecidableEq, Repr

/-- `class CapabilityPayloadCodec`. -/
structure CapabilityPayloadCodec where
  options : CapabilityPayloadOptions := {}
  deriving DecidableEq, Repr

/-! ## The functions of the source -/

def writeU16 (bytes : ByteBuffer) (value : UInt16) : ByteBuffer :=
  bytes ++ [((value >>> 8) &&& 0xff).toUInt8, (value &&& 0xff).toUInt8]

def writeU32 (bytes : ByteBuffer) (value : UInt32) : ByteBuffer :=
  bytes ++ [((value >>> 24) &&& 0xff).toUInt8, ((value >>> 16) &&& 0xff).toUInt8,
    ((value >>> 8) &&& 0xff).toUInt8, (value &&& 0xff).toUInt8]

def writeU64 (bytes : ByteBuffer) (value : UInt64) : ByteBuffer :=
  (List.range 8).foldl (fun bytes i =>
    bytes ++ [((value >>> UInt64.ofNat ((7 - i) * 8)) &&& 0xff).toUInt8]) bytes

def readU16 (bytes : ByteBuffer) (offset : ℕ) : Option UInt16 := do
  let b0 ← bytes[offset]?
  let b1 ← bytes[offset + 1]?
  return (b0.toUInt16 <<< 8) ||| b1.toUInt16

def readU32 (bytes : ByteBuffer) (offset : ℕ) : Option UInt32 := do
  let b0 ← bytes[offset]?
  let b1 ← bytes[offset + 1]?
  let b2 ← bytes[offset + 2]?
  let b3 ← bytes[offset + 3]?
  return (b0.toUInt32 <<< 24) ||| (b1.toUInt32 <<< 16) ||| (b2.toUInt32 <<< 8) ||| b3.toUInt32

def readU64 (bytes : ByteBuffer) (offset : ℕ) : Option UInt64 :=
  (List.range 8).foldlM (fun value i =>
    bytes[offset + i]?.map fun b => (value <<< 8) ||| b.toUInt64) 0

def decodeFail (status : CapabilityDecodeStatus) (message : String) : CapabilityDecodeResult :=
  { status := status, message := message }

section EnumLists

variable {α : Type}

/-- `writeEnumList`, with the cast of the enumeration to its underlying type. -/
def writeEnumList (raw : α → UInt16) (bytes : ByteBuffer) (values : List α) : ByteBuffer :=
  values.foldl (fun bytes value => writeU16 bytes (raw value))
    (writeU16 bytes (UInt16.ofNat values.length))

/-- The loop of `readEnumList`: the values, and the offset behind them. -/
def readValues (cast : UInt16 → α) (bytes : ByteBuffer) : ℕ → ℕ → Option (List α × ℕ)
  | 0, offset => some ([], offset)
  | count + 1, offset => do
    let value ← readU16 bytes offset
    let rest ← readValues cast bytes count (offset + 2)
    return (cast value :: rest.1, rest.2)

/-- `readEnumList`: the error, or the values and the offset behind the list. -/
def readEnumList (cast : UInt16 → α) (bytes : ByteBuffer) (maxListItems offset : ℕ) :
    Option (Except String (List α × ℕ)) :=
  if offset > bytes.length ∨ bytes.length - offset < 2 then
    some (.error "missing capability list length")
  else do
    let count ← readU16 bytes offset
    let offset := offset + 2
    if count.toNat > maxListItems then
      return .error "capability list exceeds decoder limit"
    else if (bytes.length - offset) / 2 < count.toNat then
      return .error "capability list is truncated"
    else
      let values ← readValues cast bytes count.toNat offset
      return .ok values

end EnumLists

/-- `CapabilityPayloadCodec::encode`. -/
def encode (_codec : CapabilityPayloadCodec) (capabilities : ProtocolCapabilities) : ByteBuffer :=
  let bytes := writeU32 [] capabilityPayloadMagic
  let bytes := writeU16 bytes capabilityPayloadVersion
  let bytes := writeU16 bytes capabilities.protocolMajor
  let bytes := writeU16 bytes capabilities.protocolMinor
  let bytes := writeU16 bytes
    (if capabilities.directTunnelSupported then kCapabilityFlagDirectTunnel else 0)
  let bytes := writeU64 bytes capabilities.features.bits
  let bytes := writeU32 bytes capabilities.limits.maxPayloadBytes
  let bytes := writeU32 bytes capabilities.limits.maxStreamChunkBytes
  let bytes := writeU32 bytes capabilities.limits.minRequestTimeoutMs
  let bytes := writeU32 bytes capabilities.limits.defaultRequestTimeoutMs
  let bytes := writeU32 bytes capabilities.limits.maxRequestTimeoutMs
  let bytes := writeU16 bytes capabilities.limits.maxChannels
  let bytes := writeU32 bytes capabilities.limits.maxPendingRequests
  let bytes := writeEnumList ChannelType.raw bytes capabilities.channelTypes
  let bytes := writeEnumList PacketType.raw bytes capabilities.packetTypes
  writeEnumList MessageKind.raw bytes capabilities.messageKinds

/-- The part of `decode` between the version and the lists: the capabilities without their lists,
and the offset behind. -/
def decodeFixed (payload : ByteBuffer) (offset : ℕ) : Option (ProtocolCapabilities × ℕ) := do
  let protocolMajor ← readU16 payload offset
  let offset := offset + 2
  let protocolMinor ← readU16 payload offset
  let offset := offset + 2
  let flags ← readU16 payload offset
  let offset := offset + 2
  let features ← readU64 payload offset
  let offset := offset + 8
  let maxPayloadBytes ← readU32 payload offset
  let offset := offset + 4
  let maxStreamChunkBytes ← readU32 payload offset
  let offset := offset + 4
  let minRequestTimeoutMs ← readU32 payload offset
  let offset := offset + 4
  let defaultRequestTimeoutMs ← readU32 payload offset
  let offset := offset + 4
  let maxRequestTimeoutMs ← readU32 payload offset
  let offset := offset + 4
  let maxChannels ← readU16 payload offset
  let offset := offset + 2
  let maxPendingRequests ← readU32 payload offset
  let offset := offset + 4
  return ({
    protocolMajor := protocolMajor
    protocolMinor := protocolMinor
    directTunnelSupported := flags &&& kCapabilityFlagDirectTunnel == kCapabilityFlagDirectTunnel
    features := ⟨features⟩
    limits := {
      maxPayloadBytes := maxPayloadBytes
      maxStreamChunkBytes := maxStreamChunkBytes
      minRequestTimeoutMs := minRequestTimeoutMs
      defaultRequestTimeoutMs := defaultRequestTimeoutMs
      maxRequestTimeoutMs := maxRequestTimeoutMs
      maxChannels := maxChannels
      maxPendingRequests := maxPendingRequests } }, offset)

/-- The end of `decode`: the three lists, and nothing behind them. -/
def decodeLists (codec : CapabilityPayloadCodec) (payload : ByteBuffer)
    (capabilities : ProtocolCapabilities) (offset : ℕ) : Option CapabilityDecodeResult := do
  match ← readEnumList ChannelType.mk payload codec.options.maxListItems offset with
  | .error error => return decodeFail .malformed error
  | .ok (channelTypes, offset) =>
    match ← readEnumList PacketType.mk payload codec.options.maxListItems offset with
    | .error error => return decodeFail .malformed error
    | .ok (packetTypes, offset) =>
      match ← readEnumList MessageKind.mk payload codec.options.maxListItems offset with
      | .error error => return decodeFail .malformed error
      | .ok (messageKinds, offset) =>
        if offset ≠ payload.length then
          return decodeFail .malformed "capability payload has trailing bytes"
        else
          return {
            status := .ok
            capabilities := { capabilities with
              channelTypes := channelTypes
              packetTypes := packetTypes
              messageKinds := messageKinds } }

/-- `CapabilityPayloadCodec::decode`. -/
def decode (codec : CapabilityPayloadCodec) (payload : ByteBuffer) :
    Option CapabilityDecodeResult :=
  if payload.length > codec.options.maxPayloadBytes then
    some (decodeFail .payloadTooLarge "capability payload exceeds decoder limit")
  else if payload.length < kMinimumPayloadSize then
    some (decodeFail .incomplete "capability payload is shorter than fixed header")
  else do
    let magic ← readU32 payload 0
    if magic ≠ capabilityPayloadMagic then
      return decodeFail .invalidMagic "capability payload magic mismatch"
    else
      let payloadVersion ← readU16 payload 4
      if payloadVersion ≠ capabilityPayloadVersion then
        return decodeFail .unsupportedPayloadVersion "unsupported capability payload version"
      else
        let fixed ← decodeFixed payload 6
        decodeLists codec payload fixed.1 fixed.2

end CapabilityPayload
end Protocol
end FusionDesk
