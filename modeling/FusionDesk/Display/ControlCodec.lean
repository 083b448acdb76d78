import FusionDesk.Display.Types
import FusionDesk.Protocol.ByteIO
import FusionDesk.Protocol.CapabilityPayloadRoundTrip

/-!
# The display control codec

`src/modules/display/display_control_codec.cpp`: the payload of a request for a key frame and of the
response to it, 20 bytes, big endian.  The functions that shift a number into bytes are those of the
capability payload, and those that read one are those of the packet codec.

* `decode_encode`: what is written is read back, if the operation and the reason are supported.
-/

namespace FusionDesk
namespace Display

open Protocol BigEndian

/-- `enum class DisplayControlOperation : std::uint16_t`. -/
structure DisplayControlOperation where
  raw : UInt16
  deriving DecidableEq, Repr

namespace DisplayControlOperation

def unknown : DisplayControlOperation := ⟨0⟩
def requestKeyframe : DisplayControlOperation := ⟨1⟩
def keyframeScheduled : DisplayControlOperation := ⟨2⟩

end DisplayControlOperation

/-- `enum class DisplayKeyframeReason : std::uint16_t`. -/
structure DisplayKeyframeReason where
  raw : UInt16
  deriving DecidableEq, Repr

namespace DisplayKeyframeReason

def unknown : DisplayKeyframeReason := ⟨0⟩
def firstFrameTimeout : DisplayKeyframeReason := ⟨1⟩
def decoderReset : DisplayKeyframeReason := ⟨2⟩
def frameGap : DisplayKeyframeReason := ⟨3⟩
def reconnect : DisplayKeyframeReason := ⟨4⟩
def manual : DisplayKeyframeReason := ⟨5⟩

end DisplayKeyframeReason

structure DisplayControlPayload where
  operation : DisplayControlOperation := .unknown
  reason : DisplayKeyframeReason := .unknown
  frameId : UInt64 := 0
  deriving DecidableEq, Repr

structure DisplayControlDecodeResult where
  ok : Bool := false
  payload : DisplayControlPayload := {}
  error : String := ""
  deriving DecidableEq, Repr

def displayControlMagic : UInt32 := 0x46445343
def displayControlVersion : UInt16 := 1
def displayControlPayloadSize : ℕ := 20

def supportedOperation (operation : DisplayControlOperation) : Bool :=
  operation == .requestKeyframe || operation == .keyframeScheduled

def supportedReason (reason : DisplayKeyframeReason) : Bool :=
  reason == .unknown || reason == .firstFrameTimeout || reason == .decoderReset ||
    reason == .frameGap || reason == .reconnect || reason == .manual

def encodeDisplayControlPayload (payload : DisplayControlPayload) : ByteBuffer :=
  let output := CapabilityPayload.writeU32 [] displayControlMagic
  let output := CapabilityPayload.writeU16 output displayControlVersion
  let output := CapabilityPayload.writeU16 output payload.operation.raw
  let output := CapabilityPayload.writeU16 output payload.reason.raw
  let output := CapabilityPayload.writeU16 output 0
  CapabilityPayload.writeU64 output payload.frameId

/-- A result with nothing but the error; `payload` is what has been read so far. -/
def DisplayControlDecodeResult.refused (payload : DisplayControlPayload) (error : String) :
    DisplayControlDecodeResult :=
  { payload := payload, error := error }

def decodeDisplayControlPayload (payload : ByteBuffer) : DisplayControlDecodeResult :=
  if payload.length ≠ displayControlPayloadSize then
    .refused {} "display control payload size is invalid"
  else
    match readU32At payload 0, readU16At payload 4, readU16At payload 6, readU16At payload 8,
        readU16At payload 10, readU64At payload 12 with
    | some magic, some version, some operation, some reason, some reserved, some frameId =>
      if magic ≠ displayControlMagic then
        .refused { frameId := frameId } "display control magic is invalid"
      else if version ≠ displayControlVersion then
        .refused { frameId := frameId } "display control version is unsupported"
      else if reserved ≠ 0 then
        .refused { frameId := frameId } "display control reserved field is not zero"
      else
        let result : DisplayControlPayload := ⟨⟨operation⟩, ⟨reason⟩, frameId⟩
        if supportedOperation result.operation = false then
          .refused result "display control operation is unsupported"
        else if supportedReason result.reason = false then
          .refused result "display control keyframe reason is unsupported"
        else { ok := true, payload := result }
    | _, _, _, _, _, _ => .refused {} "display control payload is truncated"

/-! ## Round trip -/

/-- The fields of a payload, in their order. -/
def controlFields (payload : DisplayControlPayload) : List ByteBuffer :=
  [beBytes 4 displayControlMagic.toNat, beBytes 2 displayControlVersion.toNat,
    beBytes 2 payload.operation.raw.toNat, beBytes 2 payload.reason.raw.toNat, beBytes 2 0,
    beBytes 8 payload.frameId.toNat]

theorem encodeDisplayControlPayload_eq (payload : DisplayControlPayload) :
    encodeDisplayControlPayload payload = (controlFields payload).flatten := by
  simp only [encodeDisplayControlPayload, CapabilityPayload.writeU16_eq,
    CapabilityPayload.writeU32_eq, CapabilityPayload.writeU64_eq, controlFields, List.flatten_cons,
    List.flatten_nil, List.append_assoc, List.nil_append, List.append_nil]
  rfl

@[simp] theorem length_encodeDisplayControlPayload (payload : DisplayControlPayload) :
    (encodeDisplayControlPayload payload).length = displayControlPayloadSize := by
  simp [encodeDisplayControlPayload_eq, controlFields, displayControlPayloadSize]

/-- The bytes of a field stand at its offset. -/
theorem slice_encodeDisplayControlPayload (payload : DisplayControlPayload) (i off : ℕ)
    {n : ℕ} {field : ByteBuffer} (hfield : (controlFields payload)[i]? = some field)
    (hoff : (((controlFields payload).take i).flatten).length = off) (hn : field.length = n) :
    slice (encodeDisplayControlPayload payload) off n = field := by
  have hslice := slice_flatten [] hfield hoff hn
  rwa [List.append_nil, ← encodeDisplayControlPayload_eq] at hslice

/-- **What is written is read back**, if the operation and the reason are supported. -/
theorem decode_encode {payload : DisplayControlPayload}
    (hoperation : supportedOperation payload.operation = true)
    (hreason : supportedReason payload.reason = true) :
    decodeDisplayControlPayload (encodeDisplayControlPayload payload) =
      { ok := true, payload := payload } := by
  have hlength := length_encodeDisplayControlPayload payload
  have hsize : displayControlPayloadSize = 20 := rfl
  have hmagic : readU32At (encodeDisplayControlPayload payload) 0 = some displayControlMagic := by
    rw [readU32At_eq (by omega), slice_encodeDisplayControlPayload payload 0 0 rfl rfl
      (length_beBytes _ _)]
    rfl
  have hversion : readU16At (encodeDisplayControlPayload payload) 4 =
      some displayControlVersion := by
    rw [readU16At_eq (by omega), slice_encodeDisplayControlPayload payload 1 4 rfl rfl
      (length_beBytes _ _)]
    rfl
  have hop : readU16At (encodeDisplayControlPayload payload) 6 =
      some payload.operation.raw := by
    rw [readU16At_eq (by omega), slice_encodeDisplayControlPayload payload 2 6 rfl rfl
      (length_beBytes _ _), beNat_beBytes_of_lt payload.operation.raw.toNat_lt,
      UInt16.ofNat_toNat]
  have hwhy : readU16At (encodeDisplayControlPayload payload) 8 = some payload.reason.raw := by
    rw [readU16At_eq (by omega), slice_encodeDisplayControlPayload payload 3 8 rfl rfl
      (length_beBytes _ _), beNat_beBytes_of_lt payload.reason.raw.toNat_lt, UInt16.ofNat_toNat]
  have hreserved : readU16At (encodeDisplayControlPayload payload) 10 = some 0 := by
    rw [readU16At_eq (by omega), slice_encodeDisplayControlPayload payload 4 10 rfl rfl
      (length_beBytes _ _)]
    rfl
  have hframe : readU64At (encodeDisplayControlPayload payload) 12 = some payload.frameId := by
    rw [readU64At_eq (by omega), slice_encodeDisplayControlPayload payload 5 12 rfl rfl
      (length_beBytes _ _), beNat_beBytes_of_lt payload.frameId.toNat_lt, UInt64.ofNat_toNat]
  simp [decodeDisplayControlPayload, hlength, hmagic, hversion, hop, hwhy, hreserved, hframe,
    hoperation, hreason]

end Display
end FusionDesk
