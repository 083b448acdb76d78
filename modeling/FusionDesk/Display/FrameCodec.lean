import FusionDesk.Display.Types
import FusionDesk.Protocol.ByteIO
import FusionDesk.Protocol.CapabilityPayloadRoundTrip

/-!
# The raw frame codec

`src/modules/display/display_frame_codec.cpp`: a captured frame as a header of 40 bytes, big endian,
and the pixels behind it.  The functions that shift a number into bytes are those of the capability
payload, and those that read one are those of the packet codec.

* `decode_encodeRawFrame`: what the encoder writes the decoder reads back.
* `geometry_of_decodeRawFramePayload`: the rows of a frame that is accepted are inside its pixels.
-/

namespace FusionDesk
namespace Display

open Protocol BigEndian

structure RawFrameDecodeResult where
  ok : Bool := false
  error : String := ""
  frame : DecodedFrame := {}
  deriving DecidableEq, Repr

def rawFrameMagic : UInt32 := 0x46445246
def rawFrameVersion : UInt16 := 1
def rawFrameHeaderSize : UInt16 := 40
def rawFrameFlagKeyFrame : UInt16 := 0x0001

def bytesPerPixel (format : DisplayPixelFormat) : ℕ :=
  if format = .bgra32 ∨ format = .rgba32 then 4
  else if format = .rgb24 then 3
  else if format = .gray8 then 1
  else 0

/-- `validateRawFrameGeometry`: its error, if it is not satisfied.  The products fit in the 64 bits
they are computed in. -/
def validateRawFrameGeometry (width height strideBytes : UInt32) (pixelFormat : DisplayPixelFormat)
    (pixelBytes : ℕ) : Option String :=
  if width = 0 ∨ height = 0 then some "raw frame width and height are required"
  else if bytesPerPixel pixelFormat = 0 then some "raw frame pixel format is unsupported"
  else if strideBytes.toNat < width.toNat * bytesPerPixel pixelFormat then
    some "raw frame stride is smaller than width * bytesPerPixel"
  else if strideBytes.toNat * height.toNat > pixelBytes then
    some "raw frame payload is shorter than stride * height"
  else none

/-- What `encodeRawFramePayload` asks of a frame. -/
def CapturedFrame.geometryError (frame : CapturedFrame) : Option String :=
  validateRawFrameGeometry frame.width frame.height frame.strideBytes frame.pixelFormat
    frame.pixels.length

def encodeRawFramePayload (frame : CapturedFrame) : ByteBuffer :=
  if frame.geometryError.isSome then []
  else
    let output := CapabilityPayload.writeU32 [] rawFrameMagic
    let output := CapabilityPayload.writeU16 output rawFrameVersion
    let output := CapabilityPayload.writeU16 output rawFrameHeaderSize
    let output := CapabilityPayload.writeU64 output frame.frameId
    let output := CapabilityPayload.writeU64 output frame.monotonicTimestampUsec
    let output := CapabilityPayload.writeU32 output frame.width
    let output := CapabilityPayload.writeU32 output frame.height
    let output := CapabilityPayload.writeU32 output frame.strideBytes
    let output := CapabilityPayload.writeU16 output frame.pixelFormat.raw
    let output := CapabilityPayload.writeU16 output
      (if frame.keyFrame then rawFrameFlagKeyFrame else 0)
    output ++ frame.pixels

/-- A result with nothing but the error; `frame` is what has been read so far. -/
def RawFrameDecodeResult.refused (frame : DecodedFrame) (error : String) : RawFrameDecodeResult :=
  { error := error, frame := frame }

/-- The part of `decodeRawFramePayload` behind the header's own fields. -/
def decodeRawFrameMetadata (payload : ByteBuffer) : RawFrameDecodeResult :=
  match readU64At payload 8, readU64At payload 16, readU32At payload 24, readU32At payload 28,
      readU32At payload 32, readU16At payload 36, readU16At payload 38 with
  | some frameId, some timestamp, some width, some height, some strideBytes, some pixelFormat,
      some flags =>
    let frame : DecodedFrame := {
      frameId := frameId
      keyFrame := flags &&& rawFrameFlagKeyFrame != 0
      width := width
      height := height
      strideBytes := strideBytes
      pixelFormat := ⟨pixelFormat⟩
      monotonicTimestampUsec := timestamp }
    match validateRawFrameGeometry width height strideBytes ⟨pixelFormat⟩
        (payload.length - rawFrameHeaderSize.toNat) with
    | some error => .refused frame error
    | none =>
      { ok := true
        frame := { frame with pixels := payload.drop rawFrameHeaderSize.toNat } }
  | _, _, _, _, _, _, _ => .refused {} "raw frame metadata is truncated"

def decodeRawFramePayload (payload : ByteBuffer) : RawFrameDecodeResult :=
  if payload.length < rawFrameHeaderSize.toNat then
    .refused {} "raw frame payload is smaller than header"
  else
    match readU32At payload 0, readU16At payload 4, readU16At payload 6 with
    | some magic, some version, some headerSize =>
      if magic ≠ rawFrameMagic then .refused {} "raw frame magic is invalid"
      else if version ≠ rawFrameVersion then .refused {} "raw frame version is unsupported"
      else if headerSize ≠ rawFrameHeaderSize ∨ headerSize.toNat > payload.length then
        .refused {} "raw frame header size is invalid"
      else decodeRawFrameMetadata payload
    | _, _, _ => .refused {} "raw frame header is truncated"

/-- `class RawFrameEncoder`. -/
structure RawFrameEncoder where
  deriving DecidableEq, Repr

instance : IVideoEncoder RawFrameEncoder where
  encode encoder frame :=
    ({ frameId := frame.frameId
       keyFrame := frame.keyFrame
       width := frame.width
       height := frame.height
       strideBytes := frame.strideBytes
       pixelFormat := frame.pixelFormat
       monotonicTimestampUsec := frame.monotonicTimestampUsec
       payload := encodeRawFramePayload frame }, encoder)

/-- `class RawFrameDecoder`. -/
structure RawFrameDecoder where
  deriving DecidableEq, Repr

instance : IVideoDecoder RawFrameDecoder where
  decode decoder frame :=
    let decoded := decodeRawFramePayload frame.payload
    (if decoded.ok then decoded.frame else {}, decoder)

/-! ## Round trip -/

/-- The frame that is read back. -/
def CapturedFrame.asDecoded (frame : CapturedFrame) : DecodedFrame where
  frameId := frame.frameId
  keyFrame := frame.keyFrame
  width := frame.width
  height := frame.height
  strideBytes := frame.strideBytes
  pixelFormat := frame.pixelFormat
  monotonicTimestampUsec := frame.monotonicTimestampUsec
  pixels := frame.pixels

/-- The fields of the header, in their order. -/
def rawFrameFields (frame : CapturedFrame) : List ByteBuffer :=
  [beBytes 4 rawFrameMagic.toNat, beBytes 2 rawFrameVersion.toNat,
    beBytes 2 rawFrameHeaderSize.toNat, beBytes 8 frame.frameId.toNat,
    beBytes 8 frame.monotonicTimestampUsec.toNat, beBytes 4 frame.width.toNat,
    beBytes 4 frame.height.toNat, beBytes 4 frame.strideBytes.toNat,
    beBytes 2 frame.pixelFormat.raw.toNat,
    beBytes 2 (if frame.keyFrame then rawFrameFlagKeyFrame else 0).toNat]

theorem length_rawFrameFields (frame : CapturedFrame) :
    (rawFrameFields frame).flatten.length = rawFrameHeaderSize.toNat := by
  simp [rawFrameFields, rawFrameHeaderSize]

theorem encodeRawFramePayload_eq {frame : CapturedFrame} (hvalid : frame.geometryError = none) :
    encodeRawFramePayload frame = (rawFrameFields frame).flatten ++ frame.pixels := by
  rw [encodeRawFramePayload, hvalid, Option.isSome_none, if_neg Bool.false_ne_true]
  simp only [CapabilityPayload.writeU16_eq, CapabilityPayload.writeU32_eq,
    CapabilityPayload.writeU64_eq, rawFrameFields, List.flatten_cons, List.flatten_nil,
    List.append_assoc, List.nil_append]

theorem geometryError_of_encodeRawFramePayload {frame : CapturedFrame}
    (hpayload : encodeRawFramePayload frame ≠ []) : frame.geometryError = none := by
  rcases herror : frame.geometryError with _ | error
  · rfl
  · exact absurd (by rw [encodeRawFramePayload, herror]; rfl) hpayload

section RoundTrip

variable {frame : CapturedFrame} (hvalid : frame.geometryError = none)

include hvalid

theorem length_encodeRawFramePayload :
    (encodeRawFramePayload frame).length = rawFrameHeaderSize.toNat + frame.pixels.length := by
  rw [encodeRawFramePayload_eq hvalid, List.length_append, length_rawFrameFields]

/-- The bytes of a field stand at its offset. -/
theorem slice_encodeRawFramePayload (i off : ℕ) {n : ℕ} {field : ByteBuffer}
    (hfield : (rawFrameFields frame)[i]? = some field)
    (hoff : (((rawFrameFields frame).take i).flatten).length = off) (hn : field.length = n) :
    slice (encodeRawFramePayload frame) off n = field := by
  rw [encodeRawFramePayload_eq hvalid]
  exact slice_flatten frame.pixels hfield hoff hn

theorem readU16At_encodeRawFramePayload (i off : ℕ) {value : UInt16}
    (hfield : (rawFrameFields frame)[i]? = some (beBytes 2 value.toNat))
    (hoff : (((rawFrameFields frame).take i).flatten).length = off) (hin : off + 2 ≤ 40) :
    readU16At (encodeRawFramePayload frame) off = some value := by
  have hlength := length_encodeRawFramePayload hvalid
  have hsize : rawFrameHeaderSize.toNat = 40 := rfl
  rw [readU16At_eq (by omega), slice_encodeRawFramePayload hvalid i off hfield hoff
    (length_beBytes _ _), beNat_beBytes_of_lt value.toNat_lt, UInt16.ofNat_toNat]

theorem readU32At_encodeRawFramePayload (i off : ℕ) {value : UInt32}
    (hfield : (rawFrameFields frame)[i]? = some (beBytes 4 value.toNat))
    (hoff : (((rawFrameFields frame).take i).flatten).length = off) (hin : off + 4 ≤ 40) :
    readU32At (encodeRawFramePayload frame) off = some value := by
  have hlength := length_encodeRawFramePayload hvalid
  have hsize : rawFrameHeaderSize.toNat = 40 := rfl
  rw [readU32At_eq (by omega), slice_encodeRawFramePayload hvalid i off hfield hoff
    (length_beBytes _ _), beNat_beBytes_of_lt value.toNat_lt, UInt32.ofNat_toNat]

theorem readU64At_encodeRawFramePayload (i off : ℕ) {value : UInt64}
    (hfield : (rawFrameFields frame)[i]? = some (beBytes 8 value.toNat))
    (hoff : (((rawFrameFields frame).take i).flatten).length = off) (hin : off + 8 ≤ 40) :
    readU64At (encodeRawFramePayload frame) off = some value := by
  have hlength := length_encodeRawFramePayload hvalid
  have hsize : rawFrameHeaderSize.toNat = 40 := rfl
  rw [readU64At_eq (by omega), slice_encodeRawFramePayload hvalid i off hfield hoff
    (length_beBytes _ _), beNat_beBytes_of_lt value.toNat_lt, UInt64.ofNat_toNat]

/-- The metadata are read back. -/
theorem decodeRawFrameMetadata_encode :
    decodeRawFrameMetadata (encodeRawFramePayload frame) =
      { ok := true, frame := frame.asDecoded } := by
  have hlength := length_encodeRawFramePayload hvalid
  have hpixels : (encodeRawFramePayload frame).drop rawFrameHeaderSize.toNat = frame.pixels := by
    rw [encodeRawFramePayload_eq hvalid, ← length_rawFrameFields frame, List.drop_left]
  have hgeometry : validateRawFrameGeometry frame.width frame.height frame.strideBytes
      frame.pixelFormat frame.pixels.length = none := hvalid
  have hkey : ((if frame.keyFrame then rawFrameFlagKeyFrame else 0) &&& rawFrameFlagKeyFrame != 0) =
      frame.keyFrame := by
    cases frame.keyFrame <;> rfl
  have hframe := readU64At_encodeRawFramePayload hvalid 3 8 rfl (by simp [rawFrameFields])
    (by omega)
  have htime := readU64At_encodeRawFramePayload hvalid 4 16 rfl (by simp [rawFrameFields])
    (by omega)
  have hwidth := readU32At_encodeRawFramePayload hvalid 5 24 rfl (by simp [rawFrameFields])
    (by omega)
  have hheight := readU32At_encodeRawFramePayload hvalid 6 28 rfl (by simp [rawFrameFields])
    (by omega)
  have hstride := readU32At_encodeRawFramePayload hvalid 7 32 rfl (by simp [rawFrameFields])
    (by omega)
  have hformat := readU16At_encodeRawFramePayload hvalid 8 36 rfl (by simp [rawFrameFields])
    (by omega)
  have hflags := readU16At_encodeRawFramePayload hvalid 9 38 rfl (by simp [rawFrameFields])
    (by omega)
  rw [decodeRawFrameMetadata, hframe, htime, hwidth, hheight, hstride, hformat, hflags]
  simp only [hlength, Nat.add_sub_cancel_left, hgeometry, hpixels, hkey]
  rfl

/-- **What the encoder writes is read back**, but for the source's id, which is not written. -/
theorem decode_encodeRawFrame :
    decodeRawFramePayload (encodeRawFramePayload frame) =
      { ok := true, frame := frame.asDecoded } := by
  have hlength := length_encodeRawFramePayload hvalid
  have hmagic : readU32At (encodeRawFramePayload frame) 0 = some rawFrameMagic :=
    readU32At_encodeRawFramePayload hvalid 0 0 rfl rfl (by omega)
  have hversion : readU16At (encodeRawFramePayload frame) 4 = some rawFrameVersion :=
    readU16At_encodeRawFramePayload hvalid 1 4 rfl (by simp [rawFrameFields]) (by omega)
  have hheader : readU16At (encodeRawFramePayload frame) 6 = some rawFrameHeaderSize :=
    readU16At_encodeRawFramePayload hvalid 2 6 rfl (by simp [rawFrameFields]) (by omega)
  rw [decodeRawFramePayload, if_neg (by omega), hmagic, hversion, hheader]
  simp only [ne_eq, not_true_eq_false, if_false, false_or, hlength]
  rw [if_neg (by omega), decodeRawFrameMetadata_encode hvalid]

end RoundTrip

/-! ## Accepted buffers -/

/-- **A frame whose rows are inside its pixels.** -/
structure FrameGeometry (frame : DecodedFrame) : Prop where
  stride : frame.width.toNat * bytesPerPixel frame.pixelFormat ≤ frame.strideBytes.toNat
  pixels : frame.strideBytes.toNat * frame.height.toNat ≤ frame.pixels.length

theorem validateRawFrameGeometry_eq_none {width height strideBytes : UInt32}
    {pixelFormat : DisplayPixelFormat} {pixelBytes : ℕ}
    (h : validateRawFrameGeometry width height strideBytes pixelFormat pixelBytes = none) :
    width.toNat * bytesPerPixel pixelFormat ≤ strideBytes.toNat ∧
      strideBytes.toNat * height.toNat ≤ pixelBytes := by
  rw [validateRawFrameGeometry] at h
  split_ifs at h with hsize hformat hstride hpixels
  exact ⟨not_lt.mp hstride, not_lt.mp hpixels⟩

theorem geometry_of_decodeRawFrameMetadata {payload : ByteBuffer}
    (hok : (decodeRawFrameMetadata payload).ok = true) :
    FrameGeometry (decodeRawFrameMetadata payload).frame := by
  unfold decodeRawFrameMetadata at hok ⊢
  split at hok
  next frameId timestamp width height strideBytes pixelFormat flags _ _ _ _ _ _ _ =>
    dsimp only at hok ⊢
    cases hgeometry : validateRawFrameGeometry width height strideBytes ⟨pixelFormat⟩
        (payload.length - rawFrameHeaderSize.toNat) with
    | some error =>
      rw [hgeometry] at hok
      cases hok
    | none =>
      obtain ⟨hstride, hpixels⟩ := validateRawFrameGeometry_eq_none hgeometry
      refine ⟨hstride, ?_⟩
      show _ ≤ (payload.drop rawFrameHeaderSize.toNat).length
      rwa [List.length_drop]
  · cases hok

/-- **A frame that is accepted has its rows inside its pixels**, whatever the buffer is. -/
theorem geometry_of_decodeRawFramePayload {payload : ByteBuffer}
    (hok : (decodeRawFramePayload payload).ok = true) :
    FrameGeometry (decodeRawFramePayload payload).frame := by
  unfold decodeRawFramePayload at hok ⊢
  split at hok
  · cases hok
  next hsize =>
  rw [if_neg hsize]
  split at hok
  next magic version headerSize _ _ _ =>
    split at hok
    · cases hok
    next hmagic =>
    split at hok
    · cases hok
    next hversion =>
    split at hok
    · cases hok
    next hheader =>
    rw [if_neg hmagic, if_neg hversion, if_neg hheader]
    exact geometry_of_decodeRawFrameMetadata hok
  · cases hok

end Display
end FusionDesk
