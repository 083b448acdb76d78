import FusionDesk.Display.FrameCodec
import FusionDesk.Protocol.PayloadFields

/-!
# The encoded video payload

`src/modules/display/display_encoded_video_payload.cpp`: an encoded frame as a header of 64 bytes, big
endian, with a sequence header and a bitstream behind it.  The functions that append a number or read
one are those of the control payloads.

The decoder cuts the two sections out with iterators.  Where the first is behind the second there is
no result at all (`assignRange`).

* `decode_encodeDisplayEncodedVideoPayload`: what is written is read back, unless the sequence header
  is so long that the place where it ends does not fit into 32 bits.
* `Sections`: what an accepted buffer is made of.
* `displayPayloads_roundTrip`: both payloads of the display.
-/

namespace FusionDesk
namespace Display

open Protocol PayloadFields ByteReader Reader BigEndian

/-- `enum class DisplayEncodedVideoCodec : std::uint16_t`. -/
structure DisplayEncodedVideoCodec where
  raw : UInt16
  deriving DecidableEq, Repr

namespace DisplayEncodedVideoCodec

def unknown : DisplayEncodedVideoCodec := ⟨0⟩
def h264 : DisplayEncodedVideoCodec := ⟨2⟩
def h265 : DisplayEncodedVideoCodec := ⟨3⟩
def av1 : DisplayEncodedVideoCodec := ⟨4⟩

end DisplayEncodedVideoCodec

/-- `enum class DisplayEncodedVideoBitstreamFormat : std::uint16_t`. -/
structure DisplayEncodedVideoBitstreamFormat where
  raw : UInt16
  deriving DecidableEq, Repr

namespace DisplayEncodedVideoBitstreamFormat

def unknown : DisplayEncodedVideoBitstreamFormat := ⟨0⟩
def annexB : DisplayEncodedVideoBitstreamFormat := ⟨1⟩
def avcc : DisplayEncodedVideoBitstreamFormat := ⟨2⟩

end DisplayEncodedVideoBitstreamFormat

structure DisplayEncodedVideoPayload where
  codec : DisplayEncodedVideoCodec := .unknown
  bitstreamFormat : DisplayEncodedVideoBitstreamFormat := .unknown
  frame : EncodedFrame := {}
  codedWidth : UInt32 := 0
  codedHeight : UInt32 := 0
  visibleWidth : UInt32 := 0
  visibleHeight : UInt32 := 0
  sequenceHeader : ByteBuffer := []
  bitstream : ByteBuffer := []
  deriving DecidableEq, Repr

structure DisplayEncodedVideoPayloadDecodeResult where
  ok : Bool := false
  payload : DisplayEncodedVideoPayload := {}
  error : String := ""
  deriving DecidableEq, Repr

def encodedVideoMagic : UInt32 := 0x46445346
def encodedVideoVersion : UInt16 := 1
def encodedVideoHeaderSize : UInt16 := 64
def encodedVideoFlagKeyFrame : UInt16 := 0x0001

def isKnownCodec (codec : DisplayEncodedVideoCodec) : Bool :=
  codec == .h264 || codec == .h265 || codec == .av1

def isKnownBitstreamFormat (format : DisplayEncodedVideoBitstreamFormat) : Bool :=
  format == .annexB || format == .avcc

def normalizedPayload (payload : DisplayEncodedVideoPayload) : DisplayEncodedVideoPayload :=
  { payload with
    codedWidth := if payload.codedWidth = 0 then payload.frame.width else payload.codedWidth
    codedHeight := if payload.codedHeight = 0 then payload.frame.height else payload.codedHeight
    visibleWidth := if payload.visibleWidth = 0 then payload.frame.width else payload.visibleWidth
    visibleHeight :=
      if payload.visibleHeight = 0 then payload.frame.height else payload.visibleHeight }

/-- `validateMetadata`: its error, if it is not satisfied. -/
def validateMetadata (payload : DisplayEncodedVideoPayload) : Option String :=
  if isKnownCodec payload.codec = false then some "encoded video codec is unsupported"
  else if isKnownBitstreamFormat payload.bitstreamFormat = false then
    some "encoded video bitstream format is unsupported"
  else if payload.codedWidth = 0 ∨ payload.codedHeight = 0 ∨ payload.visibleWidth = 0 ∨
      payload.visibleHeight = 0 then
    some "encoded video coded and visible dimensions are required"
  else if payload.frame.width = 0 ∨ payload.frame.height = 0 ∨
      payload.frame.width ≠ payload.visibleWidth ∨
      payload.frame.height ≠ payload.visibleHeight then
    some "encoded video frame dimensions must match visible dimensions"
  else if payload.frame.strideBytes = 0 then some "encoded video decoded stride is required"
  else if payload.frame.pixelFormat = .unknown then
    some "encoded video decoded pixel format is required"
  else if payload.bitstream = [] then some "encoded video bitstream is required"
  else if payload.sequenceHeader.length > 0xffffffff ∨ payload.bitstream.length > 0xffffffff then
    some "encoded video payload section is too large"
  else none

def encodeDisplayEncodedVideoPayload (payload : DisplayEncodedVideoPayload) : ByteBuffer :=
  let normalized := normalizedPayload payload
  if (validateMetadata normalized).isSome then []
  else
    let output := appendU32 [] encodedVideoMagic
    let output := appendU16 output encodedVideoVersion
    let output := appendU16 output encodedVideoHeaderSize
    let output := appendU16 output normalized.codec.raw
    let output := appendU16 output normalized.bitstreamFormat.raw
    let output := appendU16 output normalized.frame.pixelFormat.raw
    let output := appendU16 output
      (if normalized.frame.keyFrame then encodedVideoFlagKeyFrame else 0)
    let output := appendU64 output normalized.frame.frameId
    let output := appendU64 output normalized.frame.monotonicTimestampUsec
    let output := appendU32 output normalized.codedWidth
    let output := appendU32 output normalized.codedHeight
    let output := appendU32 output normalized.visibleWidth
    let output := appendU32 output normalized.visibleHeight
    let output := appendU32 output normalized.frame.strideBytes
    let output := appendU32 output (UInt32.ofNat normalized.sequenceHeader.length)
    let output := appendU32 output (UInt32.ofNat normalized.bitstream.length)
    let output := appendU32 output 0
    output ++ normalized.sequenceHeader ++ normalized.bitstream

/-! ## The decoder -/

/-- What the decoder reads before it looks at anything. -/
structure EncodedVideoHeader where
  magic : UInt32
  version : UInt16
  headerSize : UInt16
  codecValue : UInt16
  bitstreamFormatValue : UInt16
  pixelFormatValue : UInt16
  flags : UInt16
  frameId : UInt64
  monotonicTimestampUsec : UInt64
  codedWidth : UInt32
  codedHeight : UInt32
  visibleWidth : UInt32
  visibleHeight : UInt32
  strideBytes : UInt32
  sequenceHeaderBytes : UInt32
  bitstreamBytes : UInt32
  reserved32 : UInt32
  deriving DecidableEq, Repr

def readEncodedVideoHeader : Reader Unit EncodedVideoHeader := do
  let magic ← readU32
  let version ← readU16
  let headerSize ← readU16
  let codecValue ← readU16
  let bitstreamFormatValue ← readU16
  let pixelFormatValue ← readU16
  let flags ← readU16
  let frameId ← readU64
  let monotonicTimestampUsec ← readU64
  let codedWidth ← readU32
  let codedHeight ← readU32
  let visibleWidth ← readU32
  let visibleHeight ← readU32
  let strideBytes ← readU32
  let sequenceHeaderBytes ← readU32
  let bitstreamBytes ← readU32
  let reserved32 ← readU32
  return {
    magic := magic
    version := version
    headerSize := headerSize
    codecValue := codecValue
    bitstreamFormatValue := bitstreamFormatValue
    pixelFormatValue := pixelFormatValue
    flags := flags
    frameId := frameId
    monotonicTimestampUsec := monotonicTimestampUsec
    codedWidth := codedWidth
    codedHeight := codedHeight
    visibleWidth := visibleWidth
    visibleHeight := visibleHeight
    strideBytes := strideBytes
    sequenceHeaderBytes := sequenceHeaderBytes
    bitstreamBytes := bitstreamBytes
    reserved32 := reserved32 }

namespace EncodedVideoHeader

/-- The fields that are read into the result. -/
def readInto (header : EncodedVideoHeader) : DisplayEncodedVideoPayload where
  frame := {
    frameId := header.frameId
    strideBytes := header.strideBytes
    monotonicTimestampUsec := header.monotonicTimestampUsec }
  codedWidth := header.codedWidth
  codedHeight := header.codedHeight
  visibleWidth := header.visibleWidth
  visibleHeight := header.visibleHeight

/-- The payload without its sections. -/
def described (header : EncodedVideoHeader) : DisplayEncodedVideoPayload :=
  { header.readInto with
    codec := ⟨header.codecValue⟩
    bitstreamFormat := ⟨header.bitstreamFormatValue⟩
    frame := { header.readInto.frame with
      pixelFormat := ⟨header.pixelFormatValue⟩
      keyFrame := header.flags &&& encodedVideoFlagKeyFrame != 0
      width := header.visibleWidth
      height := header.visibleHeight } }

/-- `metadata`: the payload with its sections. -/
def metadata (header : EncodedVideoHeader) (sequenceHeader bitstream : ByteBuffer) :
    DisplayEncodedVideoPayload :=
  { header.described with
    sequenceHeader := sequenceHeader
    bitstream := bitstream }

/-- `headerSize + sequenceHeaderBytes`, a sum of 32 bits. -/
def bitstreamOffset (header : EncodedVideoHeader) : UInt32 :=
  header.headerSize.toUInt32 + header.sequenceHeaderBytes

/-- `expectedSize`, a sum of 64 bits, which it fits in. -/
def expectedSize (header : EncodedVideoHeader) : ℕ :=
  header.headerSize.toNat + header.sequenceHeaderBytes.toNat + header.bitstreamBytes.toNat

/-- The error that the header has on its own. -/
def error (header : EncodedVideoHeader) (size : ℕ) : Option String :=
  if header.magic ≠ encodedVideoMagic then some "encoded video magic is invalid"
  else if header.version ≠ encodedVideoVersion then some "encoded video version is unsupported"
  else if header.headerSize ≠ encodedVideoHeaderSize ∨ header.headerSize.toNat > size then
    some "encoded video header size is invalid"
  else if header.reserved32 ≠ 0 then some "encoded video reserved fields must be zero"
  else if header.expectedSize ≠ size then
    some "encoded video payload section sizes are invalid"
  else none

end EncodedVideoHeader

/-- `assign(begin() + first, begin() + last)`.  Nothing is said of what happens where this is not a
range of the buffer. -/
def assignRange (input : ByteBuffer) (first last : ℕ) : Option ByteBuffer :=
  if first ≤ last ∧ last ≤ input.length then some (slice input first (last - first)) else none

/-- The part behind the header. -/
def decodeSections (header : EncodedVideoHeader) (payload : ByteBuffer) :
    Option DisplayEncodedVideoPayloadDecodeResult := do
  let sequenceHeader ←
    assignRange payload header.headerSize.toNat header.bitstreamOffset.toNat
  let bitstream ← assignRange payload header.bitstreamOffset.toNat payload.length
  let metadata := header.metadata sequenceHeader bitstream
  match validateMetadata metadata with
  | some error => return { payload := header.described, error := error }
  | none =>
    return {
      ok := true
      payload := { metadata with frame := { metadata.frame with payload := metadata.bitstream } } }

def decodeDisplayEncodedVideoPayload (payload : ByteBuffer) :
    Option DisplayEncodedVideoPayloadDecodeResult :=
  if payload.length < encodedVideoHeaderSize.toNat then
    some { error := "encoded video payload is smaller than header" }
  else
    match readEncodedVideoHeader.outcome payload with
    | .error _ => some { error := "encoded video header is truncated" }
    | .ok (header, _) =>
      match header.error payload.length with
      | some error => some { payload := header.readInto, error := error }
      | none => decodeSections header payload

/-! ## The header -/

/-- The bytes of a header. -/
def headerBytes (header : EncodedVideoHeader) : ByteBuffer :=
  u32Bytes header.magic ++ (u16Bytes header.version ++ (u16Bytes header.headerSize ++
    (u16Bytes header.codecValue ++ (u16Bytes header.bitstreamFormatValue ++
    (u16Bytes header.pixelFormatValue ++ (u16Bytes header.flags ++ (u64Bytes header.frameId ++
    (u64Bytes header.monotonicTimestampUsec ++ (u32Bytes header.codedWidth ++
    (u32Bytes header.codedHeight ++ (u32Bytes header.visibleWidth ++
    (u32Bytes header.visibleHeight ++ (u32Bytes header.strideBytes ++
    (u32Bytes header.sequenceHeaderBytes ++ (u32Bytes header.bitstreamBytes ++
    u32Bytes header.reserved32)))))))))))))))

theorem length_headerBytes (header : EncodedVideoHeader) : (headerBytes header).length = 64 := by
  simp [headerBytes]

/-- A header that is written is read. -/
theorem reads_readEncodedVideoHeader (header : EncodedVideoHeader) (rest : ByteBuffer) :
    Reads readEncodedVideoHeader header (headerBytes header) rest :=
  (reads_u32 _ _).bind <| (reads_u16 _ _).bind <| (reads_u16 _ _).bind <| (reads_u16 _ _).bind <|
  (reads_u16 _ _).bind <| (reads_u16 _ _).bind <| (reads_u16 _ _).bind <| (reads_u64 _ _).bind <|
  (reads_u64 _ _).bind <| (reads_u32 _ _).bind <| (reads_u32 _ _).bind <| (reads_u32 _ _).bind <|
  (reads_u32 _ _).bind <| (reads_u32 _ _).bind <| (reads_u32 _ _).bind <| (reads_u32 _ _).bind <|
  (reads_u32 _ _).last <| Reads.pure header rest

/-- A header that is read is in front. -/
theorem takes_readEncodedVideoHeader :
    Takes readEncodedVideoHeader fun header front => front = headerBytes header := by
  refine takes_u32.bind fun _ _ h0 => takes_u16.bind fun _ _ h1 => takes_u16.bind fun _ _ h2 =>
    takes_u16.bind fun _ _ h3 => takes_u16.bind fun _ _ h4 => takes_u16.bind fun _ _ h5 =>
    takes_u16.bind fun _ _ h6 => takes_u64.bind fun _ _ h7 => takes_u64.bind fun _ _ h8 =>
    takes_u32.bind fun _ _ h9 => takes_u32.bind fun _ _ h10 => takes_u32.bind fun _ _ h11 =>
    takes_u32.bind fun _ _ h12 => takes_u32.bind fun _ _ h13 => takes_u32.bind fun _ _ h14 =>
    takes_u32.bind fun _ _ h15 => takes_u32.bind fun _ _ h16 => Takes.pure ?_
  rw [h0, h1, h2, h3, h4, h5, h6, h7, h8, h9, h10, h11, h12, h13, h14, h15, h16, List.append_nil]
  rfl

/-- What comes of a buffer with a header in front. -/
theorem decodeDisplayEncodedVideoPayload_eq (header : EncodedVideoHeader) (rest : ByteBuffer) :
    decodeDisplayEncodedVideoPayload (headerBytes header ++ rest) =
      match header.error (64 + rest.length) with
      | some error => some { payload := header.readInto, error := error }
      | none => decodeSections header (headerBytes header ++ rest) := by
  have hlength : (headerBytes header ++ rest).length = 64 + rest.length := by
    rw [List.length_append, length_headerBytes]
  have hrun := reads_readEncodedVideoHeader header rest []
  rw [List.nil_append] at hrun
  have hsize : encodedVideoHeaderSize.toNat = 64 := rfl
  rw [decodeDisplayEncodedVideoPayload, if_neg (by omega), outcome_eq_iff.mpr hrun, ← hlength]

/-- A buffer that is accepted has a header in front. -/
theorem exists_header_of_ok {payload : ByteBuffer}
    {result : DisplayEncodedVideoPayloadDecodeResult}
    (h : decodeDisplayEncodedVideoPayload payload = some result) (hok : result.ok = true) :
    ∃ header rest, payload = headerBytes header ++ rest := by
  rw [decodeDisplayEncodedVideoPayload] at h
  split at h
  · cases h
    cases hok
  cases hread : readEncodedVideoHeader.outcome payload with
  | error e =>
    rw [hread] at h
    cases h
    cases hok
  | ok read =>
    obtain ⟨header, next⟩ := read
    obtain ⟨front, rest, hdrop, -, hfront⟩ := takes_readEncodedVideoHeader payload 0 header next
      (Nat.zero_le _) (outcome_eq_iff.mp hread)
    rw [List.drop_zero, hfront] at hdrop
    exact ⟨header, rest, hdrop⟩

/-! ## The sections -/

/-- **A header that fits two sections**: with no error of its own, and with their lengths. -/
structure Fits (header : EncodedVideoHeader) (sequenceHeader bitstream : ByteBuffer) : Prop where
  magic : header.magic = encodedVideoMagic
  version : header.version = encodedVideoVersion
  headerSize : header.headerSize = encodedVideoHeaderSize
  reserved : header.reserved32 = 0
  sequenceHeader : header.sequenceHeaderBytes.toNat = sequenceHeader.length
  bitstream : header.bitstreamBytes.toNat = bitstream.length

variable {header : EncodedVideoHeader} {sequenceHeader bitstream rest : ByteBuffer}

theorem Fits.error_eq (h : Fits header sequenceHeader bitstream) :
    header.error (64 + (sequenceHeader ++ bitstream).length) = none := by
  have hsize : encodedVideoHeaderSize.toNat = 64 := rfl
  rw [EncodedVideoHeader.error, if_neg (not_not.mpr h.magic), if_neg (not_not.mpr h.version),
    if_neg, if_neg (not_not.mpr h.reserved), if_neg]
  · rw [not_not, EncodedVideoHeader.expectedSize, h.headerSize, hsize, h.sequenceHeader,
      h.bitstream, List.length_append]
    omega
  · rw [h.headerSize, hsize]
    exact not_or.mpr ⟨not_not.mpr rfl, by omega⟩

/-- A header without an error fits the two sections behind it. -/
theorem exists_fits_of_error_eq_none (h : header.error (64 + rest.length) = none) :
    ∃ sequenceHeader bitstream, rest = sequenceHeader ++ bitstream ∧
      Fits header sequenceHeader bitstream := by
  have hsize : encodedVideoHeaderSize.toNat = 64 := rfl
  rw [EncodedVideoHeader.error] at h
  split_ifs at h with hmagic hversion hheader hreserved hexpected
  rw [not_not] at hmagic hversion hreserved hexpected
  have hheader := not_not.mp (not_or.mp hheader).1
  rw [EncodedVideoHeader.expectedSize, hheader, hsize] at hexpected
  refine ⟨rest.take header.sequenceHeaderBytes.toNat, rest.drop header.sequenceHeaderBytes.toNat,
    (List.take_append_drop _ _).symm, hmagic, hversion, hheader, hreserved, ?_, ?_⟩
  · rw [List.length_take]
    omega
  · rw [List.length_drop]
    omega

/-- **The place where the bitstream begins**, as long as it fits into 32 bits. -/
theorem Fits.bitstreamOffset_eq (h : Fits header sequenceHeader bitstream) :
    header.bitstreamOffset.toNat = (64 + sequenceHeader.length) % 2 ^ 32 := by
  have hsize : encodedVideoHeaderSize.toUInt32.toNat = 64 := rfl
  rw [EncodedVideoHeader.bitstreamOffset, UInt32.toNat_add, h.headerSize, hsize, h.sequenceHeader]

/-- The two sections are cut out where they are. -/
theorem assignRange_sections (h : Fits header sequenceHeader bitstream)
    (hshort : sequenceHeader.length < 2 ^ 32 - 64) :
    let payload := headerBytes header ++ (sequenceHeader ++ bitstream)
    assignRange payload header.headerSize.toNat header.bitstreamOffset.toNat =
        some sequenceHeader ∧
      assignRange payload header.bitstreamOffset.toNat payload.length = some bitstream := by
  intro payload
  have hsize : header.headerSize.toNat = 64 := by rw [h.headerSize]; rfl
  have hoffset : header.bitstreamOffset.toNat = 64 + sequenceHeader.length := by
    rw [h.bitstreamOffset_eq, Nat.mod_eq_of_lt (by omega)]
  have hlength : payload.length = 64 + (sequenceHeader.length + bitstream.length) := by
    rw [List.length_append, List.length_append, length_headerBytes]
  have hheader := length_headerBytes header
  constructor
  · rw [assignRange, if_pos (by omega), hsize, hoffset, Nat.add_sub_cancel_left,
      slice_append_right (by omega), hheader, Nat.sub_self, slice_append_left rfl]
  · rw [assignRange, if_pos (by omega), hoffset, hlength, slice_append_right (by omega), hheader,
      slice_append_right (by omega)]
    have hrest : 64 + sequenceHeader.length - 64 - sequenceHeader.length = 0 := by omega
    have hbits : 64 + (sequenceHeader.length + bitstream.length) - (64 + sequenceHeader.length) =
        bitstream.length := by omega
    rw [hrest, hbits, slice, List.drop_zero, List.take_length]

/-- What becomes of the sections then. -/
theorem decodeSections_of_short (h : Fits header sequenceHeader bitstream)
    (hshort : sequenceHeader.length < 2 ^ 32 - 64) :
    decodeSections header (headerBytes header ++ (sequenceHeader ++ bitstream)) =
      let metadata := header.metadata sequenceHeader bitstream
      match validateMetadata metadata with
      | some error => some { payload := header.described, error := error }
      | none =>
        some {
          ok := true
          payload := { metadata with
            frame := { metadata.frame with payload := metadata.bitstream } } } := by
  obtain ⟨hsequence, hbits⟩ := assignRange_sections h hshort
  rw [decodeSections, hsequence, hbits]
  dsimp only [Option.bind_eq_bind, Option.bind_some]
  split
  · rfl
  · rfl

/-- **A sequence header that is too long is no range**, and there is no result. -/
theorem decodeSections_of_long (h : Fits header sequenceHeader bitstream)
    (hlong : 2 ^ 32 - 64 ≤ sequenceHeader.length) (payload : ByteBuffer) :
    decodeSections header payload = none := by
  have hsize : header.headerSize.toNat = 64 := by rw [h.headerSize]; rfl
  have hlt := header.sequenceHeaderBytes.toNat_lt
  have hoffset := h.bitstreamOffset_eq
  have hsequence := h.sequenceHeader
  have hrange : assignRange payload header.headerSize.toNat header.bitstreamOffset.toNat = none :=
    if_neg (by omega)
  rw [decodeSections, hrange]
  rfl

/-! ## Round trip -/

/-- **What is read back of a payload**: its normalised form, with the bitstream as the payload of its
frame. -/
def receivedPayload (payload : DisplayEncodedVideoPayload) : DisplayEncodedVideoPayload :=
  let normalized := normalizedPayload payload
  { normalized with frame := { normalized.frame with payload := normalized.bitstream } }

/-- The header of a normalised payload. -/
def headerOf (normalized : DisplayEncodedVideoPayload) : EncodedVideoHeader where
  magic := encodedVideoMagic
  version := encodedVideoVersion
  headerSize := encodedVideoHeaderSize
  codecValue := normalized.codec.raw
  bitstreamFormatValue := normalized.bitstreamFormat.raw
  pixelFormatValue := normalized.frame.pixelFormat.raw
  flags := if normalized.frame.keyFrame then encodedVideoFlagKeyFrame else 0
  frameId := normalized.frame.frameId
  monotonicTimestampUsec := normalized.frame.monotonicTimestampUsec
  codedWidth := normalized.codedWidth
  codedHeight := normalized.codedHeight
  visibleWidth := normalized.visibleWidth
  visibleHeight := normalized.visibleHeight
  strideBytes := normalized.frame.strideBytes
  sequenceHeaderBytes := UInt32.ofNat normalized.sequenceHeader.length
  bitstreamBytes := UInt32.ofNat normalized.bitstream.length
  reserved32 := 0

/-- What the rest of the module uses of a payload that is valid. -/
structure ValidMetadata (payload : DisplayEncodedVideoPayload) : Prop where
  width : payload.frame.width = payload.visibleWidth
  height : payload.frame.height = payload.visibleHeight
  sequenceHeader : payload.sequenceHeader.length < 2 ^ 32
  bitstream : payload.bitstream.length < 2 ^ 32

theorem validMetadata_of_eq_none {payload : DisplayEncodedVideoPayload}
    (h : validateMetadata payload = none) : ValidMetadata payload := by
  rw [validateMetadata] at h
  split_ifs at h with hcodec hformat hsizes hframe hstride hpixel hbitstream hsections
  simp only [not_or, not_not] at hframe
  obtain ⟨-, -, hwidth, hheight⟩ := hframe
  exact ⟨hwidth, hheight, by omega, by omega⟩

variable {payload : DisplayEncodedVideoPayload}

theorem validateMetadata_of_encode (h : encodeDisplayEncodedVideoPayload payload ≠ []) :
    validateMetadata (normalizedPayload payload) = none := by
  rcases herror : validateMetadata (normalizedPayload payload) with _ | error
  · rfl
  · refine absurd ?_ h
    rw [encodeDisplayEncodedVideoPayload, herror]
    rfl

theorem encodeDisplayEncodedVideoPayload_eq
    (h : validateMetadata (normalizedPayload payload) = none) :
    encodeDisplayEncodedVideoPayload payload =
      headerBytes (headerOf (normalizedPayload payload)) ++
        ((normalizedPayload payload).sequenceHeader ++ (normalizedPayload payload).bitstream) := by
  rw [encodeDisplayEncodedVideoPayload, h]
  simp only [Option.isSome_none, Bool.false_eq_true, if_false, appendU16_eq, appendU32_eq,
    appendU64_eq, headerBytes, headerOf, List.append_assoc, List.nil_append]

theorem fits_headerOf {normalized : DisplayEncodedVideoPayload} (h : ValidMetadata normalized) :
    Fits (headerOf normalized) normalized.sequenceHeader normalized.bitstream :=
  ⟨rfl, rfl, rfl, rfl, UInt32.toNat_ofNat_of_lt' h.sequenceHeader,
    UInt32.toNat_ofNat_of_lt' h.bitstream⟩

/-- The fields of a header are those of the payload it was made of. -/
theorem metadata_headerOf {normalized : DisplayEncodedVideoPayload} (h : ValidMetadata normalized) :
    (headerOf normalized).metadata normalized.sequenceHeader normalized.bitstream =
      { normalized with frame := { normalized.frame with payload := [] } } := by
  have hkey : ((if normalized.frame.keyFrame then encodedVideoFlagKeyFrame else 0) &&&
      encodedVideoFlagKeyFrame != 0) = normalized.frame.keyFrame := by
    cases normalized.frame.keyFrame with
    | false => rfl
    | true => rfl
  simp only [EncodedVideoHeader.metadata, EncodedVideoHeader.described, EncodedVideoHeader.readInto, headerOf, hkey, ← h.width,
    ← h.height]

/-- **What is written is read back exactly when the sequence header is short enough** for the place
where it ends. -/
theorem decode_encodeDisplayEncodedVideoPayload
    (h : encodeDisplayEncodedVideoPayload payload ≠ []) :
    decodeDisplayEncodedVideoPayload (encodeDisplayEncodedVideoPayload payload) =
      if payload.sequenceHeader.length < 2 ^ 32 - 64 then
        some { ok := true, payload := receivedPayload payload }
      else none := by
  have hvalidate := validateMetadata_of_encode h
  have hvalid := validMetadata_of_eq_none hvalidate
  have hfits := fits_headerOf hvalid
  have hsame : (normalizedPayload payload).sequenceHeader = payload.sequenceHeader := rfl
  rw [encodeDisplayEncodedVideoPayload_eq hvalidate, decodeDisplayEncodedVideoPayload_eq,
    hfits.error_eq]
  dsimp only
  split
  next hshort =>
    have hmetadata : validateMetadata ((headerOf (normalizedPayload payload)).metadata
        (normalizedPayload payload).sequenceHeader (normalizedPayload payload).bitstream) = none := by
      rw [metadata_headerOf hvalid]
      exact hvalidate
    rw [decodeSections_of_short hfits hshort]
    dsimp only
    rw [hmetadata, metadata_headerOf hvalid]
    rfl
  next hlong => exact decodeSections_of_long hfits (hsame ▸ not_lt.mp hlong) _

/-! ## Accepted buffers -/

/-- **What an accepted buffer is made of**: a header of 64 bytes with the lengths of the two sections,
and the sections behind it, up to the end. -/
def Sections (bytes : ByteBuffer) (payload : DisplayEncodedVideoPayload) : Prop :=
  bytes = bytes.take 64 ++ (payload.sequenceHeader ++ payload.bitstream) ∧
    beNat (slice bytes 52 4) = payload.sequenceHeader.length ∧
    beNat (slice bytes 56 4) = payload.bitstream.length

/-- The lengths in the bytes of a header. -/
theorem slice_headerBytes (header : EncodedVideoHeader) (rest : ByteBuffer) :
    slice (headerBytes header ++ rest) 52 4 = u32Bytes header.sequenceHeaderBytes ∧
      slice (headerBytes header ++ rest) 56 4 = u32Bytes header.bitstreamBytes := by
  have hfields : headerBytes header = [u32Bytes header.magic, u16Bytes header.version,
      u16Bytes header.headerSize, u16Bytes header.codecValue, u16Bytes header.bitstreamFormatValue,
      u16Bytes header.pixelFormatValue, u16Bytes header.flags, u64Bytes header.frameId,
      u64Bytes header.monotonicTimestampUsec, u32Bytes header.codedWidth,
      u32Bytes header.codedHeight, u32Bytes header.visibleWidth, u32Bytes header.visibleHeight,
      u32Bytes header.strideBytes, u32Bytes header.sequenceHeaderBytes,
      u32Bytes header.bitstreamBytes, u32Bytes header.reserved32].flatten := by
    simp only [headerBytes, List.flatten_cons, List.flatten_nil, List.append_nil]
  rw [hfields]
  constructor
  · exact slice_flatten (i := 14) rest rfl (by simp) (length_u32Bytes _)
  · exact slice_flatten (i := 15) rest rfl (by simp) (length_u32Bytes _)

/-- **The sections of an accepted buffer fill it up** behind the header. -/
theorem sections_of_ok {bytes : ByteBuffer} {result : DisplayEncodedVideoPayloadDecodeResult}
    (h : decodeDisplayEncodedVideoPayload bytes = some result) (hok : result.ok = true) :
    Sections bytes result.payload := by
  obtain ⟨header, rest, rfl⟩ := exists_header_of_ok h hok
  rw [decodeDisplayEncodedVideoPayload_eq] at h
  cases herror : header.error (64 + rest.length) with
  | some error =>
    rw [herror] at h
    cases h
    cases hok
  | none =>
    rw [herror] at h
    dsimp only at h
    obtain ⟨sequenceHeader, bitstream, rfl, hfits⟩ := exists_fits_of_error_eq_none herror
    have hshort : sequenceHeader.length < 2 ^ 32 - 64 := by
      refine not_le.mp fun hlong => ?_
      rw [decodeSections_of_long hfits hlong] at h
      cases h
    rw [decodeSections_of_short hfits hshort] at h
    dsimp only at h
    split at h
    · cases h
      cases hok
    · cases h
      obtain ⟨hsequence, hbits⟩ := slice_headerBytes header (sequenceHeader ++ bitstream)
      refine ⟨?_, ?_, ?_⟩
      · rw [← length_headerBytes header, List.take_left]
        rfl
      · rw [hsequence, u32Bytes, beNat_beBytes_of_lt header.sequenceHeaderBytes.toNat_lt]
        exact hfits.sequenceHeader
      · rw [hbits, u32Bytes, beNat_beBytes_of_lt header.bitstreamBytes.toNat_lt]
        exact hfits.bitstream

/-! ## Both payloads -/

/-- **The payloads of the display there and back.**  A raw frame that is written is read back; an
encoded payload that is written is read back exactly when its sequence header is short enough for the
place where it ends to fit into 32 bits.  A raw frame that is accepted has its rows inside its pixels,
and an encoded payload that is accepted is a header with its two sections. -/
theorem displayPayloads_roundTrip (frame : CapturedFrame) (payload : DisplayEncodedVideoPayload)
    (bytes : ByteBuffer) (result : DisplayEncodedVideoPayloadDecodeResult) :
    (encodeRawFramePayload frame ≠ [] →
      decodeRawFramePayload (encodeRawFramePayload frame) =
        { ok := true, frame := frame.asDecoded }) ∧
    (encodeDisplayEncodedVideoPayload payload ≠ [] →
      (decodeDisplayEncodedVideoPayload (encodeDisplayEncodedVideoPayload payload) =
        some { ok := true, payload := receivedPayload payload } ↔
          payload.sequenceHeader.length < 2 ^ 32 - 64)) ∧
    ((decodeRawFramePayload bytes).ok = true →
      FrameGeometry (decodeRawFramePayload bytes).frame) ∧
    (decodeDisplayEncodedVideoPayload bytes = some result → result.ok = true →
      Sections bytes result.payload) := by
  refine ⟨fun h => decode_encodeRawFrame (geometryError_of_encodeRawFramePayload h),
    fun h => ?_, fun hok => geometry_of_decodeRawFramePayload hok, fun h hok => sections_of_ok h hok⟩
  rw [decode_encodeDisplayEncodedVideoPayload h]
  constructor
  · intro heq
    by_contra hlong
    rw [if_neg hlong] at heq
    cases heq
  · intro hshort
    exact if_pos hshort

/-- One pixel, with a sequence header of `count` bytes. -/
def padded (count : ℕ) : DisplayEncodedVideoPayload where
  codec := .h264
  bitstreamFormat := .annexB
  frame := { width := 1, height := 1, strideBytes := 4, pixelFormat := .bgra32 }
  sequenceHeader := List.replicate count 0
  bitstream := [0]

theorem encode_padded {count : ℕ} (h : count < 2 ^ 32) :
    encodeDisplayEncodedVideoPayload (padded count) ≠ [] := by
  have hvalid : validateMetadata (normalizedPayload (padded count)) = none := by
    have hsmall : ¬4294967295 < count := by omega
    simp [validateMetadata, normalizedPayload, padded, isKnownCodec, isKnownBitstreamFormat,
      DisplayPixelFormat.bgra32, DisplayPixelFormat.unknown, hsmall]
  rw [encodeDisplayEncodedVideoPayload_eq hvalid]
  intro hnil
  have hzero := congrArg List.length hnil
  rw [List.length_append, length_headerBytes, List.length_nil] at hzero
  omega

/-- A sequence header of 64 bytes less than 4 GiB: it is written, and there is no result. -/
theorem padded_undecoded :
    encodeDisplayEncodedVideoPayload (padded (2 ^ 32 - 64)) ≠ [] ∧
      decodeDisplayEncodedVideoPayload (encodeDisplayEncodedVideoPayload (padded (2 ^ 32 - 64))) =
        none := by
  have hwritten := encode_padded (show 2 ^ 32 - 64 < 2 ^ 32 by omega)
  refine ⟨hwritten, ?_⟩
  have hlength : (padded (2 ^ 32 - 64)).sequenceHeader.length = 2 ^ 32 - 64 :=
    List.length_replicate
  rw [decode_encodeDisplayEncodedVideoPayload hwritten, if_neg (by omega)]

end Display
end FusionDesk
