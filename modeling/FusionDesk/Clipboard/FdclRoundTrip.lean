import FusionDesk.Clipboard.FdclCodec

/-!
# The FDCL round trip

An encoder writes the fields of a message one behind the other, in one file; the decoder of the
message reads them in another.  Between the two stands the list of the fields as runs of bytes.

* `appendU16_eq` and the lemmas behind it: an `append` function adds the bytes of its field.
* `reads_u16` and the lemmas behind it: a reader takes these bytes and gives the field back, whatever
  stands before and behind.
* The limits of the decoder as structures, from `StringLimits` to `FormatListLimits`, and for every
  body the reader of it on its fields (`reads_cancel`, for example).
* `FdclMessage`: a message of any operation, how it is encoded, and what has to come back.
* `decodeFdclPayload_encode`: what comes back.
* `decodeFdclPayload_fullyRead`: what is accepted was read to its end and no further.
* `fdcl_roundTrip`: the two together.
-/

namespace FusionDesk
namespace Clipboard

open Protocol ByteReader BigEndian Reader Fdcl

/-! ## The bytes of a field -/

def u16Bytes (value : UInt16) : ByteBuffer := beBytes 2 value.toNat
def u32Bytes (value : UInt32) : ByteBuffer := beBytes 4 value.toNat
def u64Bytes (value : UInt64) : ByteBuffer := beBytes 8 value.toNat
def i32Bytes (value : Int32) : ByteBuffer := u32Bytes value.toUInt32
def boolBytes (value : Bool) : ByteBuffer := [if value then 1 else 0]
def scaleBytes (value : ℚ) : ByteBuffer := appendScale [] value
def stringBytes (value : StdString) : ByteBuffer := u16Bytes (UInt16.ofNat value.length) ++ value
def contentBytes (value : ByteBuffer) : ByteBuffer := u32Bytes (UInt32.ofNat value.length) ++ value

section Append

variable (output : ByteBuffer)

@[simp] theorem appendU16_eq (value : UInt16) :
    appendU16 output value = output ++ u16Bytes value :=
  CapabilityPayload.writeU16_eq output value

@[simp] theorem appendU32_eq (value : UInt32) :
    appendU32 output value = output ++ u32Bytes value :=
  CapabilityPayload.writeU32_eq output value

@[simp] theorem appendI32_eq (value : Int32) :
    appendI32 output value = output ++ i32Bytes value :=
  appendU32_eq output _

@[simp] theorem appendU64_eq (value : UInt64) :
    appendU64 output value = output ++ u64Bytes value :=
  CapabilityPayload.writeU64_eq output value

@[simp] theorem appendScale_eq (value : ℚ) :
    appendScale output value = output ++ scaleBytes value := by
  simp [appendScale, scaleBytes]

@[simp] theorem appendBool_eq (value : Bool) :
    appendBool output value = output ++ boolBytes value := rfl

@[simp] theorem appendString_eq (value : StdString) :
    appendString output value = output ++ stringBytes value := by
  simp [appendString, stringBytes]

@[simp] theorem appendBytes_eq (value : ByteBuffer) :
    appendBytes output value = output ++ contentBytes value := by
  simp [appendBytes, contentBytes]

/-- A loop that appends. -/
theorem foldl_append_eq {α : Type} {append : ByteBuffer → α → ByteBuffer}
    {encode : α → ByteBuffer} (h : ∀ output a, append output a = output ++ encode a)
    (values : List α) : values.foldl append output = output ++ values.flatMap encode := by
  induction values generalizing output with
  | nil => simp
  | cons a values ih => rw [List.foldl_cons, h, ih, List.flatMap_cons, List.append_assoc]

end Append

section Lengths

@[simp] theorem length_u16Bytes (value : UInt16) : (u16Bytes value).length = 2 :=
  length_beBytes _ _

@[simp] theorem length_u32Bytes (value : UInt32) : (u32Bytes value).length = 4 :=
  length_beBytes _ _

@[simp] theorem length_u64Bytes (value : UInt64) : (u64Bytes value).length = 8 :=
  length_beBytes _ _

@[simp] theorem length_i32Bytes (value : Int32) : (i32Bytes value).length = 4 :=
  length_u32Bytes _

@[simp] theorem length_boolBytes (value : Bool) : (boolBytes value).length = 1 := rfl

@[simp] theorem length_scaleBytes (value : ℚ) : (scaleBytes value).length = 4 := by
  simp [scaleBytes, appendScale]

@[simp] theorem length_stringBytes (value : StdString) :
    (stringBytes value).length = 2 + value.length := by
  simp [stringBytes]

@[simp] theorem length_contentBytes (value : ByteBuffer) :
    (contentBytes value).length = 4 + value.length := by
  simp [contentBytes]

theorem length_flatMap_le {α : Type} {encode : α → ByteBuffer} {n : ℕ} {values : List α}
    (h : ∀ a ∈ values, (encode a).length ≤ n) :
    (values.flatMap encode).length ≤ values.length * n := by
  induction values with
  | nil => simp
  | cons a values ih =>
    have hfirst := h a List.mem_cons_self
    have hothers := ih fun b hb => h b (List.mem_cons_of_mem _ hb)
    rw [List.flatMap_cons, List.length_append, List.length_cons, Nat.succ_mul]
    omega

end Lengths

/-! ## Reading a field back -/

section Fields

variable (rest : ByteBuffer)

theorem reads_u16 (value : UInt16) : Reads readU16 value (u16Bytes value) rest :=
  Reads.checked (length_beBytes _ _) fun before =>
    CapabilityPayload.readU16_frontier before rest value rfl

theorem reads_u32 (value : UInt32) : Reads readU32 value (u32Bytes value) rest := by
  refine Reads.checked (length_beBytes _ _) fun before => ?_
  rw [CapabilityPayload.readU32_eq (by simp), slice_append_right le_rfl, Nat.sub_self,
    slice_append_left (length_u32Bytes value), u32Bytes, PacketCodec.ofNat_beNat_u32]

theorem reads_u64 (value : UInt64) : Reads readU64 value (u64Bytes value) rest := by
  refine Reads.checked (length_beBytes _ _) fun before => ?_
  rw [CapabilityPayload.readU64_eq (by simp), slice_append_right le_rfl, Nat.sub_self,
    slice_append_left (length_u64Bytes value), u64Bytes, PacketCodec.ofNat_beNat_u64]

theorem reads_i32 (value : Int32) : Reads readI32 value (i32Bytes value) rest := by
  refine Reads.last (reads_u32 rest value.toUInt32) ?_
  rw [Int32.toInt32_toUInt32]
  exact Reads.pure value rest

theorem reads_bool (value : Bool) : Reads readBool value (boolBytes value) rest := by
  refine Reads.checked rfl fun before => ?_
  rw [List.getElem?_append_right le_rfl, Nat.sub_self]
  cases value <;> rfl

/-- A scale that the format can say. -/
def ScaleLimits (value : ℚ) : Prop :=
  ∃ milli : ℕ, 0 < milli ∧ milli < 2 ^ 32 ∧ value = (milli : ℚ) / 1000

theorem reads_scale {value : ℚ} (h : ScaleLimits value) :
    Reads readScale value (scaleBytes value) rest := by
  obtain ⟨milli, hpos, hlt, rfl⟩ := h
  have hscale : ¬((milli : ℚ) / 1000 ≤ 0) := by
    have : (0 : ℚ) < milli := by exact_mod_cast hpos
    exact not_le.mpr (by positivity)
  have hbytes : scaleBytes ((milli : ℚ) / 1000) = u32Bytes (UInt32.ofNat milli) := by
    simp [scaleBytes, appendScale, if_neg hscale]
  have hmilli : (UInt32.ofNat milli).toNat = milli := UInt32.toNat_ofNat_of_lt' hlt
  have hzero : UInt32.ofNat milli ≠ 0 := by
    intro heq
    have := congrArg UInt32.toNat heq
    rw [hmilli] at this
    exact hpos.ne' this
  rw [hbytes]
  refine Reads.last (reads_u32 rest _) (Reads.bind_refuseIf hzero ?_)
  rw [hmilli]
  exact Reads.pure _ rest

theorem reads_encodingMode {value : TransferEncodingMode} (h : validEncodingMode value = true) :
    Reads readEncodingMode value (u16Bytes value.raw) rest :=
  Reads.last (reads_u16 rest value.raw) <| Reads.bind_refuseIf (by simp [h]) <| Reads.pure _ _

def StringLimits (value : StdString) : Prop := value.length ≤ maxStringBytes

theorem reads_string {value : StdString} (h : StringLimits value) :
    Reads readString value (stringBytes value) rest := by
  have hlength : (UInt16.ofNat value.length).toNat = value.length :=
    UInt16.toNat_ofNat_of_lt' (lt_of_le_of_lt h (by decide))
  refine (Reads.named _ (reads_u16 _ _)).bind ?_
  refine Reads.bind_refuseIf ?_ (Reads.bytes hlength.symm)
  rw [hlength]
  exact not_lt.mpr h

theorem reads_content {value : ByteBuffer} (e : String) (h : value.length < 2 ^ 32) :
    Reads (bytes (UInt32.ofNat value.length).toNat e) value value rest :=
  Reads.bytes (UInt32.toNat_ofNat_of_lt' h).symm

/-- The count of a list that is in front of it. -/
theorem toNat_count {α : Type} {values : List α} {n : ℕ} (h : values.length ≤ n) (hn : n < 2 ^ 16) :
    (UInt32.ofNat values.length).toNat = values.length ∧
      (UInt16.ofNat values.length).toNat = values.length :=
  ⟨UInt32.toNat_ofNat_of_lt' (by rw [show UInt32.size = 4294967296 from rfl]; omega),
    UInt16.toNat_ofNat_of_lt' (by rw [show UInt16.size = 65536 from rfl]; omega)⟩

theorem reads_atEnd : Reads (atEnd : Reader String Bool) rest.isEmpty [] rest := by
  intro before
  cases rest with
  | nil => simp [atEnd]
  | cons b rest => simp [atEnd]

end Fields

/-! ## The parts of a body -/

/-- The name of a format: a string that is not empty. -/
def NameLimits (value : StdString) : Prop := validFormatName value = true

theorem NameLimits.string {value : StdString} (h : NameLimits value) : StringLimits value := by
  simp only [NameLimits, validFormatName, Bool.and_eq_true, decide_eq_true_eq] at h
  exact h.2

theorem NameLimits.not_eq_false {value : StdString} (h : NameLimits value) :
    ¬validFormatName value = false := by
  rw [show validFormatName value = true from h]
  decide

structure CoordinateLimits (point : DragSurfaceCoordinate) : Prop where
  space : validDragCoordinateSpace point.coordinateSpace = true
  scale : ScaleLimits point.scale

def coordinateFields (point : DragSurfaceCoordinate) : List ByteBuffer :=
  [u16Bytes point.coordinateSpace.raw, u16Bytes 0, i32Bytes point.x, i32Bytes point.y,
    u32Bytes point.surfaceWidth, u32Bytes point.surfaceHeight, scaleBytes point.scale]

theorem appendDragSurfaceCoordinate_eq (body : ByteBuffer) (point : DragSurfaceCoordinate) :
    appendDragSurfaceCoordinate body point = body ++ (coordinateFields point).flatten := by
  simp [appendDragSurfaceCoordinate, coordinateFields]

theorem reads_coordinate (rest : ByteBuffer) {point : DragSurfaceCoordinate}
    (h : CoordinateLimits point) :
    Reads readDragSurfaceCoordinate point (coordinateFields point).flatten rest := by
  refine Reads.last (a := (point, 0)) (Reads.named _ ?_) ?_
  · exact (reads_u16 _ _).bind <| (reads_u16 _ _).bind <| (reads_i32 _ _).bind <|
      (reads_i32 _ _).bind <| (reads_u32 _ _).bind <| (reads_u32 _ _).bind <|
      (reads_scale _ h.scale).bind <| Reads.pure _ _
  · exact Reads.bind_refuseIf (by simp) <| Reads.bind_refuseIf (by simp [h.space]) <|
      Reads.pure _ _

structure CapabilitiesLimits (capabilities : FdclCapabilities) : Prop where
  major : capabilities.protocolMajor ≠ 0
  count : capabilities.canonicalFormats.length ≤ maxFormatRecords
  names : ∀ canonical ∈ capabilities.canonicalFormats, NameLimits canonical

def capabilitiesFields (capabilities : FdclCapabilities) : List ByteBuffer :=
  [u16Bytes capabilities.protocolMajor, u16Bytes capabilities.protocolMinor,
    u64Bytes capabilities.maxInlineBytes, u64Bytes capabilities.maxStreamBytes,
    u32Bytes capabilities.supportedActions, boolBytes capabilities.supportsStreams,
    boolBytes capabilities.supportsNativePassthrough,
    boolBytes capabilities.supportsPresentationMetadata, boolBytes capabilities.supportsDrag,
    u32Bytes (UInt32.ofNat capabilities.canonicalFormats.length)]

def capabilitiesBytes (capabilities : FdclCapabilities) : ByteBuffer :=
  (capabilitiesFields capabilities).flatten ++ capabilities.canonicalFormats.flatMap stringBytes

theorem appendCapabilities_eq (body : ByteBuffer) (capabilities : FdclCapabilities) :
    appendCapabilities body capabilities = body ++ capabilitiesBytes capabilities := by
  simp [appendCapabilities, capabilitiesBytes, capabilitiesFields,
    foldl_append_eq _ appendString_eq]

theorem reads_canonicalFormat (rest : ByteBuffer) {canonical : StdString}
    (h : NameLimits canonical) : Reads readCanonicalFormat canonical (stringBytes canonical) rest :=
  Reads.last (reads_string rest h.string) <| Reads.bind_refuseIf h.not_eq_false <| Reads.pure _ _

theorem reads_capabilities (rest : ByteBuffer) {capabilities : FdclCapabilities}
    (h : CapabilitiesLimits capabilities) :
    Reads readCapabilities capabilities (capabilitiesBytes capabilities) rest := by
  have hcount := (toNat_count h.count (by decide)).1
  refine Reads.bind (a := ({ capabilities with canonicalFormats := [] },
    UInt32.ofNat capabilities.canonicalFormats.length)) (Reads.named _ ?_) ?_
  · exact (reads_u16 _ _).bind <| (reads_u16 _ _).bind <| (reads_u64 _ _).bind <|
      (reads_u64 _ _).bind <| (reads_u32 _ _).bind <| (reads_bool _ _).bind <|
      (reads_bool _ _).bind <| (reads_bool _ _).bind <| (reads_bool _ _).bind <|
      (reads_u32 _ _).bind <| Reads.pure _ _
  · refine Reads.bind_refuseIf ?_ (Reads.last (a := capabilities.canonicalFormats) ?_ ?_)
    · rw [hcount, not_or]
      exact ⟨h.major, not_lt.mpr h.count⟩
    · rw [hcount]
      exact Reads.times fun canonical hmem rest => reads_canonicalFormat rest (h.names _ hmem)
    · exact Reads.pure _ _

def iconFields (icon : IconRepresentation) : List ByteBuffer :=
  [stringBytes icon.format, u32Bytes icon.width, u32Bytes icon.height, u64Bytes icon.bytes,
    boolBytes icon.sensitive]

theorem appendIcon_eq (body : ByteBuffer) (icon : IconRepresentation) :
    appendIcon body icon = body ++ (iconFields icon).flatten := by
  simp [appendIcon, iconFields]

theorem reads_icon (rest : ByteBuffer) {icon : IconRepresentation} (h : NameLimits icon.format) :
    Reads readIcon icon (iconFields icon).flatten rest := by
  refine Reads.last (a := icon) (Reads.named _ ?_) ?_
  · exact (reads_string _ h.string).bind <| (reads_u32 _ _).bind <| (reads_u32 _ _).bind <|
      (reads_u64 _ _).bind <| (reads_bool _ _).bind <| Reads.pure _ _
  · exact Reads.bind_refuseIf h.not_eq_false <| Reads.pure _ _

structure DragImageLimits (image : DragImage) : Prop where
  format : NameLimits image.format
  scale : ScaleLimits image.scale

def dragImageFields (image : DragImage) : List ByteBuffer :=
  [stringBytes image.format, u32Bytes image.width, u32Bytes image.height, scaleBytes image.scale,
    i32Bytes image.hotspotX, i32Bytes image.hotspotY, boolBytes image.generatedPreview,
    boolBytes image.sensitive]

theorem appendDragImage_eq (body : ByteBuffer) (image : DragImage) :
    appendDragImage body image = body ++ (dragImageFields image).flatten := by
  simp [appendDragImage, dragImageFields]

theorem reads_dragImage (rest : ByteBuffer) {image : DragImage} (h : DragImageLimits image) :
    Reads readDragImage image (dragImageFields image).flatten rest := by
  refine Reads.last (a := image) (Reads.named _ ?_) ?_
  · exact (reads_string _ h.format.string).bind <| (reads_u32 _ _).bind <|
      (reads_u32 _ _).bind <| (reads_scale _ h.scale).bind <| (reads_i32 _ _).bind <|
      (reads_i32 _ _).bind <| (reads_bool _ _).bind <| (reads_bool _ _).bind <| Reads.pure _ _
  · exact Reads.bind_refuseIf h.format.not_eq_false <| Reads.pure _ _

/-- The bytes of what may be there, behind a flag. -/
def optionalBytes {α : Type} (encode : α → ByteBuffer) : Option α → ByteBuffer
  | none => []
  | some a => encode a

theorem reads_optional {α : Type} (rest : ByteBuffer) {r : Reader String α}
    {encode : α → ByteBuffer} {value : Option α}
    (h : ∀ a, value = some a → Reads r a (encode a) rest) :
    Reads (readOptional value.isSome r) value (optionalBytes encode value) rest := by
  cases value with
  | none => exact Reads.pure none rest
  | some a => exact Reads.last (h a rfl) (Reads.pure _ _)

structure PresentationLimits (presentation : TransferPresentation) : Prop where
  displayName : StringLimits presentation.displayName
  sourceKind : validSourceKind presentation.sourceKind = true
  preferredAction : validAction presentation.preferredAction = true
  iconCount : presentation.icons.length ≤ maxPresentationIcons
  icons : ∀ icon ∈ presentation.icons, NameLimits icon.format
  dragImage : ∀ image, presentation.dragImage = some image → DragImageLimits image

def presentationFields (presentation : TransferPresentation) : List ByteBuffer :=
  [stringBytes presentation.displayName, u32Bytes presentation.itemCount,
    u16Bytes presentation.sourceKind.raw, u32Bytes presentation.allowedActions,
    u16Bytes presentation.preferredAction.raw, boolBytes presentation.previewAllowedByPolicy,
    u16Bytes (UInt16.ofNat presentation.icons.length)]

def presentationBytes (presentation : TransferPresentation) : ByteBuffer :=
  (presentationFields presentation).flatten ++
    ((presentation.icons.flatMap fun icon => (iconFields icon).flatten) ++
      (boolBytes presentation.dragImage.isSome ++
        optionalBytes (fun image => (dragImageFields image).flatten) presentation.dragImage))

theorem appendPresentation_eq (body : ByteBuffer) (presentation : TransferPresentation) :
    appendPresentation body presentation = body ++ presentationBytes presentation := by
  cases himage : presentation.dragImage with
  | none =>
    simp [appendPresentation, presentationBytes, presentationFields, optionalBytes, himage,
      foldl_append_eq _ appendIcon_eq]
  | some image =>
    simp [appendPresentation, presentationBytes, presentationFields, optionalBytes, himage,
      foldl_append_eq _ appendIcon_eq, appendDragImage_eq]

theorem reads_presentation (rest : ByteBuffer) {presentation : TransferPresentation}
    (h : PresentationLimits presentation) :
    Reads readPresentation presentation (presentationBytes presentation) rest := by
  have hcount := (toNat_count h.iconCount (by decide)).2
  refine Reads.bind (a := ({ presentation with icons := [], dragImage := none },
    UInt16.ofNat presentation.icons.length)) (Reads.named _ ?_) ?_
  · exact (reads_string _ h.displayName).bind <| (reads_u32 _ _).bind <| (reads_u16 _ _).bind <|
      (reads_u32 _ _).bind <| (reads_u16 _ _).bind <| (reads_bool _ _).bind <|
      (reads_u16 _ _).bind <| Reads.pure _ _
  · refine Reads.bind_refuseIf ?_ (Reads.bind (a := presentation.icons) ?_
      (Reads.bind (Reads.named _ (reads_bool _ _)) (Reads.last (a := presentation.dragImage) ?_
        (Reads.pure _ _))))
    · rw [hcount]
      simp [h.sourceKind, h.preferredAction, h.iconCount]
    · rw [hcount]
      exact Reads.times fun icon hmem rest => reads_icon rest (h.icons _ hmem)
    · exact reads_optional _ fun image himage => reads_dragImage _ (h.dragImage image himage)

structure FormatRecordLimits (record : FdclFormatRecord) : Prop where
  encoding : validEncodingMode record.preferredEncoding = true
  canonicalFormat : NameLimits record.canonicalFormat
  nativeFormatName : StringLimits record.nativeFormatName
  identity : ¬(record.sourceId = 0 ∨ record.formatId = 0)

def formatRecordFields (record : FdclFormatRecord) : List ByteBuffer :=
  [u64Bytes record.sourceId, u32Bytes record.itemIndex, u64Bytes record.formatId,
    u32Bytes record.localFormatToken, u64Bytes record.estimatedBytes, boolBytes record.canInline,
    boolBytes record.canStream, u16Bytes record.preferredEncoding.raw, u16Bytes 0]

def formatRecordBytes (record : FdclFormatRecord) : ByteBuffer :=
  (formatRecordFields record).flatten ++
    (stringBytes record.canonicalFormat ++ stringBytes record.nativeFormatName)

theorem appendFormatRecord_eq (body : ByteBuffer) (record : FdclFormatRecord) :
    appendFormatRecord body record = body ++ formatRecordBytes record := by
  simp [appendFormatRecord, formatRecordBytes, formatRecordFields]

theorem reads_formatRecord (rest : ByteBuffer) {record : FdclFormatRecord}
    (h : FormatRecordLimits record) :
    Reads readFormatRecord record (formatRecordBytes record) rest := by
  refine Reads.bind (a := ({ record with canonicalFormat := [], nativeFormatName := [] }, 0))
    (Reads.named _ ?_) ?_
  · exact (reads_u64 _ _).bind <| (reads_u32 _ _).bind <| (reads_u64 _ _).bind <|
      (reads_u32 _ _).bind <| (reads_u64 _ _).bind <| (reads_bool _ _).bind <|
      (reads_bool _ _).bind <| (reads_encodingMode _ h.encoding).bind <|
      (reads_u16 _ _).bind <| Reads.pure _ _
  · exact Reads.bind_refuseIf (by simp) <|
      (reads_string _ h.canonicalFormat.string).bind <|
      Reads.last (reads_string _ h.nativeFormatName) <|
      Reads.bind_refuseIf h.canonicalFormat.not_eq_false <|
      Reads.bind_refuseIf h.identity <| Reads.pure _ _

/-! ## The bodies -/

theorem reads_capabilitiesBody {payload : FdclCapabilities} (h : CapabilitiesLimits payload) :
    Reads decodeCapabilities { ok := true, operation := .capabilities, capabilities := payload }
      (capabilitiesBytes payload) [] :=
  Reads.last (reads_capabilities [] h) <| Reads.bind_expectEnd <| Reads.pure _ _

structure FormatListLimits (payload : FdclFormatList) : Prop where
  identity : ¬(payload.bundleId = 0 ∨ payload.offerId = 0)
  nonempty : payload.formats ≠ []
  count : payload.formats.length ≤ maxFormatRecords
  records : ∀ record ∈ payload.formats, FormatRecordLimits record
  presentation : ∀ presentation, payload.presentation = some presentation →
    PresentationLimits presentation

def formatListFields (payload : FdclFormatList) : List ByteBuffer :=
  [u64Bytes payload.bundleId, u64Bytes payload.offerId, u64Bytes payload.ownerEpoch,
    u64Bytes payload.sequence, u16Bytes payload.origin.raw, u16Bytes payload.side.raw,
    u64Bytes payload.originSessionId, u64Bytes payload.policyVersion,
    u32Bytes (UInt32.ofNat payload.formats.length)]

/-- Nothing, or the flag `1` and the presentation. -/
def trailingPresentationBytes : Option TransferPresentation → ByteBuffer
  | none => []
  | some presentation => boolBytes true ++ presentationBytes presentation

def formatListBytes (payload : FdclFormatList) : ByteBuffer :=
  (formatListFields payload).flatten ++
    (payload.formats.flatMap formatRecordBytes ++ trailingPresentationBytes payload.presentation)

theorem encodeFdclFormatList_eq (payload : FdclFormatList) :
    encodeFdclFormatList payload = wrap .formatList (formatListBytes payload) := by
  cases hpresentation : payload.presentation with
  | none =>
    simp [encodeFdclFormatList, formatListBytes, formatListFields, trailingPresentationBytes,
      hpresentation, foldl_append_eq _ appendFormatRecord_eq]
  | some presentation =>
    simp [encodeFdclFormatList, formatListBytes, formatListFields, trailingPresentationBytes,
      hpresentation, foldl_append_eq _ appendFormatRecord_eq, appendPresentation_eq]

theorem reads_trailingPresentation {value : Option TransferPresentation}
    (h : ∀ presentation, value = some presentation → PresentationLimits presentation) :
    Reads readTrailingPresentation value (trailingPresentationBytes value) [] := by
  cases value with
  | none => exact Reads.last (reads_atEnd []) (Reads.pure none [])
  | some presentation =>
    have hmore : Reads (atEnd : Reader String Bool) false []
        ((boolBytes true ++ presentationBytes presentation) ++ []) := reads_atEnd _
    change Reads _ _ ([] ++ (boolBytes true ++ presentationBytes presentation)) []
    refine Reads.bind hmore (Reads.bind (Reads.named _ (reads_bool _ true)) ?_)
    exact Reads.last (reads_presentation [] (h presentation rfl)) (Reads.pure _ _)

theorem reads_formatListBody {payload : FdclFormatList} (h : FormatListLimits payload) :
    Reads decodeFormatList { ok := true, operation := .formatList, formatList := payload }
      (formatListBytes payload) [] := by
  have hcount := (toNat_count h.count (by decide)).1
  refine Reads.bind (a := ({ payload with formats := [], presentation := none },
    UInt32.ofNat payload.formats.length)) (Reads.named _ ?_) ?_
  · exact (reads_u64 _ _).bind <| (reads_u64 _ _).bind <| (reads_u64 _ _).bind <|
      (reads_u64 _ _).bind <| (reads_u16 _ _).bind <| (reads_u16 _ _).bind <|
      (reads_u64 _ _).bind <| (reads_u64 _ _).bind <| (reads_u32 _ _).bind <| Reads.pure _ _
  · refine Reads.bind_refuseIf h.identity (Reads.bind_refuseIf ?_ (Reads.bind ?_
      (Reads.last (reads_trailingPresentation h.presentation)
        (Reads.bind_expectEnd (Reads.pure _ _)))))
    · rw [hcount, not_or]
      refine ⟨fun hzero => h.nonempty ?_, not_lt.mpr h.count⟩
      rw [hzero] at hcount
      exact List.length_eq_zero_iff.mp hcount.symm
    · rw [hcount]
      exact Reads.times fun record hmem rest => reads_formatRecord rest (h.records _ hmem)

structure ReadRequestLimits (payload : FdclReadFormatRequest) : Prop where
  encoding : validEncodingMode payload.requestedEncoding = true
  identity : ¬(payload.bundleId = 0 ∨ payload.offerId = 0 ∨ payload.ownerEpoch = 0 ∨
    payload.sourceId = 0 ∨ payload.formatId = 0)
  canonicalFormat : NameLimits payload.canonicalFormat

def readRequestFields (payload : FdclReadFormatRequest) : List ByteBuffer :=
  [u64Bytes payload.bundleId, u64Bytes payload.offerId, u64Bytes payload.ownerEpoch,
    u64Bytes payload.sourceId, u32Bytes payload.itemIndex, u64Bytes payload.formatId,
    u32Bytes payload.localFormatToken, u64Bytes payload.acceptedMaxBytes,
    boolBytes payload.streamAccepted, u16Bytes payload.requestedEncoding.raw]

def readRequestBytes (payload : FdclReadFormatRequest) : ByteBuffer :=
  (readRequestFields payload).flatten ++ (u16Bytes 0 ++ stringBytes payload.canonicalFormat)

theorem encodeFdclReadFormatRequest_eq (payload : FdclReadFormatRequest) :
    encodeFdclReadFormatRequest payload = wrap .readFormatRequest (readRequestBytes payload) := by
  simp [encodeFdclReadFormatRequest, readRequestBytes, readRequestFields]

theorem reads_readRequestBody {payload : FdclReadFormatRequest} (h : ReadRequestLimits payload) :
    Reads decodeReadRequest { ok := true, operation := .readFormatRequest, readRequest := payload }
      (readRequestBytes payload) [] := by
  refine Reads.bind (a := { payload with canonicalFormat := [] }) (Reads.named _ ?_) ?_
  · exact (reads_u64 _ _).bind <| (reads_u64 _ _).bind <| (reads_u64 _ _).bind <|
      (reads_u64 _ _).bind <| (reads_u32 _ _).bind <| (reads_u64 _ _).bind <|
      (reads_u32 _ _).bind <| (reads_u64 _ _).bind <| (reads_bool _ _).bind <|
      (reads_encodingMode _ h.encoding).bind <| Reads.pure _ _
  · refine Reads.bind (Reads.named _ (reads_u16 _ 0)) <| Reads.bind_refuseIf (by simp) <|
      Reads.last (reads_string _ h.canonicalFormat.string) <| Reads.bind_expectEnd <|
      Reads.bind_refuseIf ?_ <| Reads.pure _ _
    have hidentity := h.identity
    have hname := h.canonicalFormat.not_eq_false
    tauto

structure ReadResponseLimits (payload : FdclReadFormatResponse) : Prop where
  encoding : validEncodingMode payload.encoding = true
  identity : ¬(payload.bundleId = 0 ∨ payload.offerId = 0 ∨ payload.ownerEpoch = 0 ∨
    payload.sourceId = 0 ∨ payload.formatId = 0)
  canonicalFormat : NameLimits payload.canonicalFormat
  bytes : payload.bytes.length ≤ maxInlineBytes

def readResponseFields (payload : FdclReadFormatResponse) : List ByteBuffer :=
  [u64Bytes payload.bundleId, u64Bytes payload.offerId, u64Bytes payload.ownerEpoch,
    u64Bytes payload.sourceId, u32Bytes payload.itemIndex, u64Bytes payload.formatId,
    u16Bytes payload.encoding.raw]

def readResponseBytes (payload : FdclReadFormatResponse) : ByteBuffer :=
  (readResponseFields payload).flatten ++ (u16Bytes 0 ++ (stringBytes payload.canonicalFormat ++
    (u32Bytes (UInt32.ofNat payload.bytes.length) ++ payload.bytes)))

theorem encodeFdclReadFormatResponse_eq (payload : FdclReadFormatResponse) :
    encodeFdclReadFormatResponse payload =
      wrap .readFormatResponse (readResponseBytes payload) := by
  simp [encodeFdclReadFormatResponse, readResponseBytes, readResponseFields, contentBytes]

/-- A length that was written is read back. -/
theorem toNat_length {value : ByteBuffer} {n : ℕ} (h : value.length ≤ n) (hn : n < 2 ^ 32) :
    (UInt32.ofNat value.length).toNat = value.length :=
  UInt32.toNat_ofNat_of_lt' (lt_of_le_of_lt h hn)

theorem reads_readResponseBody {payload : FdclReadFormatResponse}
    (h : ReadResponseLimits payload) :
    Reads decodeReadResponse
      { ok := true, operation := .readFormatResponse, readResponse := payload }
      (readResponseBytes payload) [] := by
  have hlength := toNat_length h.bytes (by decide)
  refine Reads.bind (a := { payload with canonicalFormat := [], bytes := [] })
    (Reads.named _ ?_) ?_
  · exact (reads_u64 _ _).bind <| (reads_u64 _ _).bind <| (reads_u64 _ _).bind <|
      (reads_u64 _ _).bind <| (reads_u32 _ _).bind <| (reads_u64 _ _).bind <|
      (reads_encodingMode _ h.encoding).bind <| Reads.pure _ _
  · refine Reads.bind (Reads.named _ (reads_u16 _ 0)) <| Reads.bind_refuseIf (by simp) <|
      Reads.bind (reads_string _ h.canonicalFormat.string) <|
      Reads.bind (Reads.named _ (reads_u32 _ _)) <| Reads.bind_refuseIf ?_ <|
      Reads.last (Reads.bytes hlength.symm) <| Reads.bind_expectEnd <|
      Reads.bind_refuseIf ?_ <| Reads.pure _ _
    · rw [hlength]
      exact not_lt.mpr h.bytes
    · have hidentity := h.identity
      have hname := h.canonicalFormat.not_eq_false
      tauto

structure FileRangeRequestLimits (payload : FdclFileRangeRequest) : Prop where
  identity : ¬(payload.bundleId = 0 ∨ payload.offerId = 0 ∨ payload.ownerEpoch = 0 ∨
    payload.sourceId = 0 ∨ payload.objectId = 0)
  nonempty : payload.requestedBytes ≠ 0
  bytes : payload.requestedBytes.toNat ≤ maxFileRangeBytes

def fileRangeRequestFields (payload : FdclFileRangeRequest) : List ByteBuffer :=
  [u64Bytes payload.bundleId, u64Bytes payload.offerId, u64Bytes payload.ownerEpoch,
    u64Bytes payload.sourceId, u64Bytes payload.objectId, u32Bytes payload.fileIndex,
    u64Bytes payload.offset, u64Bytes payload.requestedBytes, u16Bytes 0]

theorem encodeFdclFileRangeRequest_eq (payload : FdclFileRangeRequest) :
    encodeFdclFileRangeRequest payload =
      wrap .fileRangeRequest (fileRangeRequestFields payload).flatten := by
  simp [encodeFdclFileRangeRequest, fileRangeRequestFields]

theorem reads_fileRangeRequestBody {payload : FdclFileRangeRequest}
    (h : FileRangeRequestLimits payload) :
    Reads decodeFileRangeRequest
      { ok := true, operation := .fileRangeRequest, fileRangeRequest := payload }
      (fileRangeRequestFields payload).flatten [] := by
  refine Reads.last (a := (payload, 0)) (Reads.named _ ?_) ?_
  · exact (reads_u64 _ _).bind <| (reads_u64 _ _).bind <| (reads_u64 _ _).bind <|
      (reads_u64 _ _).bind <| (reads_u64 _ _).bind <| (reads_u32 _ _).bind <|
      (reads_u64 _ _).bind <| (reads_u64 _ _).bind <| (reads_u16 _ _).bind <| Reads.pure _ _
  · refine Reads.bind_refuseIf (by simp) <| Reads.bind_expectEnd <|
      Reads.bind_refuseIf ?_ <| Reads.pure _ _
    have hidentity := h.identity
    have hnonempty := h.nonempty
    have hbytes := not_lt.mpr h.bytes
    tauto

structure FileRangeResponseLimits (payload : FdclFileRangeResponse) : Prop where
  identity : ¬(payload.bundleId = 0 ∨ payload.offerId = 0 ∨ payload.ownerEpoch = 0 ∨
    payload.sourceId = 0 ∨ payload.objectId = 0)
  bytes : payload.bytes.length ≤ maxFileRangeBytes

def fileRangeResponseFields (payload : FdclFileRangeResponse) : List ByteBuffer :=
  [u64Bytes payload.bundleId, u64Bytes payload.offerId, u64Bytes payload.ownerEpoch,
    u64Bytes payload.sourceId, u64Bytes payload.objectId, u32Bytes payload.fileIndex,
    u64Bytes payload.offset, boolBytes payload.endOfFile, u16Bytes 0,
    u32Bytes (UInt32.ofNat payload.bytes.length)]

def fileRangeResponseBytes (payload : FdclFileRangeResponse) : ByteBuffer :=
  (fileRangeResponseFields payload).flatten ++ payload.bytes

theorem encodeFdclFileRangeResponse_eq (payload : FdclFileRangeResponse) :
    encodeFdclFileRangeResponse payload =
      wrap .fileRangeResponse (fileRangeResponseBytes payload) := by
  simp [encodeFdclFileRangeResponse, fileRangeResponseBytes, fileRangeResponseFields, contentBytes]

theorem reads_fileRangeResponseBody {payload : FdclFileRangeResponse}
    (h : FileRangeResponseLimits payload) :
    Reads decodeFileRangeResponse
      { ok := true, operation := .fileRangeResponse, fileRangeResponse := payload }
      (fileRangeResponseBytes payload) [] := by
  have hlength := toNat_length h.bytes (by decide)
  refine Reads.bind (a := ({ payload with bytes := [] }, 0, UInt32.ofNat payload.bytes.length))
    (Reads.named _ ?_) ?_
  · exact (reads_u64 _ _).bind <| (reads_u64 _ _).bind <| (reads_u64 _ _).bind <|
      (reads_u64 _ _).bind <| (reads_u64 _ _).bind <| (reads_u32 _ _).bind <|
      (reads_u64 _ _).bind <| (reads_bool _ _).bind <| (reads_u16 _ _).bind <|
      (reads_u32 _ _).bind <| Reads.pure _ _
  · refine Reads.bind_refuseIf (by simp) <| Reads.bind_refuseIf ?_ <|
      Reads.last (Reads.bytes hlength.symm) <| Reads.bind_expectEnd <|
      Reads.bind_refuseIf h.identity <| Reads.pure _ _
    rw [hlength]
    exact not_lt.mpr h.bytes

structure ObjectLockLimits (operation : FdclOperation) (payload : FdclObjectLock) : Prop where
  identity : ¬(payload.bundleId = 0 ∨ payload.offerId = 0 ∨ payload.ownerEpoch = 0 ∨
    payload.sourceId = 0 ∨ payload.objectId = 0)
  lockId : ¬(operation = .unlockObject ∧ payload.lockId = 0)

def objectLockFields (payload : FdclObjectLock) : List ByteBuffer :=
  [u64Bytes payload.bundleId, u64Bytes payload.offerId, u64Bytes payload.ownerEpoch,
    u64Bytes payload.sourceId, u64Bytes payload.objectId, u32Bytes payload.fileIndex,
    u64Bytes payload.lockId, u64Bytes payload.leaseUsec, u16Bytes 0]

theorem encodeObjectLock_eq (operation : FdclOperation) (payload : FdclObjectLock) :
    encodeObjectLock operation payload = wrap operation (objectLockFields payload).flatten := by
  simp [encodeObjectLock, objectLockFields]

theorem reads_objectLockBody {operation : FdclOperation} {payload : FdclObjectLock}
    (h : ObjectLockLimits operation payload) :
    Reads (decodeFdclObjectLockBody operation)
      { ok := true, operation := operation, objectLock := payload }
      (objectLockFields payload).flatten [] := by
  refine Reads.last (a := (payload, 0)) (Reads.named _ ?_) ?_
  · exact (reads_u64 _ _).bind <| (reads_u64 _ _).bind <| (reads_u64 _ _).bind <|
      (reads_u64 _ _).bind <| (reads_u64 _ _).bind <| (reads_u32 _ _).bind <|
      (reads_u64 _ _).bind <| (reads_u64 _ _).bind <| (reads_u16 _ _).bind <| Reads.pure _ _
  · exact Reads.bind_refuseIf (by simp) <| Reads.bind_expectEnd <|
      Reads.bind_refuseIf h.identity <| Reads.bind_refuseIf h.lockId <| Reads.pure _ _

structure DragStartLimits (payload : FdclDragStart) : Prop where
  action : validAction payload.start.preferredAction = true
  point : CoordinateLimits payload.start.start
  identity : ¬(payload.start.dragSessionId = 0 ∨ payload.start.bundleId = 0 ∨
    payload.start.offerId = 0 ∨ payload.start.ownerEpoch = 0)

def dragStartFields (payload : FdclDragStart) : List ByteBuffer :=
  [u64Bytes payload.start.dragSessionId, u64Bytes payload.start.bundleId,
    u64Bytes payload.start.offerId, u64Bytes payload.start.ownerEpoch,
    u32Bytes payload.start.allowedActions, u16Bytes payload.start.preferredAction.raw, u16Bytes 0]

def dragStartBytes (payload : FdclDragStart) : ByteBuffer :=
  (dragStartFields payload).flatten ++ (coordinateFields payload.start.start).flatten

theorem encodeFdclDragStart_eq (payload : FdclDragStart) :
    encodeFdclDragStart payload = wrap .dragStart (dragStartBytes payload) := by
  simp [encodeFdclDragStart, dragStartBytes, dragStartFields, appendDragSurfaceCoordinate_eq]

theorem reads_dragStartBody {payload : FdclDragStart} (h : DragStartLimits payload) :
    Reads decodeDragStart { ok := true, operation := .dragStart, dragStart := payload }
      (dragStartBytes payload) [] := by
  refine Reads.bind (a := ({ payload.start with start := {} }, 0)) (Reads.named _ ?_) ?_
  · exact (reads_u64 _ _).bind <| (reads_u64 _ _).bind <| (reads_u64 _ _).bind <|
      (reads_u64 _ _).bind <| (reads_u32 _ _).bind <| (reads_u16 _ _).bind <|
      (reads_u16 _ _).bind <| Reads.pure _ _
  · exact Reads.bind_refuseIf (by simp) <| Reads.bind_refuseIf (by simp [h.action]) <|
      Reads.last (reads_coordinate [] h.point) <| Reads.bind_expectEnd <|
      Reads.bind_refuseIf h.identity <| Reads.pure _ _

structure DragPointLimits (dragSessionId : DragSessionId) (action : TransferAction)
    (point : DragSurfaceCoordinate) : Prop where
  action : validAction action = true
  point : CoordinateLimits point
  identity : dragSessionId ≠ 0

def dragPointBytes (dragSessionId : DragSessionId) (action : TransferAction)
    (point : DragSurfaceCoordinate) : ByteBuffer :=
  [u64Bytes dragSessionId, u16Bytes action.raw, u16Bytes 0].flatten ++
    (coordinateFields point).flatten

theorem encodeFdclDragMove_eq (payload : FdclDragMove) :
    encodeFdclDragMove payload = wrap .dragMove
      (dragPointBytes payload.dragSessionId payload.proposedAction payload.point) := by
  simp [encodeFdclDragMove, dragPointBytes, appendDragSurfaceCoordinate_eq]

theorem encodeFdclDragDrop_eq (payload : FdclDragDrop) :
    encodeFdclDragDrop payload = wrap .dragDrop
      (dragPointBytes payload.dragSessionId payload.proposedAction payload.point) := by
  simp [encodeFdclDragDrop, dragPointBytes, appendDragSurfaceCoordinate_eq]

/-- The two drag points have one decoder, whose last step puts the values into the field of the
operation. -/
theorem reads_dragPointBody {operation : FdclOperation} {dragSessionId : DragSessionId}
    {action : TransferAction} {point : DragSurfaceCoordinate} {result : FdclDecodeResult}
    (h : DragPointLimits dragSessionId action point)
    (hresult : (if operation = .dragMove then
        { ok := true
          operation := operation
          dragMove := { dragSessionId := dragSessionId, proposedAction := action, point := point } }
      else
        { ok := true
          operation := operation
          dragDrop := { dragSessionId := dragSessionId, proposedAction := action,
                        point := point } } : FdclDecodeResult) = result) :
    Reads (decodeDragPoint operation) result (dragPointBytes dragSessionId action point) [] := by
  refine Reads.bind (a := (dragSessionId, action.raw, 0)) (Reads.named _ ?_) ?_
  · exact (reads_u64 _ _).bind <| (reads_u16 _ _).bind <| (reads_u16 _ _).bind <| Reads.pure _ _
  · refine Reads.bind_refuseIf (by simp) <| Reads.bind_refuseIf (by simp [h.action]) <|
      Reads.last (reads_coordinate [] h.point) <| Reads.bind_expectEnd <|
      Reads.bind_refuseIf h.identity ?_
    rw [← hresult]
    split
    · exact Reads.pure _ _
    · exact Reads.pure _ _

structure DragCancelLimits (payload : FdclDragCancel) : Prop where
  reason : validDragCancelReason payload.reason = true
  identity : payload.dragSessionId ≠ 0

def dragCancelFields (payload : FdclDragCancel) : List ByteBuffer :=
  [u64Bytes payload.dragSessionId, u16Bytes payload.reason.raw, u16Bytes 0]

theorem encodeFdclDragCancel_eq (payload : FdclDragCancel) :
    encodeFdclDragCancel payload = wrap .dragCancel (dragCancelFields payload).flatten := by
  simp [encodeFdclDragCancel, dragCancelFields]

theorem reads_dragCancelBody {payload : FdclDragCancel} (h : DragCancelLimits payload) :
    Reads decodeDragCancel { ok := true, operation := .dragCancel, dragCancel := payload }
      (dragCancelFields payload).flatten [] := by
  refine Reads.last (a := (payload, 0)) (Reads.named _ ?_) ?_
  · exact (reads_u64 _ _).bind <| (reads_u16 _ _).bind <| (reads_u16 _ _).bind <| Reads.pure _ _
  · exact Reads.bind_refuseIf (by simp) <| Reads.bind_refuseIf (by simp [h.reason]) <|
      Reads.bind_expectEnd <| Reads.bind_refuseIf h.identity <| Reads.pure _ _

def errorDetailBytes (payload : FdclErrorDetail) : ByteBuffer :=
  u16Bytes payload.status.raw ++ stringBytes payload.message

theorem encodeFdclErrorDetail_eq (payload : FdclErrorDetail) :
    encodeFdclErrorDetail payload = wrap .errorDetail (errorDetailBytes payload) := by
  simp [encodeFdclErrorDetail, errorDetailBytes]

theorem reads_errorDetailBody {payload : FdclErrorDetail} (h : StringLimits payload.message) :
    Reads decodeErrorDetail { ok := true, operation := .errorDetail, errorDetail := payload }
      (errorDetailBytes payload) [] :=
  Reads.bind (Reads.named _ (reads_u16 _ _)) <| Reads.last (reads_string _ h) <|
    Reads.bind_expectEnd <| Reads.pure _ _

structure CancelLimits (payload : FdclCancel) : Prop where
  message : StringLimits payload.message
  identity : ¬(payload.correlationId = 0 ∨ payload.bundleId = 0 ∨ payload.offerId = 0 ∨
    payload.ownerEpoch = 0)

def cancelFields (payload : FdclCancel) : List ByteBuffer :=
  [u64Bytes payload.correlationId, u64Bytes payload.bundleId, u64Bytes payload.offerId,
    u64Bytes payload.ownerEpoch, u64Bytes payload.sourceId, u64Bytes payload.formatId,
    u16Bytes payload.reason.raw, u16Bytes 0]

def cancelBytes (payload : FdclCancel) : ByteBuffer :=
  (cancelFields payload).flatten ++ stringBytes payload.message

theorem encodeFdclCancel_eq (payload : FdclCancel) :
    encodeFdclCancel payload = wrap .cancel (cancelBytes payload) := by
  simp [encodeFdclCancel, cancelBytes, cancelFields]

theorem reads_cancelBody {payload : FdclCancel} (h : CancelLimits payload) :
    Reads decodeCancel { ok := true, operation := .cancel, cancel := payload }
      (cancelBytes payload) [] := by
  refine Reads.bind (a := ({ payload with message := [] }, 0)) (Reads.named _ ?_) ?_
  · exact (reads_u64 _ _).bind <| (reads_u64 _ _).bind <| (reads_u64 _ _).bind <|
      (reads_u64 _ _).bind <| (reads_u64 _ _).bind <| (reads_u64 _ _).bind <|
      (reads_u16 _ _).bind <| (reads_u16 _ _).bind <| Reads.pure _ _
  · exact Reads.bind_refuseIf (by simp) <| Reads.last (reads_string _ h.message) <|
      Reads.bind_expectEnd <| Reads.bind_refuseIf h.identity <| Reads.pure _ _

/-! ## The payload -/

def headerFields (operation : FdclOperation) (body : ByteBuffer) : List ByteBuffer :=
  [u32Bytes fdclMagic, u16Bytes fdclMajor, u16Bytes fdclMinor, u16Bytes operation.raw, u16Bytes 0,
    u32Bytes (UInt32.ofNat body.length)]

theorem wrap_eq (operation : FdclOperation) (body : ByteBuffer) :
    wrap operation body = (headerFields operation body).flatten ++ body := by
  simp [wrap, headerFields]

theorem length_headerFields (operation : FdclOperation) (body : ByteBuffer) :
    (headerFields operation body).flatten.length = headerSize := by
  simp [headerFields, headerSize]

/-- **The header of a wrapped body reads back**, if the size of the body can be written. -/
theorem run_readHeader_wrap (operation : FdclOperation) {body : ByteBuffer}
    (h : body.length < 2 ^ 32) :
    readHeader.run (wrap operation body) 0 = some (.ok (operation, headerSize)) := by
  have hlength : (UInt32.ofNat body.length).toNat = body.length := UInt32.toNat_ofNat_of_lt' h
  have hsize : (wrap operation body).length = headerSize + body.length := by
    rw [wrap_eq, List.length_append, length_headerFields]
  have hgroup : Reads (do
      let magic ← readU32
      let major ← readU16
      let minor ← readU16
      let operation ← readU16
      let flags ← readU16
      let length ← readU32
      return (magic, major, minor, operation, flags, length) : Reader String _)
      (fdclMagic, fdclMajor, fdclMinor, operation.raw, 0, UInt32.ofNat body.length)
      (headerFields operation body).flatten body :=
    (reads_u32 _ _).bind <| (reads_u16 _ _).bind <| (reads_u16 _ _).bind <|
      (reads_u16 _ _).bind <| (reads_u16 _ _).bind <| (reads_u32 _ _).bind <| Reads.pure _ _
  have hnamed := Reads.named (fun error => if error = "" then "FDCL header is truncated" else error)
    hgroup []
  rw [List.nil_append, ← wrap_eq, List.length_nil, Nat.zero_add, length_headerFields] at hnamed
  rw [readHeader, withError, run_bind_of_ok hnamed]
  simp only
  rw [run_bind_refuseIf (by simp), run_bind_refuseIf (by simp), run_bind_refuseIf (by simp),
    run_bind_size, run_bind_refuseIf (by rw [hsize, hlength]; simp)]
  rfl

/-- **A wrapped body is decoded by the decoder of its operation.** -/
theorem decodeFdclPayload_wrap {operation : FdclOperation} {body : ByteBuffer}
    {result : FdclDecodeResult} (hlength : body.length < 2 ^ 32)
    (hbody : Reads (decodeBody operation) result body []) :
    decodeFdclPayload (wrap operation body) = result := by
  have hsize : ¬(wrap operation body).length < headerSize := by
    rw [wrap_eq, List.length_append, length_headerFields]
    omega
  have hdrop : (wrap operation body).drop headerSize = body := by
    rw [wrap_eq, ← length_headerFields operation body, List.drop_left]
  have hheader : readHeader.outcome (wrap operation body) = .ok (operation, headerSize) :=
    outcome_eq_iff.mpr (run_readHeader_wrap operation hlength)
  have hresult : (decodeBody operation).outcome body = .ok (result, body.length) := by
    have hrun := hbody []
    rw [List.append_nil, List.nil_append, List.length_nil, Nat.zero_add] at hrun
    exact outcome_eq_iff.mpr hrun
  rw [decodeFdclPayload, if_neg hsize, hheader]
  simp only
  rw [hdrop, hresult]

/-! ## Messages -/

/-- A message of any operation. -/
inductive FdclMessage
  | capabilities (payload : FdclCapabilities)
  | formatList (payload : FdclFormatList)
  | readFormatRequest (payload : FdclReadFormatRequest)
  | readFormatResponse (payload : FdclReadFormatResponse)
  | cancel (payload : FdclCancel)
  | errorDetail (payload : FdclErrorDetail)
  | fileRangeRequest (payload : FdclFileRangeRequest)
  | fileRangeResponse (payload : FdclFileRangeResponse)
  | dragStart (payload : FdclDragStart)
  | dragMove (payload : FdclDragMove)
  | dragDrop (payload : FdclDragDrop)
  | dragCancel (payload : FdclDragCancel)
  | lockObject (payload : FdclObjectLock)
  | unlockObject (payload : FdclObjectLock)

namespace FdclMessage

def encode : FdclMessage → ByteBuffer
  | capabilities payload => encodeFdclCapabilities payload
  | formatList payload => encodeFdclFormatList payload
  | readFormatRequest payload => encodeFdclReadFormatRequest payload
  | readFormatResponse payload => encodeFdclReadFormatResponse payload
  | cancel payload => encodeFdclCancel payload
  | errorDetail payload => encodeFdclErrorDetail payload
  | fileRangeRequest payload => encodeFdclFileRangeRequest payload
  | fileRangeResponse payload => encodeFdclFileRangeResponse payload
  | dragStart payload => encodeFdclDragStart payload
  | dragMove payload => encodeFdclDragMove payload
  | dragDrop payload => encodeFdclDragDrop payload
  | dragCancel payload => encodeFdclDragCancel payload
  | lockObject payload => encodeFdclLockObject payload
  | unlockObject payload => encodeFdclUnlockObject payload

/-- The limits of the decoder of the operation. -/
def WithinLimits : FdclMessage → Prop
  | capabilities payload => CapabilitiesLimits payload
  | formatList payload => FormatListLimits payload
  | readFormatRequest payload => ReadRequestLimits payload
  | readFormatResponse payload => ReadResponseLimits payload
  | cancel payload => CancelLimits payload
  | errorDetail payload => StringLimits payload.message
  | fileRangeRequest payload => FileRangeRequestLimits payload
  | fileRangeResponse payload => FileRangeResponseLimits payload
  | dragStart payload => DragStartLimits payload
  | dragMove payload =>
    DragPointLimits payload.dragSessionId payload.proposedAction payload.point
  | dragDrop payload =>
    DragPointLimits payload.dragSessionId payload.proposedAction payload.point
  | dragCancel payload => DragCancelLimits payload
  | lockObject payload => ObjectLockLimits .lockObject payload
  | unlockObject payload => ObjectLockLimits .unlockObject payload

/-- What has to come back: the operation, and the message in its field. -/
def decoded : FdclMessage → FdclDecodeResult
  | capabilities payload => { ok := true, operation := .capabilities, capabilities := payload }
  | formatList payload => { ok := true, operation := .formatList, formatList := payload }
  | readFormatRequest payload =>
    { ok := true, operation := .readFormatRequest, readRequest := payload }
  | readFormatResponse payload =>
    { ok := true, operation := .readFormatResponse, readResponse := payload }
  | cancel payload => { ok := true, operation := .cancel, cancel := payload }
  | errorDetail payload => { ok := true, operation := .errorDetail, errorDetail := payload }
  | fileRangeRequest payload =>
    { ok := true, operation := .fileRangeRequest, fileRangeRequest := payload }
  | fileRangeResponse payload =>
    { ok := true, operation := .fileRangeResponse, fileRangeResponse := payload }
  | dragStart payload => { ok := true, operation := .dragStart, dragStart := payload }
  | dragMove payload => { ok := true, operation := .dragMove, dragMove := payload }
  | dragDrop payload => { ok := true, operation := .dragDrop, dragDrop := payload }
  | dragCancel payload => { ok := true, operation := .dragCancel, dragCancel := payload }
  | lockObject payload => { ok := true, operation := .lockObject, objectLock := payload }
  | unlockObject payload => { ok := true, operation := .unlockObject, objectLock := payload }

end FdclMessage

/-! ### The sizes of the bodies -/

theorem length_capabilitiesBytes_lt {payload : FdclCapabilities} (h : CapabilitiesLimits payload) :
    (capabilitiesBytes payload).length < 2 ^ 32 := by
  have hnames : ∀ canonical ∈ payload.canonicalFormats, (stringBytes canonical).length ≤ 4098 := by
    intro canonical hmem
    have hstring : canonical.length ≤ 4096 := (h.names canonical hmem).string
    rw [length_stringBytes]
    omega
  have hlist := length_flatMap_le hnames
  have hcount : payload.canonicalFormats.length ≤ 256 := h.count
  simp only [capabilitiesBytes, capabilitiesFields, List.length_append, List.length_flatten,
    List.map_cons, List.map_nil, List.sum_cons, List.sum_nil, length_u16Bytes, length_u32Bytes,
    length_u64Bytes, length_boolBytes]
  omega

theorem length_presentationBytes_le {presentation : TransferPresentation}
    (h : PresentationLimits presentation) :
    (presentationBytes presentation).length ≤ 100000 := by
  have hicons : ∀ icon ∈ presentation.icons, (iconFields icon).flatten.length ≤ 4115 := by
    intro icon hmem
    have hstring : icon.format.length ≤ 4096 := (h.icons icon hmem).string
    simp [iconFields]
    omega
  have himage : (optionalBytes (fun image => (dragImageFields image).flatten)
      presentation.dragImage).length ≤ 4120 := by
    cases hdrag : presentation.dragImage with
    | none => simp [optionalBytes]
    | some image =>
      have hstring : image.format.length ≤ 4096 := (h.dragImage image hdrag).format.string
      simp [optionalBytes, dragImageFields]
      omega
  have hlist := length_flatMap_le hicons
  have hcount : presentation.icons.length ≤ 16 := h.iconCount
  have hname : presentation.displayName.length ≤ 4096 := h.displayName
  simp only [presentationBytes, presentationFields, List.length_append, List.length_flatten,
    List.map_cons, List.map_nil, List.sum_cons, List.sum_nil, length_u16Bytes, length_u32Bytes,
    length_stringBytes, length_boolBytes] at hlist ⊢
  omega

theorem length_formatListBytes_lt {payload : FdclFormatList} (h : FormatListLimits payload) :
    (formatListBytes payload).length < 2 ^ 32 := by
  have hrecords : ∀ record ∈ payload.formats, (formatRecordBytes record).length ≤ 8234 := by
    intro record hmem
    have hlimits := h.records record hmem
    have hcanonical : record.canonicalFormat.length ≤ 4096 := hlimits.canonicalFormat.string
    have hnative : record.nativeFormatName.length ≤ 4096 := hlimits.nativeFormatName
    simp [formatRecordBytes, formatRecordFields]
    omega
  have hpresentation : (trailingPresentationBytes payload.presentation).length ≤ 100001 := by
    cases htrailing : payload.presentation with
    | none => simp [trailingPresentationBytes]
    | some presentation =>
      have hle := length_presentationBytes_le (h.presentation presentation htrailing)
      simp [trailingPresentationBytes]
      omega
  have hlist := length_flatMap_le hrecords
  have hcount : payload.formats.length ≤ 256 := h.count
  simp only [formatListBytes, formatListFields, List.length_append, List.length_flatten,
    List.map_cons, List.map_nil, List.sum_cons, List.sum_nil, length_u16Bytes, length_u32Bytes,
    length_u64Bytes]
  omega

theorem length_readRequestBytes_lt {payload : FdclReadFormatRequest}
    (h : ReadRequestLimits payload) : (readRequestBytes payload).length < 2 ^ 32 := by
  have hname : payload.canonicalFormat.length ≤ 4096 := h.canonicalFormat.string
  simp [readRequestBytes, readRequestFields]
  omega

theorem length_readResponseBytes_lt {payload : FdclReadFormatResponse}
    (h : ReadResponseLimits payload) : (readResponseBytes payload).length < 2 ^ 32 := by
  have hname : payload.canonicalFormat.length ≤ 4096 := h.canonicalFormat.string
  have hbytes : payload.bytes.length ≤ 1024 * 1024 := h.bytes
  simp [readResponseBytes, readResponseFields]
  omega

theorem length_fileRangeResponseBytes_lt {payload : FdclFileRangeResponse}
    (h : FileRangeResponseLimits payload) :
    (fileRangeResponseBytes payload).length < 2 ^ 32 := by
  have hbytes : payload.bytes.length ≤ 4 * 1024 * 1024 := h.bytes
  simp [fileRangeResponseBytes, fileRangeResponseFields]
  omega

theorem length_errorDetailBytes_lt {payload : FdclErrorDetail} (h : StringLimits payload.message) :
    (errorDetailBytes payload).length < 2 ^ 32 := by
  have hmessage : payload.message.length ≤ 4096 := h
  simp [errorDetailBytes]
  omega

theorem length_cancelBytes_lt {payload : FdclCancel} (h : CancelLimits payload) :
    (cancelBytes payload).length < 2 ^ 32 := by
  have hmessage : payload.message.length ≤ 4096 := h.message
  simp [cancelBytes, cancelFields]
  omega

/-- **Within the limits, what is encoded is decoded to what it was.** -/
theorem decodeFdclPayload_encode {message : FdclMessage} (h : message.WithinLimits) :
    decodeFdclPayload message.encode = message.decoded := by
  cases message with
  | capabilities payload =>
    rw [FdclMessage.encode, encodeFdclCapabilities, appendCapabilities_eq]
    exact decodeFdclPayload_wrap (length_capabilitiesBytes_lt h) (reads_capabilitiesBody h)
  | formatList payload =>
    rw [FdclMessage.encode, encodeFdclFormatList_eq]
    exact decodeFdclPayload_wrap (length_formatListBytes_lt h) (reads_formatListBody h)
  | readFormatRequest payload =>
    rw [FdclMessage.encode, encodeFdclReadFormatRequest_eq]
    exact decodeFdclPayload_wrap (length_readRequestBytes_lt h) (reads_readRequestBody h)
  | readFormatResponse payload =>
    rw [FdclMessage.encode, encodeFdclReadFormatResponse_eq]
    exact decodeFdclPayload_wrap (length_readResponseBytes_lt h) (reads_readResponseBody h)
  | cancel payload =>
    rw [FdclMessage.encode, encodeFdclCancel_eq]
    exact decodeFdclPayload_wrap (length_cancelBytes_lt h) (reads_cancelBody h)
  | errorDetail payload =>
    rw [FdclMessage.encode, encodeFdclErrorDetail_eq]
    exact decodeFdclPayload_wrap (length_errorDetailBytes_lt h) (reads_errorDetailBody h)
  | fileRangeRequest payload =>
    rw [FdclMessage.encode, encodeFdclFileRangeRequest_eq]
    exact decodeFdclPayload_wrap (by simp [fileRangeRequestFields]) (reads_fileRangeRequestBody h)
  | fileRangeResponse payload =>
    rw [FdclMessage.encode, encodeFdclFileRangeResponse_eq]
    exact decodeFdclPayload_wrap (length_fileRangeResponseBytes_lt h)
      (reads_fileRangeResponseBody h)
  | dragStart payload =>
    rw [FdclMessage.encode, encodeFdclDragStart_eq]
    exact decodeFdclPayload_wrap (by simp [dragStartBytes, dragStartFields, coordinateFields])
      (reads_dragStartBody h)
  | dragMove payload =>
    rw [FdclMessage.encode, encodeFdclDragMove_eq]
    exact decodeFdclPayload_wrap (by simp [dragPointBytes, coordinateFields])
      (reads_dragPointBody h rfl)
  | dragDrop payload =>
    rw [FdclMessage.encode, encodeFdclDragDrop_eq]
    exact decodeFdclPayload_wrap (by simp [dragPointBytes, coordinateFields])
      (reads_dragPointBody h rfl)
  | dragCancel payload =>
    rw [FdclMessage.encode, encodeFdclDragCancel_eq]
    exact decodeFdclPayload_wrap (by simp [dragCancelFields]) (reads_dragCancelBody h)
  | lockObject payload =>
    rw [FdclMessage.encode, encodeFdclLockObject, encodeObjectLock_eq]
    exact decodeFdclPayload_wrap (by simp [objectLockFields]) (reads_objectLockBody h)
  | unlockObject payload =>
    rw [FdclMessage.encode, encodeFdclUnlockObject, encodeObjectLock_eq]
    exact decodeFdclPayload_wrap (by simp [objectLockFields]) (reads_objectLockBody h)

/-! ## What is accepted -/

theorem advances_u16 : Advances readU16 2 := Advances.checked

theorem advances_u32 : Advances readU32 4 := Advances.checked

/-- A header that is accepted is its 16 bytes. -/
theorem advances_readHeader : Advances readHeader headerSize := by
  have hgroup : Advances (do
      let magic ← readU32
      let major ← readU16
      let minor ← readU16
      let operation ← readU16
      let flags ← readU16
      let length ← readU32
      return (magic, major, minor, operation, flags, length) : Reader String _) headerSize :=
    advances_u32.bind fun _ => advances_u16.bind fun _ => advances_u16.bind fun _ =>
      advances_u16.bind fun _ => advances_u16.bind fun _ => advances_u32.bind fun _ =>
      Advances.pure _
  exact (hgroup.named _).bind fun _ => (Advances.refuseIf _ _).bind fun _ =>
    (Advances.refuseIf _ _).bind fun _ => (Advances.refuseIf _ _).bind fun _ =>
    Advances.size.bind fun _ => (Advances.refuseIf _ _).bind fun _ => Advances.pure _

/-- Behind the question for the end there are checks and the result. -/
theorem advances_checked_result {c : Prop} [Decidable c] (e : String) (result : FdclDecodeResult) :
    Advances (refuseIf c e >>= fun _ => (pure result : Reader String FdclDecodeResult)) 0 :=
  (Advances.refuseIf c e).bind fun _ => Advances.pure _

theorem ends_ite {c : Prop} [Decidable c] {r s : Reader String FdclDecodeResult} (hr : Ends r)
    (hs : Ends s) : Ends (if c then r else s) := by
  by_cases h : c
  · rwa [if_pos h]
  · rwa [if_neg h]

theorem ends_decodeCapabilities : Ends decodeCapabilities :=
  Ends.bind fun _ => Ends.expectEnd_bind (Advances.pure _)

theorem ends_decodeFormatList : Ends decodeFormatList :=
  Ends.bind fun ⟨_, _⟩ => Ends.bind fun _ => Ends.bind fun _ => Ends.bind fun _ =>
    Ends.bind fun _ => Ends.expectEnd_bind (Advances.pure _)

theorem ends_decodeReadRequest : Ends decodeReadRequest :=
  Ends.bind fun _ => Ends.bind fun _ => Ends.bind fun _ => Ends.bind fun _ =>
    Ends.expectEnd_bind (advances_checked_result _ _)

theorem ends_decodeReadResponse : Ends decodeReadResponse :=
  Ends.bind fun _ => Ends.bind fun _ => Ends.bind fun _ => Ends.bind fun _ =>
    Ends.bind fun _ => Ends.bind fun _ => Ends.bind fun _ =>
    Ends.expectEnd_bind (advances_checked_result _ _)

theorem ends_decodeErrorDetail : Ends decodeErrorDetail :=
  Ends.bind fun _ => Ends.bind fun _ => Ends.expectEnd_bind (Advances.pure _)

theorem ends_decodeFileRangeRequest : Ends decodeFileRangeRequest :=
  Ends.bind fun ⟨_, _⟩ => Ends.bind fun _ => Ends.expectEnd_bind (advances_checked_result _ _)

theorem ends_decodeFileRangeResponse : Ends decodeFileRangeResponse :=
  Ends.bind fun ⟨_, _, _⟩ => Ends.bind fun _ => Ends.bind fun _ => Ends.bind fun _ =>
    Ends.expectEnd_bind (advances_checked_result _ _)

theorem ends_decodeFdclObjectLockBody (operation : FdclOperation) :
    Ends (decodeFdclObjectLockBody operation) :=
  Ends.bind fun ⟨_, _⟩ => Ends.bind fun _ => Ends.expectEnd_bind <|
    (Advances.refuseIf _ _).bind fun _ => advances_checked_result _ _

theorem ends_decodeDragStart : Ends decodeDragStart :=
  Ends.bind fun ⟨_, _⟩ => Ends.bind fun _ => Ends.bind fun _ => Ends.bind fun _ =>
    Ends.expectEnd_bind (advances_checked_result _ _)

theorem ends_decodeDragPoint (operation : FdclOperation) : Ends (decodeDragPoint operation) := by
  refine Ends.bind fun ⟨_, _, _⟩ => Ends.bind fun _ => Ends.bind fun _ => Ends.bind fun _ =>
    Ends.expectEnd_bind ?_
  by_cases hmove : operation = .dragMove
  · simp only [if_pos hmove]
    exact advances_checked_result _ _
  · simp only [if_neg hmove]
    exact advances_checked_result _ _

theorem ends_decodeDragCancel : Ends decodeDragCancel :=
  Ends.bind fun ⟨_, _⟩ => Ends.bind fun _ => Ends.bind fun _ =>
    Ends.expectEnd_bind (advances_checked_result _ _)

theorem ends_decodeCancel : Ends decodeCancel :=
  Ends.bind fun ⟨_, _⟩ => Ends.bind fun _ => Ends.bind fun _ =>
    Ends.expectEnd_bind (advances_checked_result _ _)

theorem ends_fail (error : String) : Ends (fail error : Reader String FdclDecodeResult) := by
  intro input offset result next h
  cases h

/-- **No decoder gives a result before the end of the body.** -/
theorem ends_decodeBody (operation : FdclOperation) : Ends (decodeBody operation) :=
  ends_ite ends_decodeCapabilities <| ends_ite ends_decodeFormatList <|
    ends_ite ends_decodeReadRequest <| ends_ite ends_decodeReadResponse <|
    ends_ite ends_decodeErrorDetail <| ends_ite ends_decodeFileRangeRequest <|
    ends_ite ends_decodeFileRangeResponse <| ends_ite (ends_decodeFdclObjectLockBody _) <|
    ends_ite (ends_decodeFdclObjectLockBody _) <| ends_ite ends_decodeDragStart <|
    ends_ite (ends_decodeDragPoint _) <| ends_ite (ends_decodeDragPoint _) <|
    ends_ite ends_decodeDragCancel <| ends_ite ends_decodeCancel <| ends_fail _

/-- The payload was read to its end and no further: an access outside would be `none`, the header
ends behind its 16 bytes, and the decoder of the body at the end of the body. -/
def FullyRead (payload : ByteBuffer) : Prop :=
  ∃ operation body, payload.length = headerSize + body.length ∧ payload.drop headerSize = body ∧
    readHeader.run payload 0 = some (.ok (operation, headerSize)) ∧
    (decodeBody operation).run body 0 = some (.ok (decodeFdclPayload payload, body.length))

/-- **What is accepted was read to its end and no further.** -/
theorem decodeFdclPayload_fullyRead {payload : ByteBuffer}
    (h : (decodeFdclPayload payload).ok = true) : FullyRead payload := by
  by_cases hshort : payload.length < headerSize
  · rw [decodeFdclPayload, if_pos hshort] at h
    cases h
  cases hheader : readHeader.outcome payload with
  | error error =>
    rw [decodeFdclPayload, if_neg hshort, hheader] at h
    cases h
  | ok header =>
    obtain ⟨operation, next⟩ := header
    have hrun := outcome_eq_iff.mp hheader
    have hnext := advances_readHeader payload 0 operation next hrun
    rw [Nat.zero_add] at hnext
    cases hbody : (decodeBody operation).outcome (payload.drop headerSize) with
    | error error =>
      rw [decodeFdclPayload, if_neg hshort, hheader] at h
      simp only [hbody] at h
      cases h
    | ok decoded =>
      obtain ⟨result, last⟩ := decoded
      have hread := outcome_eq_iff.mp hbody
      have hlast := ends_decodeBody operation _ _ _ _ hread
      have hresult : decodeFdclPayload payload = result := by
        rw [decodeFdclPayload, if_neg hshort, hheader]
        simp only [hbody]
      refine ⟨operation, payload.drop headerSize, ?_, rfl, ?_, ?_⟩
      · rw [List.length_drop]
        omega
      · rw [hrun, hnext]
      · rw [hresult, hread, hlast]

/-- **The FDCL round trip**: within the limits of the decoder every message comes back, and a
payload that is accepted was read without passing its end and has nothing behind. -/
theorem fdcl_roundTrip :
    (∀ message : FdclMessage, message.WithinLimits →
      decodeFdclPayload message.encode = message.decoded) ∧
      ∀ payload, (decodeFdclPayload payload).ok = true → FullyRead payload :=
  ⟨fun _ h => decodeFdclPayload_encode h, fun _ h => decodeFdclPayload_fullyRead h⟩

end Clipboard
end FusionDesk
