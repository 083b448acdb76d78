import FusionDesk.Clipboard.FdclProtocol
import FusionDesk.General.ByteReader
import FusionDesk.Protocol.CapabilityPayloadRoundTrip
import Mathlib.Data.Rat.Floor

/-!
# The FDCL codec

`src/modules/clipboard/fdcl_encoder.cpp`, `fdcl_codec.cpp` and `fdcl_codec_object_lock.cpp`: a header
of 16 bytes and a body for each operation, all numbers big endian.

The decoders are readers (`General.ByteReader`): each read asks for its bytes first, and a decoder
ends at the first read or check that fails.  A read that is one of a group has no error text of its
own, and the text is that of the group (`withError`); a string has one.  Where a decoder fails, the
source leaves the fields it has read so far in the result; nothing looks at them, and here such a
result has the operation and the error only.

A scale is written in thousandths.  The functions of the source that shift a number into bytes are
those of the capability payload.
-/

namespace FusionDesk
namespace Clipboard

open Protocol ByteReader Reader

def fdclMagic : UInt32 := 0x4644434c
def fdclMajor : UInt16 := 1
def fdclMinor : UInt16 := 0
def headerSize : ℕ := 16
def maxStringBytes : ℕ := 4096
def maxFormatRecords : ℕ := 256
def maxInlineBytes : ℕ := 1024 * 1024
def maxFileRangeBytes : ℕ := 4 * 1024 * 1024
def maxPresentationIcons : ℕ := 16

/-! ## The encoder -/

def appendU16 (output : ByteBuffer) (value : UInt16) : ByteBuffer :=
  CapabilityPayload.writeU16 output value

def appendU32 (output : ByteBuffer) (value : UInt32) : ByteBuffer :=
  CapabilityPayload.writeU32 output value

def appendI32 (output : ByteBuffer) (value : Int32) : ByteBuffer :=
  appendU32 output value.toUInt32

def appendU64 (output : ByteBuffer) (value : UInt64) : ByteBuffer :=
  CapabilityPayload.writeU64 output value

def appendScale (output : ByteBuffer) (value : ℚ) : ByteBuffer :=
  let value := if value ≤ 0 then 1 else value
  appendU32 output (UInt32.ofNat ⌊value * 1000⌋.toNat)

def appendBool (output : ByteBuffer) (value : Bool) : ByteBuffer :=
  output ++ [if value then 1 else 0]

def appendString (output : ByteBuffer) (value : StdString) : ByteBuffer :=
  appendU16 output (UInt16.ofNat value.length) ++ value

def appendBytes (output : ByteBuffer) (value : ByteBuffer) : ByteBuffer :=
  appendU32 output (UInt32.ofNat value.length) ++ value

def wrap (operation : FdclOperation) (body : ByteBuffer) : ByteBuffer :=
  let output := appendU32 [] fdclMagic
  let output := appendU16 output fdclMajor
  let output := appendU16 output fdclMinor
  let output := appendU16 output operation.raw
  let output := appendU16 output 0
  let output := appendU32 output (UInt32.ofNat body.length)
  output ++ body

def appendDragSurfaceCoordinate (body : ByteBuffer) (point : DragSurfaceCoordinate) : ByteBuffer :=
  let body := appendU16 body point.coordinateSpace.raw
  let body := appendU16 body 0
  let body := appendI32 body point.x
  let body := appendI32 body point.y
  let body := appendU32 body point.surfaceWidth
  let body := appendU32 body point.surfaceHeight
  appendScale body point.scale

def appendCapabilities (body : ByteBuffer) (capabilities : FdclCapabilities) : ByteBuffer :=
  let body := appendU16 body capabilities.protocolMajor
  let body := appendU16 body capabilities.protocolMinor
  let body := appendU64 body capabilities.maxInlineBytes
  let body := appendU64 body capabilities.maxStreamBytes
  let body := appendU32 body capabilities.supportedActions
  let body := appendBool body capabilities.supportsStreams
  let body := appendBool body capabilities.supportsNativePassthrough
  let body := appendBool body capabilities.supportsPresentationMetadata
  let body := appendBool body capabilities.supportsDrag
  let body := appendU32 body (UInt32.ofNat capabilities.canonicalFormats.length)
  capabilities.canonicalFormats.foldl appendString body

def appendIcon (body : ByteBuffer) (icon : IconRepresentation) : ByteBuffer :=
  let body := appendString body icon.format
  let body := appendU32 body icon.width
  let body := appendU32 body icon.height
  let body := appendU64 body icon.bytes
  appendBool body icon.sensitive

def appendDragImage (body : ByteBuffer) (image : DragImage) : ByteBuffer :=
  let body := appendString body image.format
  let body := appendU32 body image.width
  let body := appendU32 body image.height
  let body := appendScale body image.scale
  let body := appendI32 body image.hotspotX
  let body := appendI32 body image.hotspotY
  let body := appendBool body image.generatedPreview
  appendBool body image.sensitive

def appendPresentation (body : ByteBuffer) (presentation : TransferPresentation) : ByteBuffer :=
  let body := appendString body presentation.displayName
  let body := appendU32 body presentation.itemCount
  let body := appendU16 body presentation.sourceKind.raw
  let body := appendU32 body presentation.allowedActions
  let body := appendU16 body presentation.preferredAction.raw
  let body := appendBool body presentation.previewAllowedByPolicy
  let body := appendU16 body (UInt16.ofNat presentation.icons.length)
  let body := presentation.icons.foldl appendIcon body
  let body := appendBool body presentation.dragImage.isSome
  match presentation.dragImage with
  | none => body
  | some image => appendDragImage body image

def appendFormatRecord (body : ByteBuffer) (record : FdclFormatRecord) : ByteBuffer :=
  let body := appendU64 body record.sourceId
  let body := appendU32 body record.itemIndex
  let body := appendU64 body record.formatId
  let body := appendU32 body record.localFormatToken
  let body := appendU64 body record.estimatedBytes
  let body := appendBool body record.canInline
  let body := appendBool body record.canStream
  let body := appendU16 body record.preferredEncoding.raw
  let body := appendU16 body 0
  let body := appendString body record.canonicalFormat
  appendString body record.nativeFormatName

def encodeFdclCapabilities (payload : FdclCapabilities) : ByteBuffer :=
  wrap .capabilities (appendCapabilities [] payload)

def encodeFdclFormatList (payload : FdclFormatList) : ByteBuffer :=
  let body := appendU64 [] payload.bundleId
  let body := appendU64 body payload.offerId
  let body := appendU64 body payload.ownerEpoch
  let body := appendU64 body payload.sequence
  let body := appendU16 body payload.origin.raw
  let body := appendU16 body payload.side.raw
  let body := appendU64 body payload.originSessionId
  let body := appendU64 body payload.policyVersion
  let body := appendU32 body (UInt32.ofNat payload.formats.length)
  let body := payload.formats.foldl appendFormatRecord body
  let body :=
    match payload.presentation with
    | none => body
    | some presentation => appendPresentation (appendBool body true) presentation
  wrap .formatList body

def encodeFdclReadFormatRequest (payload : FdclReadFormatRequest) : ByteBuffer :=
  let body := appendU64 [] payload.bundleId
  let body := appendU64 body payload.offerId
  let body := appendU64 body payload.ownerEpoch
  let body := appendU64 body payload.sourceId
  let body := appendU32 body payload.itemIndex
  let body := appendU64 body payload.formatId
  let body := appendU32 body payload.localFormatToken
  let body := appendU64 body payload.acceptedMaxBytes
  let body := appendBool body payload.streamAccepted
  let body := appendU16 body payload.requestedEncoding.raw
  let body := appendU16 body 0
  let body := appendString body payload.canonicalFormat
  wrap .readFormatRequest body

def encodeFdclReadFormatResponse (payload : FdclReadFormatResponse) : ByteBuffer :=
  let body := appendU64 [] payload.bundleId
  let body := appendU64 body payload.offerId
  let body := appendU64 body payload.ownerEpoch
  let body := appendU64 body payload.sourceId
  let body := appendU32 body payload.itemIndex
  let body := appendU64 body payload.formatId
  let body := appendU16 body payload.encoding.raw
  let body := appendU16 body 0
  let body := appendString body payload.canonicalFormat
  let body := appendBytes body payload.bytes
  wrap .readFormatResponse body

def encodeFdclErrorDetail (payload : FdclErrorDetail) : ByteBuffer :=
  let body := appendU16 [] payload.status.raw
  let body := appendString body payload.message
  wrap .errorDetail body

def encodeFdclFileRangeRequest (payload : FdclFileRangeRequest) : ByteBuffer :=
  let body := appendU64 [] payload.bundleId
  let body := appendU64 body payload.offerId
  let body := appendU64 body payload.ownerEpoch
  let body := appendU64 body payload.sourceId
  let body := appendU64 body payload.objectId
  let body := appendU32 body payload.fileIndex
  let body := appendU64 body payload.offset
  let body := appendU64 body payload.requestedBytes
  let body := appendU16 body 0
  wrap .fileRangeRequest body

def encodeFdclFileRangeResponse (payload : FdclFileRangeResponse) : ByteBuffer :=
  let body := appendU64 [] payload.bundleId
  let body := appendU64 body payload.offerId
  let body := appendU64 body payload.ownerEpoch
  let body := appendU64 body payload.sourceId
  let body := appendU64 body payload.objectId
  let body := appendU32 body payload.fileIndex
  let body := appendU64 body payload.offset
  let body := appendBool body payload.endOfFile
  let body := appendU16 body 0
  let body := appendBytes body payload.bytes
  wrap .fileRangeResponse body

def encodeObjectLock (operation : FdclOperation) (payload : FdclObjectLock) : ByteBuffer :=
  let body := appendU64 [] payload.bundleId
  let body := appendU64 body payload.offerId
  let body := appendU64 body payload.ownerEpoch
  let body := appendU64 body payload.sourceId
  let body := appendU64 body payload.objectId
  let body := appendU32 body payload.fileIndex
  let body := appendU64 body payload.lockId
  let body := appendU64 body payload.leaseUsec
  let body := appendU16 body 0
  wrap operation body

def encodeFdclLockObject (payload : FdclObjectLock) : ByteBuffer :=
  encodeObjectLock .lockObject payload

def encodeFdclUnlockObject (payload : FdclObjectLock) : ByteBuffer :=
  encodeObjectLock .unlockObject payload

def encodeFdclDragStart (payload : FdclDragStart) : ByteBuffer :=
  let body := appendU64 [] payload.start.dragSessionId
  let body := appendU64 body payload.start.bundleId
  let body := appendU64 body payload.start.offerId
  let body := appendU64 body payload.start.ownerEpoch
  let body := appendU32 body payload.start.allowedActions
  let body := appendU16 body payload.start.preferredAction.raw
  let body := appendU16 body 0
  let body := appendDragSurfaceCoordinate body payload.start.start
  wrap .dragStart body

def encodeFdclDragMove (payload : FdclDragMove) : ByteBuffer :=
  let body := appendU64 [] payload.dragSessionId
  let body := appendU16 body payload.proposedAction.raw
  let body := appendU16 body 0
  let body := appendDragSurfaceCoordinate body payload.point
  wrap .dragMove body

def encodeFdclDragDrop (payload : FdclDragDrop) : ByteBuffer :=
  let body := appendU64 [] payload.dragSessionId
  let body := appendU16 body payload.proposedAction.raw
  let body := appendU16 body 0
  let body := appendDragSurfaceCoordinate body payload.point
  wrap .dragDrop body

def encodeFdclDragCancel (payload : FdclDragCancel) : ByteBuffer :=
  let body := appendU64 [] payload.dragSessionId
  let body := appendU16 body payload.reason.raw
  let body := appendU16 body 0
  wrap .dragCancel body

def encodeFdclCancel (payload : FdclCancel) : ByteBuffer :=
  let body := appendU64 [] payload.correlationId
  let body := appendU64 body payload.bundleId
  let body := appendU64 body payload.offerId
  let body := appendU64 body payload.ownerEpoch
  let body := appendU64 body payload.sourceId
  let body := appendU64 body payload.formatId
  let body := appendU16 body payload.reason.raw
  let body := appendU16 body 0
  let body := appendString body payload.message
  wrap .cancel body

/-! ## Reading one field -/

namespace Fdcl

def readU16 : Reader String UInt16 :=
  checked 2 "" CapabilityPayload.readU16 CapabilityPayload.isSome_readU16

def readU32 : Reader String UInt32 :=
  checked 4 "" CapabilityPayload.readU32 CapabilityPayload.isSome_readU32

def readI32 : Reader String Int32 := do
  let raw ← readU32
  return raw.toInt32

def readU64 : Reader String UInt64 :=
  checked 8 "" CapabilityPayload.readU64 CapabilityPayload.isSome_readU64

def readScale : Reader String ℚ := do
  let scaleMilli ← readU32
  refuseIf (scaleMilli = 0) ""
  return (scaleMilli.toNat : ℚ) / 1000

theorem isSome_readBool (input : List UInt8) (offset : ℕ) (h : offset + 1 ≤ input.length) :
    ((input[offset]?).map fun b => b != 0).isSome := by
  rw [Option.isSome_map]
  exact isSome_getElem? input offset h

def readBool : Reader String Bool :=
  checked 1 "" (fun input offset => (input[offset]?).map fun b => b != 0) isSome_readBool

end Fdcl

open Fdcl

def validEncodingMode (mode : TransferEncodingMode) : Bool :=
  mode == .canonicalBytes || mode == .nativePassthrough || mode == .transcoded

def readEncodingMode : Reader String TransferEncodingMode := do
  let raw ← readU16
  refuseIf (validEncodingMode ⟨raw⟩ = false) ""
  return ⟨raw⟩

/-- The text of a group of reads, where the read that failed has none. -/
def withError {α : Type} (text : String) (r : Reader String α) : Reader String α :=
  named (fun error => if error = "" then text else error) r

def readString : Reader String StdString := do
  let length ← withError "string length is truncated" readU16
  refuseIf (length.toNat > maxStringBytes) "string length exceeds limit"
  bytes length.toNat "string bytes are truncated"

def validFormatName (value : StdString) : Bool :=
  !value.isEmpty && value.length ≤ maxStringBytes

def validSourceKind (value : TransferSourceKind) : Bool :=
  value == .unknown || value == .text || value == .image || value == .fileList ||
    value == .custom || value == .mixed

def validAction (value : TransferAction) : Bool :=
  value == .none || value == .copy || value == .move || value == .link

def validDragCoordinateSpace (value : DragCoordinateSpace) : Bool :=
  value == .remoteLogical || value == .remotePhysical || value == .localLogical ||
    value == .localPhysical

def validDragCancelReason (value : DragCancelReason) : Bool :=
  value == .unknown || value == .userCancelled || value == .sourceLost || value == .dropFailed ||
    value == .policyDenied || value == .timeout

/-! ## Reading the parts of a body -/

def readDragSurfaceCoordinate : Reader String DragSurfaceCoordinate := do
  let (point, reserved) ← withError "drag coordinate is truncated" do
    let coordinateSpace ← readU16
    let reserved ← readU16
    let x ← readI32
    let y ← readI32
    let surfaceWidth ← readU32
    let surfaceHeight ← readU32
    let scale ← readScale
    return (({
      coordinateSpace := ⟨coordinateSpace⟩
      x := x
      y := y
      surfaceWidth := surfaceWidth
      surfaceHeight := surfaceHeight
      scale := scale } : DragSurfaceCoordinate), reserved)
  refuseIf (reserved ≠ 0) "drag coordinate reserved field is not zero"
  refuseIf (validDragCoordinateSpace point.coordinateSpace = false)
    "drag coordinate space is invalid"
  return point

def readCanonicalFormat : Reader String StdString := do
  let canonical ← readString
  refuseIf (validFormatName canonical = false) "capabilities canonical format is invalid"
  return canonical

def readCapabilities : Reader String FdclCapabilities := do
  let (capabilities, count) ← withError "capabilities body is truncated" do
    let protocolMajor ← readU16
    let protocolMinor ← readU16
    let maxInlineBytes ← readU64
    let maxStreamBytes ← readU64
    let supportedActions ← readU32
    let supportsStreams ← readBool
    let supportsNativePassthrough ← readBool
    let supportsPresentationMetadata ← readBool
    let supportsDrag ← readBool
    let count ← readU32
    return (({
      protocolMajor := protocolMajor
      protocolMinor := protocolMinor
      maxInlineBytes := maxInlineBytes
      maxStreamBytes := maxStreamBytes
      supportedActions := supportedActions
      supportsStreams := supportsStreams
      supportsNativePassthrough := supportsNativePassthrough
      supportsPresentationMetadata := supportsPresentationMetadata
      supportsDrag := supportsDrag } : FdclCapabilities), count)
  refuseIf (capabilities.protocolMajor = 0 ∨ count.toNat > maxFormatRecords)
    "capabilities values are invalid"
  let canonicalFormats ← times readCanonicalFormat count.toNat
  return { capabilities with canonicalFormats := canonicalFormats }

def readIcon : Reader String IconRepresentation := do
  let icon ← withError "presentation icon is truncated" do
    let format ← readString
    let width ← readU32
    let height ← readU32
    let bytes ← readU64
    let sensitive ← readBool
    return ({
      format := format
      width := width
      height := height
      bytes := bytes
      sensitive := sensitive } : IconRepresentation)
  refuseIf (validFormatName icon.format = false) "presentation icon format is invalid"
  return icon

def readDragImage : Reader String DragImage := do
  let image ← withError "presentation drag image is truncated" do
    let format ← readString
    let width ← readU32
    let height ← readU32
    let scale ← readScale
    let hotspotX ← readI32
    let hotspotY ← readI32
    let generatedPreview ← readBool
    let sensitive ← readBool
    return ({
      format := format
      width := width
      height := height
      scale := scale
      hotspotX := hotspotX
      hotspotY := hotspotY
      generatedPreview := generatedPreview
      sensitive := sensitive } : DragImage)
  refuseIf (validFormatName image.format = false) "presentation drag image format is invalid"
  return image

/-- What stands behind a flag. -/
def readOptional {α : Type} (present : Bool) (r : Reader String α) : Reader String (Option α) :=
  if present then do
    let value ← r
    return some value
  else pure none

def readPresentation : Reader String TransferPresentation := do
  let (presentation, iconCount) ← withError "presentation body is truncated" do
    let displayName ← readString
    let itemCount ← readU32
    let sourceKind ← readU16
    let allowedActions ← readU32
    let preferredAction ← readU16
    let previewAllowedByPolicy ← readBool
    let iconCount ← readU16
    return (({
      displayName := displayName
      itemCount := itemCount
      sourceKind := ⟨sourceKind⟩
      allowedActions := allowedActions
      preferredAction := ⟨preferredAction⟩
      previewAllowedByPolicy := previewAllowedByPolicy } : TransferPresentation), iconCount)
  refuseIf (validSourceKind presentation.sourceKind = false ∨
    validAction presentation.preferredAction = false ∨ iconCount.toNat > maxPresentationIcons)
    "presentation values are invalid"
  let icons ← times readIcon iconCount.toNat
  let hasDragImage ← withError "presentation drag image flag is truncated" readBool
  let dragImage ← readOptional hasDragImage readDragImage
  return { presentation with
    icons := icons
    dragImage := dragImage }

def readFormatRecord : Reader String FdclFormatRecord := do
  let (record, reserved) ← withError "format record is truncated" do
    let sourceId ← readU64
    let itemIndex ← readU32
    let formatId ← readU64
    let localFormatToken ← readU32
    let estimatedBytes ← readU64
    let canInline ← readBool
    let canStream ← readBool
    let preferredEncoding ← readEncodingMode
    let reserved ← readU16
    return (({
      sourceId := sourceId
      itemIndex := itemIndex
      formatId := formatId
      localFormatToken := localFormatToken
      estimatedBytes := estimatedBytes
      canInline := canInline
      canStream := canStream
      preferredEncoding := preferredEncoding } : FdclFormatRecord), reserved)
  refuseIf (reserved ≠ 0) "format record reserved field is not zero"
  let canonicalFormat ← readString
  let nativeFormatName ← readString
  refuseIf (validFormatName canonicalFormat = false) "canonical format is invalid"
  refuseIf (record.sourceId = 0 ∨ record.formatId = 0) "format record identity is invalid"
  return { record with
    canonicalFormat := canonicalFormat
    nativeFormatName := nativeFormatName }

/-! ## The decoders of the bodies -/

def decodeCapabilities : Reader String FdclDecodeResult := do
  let capabilities ← readCapabilities
  expectEnd "capabilities body has trailing bytes"
  return { ok := true, operation := .capabilities, capabilities := capabilities }

/-- The presentation at the end of a format list: nothing, or a flag and what stands behind it. -/
def readTrailingPresentation : Reader String (Option TransferPresentation) := do
  let finished ← atEnd
  if finished then return none
  else
    let hasPresentation ← withError "format list presentation flag is truncated" readBool
    readOptional hasPresentation readPresentation

def decodeFormatList : Reader String FdclDecodeResult := do
  let (formatList, count) ← withError "format list body is truncated" do
    let bundleId ← readU64
    let offerId ← readU64
    let ownerEpoch ← readU64
    let sequence ← readU64
    let origin ← readU16
    let side ← readU16
    let originSessionId ← readU64
    let policyVersion ← readU64
    let count ← readU32
    return (({
      bundleId := bundleId
      offerId := offerId
      ownerEpoch := ownerEpoch
      sequence := sequence
      origin := ⟨origin⟩
      side := ⟨side⟩
      originSessionId := originSessionId
      policyVersion := policyVersion } : FdclFormatList), count)
  refuseIf (formatList.bundleId = 0 ∨ formatList.offerId = 0) "format list identity is invalid"
  refuseIf (count = 0 ∨ count.toNat > maxFormatRecords) "format list count is invalid"
  let formats ← times readFormatRecord count.toNat
  let presentation ← readTrailingPresentation
  expectEnd "format list has trailing bytes"
  return {
    ok := true
    operation := .formatList
    formatList := { formatList with
      formats := formats
      presentation := presentation } }

def decodeReadRequest : Reader String FdclDecodeResult := do
  let request ← withError "read request body is truncated" do
    let bundleId ← readU64
    let offerId ← readU64
    let ownerEpoch ← readU64
    let sourceId ← readU64
    let itemIndex ← readU32
    let formatId ← readU64
    let localFormatToken ← readU32
    let acceptedMaxBytes ← readU64
    let streamAccepted ← readBool
    let requestedEncoding ← readEncodingMode
    return ({
      bundleId := bundleId
      offerId := offerId
      ownerEpoch := ownerEpoch
      sourceId := sourceId
      itemIndex := itemIndex
      formatId := formatId
      localFormatToken := localFormatToken
      acceptedMaxBytes := acceptedMaxBytes
      streamAccepted := streamAccepted
      requestedEncoding := requestedEncoding } : FdclReadFormatRequest)
  let reserved ← withError "read request body is truncated" readU16
  refuseIf (reserved ≠ 0) "read request reserved field is not zero"
  let canonicalFormat ← readString
  expectEnd "read request has trailing bytes"
  refuseIf (request.bundleId = 0 ∨ request.offerId = 0 ∨ request.ownerEpoch = 0 ∨
    request.sourceId = 0 ∨ request.formatId = 0 ∨ validFormatName canonicalFormat = false)
    "read request identity is invalid"
  return {
    ok := true
    operation := .readFormatRequest
    readRequest := { request with canonicalFormat := canonicalFormat } }

def decodeReadResponse : Reader String FdclDecodeResult := do
  let response ← withError "read response body is truncated" do
    let bundleId ← readU64
    let offerId ← readU64
    let ownerEpoch ← readU64
    let sourceId ← readU64
    let itemIndex ← readU32
    let formatId ← readU64
    let encoding ← readEncodingMode
    return ({
      bundleId := bundleId
      offerId := offerId
      ownerEpoch := ownerEpoch
      sourceId := sourceId
      itemIndex := itemIndex
      formatId := formatId
      encoding := encoding } : FdclReadFormatResponse)
  let reserved ← withError "read response body is truncated" readU16
  refuseIf (reserved ≠ 0) "read response reserved field is not zero"
  let canonicalFormat ← readString
  let length ← withError "read response byte length is truncated" readU32
  refuseIf (length.toNat > maxInlineBytes) "read response bytes are invalid"
  let content ← bytes length.toNat "read response bytes are invalid"
  expectEnd "read response has trailing bytes"
  refuseIf (response.bundleId = 0 ∨ response.offerId = 0 ∨ response.ownerEpoch = 0 ∨
    response.sourceId = 0 ∨ response.formatId = 0 ∨ validFormatName canonicalFormat = false)
    "read response identity is invalid"
  return {
    ok := true
    operation := .readFormatResponse
    readResponse := { response with
      canonicalFormat := canonicalFormat
      bytes := content } }

def decodeFileRangeRequest : Reader String FdclDecodeResult := do
  let (request, reserved) ← withError "file range request body is truncated" do
    let bundleId ← readU64
    let offerId ← readU64
    let ownerEpoch ← readU64
    let sourceId ← readU64
    let objectId ← readU64
    let fileIndex ← readU32
    let offset ← readU64
    let requestedBytes ← readU64
    let reserved ← readU16
    return (({
      bundleId := bundleId
      offerId := offerId
      ownerEpoch := ownerEpoch
      sourceId := sourceId
      objectId := objectId
      fileIndex := fileIndex
      offset := offset
      requestedBytes := requestedBytes } : FdclFileRangeRequest), reserved)
  refuseIf (reserved ≠ 0) "file range request reserved field is not zero"
  expectEnd "file range request has trailing bytes"
  refuseIf (request.bundleId = 0 ∨ request.offerId = 0 ∨ request.ownerEpoch = 0 ∨
    request.sourceId = 0 ∨ request.objectId = 0 ∨ request.requestedBytes = 0 ∨
    request.requestedBytes.toNat > maxFileRangeBytes) "file range request identity is invalid"
  return { ok := true, operation := .fileRangeRequest, fileRangeRequest := request }

def decodeFileRangeResponse : Reader String FdclDecodeResult := do
  let (response, reserved, length) ← withError "file range response body is truncated" do
    let bundleId ← readU64
    let offerId ← readU64
    let ownerEpoch ← readU64
    let sourceId ← readU64
    let objectId ← readU64
    let fileIndex ← readU32
    let offset ← readU64
    let endOfFile ← readBool
    let reserved ← readU16
    let length ← readU32
    return (({
      bundleId := bundleId
      offerId := offerId
      ownerEpoch := ownerEpoch
      sourceId := sourceId
      objectId := objectId
      fileIndex := fileIndex
      offset := offset
      endOfFile := endOfFile } : FdclFileRangeResponse), reserved, length)
  refuseIf (reserved ≠ 0) "file range response reserved field is not zero"
  refuseIf (length.toNat > maxFileRangeBytes) "file range response bytes are invalid"
  let content ← bytes length.toNat "file range response bytes are invalid"
  expectEnd "file range response has trailing bytes"
  refuseIf (response.bundleId = 0 ∨ response.offerId = 0 ∨ response.ownerEpoch = 0 ∨
    response.sourceId = 0 ∨ response.objectId = 0) "file range response identity is invalid"
  return {
    ok := true
    operation := .fileRangeResponse
    fileRangeResponse := { response with bytes := content } }

def decodeFdclObjectLockBody (operation : FdclOperation) : Reader String FdclDecodeResult := do
  let (objectLock, reserved) ← withError "object lock body is truncated" do
    let bundleId ← readU64
    let offerId ← readU64
    let ownerEpoch ← readU64
    let sourceId ← readU64
    let objectId ← readU64
    let fileIndex ← readU32
    let lockId ← readU64
    let leaseUsec ← readU64
    let reserved ← readU16
    return (({
      bundleId := bundleId
      offerId := offerId
      ownerEpoch := ownerEpoch
      sourceId := sourceId
      objectId := objectId
      fileIndex := fileIndex
      lockId := lockId
      leaseUsec := leaseUsec } : FdclObjectLock), reserved)
  refuseIf (reserved ≠ 0) "object lock reserved field is not zero"
  expectEnd "object lock body has trailing bytes"
  refuseIf (objectLock.bundleId = 0 ∨ objectLock.offerId = 0 ∨ objectLock.ownerEpoch = 0 ∨
    objectLock.sourceId = 0 ∨ objectLock.objectId = 0) "object lock identity is invalid"
  refuseIf (operation = .unlockObject ∧ objectLock.lockId = 0) "object unlock identity is invalid"
  return { ok := true, operation := operation, objectLock := objectLock }

def decodeDragStart : Reader String FdclDecodeResult := do
  let (start, reserved) ← withError "drag start body is truncated" do
    let dragSessionId ← readU64
    let bundleId ← readU64
    let offerId ← readU64
    let ownerEpoch ← readU64
    let allowedActions ← readU32
    let preferredAction ← readU16
    let reserved ← readU16
    return (({
      dragSessionId := dragSessionId
      bundleId := bundleId
      offerId := offerId
      ownerEpoch := ownerEpoch
      allowedActions := allowedActions
      preferredAction := ⟨preferredAction⟩ } : DragSessionStart), reserved)
  refuseIf (reserved ≠ 0) "drag start reserved field is not zero"
  refuseIf (validAction start.preferredAction = false) "drag start action is invalid"
  let point ← readDragSurfaceCoordinate
  expectEnd "drag start has trailing bytes"
  refuseIf (start.dragSessionId = 0 ∨ start.bundleId = 0 ∨ start.offerId = 0 ∨
    start.ownerEpoch = 0) "drag start identity is invalid"
  return {
    ok := true
    operation := .dragStart
    dragStart := { start := { start with start := point } } }

def decodeDragPoint (operation : FdclOperation) : Reader String FdclDecodeResult := do
  let (dragSessionId, proposedAction, reserved) ← withError "drag point body is truncated" do
    let dragSessionId ← readU64
    let proposedAction ← readU16
    let reserved ← readU16
    return (dragSessionId, proposedAction, reserved)
  refuseIf (reserved ≠ 0) "drag point reserved field is not zero"
  let action : TransferAction := ⟨proposedAction⟩
  refuseIf (validAction action = false) "drag point action is invalid"
  let point ← readDragSurfaceCoordinate
  expectEnd "drag point has trailing bytes"
  refuseIf (dragSessionId = 0) "drag point identity is invalid"
  if operation = .dragMove then
    return {
      ok := true
      operation := operation
      dragMove := { dragSessionId := dragSessionId, proposedAction := action, point := point } }
  else
    return {
      ok := true
      operation := operation
      dragDrop := { dragSessionId := dragSessionId, proposedAction := action, point := point } }

def decodeDragCancel : Reader String FdclDecodeResult := do
  let (dragCancel, reserved) ← withError "drag cancel body is truncated" do
    let dragSessionId ← readU64
    let reason ← readU16
    let reserved ← readU16
    return (({ dragSessionId := dragSessionId, reason := ⟨reason⟩ } : FdclDragCancel), reserved)
  refuseIf (reserved ≠ 0) "drag cancel reserved field is not zero"
  refuseIf (validDragCancelReason dragCancel.reason = false) "drag cancel reason is invalid"
  expectEnd "drag cancel has trailing bytes"
  refuseIf (dragCancel.dragSessionId = 0) "drag cancel identity is invalid"
  return { ok := true, operation := .dragCancel, dragCancel := dragCancel }

def decodeErrorDetail : Reader String FdclDecodeResult := do
  let status ← withError "error detail status is truncated" readU16
  let message ← readString
  expectEnd "error detail has trailing bytes"
  return {
    ok := true
    operation := .errorDetail
    errorDetail := { status := ⟨status⟩, message := message } }

def decodeCancel : Reader String FdclDecodeResult := do
  let (cancel, reserved) ← withError "cancel body is truncated" do
    let correlationId ← readU64
    let bundleId ← readU64
    let offerId ← readU64
    let ownerEpoch ← readU64
    let sourceId ← readU64
    let formatId ← readU64
    let reason ← readU16
    let reserved ← readU16
    return (({
      correlationId := correlationId
      bundleId := bundleId
      offerId := offerId
      ownerEpoch := ownerEpoch
      sourceId := sourceId
      formatId := formatId
      reason := ⟨reason⟩ } : FdclCancel), reserved)
  refuseIf (reserved ≠ 0) "cancel reserved field is not zero"
  let message ← readString
  expectEnd "cancel body has trailing bytes"
  refuseIf (cancel.correlationId = 0 ∨ cancel.bundleId = 0 ∨ cancel.offerId = 0 ∨
    cancel.ownerEpoch = 0) "cancel identity is invalid"
  return { ok := true, operation := .cancel, cancel := { cancel with message := message } }

/-! ## The payload -/

/-- The header: the operation, if all the rest is as it should be. -/
def readHeader : Reader String FdclOperation := do
  let (magic, major, minor, operation, flags, length) ← withError "FDCL header is truncated" do
    let magic ← readU32
    let major ← readU16
    let minor ← readU16
    let operation ← readU16
    let flags ← readU16
    let length ← readU32
    return (magic, major, minor, operation, flags, length)
  refuseIf (magic ≠ fdclMagic) "FDCL magic is invalid"
  refuseIf (major ≠ fdclMajor ∨ minor ≠ fdclMinor) "FDCL version is unsupported"
  refuseIf (flags ≠ 0) "FDCL flags are unsupported"
  let size ← size
  refuseIf (size - headerSize ≠ length.toNat) "FDCL payload length is invalid"
  return ⟨operation⟩

/-- The switch at the end of `decodeFdclPayload`. -/
def decodeBody (operation : FdclOperation) : Reader String FdclDecodeResult :=
  if operation = .capabilities then decodeCapabilities
  else if operation = .formatList then decodeFormatList
  else if operation = .readFormatRequest then decodeReadRequest
  else if operation = .readFormatResponse then decodeReadResponse
  else if operation = .errorDetail then decodeErrorDetail
  else if operation = .fileRangeRequest then decodeFileRangeRequest
  else if operation = .fileRangeResponse then decodeFileRangeResponse
  else if operation = .lockObject then decodeFdclObjectLockBody .lockObject
  else if operation = .unlockObject then decodeFdclObjectLockBody .unlockObject
  else if operation = .dragStart then decodeDragStart
  else if operation = .dragMove then decodeDragPoint .dragMove
  else if operation = .dragDrop then decodeDragPoint .dragDrop
  else if operation = .dragCancel then decodeDragCancel
  else if operation = .cancel then decodeCancel
  else fail "FDCL operation is unsupported"

def decodeFdclPayload (payload : ByteBuffer) : FdclDecodeResult :=
  if payload.length < headerSize then { error := "FDCL header is truncated" }
  else
    match readHeader.outcome payload with
    | .error error => { error := error }
    | .ok (operation, _) =>
      match (decodeBody operation).outcome (payload.drop headerSize) with
      | .error error => { operation := operation, error := error }
      | .ok (result, _) => result

end Clipboard
end FusionDesk
