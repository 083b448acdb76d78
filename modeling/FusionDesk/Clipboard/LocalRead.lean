import FusionDesk.Clipboard.ModelConversion
import FusionDesk.Clipboard.Policy
import FusionDesk.Clipboard.TransferRegistry

/-!
# Reading the local bundle

`src/modules/clipboard/clipboard_module_local_read.cpp`: what a module answers when the peer asks for
a format of the bundle it has announced, or for a range of a file.  A format is read from the source
that the registry finds; a file range from the sources of the bundle itself.

The transcoder is an object behind an interface, given by what it answers.
-/

namespace FusionDesk
namespace Clipboard

open Protocol

/-- `enum class TransferPlatformFamily`. -/
inductive TransferPlatformFamily
  | unknown
  | windows
  | linux
  | macOS
  | android
  | ios
  | qt
  | wayland
  | gtk
  deriving DecidableEq, Repr

structure NativeTransferFormat where
  platform : TransferPlatformFamily := .unknown
  nativeFormatName : StdString := []
  localFormatToken : UInt32 := 0
  deriving DecidableEq, Repr

structure TransferTranscodeRequest where
  canonicalFormat : StdString := []
  sourceNative : NativeTransferFormat := {}
  targetNative : NativeTransferFormat := {}
  sourceEncoding : TransferEncodingMode := .canonicalBytes
  targetEncoding : TransferEncodingMode := .canonicalBytes
  bytes : ByteBuffer := []
  deriving DecidableEq, Repr

structure TransferTranscodeResult where
  status : ResponseStatus := .failed
  encoding : TransferEncodingMode := .canonicalBytes
  bytes : ByteBuffer := []
  message : StdString := []
  deriving DecidableEq, Repr

def TransferTranscodeResult.ok (result : TransferTranscodeResult) : Bool :=
  result.status == .ok

/-- `class ITransferTranscoder`. -/
structure TransferTranscoder where
  canTranscode : TransferTranscodeRequest → Bool
  transcode : TransferTranscodeRequest → TransferTranscodeResult

def descriptorMatchesReadRequest (descriptor : TransferFormatDescriptor)
    (request : TransferReadRequest) : Bool :=
  (request.canonicalFormat.isEmpty || descriptor.canonicalFormat == request.canonicalFormat) &&
    (request.formatId == 0 || descriptor.formatId == request.formatId) &&
    descriptor.itemIndex == request.itemIndex &&
    (request.localFormatToken == 0 || descriptor.localFormatToken == request.localFormatToken)

def findReadDescriptor (now : Moment) (source : TransferSource) (request : TransferReadRequest) :
    Option TransferFormatDescriptor :=
  (source.formats now).find? fun descriptor => descriptorMatchesReadRequest descriptor request

/-- What `transcodeReadResultIfNeeded` asks the transcoder for. -/
def transcodeRequestOf (descriptor : TransferFormatDescriptor) (request : TransferReadRequest)
    (result : TransferReadResult) : TransferTranscodeRequest :=
  let sourceNative : NativeTransferFormat := {
    nativeFormatName := descriptor.nativeFormatName
    localFormatToken := descriptor.localFormatToken }
  { canonicalFormat :=
      if result.canonicalFormat = [] then request.canonicalFormat else result.canonicalFormat
    sourceNative := sourceNative
    targetNative := if request.requestedEncoding = .nativePassthrough then sourceNative else {}
    sourceEncoding := result.encoding
    targetEncoding := request.requestedEncoding
    bytes := result.bytes }

/-- `transcodeReadResultIfNeeded`; the constructor of the module sees to it that there is a
transcoder. -/
def transcodeReadResultIfNeeded (transcoder : TransferTranscoder)
    (descriptor : TransferFormatDescriptor) (request : TransferReadRequest)
    (result : TransferReadResult) : TransferReadResult :=
  if result.ok = false ∨ result.encoding = request.requestedEncoding then result
  else
    let transcodeRequest := transcodeRequestOf descriptor request result
    if transcoder.canTranscode transcodeRequest = false then
      result.refused .unsupported (bytesOf "clipboard format transcode is unsupported")
    else
      let transcoded := transcoder.transcode transcodeRequest
      if transcoded.ok = false then
        result.refused transcoded.status
          (if transcoded.message = [] then bytesOf "clipboard format transcode failed"
          else transcoded.message)
      else
        { status := .ok
          canonicalFormat :=
            if result.canonicalFormat = [] then transcodeRequest.canonicalFormat
            else result.canonicalFormat
          encoding := transcoded.encoding
          bytes := transcoded.bytes
          message := [] }

/-- The request that `readLocal` hands to the source: no more bytes than the policy lets through. -/
def localReadRequest (policy : ClipboardPolicy) (request : FdclReadFormatRequest) :
    TransferReadRequest :=
  let readRequest := makeTransferReadRequest request
  if readRequest.acceptedMaxBytes = 0 ∨ readRequest.acceptedMaxBytes > policy.maxInlineBytes then
    { readRequest with acceptedMaxBytes := policy.maxInlineBytes }
  else readRequest

/-- What the source and the transcoder say to a read. -/
def sourceAnswer (transcoder : TransferTranscoder) (now : Moment) (source : TransferSource)
    (descriptor : TransferFormatDescriptor) (request : TransferReadRequest) : TransferReadResult :=
  transcodeReadResultIfNeeded transcoder descriptor request (source.read now request)

/-- `readLocal` from the point where it has the source. -/
def readSource (policy : ClipboardPolicy) (transcoder : TransferTranscoder) (now : Moment)
    (source : TransferSource) (request : TransferReadRequest) : TransferReadResult :=
  match findReadDescriptor now source request with
  | none => {
      status := .notFound
      message := bytesOf "clipboard format descriptor is not found" }
  | some descriptor =>
    let result := sourceAnswer transcoder now source descriptor request
    enforceReadResultPolicy policy
      (if result.ok ∧ request.acceptedMaxBytes ≠ 0 ∧
          result.bytes.length > request.acceptedMaxBytes.toNat then
        result.refused .tooLarge
          (bytesOf "clipboard transcoded content exceeds accepted maximum")
      else result)

/-- `ClipboardModuleBase::readLocal`. -/
def readLocal (policy : ClipboardPolicy) (transcoder : TransferTranscoder)
    (registry : InMemoryTransferSourceRegistry) (bundle : TransferSourceBundle) (now : Moment)
    (request : FdclReadFormatRequest) : TransferReadResult :=
  if bundle.bundleId ≠ request.bundleId ∨ bundle.offerId ≠ request.offerId ∨
      bundle.ownerEpoch ≠ request.ownerEpoch then {
    status := .conflict
    message := bytesOf "clipboard offer is stale" }
  else if policyAllowsReadRequest policy now bundle request = false then {
    status := .deniedByPolicy
    message := bytesOf "clipboard format denied by policy" }
  else
    let readRequest := localReadRequest policy request
    let lookup := registry.lookupSource readRequest
    match lookup.source with
    | none => { status := lookup.status, message := lookup.message }
    | some source =>
      if lookup.found = false then { status := lookup.status, message := lookup.message }
      else readSource policy transcoder now source readRequest

/-- The request that `readLocalFileRange` hands to the source. -/
def localFileRangeRequest (policy : ClipboardPolicy) (request : FdclFileRangeRequest) :
    TransferFileRangeRequest where
  bundleId := request.bundleId
  offerId := request.offerId
  ownerEpoch := request.ownerEpoch
  sourceId := request.sourceId
  objectId := request.objectId
  fileIndex := request.fileIndex
  offset := request.offset
  requestedBytes :=
    if request.requestedBytes = 0 ∨ request.requestedBytes > effectiveMaxFileRangeBytes policy then
      effectiveMaxFileRangeBytes policy
    else request.requestedBytes

/-- `ClipboardModuleBase::readLocalFileRange`. -/
def readLocalFileRange (policy : ClipboardPolicy) (bundle : TransferSourceBundle) (now : Moment)
    (request : FdclFileRangeRequest) : TransferFileRangeResult :=
  if bundle.bundleId ≠ request.bundleId ∨ bundle.offerId ≠ request.offerId ∨
      bundle.ownerEpoch ≠ request.ownerEpoch then {
    status := .conflict
    message := bytesOf "clipboard file offer is stale" }
  else if policy.allowFileContents = false then {
    status := .deniedByPolicy
    message := bytesOf "clipboard file contents denied by policy" }
  else
    let validation := validateFileRangeRequestAgainstBundle now bundle request
    if validation.1 ≠ .ok then { status := validation.1, message := validation.2 }
    else
      match bundle.findSource request.sourceId with
      | none => { status := .notFound, message := bytesOf "clipboard file source is not found" }
      | some source =>
        match source.readFileRange with
        | none => {
            status := .unsupported
            message := bytesOf "clipboard source does not provide file contents" }
        | some readFileRange =>
          let result := readFileRange now (localFileRangeRequest policy request)
          if result.ok ∧ result.bytes.length > (effectiveMaxFileRangeBytes policy).toNat then
            { result with
              status := .tooLarge
              bytes := []
              message := bytesOf "clipboard file range exceeds policy max bytes" }
          else result

end Clipboard
end FusionDesk
