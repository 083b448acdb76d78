import FusionDesk.Clipboard.FdclProtocol
import FusionDesk.Clipboard.FileList

/-!
# The clipboard policy

`struct ClipboardPolicy` of `clipboard_modules.h`, the questions that
`src/modules/clipboard/clipboard_module_policy_internal.h` asks of it, and `filterFormatsByPolicy` of
`clipboard_modules.cpp`.

A function of the source that fills in a message next to the status it returns is a function to the
pair of the two.
-/

namespace FusionDesk
namespace Clipboard

open Protocol

/-- `struct ClipboardPolicy`. -/
structure ClipboardPolicy where
  allowAnnounce : Bool := true
  allowReceive : Bool := true
  allowSendContent : Bool := true
  allowWriteLocal : Bool := true
  allowPresentationMetadata : Bool := true
  allowPlainText : Bool := true
  allowHtml : Bool := true
  allowRtf : Bool := true
  allowImage : Bool := true
  allowFileList : Bool := true
  allowFileContents : Bool := true
  allowDrag : Bool := true
  allowCustomFormats : Bool := false
  maxInlineBytes : UInt64 := 1024 * 1024
  maxFileRangeBytes : UInt64 := 4 * 1024 * 1024
  maxFileCount : UInt64 := 1024
  maxSingleFileBytes : UInt64 := 16 * 1024 * 1024 * 1024
  deriving DecidableEq, Repr

def effectiveMaxFileRangeBytes (policy : ClipboardPolicy) : UInt64 :=
  if policy.maxFileRangeBytes = 0 then policy.maxInlineBytes else policy.maxFileRangeBytes

def policyAllowsCanonicalFormat (policy : ClipboardPolicy) (canonicalFormat : StdString) : Bool :=
  if canonicalFormat = [] then policy.allowCustomFormats
  else if canonicalFormat = textPlainUtf8Format then policy.allowPlainText
  else if canonicalFormat = textHtmlFormat then policy.allowHtml
  else if canonicalFormat = textRtfFormat then policy.allowRtf
  else if canonicalFormat = imagePngFormat ∨ canonicalFormat = imageDibFormat then
    policy.allowImage
  else if canonicalFormat = fdclFileListFormat then policy.allowFileList
  else policy.allowCustomFormats

/-- `filterFormatsByPolicy`. -/
def filterFormatsByPolicy (policy : ClipboardPolicy) (list : FdclFormatList) : FdclFormatList :=
  let allowed := list.formats.filter fun record =>
    policyAllowsCanonicalFormat policy record.canonicalFormat
  { list with
    formats :=
      if policy.allowFileContents then allowed
      else allowed.map fun record =>
        if record.canonicalFormat = fdclFileListFormat then { record with canStream := false }
        else record }

/-- A source that stands for the id of a request, where zero stands for every source. -/
def requestedSource (request : FdclReadFormatRequest) (source : TransferSource) : Bool :=
  request.sourceId == 0 || source.id == request.sourceId

/-- What the loop of `requestedCanonicalFormat` asks of a descriptor. -/
def requestedDescriptor (request : FdclReadFormatRequest)
    (descriptor : TransferFormatDescriptor) : Bool :=
  (request.formatId == 0 || descriptor.formatId == request.formatId) &&
    (request.localFormatToken == 0 || descriptor.localFormatToken == request.localFormatToken) &&
    descriptor.itemIndex == request.itemIndex

/-- `requestedCanonicalFormat`: the name in the request, or that of the first format it stands
for. -/
def requestedCanonicalFormat (now : Moment) (bundle : TransferSourceBundle)
    (request : FdclReadFormatRequest) : StdString :=
  if request.canonicalFormat ≠ [] then request.canonicalFormat
  else
    ((bundle.sources.reduceOption.filter (requestedSource request)).findSome? fun source =>
      (source.formats now).find? (requestedDescriptor request)).elim [] (·.canonicalFormat)

def policyAllowsReadRequest (policy : ClipboardPolicy) (now : Moment)
    (bundle : TransferSourceBundle) (request : FdclReadFormatRequest) : Bool :=
  let canonical := requestedCanonicalFormat now bundle request
  !canonical.isEmpty && policyAllowsCanonicalFormat policy canonical

/-! ## Files of a bundle -/

/-- The texts by which `validateFileRangeRequestAgainstBundle` and `validateObjectLockAgainstBundle`
differ. -/
structure StreamingTexts where
  stale : StdString
  streaming : StdString
  noFileList : StdString
  noSource : StdString

/-- What the two validations have in common: the identity, and the first file list of a source with
the id. -/
def validateStreaming (texts : StreamingTexts) (now : Moment) (bundle : TransferSourceBundle)
    (bundleId : TransferBundleId) (offerId : TransferOfferId) (ownerEpoch : UInt64)
    (sourceId : TransferSourceId) : ResponseStatus × StdString :=
  if bundle.bundleId ≠ bundleId ∨ bundle.offerId ≠ offerId ∨ bundle.ownerEpoch ≠ ownerEpoch then
    (.conflict, texts.stale)
  else
    let sources := bundle.sources.reduceOption.filter fun source => source.id == sourceId
    match sources.findSome? fun source =>
        (source.formats now).find? fun d => d.canonicalFormat == fdclFileListFormat with
    | some descriptor =>
      if descriptor.canStream = false then (.unsupported, texts.streaming) else (.ok, [])
    | none => (.notFound, if sources ≠ [] then texts.noFileList else texts.noSource)

def validateFileRangeRequestAgainstBundle (now : Moment) (bundle : TransferSourceBundle)
    (request : FdclFileRangeRequest) : ResponseStatus × StdString :=
  validateStreaming
    { stale := bytesOf "clipboard file offer is stale"
      streaming := bytesOf "clipboard file source does not allow streaming"
      noFileList := bytesOf "clipboard file source has no file-list format"
      noSource := bytesOf "clipboard file source is not found" }
    now bundle request.bundleId request.offerId request.ownerEpoch request.sourceId

def validateObjectLockAgainstBundle (now : Moment) (bundle : TransferSourceBundle)
    (request : FdclObjectLock) : ResponseStatus × StdString :=
  validateStreaming
    { stale := bytesOf "clipboard file object offer is stale"
      streaming := bytesOf "clipboard file object does not allow streaming"
      noFileList := bytesOf "clipboard file object source has no file-list format"
      noSource := bytesOf "clipboard file object source is not found" }
    now bundle request.bundleId request.offerId request.ownerEpoch request.sourceId

/-! ## Content that goes out or comes in -/

/-- `maxFileCountForDecode`, where `std::size_t` has 64 bits. -/
def maxFileCountForDecode (policy : ClipboardPolicy) : ℕ := policy.maxFileCount.toNat

def validateFileListPolicy (policy : ClipboardPolicy) (bytes : ByteBuffer) :
    ResponseStatus × StdString :=
  if policy.allowFileList = false then
    (.deniedByPolicy, bytesOf "clipboard file list denied by policy")
  else
    let decoded :=
      decodeTransferFileList bytes (maxFileCountForDecode policy) defaultMaxNameBytes
    if decoded.ok = false then (decoded.status, decoded.message)
    else if decoded.fileList.files.any fun file =>
        !file.directory && policy.maxSingleFileBytes != 0 &&
          decide (file.sizeBytes > policy.maxSingleFileBytes) then
      (.tooLarge, bytesOf "clipboard file list exceeds max single file bytes")
    else (.ok, [])

/-- A result that is refused: another status, no bytes, a message. -/
def TransferReadResult.refused (result : TransferReadResult) (status : ResponseStatus)
    (message : StdString) : TransferReadResult :=
  { result with status := status, bytes := [], message := message }

def enforceReadResultPolicy (policy : ClipboardPolicy) (result : TransferReadResult) :
    TransferReadResult :=
  if result.ok = false then result
  else if policyAllowsCanonicalFormat policy result.canonicalFormat = false then
    result.refused .deniedByPolicy (bytesOf "clipboard format denied by policy")
  else if result.bytes.length > policy.maxInlineBytes.toNat then
    result.refused .tooLarge (bytesOf "clipboard read exceeds policy max inline bytes")
  else if result.canonicalFormat = fdclFileListFormat then
    let validation := validateFileListPolicy policy result.bytes
    if validation.1 ≠ .ok then result.refused validation.1 validation.2 else result
  else result

/-- A result with content that the policy lets through. -/
structure Passes (policy : ClipboardPolicy) (result : TransferReadResult) : Prop where
  returned : policyAllowsCanonicalFormat policy result.canonicalFormat = true
  inline : result.bytes.length ≤ policy.maxInlineBytes.toNat
  files : result.canonicalFormat = fdclFileListFormat →
    (validateFileListPolicy policy result.bytes).1 = .ok

/-- What passes the check of the policy is as it was. -/
theorem passes_of_enforced {policy : ClipboardPolicy} {result : TransferReadResult}
    (h : (enforceReadResultPolicy policy result).ok = true) :
    enforceReadResultPolicy policy result = result ∧ result.ok = true ∧ Passes policy result := by
  unfold enforceReadResultPolicy at h ⊢
  by_cases hok : result.ok = false
  · rw [if_pos hok, hok] at h
    cases h
  rw [if_neg hok] at h ⊢
  by_cases hformat : policyAllowsCanonicalFormat policy result.canonicalFormat = false
  · rw [if_pos hformat] at h
    cases h
  rw [if_neg hformat] at h ⊢
  by_cases hsize : result.bytes.length > policy.maxInlineBytes.toNat
  · rw [if_pos hsize] at h
    cases h
  rw [if_neg hsize] at h ⊢
  have hpasses : ∀ hfiles, Passes policy result :=
    fun hfiles => ⟨Bool.eq_true_of_not_eq_false hformat, not_lt.mp hsize, hfiles⟩
  have hok' : result.ok = true := Bool.eq_true_of_not_eq_false hok
  by_cases hlist : result.canonicalFormat = fdclFileListFormat
  · rw [if_pos hlist] at h ⊢
    dsimp only at h ⊢
    by_cases hvalid : (validateFileListPolicy policy result.bytes).1 ≠ .ok
    · rw [if_pos hvalid] at h
      exact absurd (eq_of_beq h) hvalid
    · rw [if_neg hvalid]
      exact ⟨rfl, hok', hpasses fun _ => not_not.mp hvalid⟩
  · rw [if_neg hlist]
    exact ⟨rfl, hok', hpasses fun h => absurd h hlist⟩

end Clipboard
end FusionDesk
