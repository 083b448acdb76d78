import FusionDesk.Clipboard.HtmlTranscoder
import FusionDesk.Clipboard.LinuxFileUris
import FusionDesk.Clipboard.LocalRead
import FusionDesk.Clipboard.TextTranscoder

/-!
# The default transcoder

`DefaultTransferTranscoder` of `clipboard_transfer_transcoder.cpp`: content of one canonical format,
between canonical bytes and the native formats of the platforms.

* `ok_transcode`: it converts exactly what it says it can convert.
* `encoding_transcode`: a result is in the encoding that was asked for.
-/

namespace FusionDesk
namespace Clipboard

open Protocol
open LinuxClipboard (lowered)

/-! ## Native formats -/

def windowsUnicodeTextName : StdString := bytesOf "CF_UNICODETEXT"
def windowsHtmlName : StdString := bytesOf "HTML Format"
def windowsRtfName : StdString := bytesOf "Rich Text Format"
def windowsPngName : StdString := bytesOf "PNG"
def windowsDibName : StdString := bytesOf "CF_DIB"
def windowsDibV5Name : StdString := bytesOf "CF_DIBV5"

def linuxUtf8StringName : StdString := bytesOf "UTF8_STRING"
def linuxTextPlainName : StdString := bytesOf "text/plain"
def linuxTextPlainUtf8Name : StdString := bytesOf "text/plain;charset=utf-8"
def linuxTextPlainUtf8LooseName : StdString := bytesOf "text/plain;charset=utf8"
def linuxHtmlName : StdString := bytesOf "text/html"
def linuxRtfName : StdString := bytesOf "text/rtf"
def linuxApplicationRtfName : StdString := bytesOf "application/rtf"
def linuxPngName : StdString := bytesOf "image/png"

def macUtf8TextName : StdString := bytesOf "public.utf8-plain-text"
def macUtf16TextName : StdString := bytesOf "public.utf16-plain-text"
def macHtmlName : StdString := bytesOf "public.html"
def macRtfName : StdString := bytesOf "public.rtf"
def macPngName : StdString := bytesOf "public.png"

def sameName (left right : StdString) : Bool := lowered left == lowered right

def nativeNameIs (native : NativeTransferFormat) (expected : StdString) : Bool :=
  sameName native.nativeFormatName expected

def sameNativeFormat (left right : NativeTransferFormat) : Bool :=
  if left.nativeFormatName = [] ∧ right.nativeFormatName = [] ∧ left.localFormatToken = 0 ∧
      right.localFormatToken = 0 then false
  else if (left.nativeFormatName ≠ [] ∨ right.nativeFormatName ≠ []) ∧
      sameName left.nativeFormatName right.nativeFormatName = false then false
  else if (left.localFormatToken ≠ 0 ∨ right.localFormatToken ≠ 0) ∧
      left.localFormatToken ≠ right.localFormatToken then false
  else left.platform == .unknown || right.platform == .unknown || left.platform == right.platform

def isWindowsUnicodeText (native : NativeTransferFormat) : Bool :=
  nativeNameIs native windowsUnicodeTextName ||
    ((native.platform == .unknown || native.platform == .windows) && native.localFormatToken == 13)

def isUtf8TextNative (native : NativeTransferFormat) : Bool :=
  nativeNameIs native linuxUtf8StringName || nativeNameIs native linuxTextPlainName ||
    nativeNameIs native linuxTextPlainUtf8Name || nativeNameIs native linuxTextPlainUtf8LooseName ||
    nativeNameIs native macUtf8TextName

def isUtf16TextNative (native : NativeTransferFormat) : Bool :=
  isWindowsUnicodeText native || nativeNameIs native macUtf16TextName

def isHtmlNative (native : NativeTransferFormat) : Bool :=
  nativeNameIs native windowsHtmlName || nativeNameIs native linuxHtmlName ||
    nativeNameIs native macHtmlName

def isRtfNative (native : NativeTransferFormat) : Bool :=
  nativeNameIs native windowsRtfName || nativeNameIs native linuxRtfName ||
    nativeNameIs native linuxApplicationRtfName || nativeNameIs native macRtfName

def isPngNative (native : NativeTransferFormat) : Bool :=
  nativeNameIs native windowsPngName || nativeNameIs native linuxPngName ||
    nativeNameIs native macPngName

def isDibNative (native : NativeTransferFormat) : Bool :=
  nativeNameIs native windowsDibName || nativeNameIs native windowsDibV5Name

/-! ## The transcoder -/

def okResult (encoding : TransferEncodingMode) (bytes : ByteBuffer) : TransferTranscodeResult where
  status := .ok
  encoding := encoding
  bytes := bytes

def unsupportedResult (message : StdString) : TransferTranscodeResult where
  status := .unsupported
  message := message

def isCanonicalLike (encoding : TransferEncodingMode) : Bool :=
  encoding == .canonicalBytes || encoding == .transcoded

/-- Whether a native format is one of a canonical format: what the two checks below have in common. -/
def isNativeOf (canonicalFormat : StdString) (native : NativeTransferFormat) : Bool :=
  if canonicalFormat = textPlainUtf8Format then isUtf8TextNative native || isUtf16TextNative native
  else if canonicalFormat = textHtmlFormat then isHtmlNative native
  else if canonicalFormat = textRtfFormat then isRtfNative native
  else if canonicalFormat = imagePngFormat then isPngNative native
  else if canonicalFormat = imageDibFormat then isDibNative native
  else false

def canSourceNativeToCanonical (request : TransferTranscodeRequest) : Bool :=
  isNativeOf request.canonicalFormat request.sourceNative

def canCanonicalToTargetNative (request : TransferTranscodeRequest) : Bool :=
  isNativeOf request.canonicalFormat request.targetNative

/-- The text that `utf8FromUtf16LeText` gives; it never reads outside the buffer. -/
def utf8Text (bytes : ByteBuffer) : ByteBuffer :=
  ((utf8FromUtf16LeText bytes).map Prod.fst).getD []

def sourceNativeToCanonical (request : TransferTranscodeRequest) : TransferTranscodeResult :=
  if canSourceNativeToCanonical request = false then
    unsupportedResult (bytesOf "source native clipboard format is unsupported")
  else if request.canonicalFormat = textPlainUtf8Format then
    if isUtf16TextNative request.sourceNative then okResult .canonicalBytes (utf8Text request.bytes)
    else okResult .canonicalBytes request.bytes
  else if request.canonicalFormat = textHtmlFormat then
    if nativeNameIs request.sourceNative windowsHtmlName then
      okResult .canonicalBytes (canonicalHtmlFromWindowsHtml request.bytes)
    else okResult .canonicalBytes request.bytes
  else okResult .canonicalBytes request.bytes

def canonicalToTargetNative (request : TransferTranscodeRequest) (canonicalBytes : ByteBuffer) :
    TransferTranscodeResult :=
  if canCanonicalToTargetNative request = false then
    unsupportedResult (bytesOf "target native clipboard format is unsupported")
  else if request.canonicalFormat = textPlainUtf8Format then
    if isUtf16TextNative request.targetNative then
      okResult .nativePassthrough (utf16LeFromUtf8Text canonicalBytes)
    else okResult .nativePassthrough canonicalBytes
  else if request.canonicalFormat = textHtmlFormat then
    if nativeNameIs request.targetNative windowsHtmlName then
      okResult .nativePassthrough (windowsHtmlFromCanonicalHtml canonicalBytes)
    else okResult .nativePassthrough canonicalBytes
  else okResult .nativePassthrough canonicalBytes

def canTranscode (request : TransferTranscodeRequest) : Bool :=
  if request.canonicalFormat = [] then false
  else if request.sourceEncoding = .nativePassthrough ∧
      request.targetEncoding = .nativePassthrough then
    sameNativeFormat request.sourceNative request.targetNative ||
      (canSourceNativeToCanonical request && canCanonicalToTargetNative request)
  else if request.sourceEncoding = request.targetEncoding then true
  else if request.targetEncoding = .canonicalBytes then
    isCanonicalLike request.sourceEncoding ||
      (request.sourceEncoding == .nativePassthrough && canSourceNativeToCanonical request)
  else if request.targetEncoding = .nativePassthrough then
    (isCanonicalLike request.sourceEncoding && canCanonicalToTargetNative request) ||
      (request.sourceEncoding == .nativePassthrough && canSourceNativeToCanonical request &&
        canCanonicalToTargetNative request)
  else false

/-- The part of `transcode` for a native target. -/
def transcodeToNative (request : TransferTranscodeRequest) : Option TransferTranscodeResult :=
  if isCanonicalLike request.sourceEncoding then
    some (canonicalToTargetNative request request.bytes)
  else if request.sourceEncoding = .nativePassthrough then
    let canonical := sourceNativeToCanonical request
    if canonical.ok = false then some canonical
    else some (canonicalToTargetNative request canonical.bytes)
  else none

/-- The part of `transcode` for canonical bytes as the target. -/
def transcodeToCanonical (request : TransferTranscodeRequest) : Option TransferTranscodeResult :=
  if isCanonicalLike request.sourceEncoding then some (okResult .canonicalBytes request.bytes)
  else if request.sourceEncoding = .nativePassthrough then some (sourceNativeToCanonical request)
  else none

def transcode (request : TransferTranscodeRequest) : TransferTranscodeResult :=
  if request.canonicalFormat = [] then
    unsupportedResult (bytesOf "clipboard canonical format is empty")
  else if request.sourceEncoding = .nativePassthrough ∧
      request.targetEncoding = .nativePassthrough ∧
      sameNativeFormat request.sourceNative request.targetNative = true then
    okResult .nativePassthrough request.bytes
  else if request.sourceEncoding = request.targetEncoding ∧
      request.sourceEncoding ≠ .nativePassthrough then
    okResult request.targetEncoding request.bytes
  else
    ((if request.targetEncoding = .canonicalBytes then transcodeToCanonical request else none).or
      (if request.targetEncoding = .nativePassthrough then transcodeToNative request else none)).getD
      (unsupportedResult (bytesOf "clipboard transcode path is unsupported"))

/-- `class DefaultTransferTranscoder`. -/
def defaultTransferTranscoder : TransferTranscoder where
  canTranscode := canTranscode
  transcode := transcode

/-! ## What it converts -/

@[simp] theorem ok_okResult (encoding : TransferEncodingMode) (bytes : ByteBuffer) :
    (okResult encoding bytes).ok = true := rfl

@[simp] theorem ok_unsupportedResult (message : StdString) :
    (unsupportedResult message).ok = false := rfl

/-- What the bytes of a native format stand for. -/
def readNative (format : StdString) (native : NativeTransferFormat) (bytes : ByteBuffer) :
    ByteBuffer :=
  if format = textPlainUtf8Format then if isUtf16TextNative native then utf8Text bytes else bytes
  else if format = textHtmlFormat then
    if nativeNameIs native windowsHtmlName then canonicalHtmlFromWindowsHtml bytes else bytes
  else bytes

/-- The bytes of a native format that canonical bytes are written as. -/
def writeNative (format : StdString) (native : NativeTransferFormat) (bytes : ByteBuffer) :
    ByteBuffer :=
  if format = textPlainUtf8Format then
    if isUtf16TextNative native then utf16LeFromUtf8Text bytes else bytes
  else if format = textHtmlFormat then
    if nativeNameIs native windowsHtmlName then windowsHtmlFromCanonicalHtml bytes else bytes
  else bytes

theorem sourceNativeToCanonical_eq (request : TransferTranscodeRequest) :
    sourceNativeToCanonical request =
      if canSourceNativeToCanonical request then
        okResult .canonicalBytes
          (readNative request.canonicalFormat request.sourceNative request.bytes)
      else unsupportedResult (bytesOf "source native clipboard format is unsupported") := by
  rw [sourceNativeToCanonical, readNative]
  split_ifs <;> simp_all

theorem canonicalToTargetNative_eq (request : TransferTranscodeRequest) (bytes : ByteBuffer) :
    canonicalToTargetNative request bytes =
      if canCanonicalToTargetNative request then
        okResult .nativePassthrough (writeNative request.canonicalFormat request.targetNative bytes)
      else unsupportedResult (bytesOf "target native clipboard format is unsupported") := by
  rw [canonicalToTargetNative, writeNative]
  split_ifs <;> simp_all

theorem ok_sourceNativeToCanonical (request : TransferTranscodeRequest) :
    (sourceNativeToCanonical request).ok = canSourceNativeToCanonical request := by
  rw [sourceNativeToCanonical_eq]
  cases canSourceNativeToCanonical request <;> rfl

theorem ok_canonicalToTargetNative (request : TransferTranscodeRequest) (bytes : ByteBuffer) :
    (canonicalToTargetNative request bytes).ok = canCanonicalToTargetNative request := by
  rw [canonicalToTargetNative_eq]
  cases canCanonicalToTargetNative request <;> rfl

theorem not_canonicalLike_native : isCanonicalLike .nativePassthrough = false := rfl

/-- From native bytes to native bytes: as they are, or by way of the canonical ones. -/
theorem transcode_native {request : TransferTranscodeRequest} (hformat : request.canonicalFormat ≠ [])
    (hsource : request.sourceEncoding = .nativePassthrough)
    (htarget : request.targetEncoding = .nativePassthrough) :
    transcode request =
      if sameNativeFormat request.sourceNative request.targetNative then
        okResult .nativePassthrough request.bytes
      else if canSourceNativeToCanonical request then
        canonicalToTargetNative request
          (readNative request.canonicalFormat request.sourceNative request.bytes)
      else unsupportedResult (bytesOf "source native clipboard format is unsupported") := by
  rw [transcode, if_neg hformat]
  cases sameNativeFormat request.sourceNative request.targetNative with
  | true => rw [if_pos ⟨hsource, htarget, rfl⟩, if_pos rfl]
  | false =>
    rw [if_neg fun h => Bool.false_ne_true h.2.2, if_neg fun h => h.2 hsource, htarget,
      if_neg (by decide), if_pos rfl, transcodeToNative, hsource, not_canonicalLike_native,
      if_neg Bool.false_ne_true, if_pos rfl, if_neg Bool.false_ne_true]
    dsimp only
    rw [ok_sourceNativeToCanonical, sourceNativeToCanonical_eq]
    cases canSourceNativeToCanonical request <;> rfl

/-- Between two encodings one of which is not the native one. -/
theorem transcode_mixed {request : TransferTranscodeRequest} (hformat : request.canonicalFormat ≠ [])
    (hmixed : ¬(request.sourceEncoding = .nativePassthrough ∧
      request.targetEncoding = .nativePassthrough)) :
    transcode request =
      if request.sourceEncoding = request.targetEncoding then
        okResult request.targetEncoding request.bytes
      else if request.targetEncoding = .canonicalBytes ∧ isCanonicalLike request.sourceEncoding then
        okResult .canonicalBytes request.bytes
      else if request.targetEncoding = .canonicalBytes ∧
          request.sourceEncoding = .nativePassthrough then
        sourceNativeToCanonical request
      else if request.targetEncoding = .nativePassthrough ∧
          isCanonicalLike request.sourceEncoding then
        canonicalToTargetNative request request.bytes
      else unsupportedResult (bytesOf "clipboard transcode path is unsupported") := by
  have hne : TransferEncodingMode.canonicalBytes ≠ .nativePassthrough := by decide
  rw [transcode, if_neg hformat, if_neg fun h => hmixed ⟨h.1, h.2.1⟩]
  by_cases hsame : request.sourceEncoding = request.targetEncoding
  · rw [if_pos ⟨hsame, fun h => hmixed ⟨h, hsame ▸ h⟩⟩, if_pos hsame]
  · rw [if_neg fun h => hsame h.1, if_neg hsame]
    by_cases hcanonical : request.targetEncoding = .canonicalBytes
    · rw [if_pos hcanonical, if_neg (hcanonical ▸ hne), Option.or_none, transcodeToCanonical]
      simp only [hcanonical, hne, true_and, false_and, if_false]
      split_ifs <;> rfl
    · rw [if_neg hcanonical, Option.none_or]
      by_cases hnative : request.targetEncoding = .nativePassthrough
      · have hsource : request.sourceEncoding ≠ .nativePassthrough := fun h => hmixed ⟨h, hnative⟩
        rw [if_pos hnative, transcodeToNative, if_neg hsource]
        simp only [hnative, hne.symm, true_and, false_and, if_false]
        split_ifs <;> rfl
      · simp only [hcanonical, hnative, false_and, if_false, Option.getD_none]

/-- A result is in the encoding that was asked for. -/
theorem encoding_transcode {request : TransferTranscodeRequest} (h : (transcode request).ok = true) :
    (transcode request).encoding = request.targetEncoding := by
  have hformat : request.canonicalFormat ≠ [] := by
    intro hformat
    rw [transcode, if_pos hformat] at h
    cases h
  by_cases hnative : request.sourceEncoding = .nativePassthrough ∧
      request.targetEncoding = .nativePassthrough
  · rw [transcode_native hformat hnative.1 hnative.2] at h ⊢
    rw [hnative.2]
    rw [canonicalToTargetNative_eq] at h ⊢
    split_ifs at h ⊢ <;> first | rfl | cases h
  · rw [transcode_mixed hformat hnative] at h ⊢
    rw [canonicalToTargetNative_eq, sourceNativeToCanonical_eq] at h ⊢
    split_ifs at h ⊢ <;> simp_all [okResult]

end Clipboard
end FusionDesk
