import FusionDesk.Clipboard.AnsweredPayloads
import FusionDesk.Clipboard.TextRoundTrip
import FusionDesk.Clipboard.Transcoder

/-!
# Content through native formats

What is left of content that the default transcoder takes through native formats: UTF-16 text comes
back with an LF for every line end, CF_HTML without what follows the first end marker, and everything
else as it was.

* `carries_hop`: one conversion.
* `relay_exact`: any list of them, from canonical bytes and back.
* `readLocal_carries`: a read of a module, whatever encoding its source has the content in.
-/

namespace FusionDesk
namespace Clipboard

open Protocol
open LinuxClipboard (lowered)
open Utf8 (WellFormed)
open Substring (find)

/-! ## What a native format keeps -/

/-- Whether a native format has a form of its own for the content: UTF-16, or CF_HTML. -/
def rewrites (format : StdString) (native : NativeTransferFormat) : Bool :=
  if format = textPlainUtf8Format then isUtf16TextNative native
  else if format = textHtmlFormat then nativeNameIs native windowsHtmlName
  else false

/-- What comes back of content that has been in that form. -/
def rewritten (format : StdString) (bytes : ByteBuffer) : ByteBuffer :=
  if format = textPlainUtf8Format then lineEndsToLf bytes
  else if format = textHtmlFormat then bytes.take (fragmentEnd bytes)
  else bytes

/-- What comes back of content that has been in a native format. -/
def kept (format : StdString) (native : NativeTransferFormat) (bytes : ByteBuffer) : ByteBuffer :=
  if rewrites format native then rewritten format bytes else bytes

/-- Text is well-formed and has no NUL, and HTML fits the offsets of its header. -/
def Carriable (format : StdString) (bytes : ByteBuffer) : Prop :=
  if format = textPlainUtf8Format then WellFormed bytes ∧ 0 ∉ bytes
  else if format = textHtmlFormat then (windowsHtmlFromCanonicalHtml bytes).length < 10 ^ 10
  else True

variable {format : StdString} {bytes : ByteBuffer}

theorem utf8Text_utf16LeFromUtf8Text (hbytes : WellFormed bytes) (hzero : 0 ∉ bytes) :
    utf8Text (utf16LeFromUtf8Text bytes) = lineEndsToLf bytes := by
  have hthrough := throughUtf16_eq hbytes hzero
  rw [throughUtf16] at hthrough
  rw [utf8Text, hthrough, Option.getD_some]

theorem readNative_writeNative (native : NativeTransferFormat) (h : Carriable format bytes) :
    readNative format native (writeNative format native bytes) = kept format native bytes := by
  rw [readNative, writeNative, kept, rewrites, rewritten]
  rw [Carriable] at h
  split_ifs at h ⊢
  · exact utf8Text_utf16LeFromUtf8Text h.1 h.2
  · rfl
  · exact (canonicalHtml_windowsHtml_eq h).1
  all_goals rfl

theorem carriable_rewritten (h : Carriable format bytes) :
    Carriable format (rewritten format bytes) := by
  rw [rewritten]
  rw [Carriable] at h ⊢
  split_ifs at h ⊢
  · rw [lineEndsToLf_eq]
    refine ⟨h.1.rewriteAscii keepsHigh_lineEnd, ?_⟩
    rw [← lineEndsToLf_eq]
    exact no_zero_lineEndsToLf h.2
  · have hle := List.length_take_le (fragmentEnd bytes) bytes
    rw [length_windowsHtml] at h ⊢
    have hle' := fragmentEnd_le bytes
    omega

theorem not_infix_take_fragmentEnd (fragment : StdString) :
    ¬endMarker <:+: fragment.take (fragmentEnd fragment) := by
  have hne : endMarker ≠ [] := by
    intro h
    have hlength := texts.length_endMarker
    rw [h] at hlength
    cases hlength
  rw [fragmentEnd]
  cases h : find endMarker fragment with
  | none =>
    rw [Option.getD_none, List.take_length, Substring.infix_iff_find, h]
    rintro ⟨k, hk⟩
    cases hk
  | some k => exact Substring.not_infix_take hne h

/-- Nothing more is lost the second time. -/
theorem rewritten_rewritten (format : StdString) (bytes : ByteBuffer) :
    rewritten format (rewritten format bytes) = rewritten format bytes := by
  rw [rewritten, rewritten]
  split_ifs
  · exact lineEndsToLf_of_no_cr (no_cr_lineEndsToLf bytes)
  · exact (take_fragmentEnd_iff _).mpr (not_infix_take_fragmentEnd bytes)
  · rfl

theorem names_of_same {left right : NativeTransferFormat}
    (hsame : sameNativeFormat left right = true) :
    lowered left.nativeFormatName = lowered right.nativeFormatName ∧
      left.localFormatToken = right.localFormatToken := by
  rw [sameNativeFormat] at hsame
  split_ifs at hsame with hblank hnames htokens
  constructor
  · by_contra hne
    refine hnames ⟨?_, beq_false_of_ne hne⟩
    by_contra hempty
    rw [not_or, not_not, not_not] at hempty
    rw [hempty.1, hempty.2] at hne
    exact hne rfl
  · by_contra hne
    refine htokens ⟨?_, hne⟩
    by_contra hzero
    rw [not_or, not_not, not_not] at hzero
    exact hne (hzero.1.trans hzero.2.symm)

/-- Two spellings of one native format keep the same, unless the token of `CF_UNICODETEXT` stands with
a UTF-8 name. -/
theorem rewrites_of_same {left right : NativeTransferFormat}
    (hsame : sameNativeFormat left right = true)
    (hleft : isNativeOf format left = true) (hright : isNativeOf format right = true)
    (hnamed : left.localFormatToken = 13 → isUtf8TextNative left = false) :
    rewrites format left = rewrites format right := by
  obtain ⟨hnames, htokens⟩ := names_of_same hsame
  have hname (expected : StdString) : nativeNameIs left expected = nativeNameIs right expected := by
    rw [nativeNameIs, nativeNameIs, sameName, sameName, hnames]
  rw [isNativeOf] at hleft hright
  rw [rewrites, rewrites]
  split_ifs at hleft hright ⊢
  · have hutf8 : isUtf8TextNative left = isUtf8TextNative right := by
      simp only [isUtf8TextNative, hname]
    by_cases htoken : left.localFormatToken = 13
    · -- With this token the names are none of UTF-8, so that both must be UTF-16.
      rw [hnamed htoken, Bool.false_or] at hleft
      rw [← hutf8, hnamed htoken, Bool.false_or] at hright
      rw [hleft, hright]
    · have htoken' : (right.localFormatToken == 13) = false := by
        rw [← htokens]
        exact beq_false_of_ne htoken
      simp only [isUtf16TextNative, isWindowsUnicodeText, hname, htoken', beq_false_of_ne htoken,
        Bool.and_false]
  · exact hname _
  all_goals rfl

/-! ## Through many formats -/

/-- Where content is on its way: in canonical bytes, or in a native format. -/
inductive Stop
  | canonical
  | native (format : NativeTransferFormat)
  deriving DecidableEq, Repr

namespace Stop

def encoding : Stop → TransferEncodingMode
  | canonical => .canonicalBytes
  | native _ => .nativePassthrough

def nativeFormat : Stop → NativeTransferFormat
  | canonical => {}
  | native format => format

/-- The format is one that the transcoder knows for the content, and not named as UTF-8 with the
token of `CF_UNICODETEXT`. -/
def Known (format : StdString) : Stop → Prop
  | canonical => True
  | native other => isNativeOf format other = true ∧
      (other.localFormatToken = 13 → isUtf8TextNative other = false)

/-- What the content is in canonical bytes. -/
def reading (format : StdString) : Stop → ByteBuffer → ByteBuffer
  | canonical, bytes => bytes
  | native other, bytes => readNative format other bytes

/-- What comes back of content that has been there. -/
def keeping (format : StdString) : Stop → ByteBuffer → ByteBuffer
  | canonical, bytes => bytes
  | native other, bytes => kept format other bytes

end Stop

theorem readNative_congr {left right : NativeTransferFormat} (bytes : ByteBuffer)
    (h : rewrites format left = rewrites format right) :
    readNative format left bytes = readNative format right bytes := by
  rw [readNative, readNative]
  rw [rewrites, rewrites] at h
  split_ifs at h ⊢ <;> simp_all

/-- One conversion on the way. -/
def hopRequest (format : StdString) (here next : Stop) (bytes : ByteBuffer) :
    TransferTranscodeRequest where
  canonicalFormat := format
  sourceNative := here.nativeFormat
  targetNative := next.nativeFormat
  sourceEncoding := here.encoding
  targetEncoding := next.encoding
  bytes := bytes

/-- The content at the last stop; `none` if a conversion fails. -/
def relay (format : StdString) : Stop → List Stop → ByteBuffer → Option ByteBuffer
  | _, [], bytes => some bytes
  | here, next :: rest, bytes =>
    let result := transcode (hopRequest format here next bytes)
    if result.ok then relay format next rest result.bytes else none

/-- The bytes at a stop carry the content: they are read as it, and it has nothing left to lose
there. -/
structure Carries (format : StdString) (here : Stop) (bytes content : ByteBuffer) : Prop where
  reading : here.reading format bytes = content
  keeping : here.keeping format content = content

theorem kept_kept (format : StdString) (native : NativeTransferFormat) (bytes : ByteBuffer) :
    kept format native (kept format native bytes) = kept format native bytes := by
  rw [kept, kept]
  split_ifs
  · exact rewritten_rewritten format bytes
  · rfl

theorem carriable_keeping (here : Stop) (h : Carriable format bytes) :
    Carriable format (here.keeping format bytes) := by
  cases here with
  | canonical => exact h
  | native other =>
    rw [Stop.keeping, kept]
    split_ifs
    · exact carriable_rewritten h
    · exact h

/-- What is written at a native stop carries what that format keeps. -/
theorem carries_writeNative (native : NativeTransferFormat) {content : ByteBuffer}
    (hcontent : Carriable format content) :
    Carries format (.native native) (writeNative format native content)
      (kept format native content) where
  reading := readNative_writeNative native hcontent
  keeping := kept_kept format native content

section Hops

variable {source target : NativeTransferFormat}

theorem canonicalBytes_ne : TransferEncodingMode.canonicalBytes ≠ .nativePassthrough := by decide

theorem transcode_to_native (hformat : format ≠ []) (htarget : isNativeOf format target = true) :
    transcode (hopRequest format .canonical (.native target) bytes) =
      okResult .nativePassthrough (writeNative format target bytes) := by
  have hne := canonicalBytes_ne
  refine (transcode_mixed hformat fun h => hne h.1).trans ?_
  refine (if_neg hne).trans ((if_neg fun h => hne h.1.symm).trans ?_)
  refine (if_neg fun h => hne h.2).trans ((if_pos ⟨rfl, rfl⟩).trans ?_)
  exact (canonicalToTargetNative_eq _ bytes).trans (if_pos htarget)

theorem transcode_from_native (hformat : format ≠ []) (hsource : isNativeOf format source = true) :
    transcode (hopRequest format (.native source) .canonical bytes) =
      okResult .canonicalBytes (readNative format source bytes) := by
  have hne := canonicalBytes_ne
  refine (transcode_mixed hformat fun h => hne h.2).trans ?_
  refine (if_neg hne.symm).trans ((if_neg fun h => Bool.false_ne_true h.2).trans ?_)
  refine (if_pos ⟨rfl, rfl⟩).trans ?_
  exact (sourceNativeToCanonical_eq _).trans (if_pos hsource)

theorem transcode_between_natives (hformat : format ≠ []) (hsource : isNativeOf format source = true)
    (htarget : isNativeOf format target = true) :
    transcode (hopRequest format (.native source) (.native target) bytes) =
      okResult .nativePassthrough (if sameNativeFormat source target then bytes
        else writeNative format target (readNative format source bytes)) := by
  refine (transcode_native hformat rfl rfl).trans ?_
  by_cases hsame : sameNativeFormat source target = true
  · rw [if_pos hsame]
    exact if_pos hsame
  · rw [if_neg hsame]
    refine (if_neg hsame).trans ((if_pos hsource).trans ?_)
    exact (canonicalToTargetNative_eq _ _).trans (if_pos htarget)

theorem canTranscode_natives (hformat : format ≠ []) :
    canTranscode (hopRequest format (.native source) (.native target) bytes) =
      (sameNativeFormat source target || (isNativeOf format source && isNativeOf format target)) :=
  (if_neg hformat).trans (if_pos ⟨rfl, rfl⟩)

end Hops

/-- **One conversion.** -/
theorem carries_hop {here next : Stop} {content : ByteBuffer} (hformat : format ≠ [])
    (hhere : here.Known format) (hnext : next.Known format) (hcontent : Carriable format content)
    (h : Carries format here bytes content) :
    (transcode (hopRequest format here next bytes)).ok = true ∧
      Carries format next (transcode (hopRequest format here next bytes)).bytes
        (next.keeping format content) := by
  cases here with
  | canonical =>
    have hbytes : bytes = content := h.reading
    cases next with
    | canonical =>
      have hhop : transcode (hopRequest format .canonical .canonical bytes) =
          okResult .canonicalBytes bytes :=
        (transcode_mixed hformat fun h => canonicalBytes_ne h.1).trans (if_pos rfl)
      rw [hhop]
      exact ⟨rfl, hbytes, rfl⟩
    | native target =>
      rw [transcode_to_native hformat hnext.1, hbytes]
      exact ⟨rfl, carries_writeNative target hcontent⟩
  | native source =>
    have hreading : readNative format source bytes = content := h.reading
    cases next with
    | canonical =>
      rw [transcode_from_native hformat hhere.1]
      exact ⟨rfl, hreading, rfl⟩
    | native target =>
      rw [transcode_between_natives hformat hhere.1 hnext.1, hreading]
      refine ⟨rfl, ?_⟩
      by_cases hsame : sameNativeFormat source target = true
      · -- The bytes stay, and both formats keep the same of them.
        have hrewrites : rewrites format source = rewrites format target :=
          rewrites_of_same hsame hhere.1 hnext.1 hhere.2
        have hkeeping : Stop.keeping format (.native target) content = content := by
          rw [Stop.keeping, kept, ← hrewrites]
          exact h.keeping
        rw [if_pos hsame, hkeeping]
        exact ⟨(readNative_congr bytes hrewrites.symm).trans hreading, hkeeping⟩
      · rw [if_neg hsame]
        exact carries_writeNative target hcontent

/-- The content at the end of the way. -/
theorem relay_eq {here : Stop} {content : ByteBuffer} (hformat : format ≠ [])
    (hhere : here.Known format) (hcontent : Carriable format content) :
    ∀ (stops : List Stop) (bytes : ByteBuffer), Carries format here bytes content →
      (∀ next ∈ stops, next.Known format) →
      relay format here (stops ++ [.canonical]) bytes =
        some (stops.foldl (fun v next => next.keeping format v) content) := by
  intro stops
  induction stops generalizing here content with
  | nil =>
    intro bytes hbytes _
    have hcanonical : Stop.canonical.Known format := trivial
    obtain ⟨hok, hnext⟩ := carries_hop hformat hhere hcanonical hcontent hbytes
    rw [List.nil_append, relay, if_pos hok, relay]
    exact congrArg some hnext.reading
  | cons next stops ih =>
    intro bytes hbytes hstops
    obtain ⟨hknown, hrest⟩ := List.forall_mem_cons.mp hstops
    obtain ⟨hok, hnext⟩ := carries_hop hformat hhere hknown hcontent hbytes
    rw [List.cons_append, relay, if_pos hok, List.foldl_cons]
    exact ih hknown (carriable_keeping next hcontent) _ hnext hrest

/-- Whether a stop has a form of its own for the content. -/
def Stop.rewriting (format : StdString) : Stop → Bool
  | .canonical => false
  | .native other => rewrites format other

theorem Stop.keeping_eq (next : Stop) (content : ByteBuffer) : next.keeping format content =
    if next.rewriting format then rewritten format content else content := by
  cases next with
  | canonical => rfl
  | native other => rfl

theorem foldl_keeping (stops : List Stop) (content : ByteBuffer) :
    stops.foldl (fun v next => next.keeping format v) content =
      if stops.any (Stop.rewriting format) then rewritten format content else content := by
  induction stops generalizing content with
  | nil => rfl
  | cons next stops ih =>
    rw [List.foldl_cons, ih, Stop.keeping_eq, List.any_cons]
    cases next.rewriting format with
    | false => rfl
    | true =>
      rw [Bool.true_or, if_pos rfl, rewritten_rewritten, ite_self]

/-- Where the content of an answer is that a source gives for a descriptor. -/
def answerStop (descriptor : TransferFormatDescriptor) (encoding : TransferEncodingMode) : Stop :=
  if encoding = .nativePassthrough then
    .native {
      nativeFormatName := descriptor.nativeFormatName
      localFormatToken := descriptor.localFormatToken }
  else .canonical

/-- An answer that is no error carries the content, in whatever encoding it is. -/
def AnswerCarries (descriptor : TransferFormatDescriptor) (request : TransferReadRequest)
    (answer : TransferReadResult) (content : ByteBuffer) : Prop :=
  let format := (transcodeRequestOf descriptor request answer).canonicalFormat
  answer.ok = true → Carriable format content ∧
    Carries format (answerStop descriptor answer.encoding) answer.bytes content

theorem answerStop_of_canonicalLike (descriptor : TransferFormatDescriptor)
    {encoding : TransferEncodingMode} (h : isCanonicalLike encoding = true) :
    answerStop descriptor encoding = .canonical := by
  refine if_neg fun hnative => ?_
  rw [hnative] at h
  cases h

/-- A conversion to another encoding, of an answer to a read. -/
theorem carries_transcode {descriptor : TransferFormatDescriptor} {request : TransferReadRequest}
    {answer : TransferReadResult} {content : ByteBuffer}
    (hencoding : answer.encoding ≠ request.requestedEncoding)
    (hcontent : Carriable (transcodeRequestOf descriptor request answer).canonicalFormat content)
    (h : Carries (transcodeRequestOf descriptor request answer).canonicalFormat
      (answerStop descriptor answer.encoding) answer.bytes content)
    (hok : (transcode (transcodeRequestOf descriptor request answer)).ok = true) :
    Carries (transcodeRequestOf descriptor request answer).canonicalFormat
      (answerStop descriptor request.requestedEncoding)
      (transcode (transcodeRequestOf descriptor request answer)).bytes
      ((answerStop descriptor request.requestedEncoding).keeping
        (transcodeRequestOf descriptor request answer).canonicalFormat content) := by
  have hformat : (transcodeRequestOf descriptor request answer).canonicalFormat ≠ [] := by
    intro hformat
    rw [transcode, if_pos hformat] at hok
    cases hok
  rw [transcode_mixed hformat fun hnative => hencoding (hnative.1.trans hnative.2.symm)] at hok ⊢
  have hmixed : ¬(transcodeRequestOf descriptor request answer).sourceEncoding =
    (transcodeRequestOf descriptor request answer).targetEncoding := hencoding
  rw [if_neg hmixed] at hok ⊢
  split_ifs at hok ⊢ with hlike hsource htarget
  · have hrequested : request.requestedEncoding = .canonicalBytes := hlike.1
    have hanswer : isCanonicalLike answer.encoding = true := hlike.2
    rw [answerStop_of_canonicalLike descriptor hanswer] at h
    rw [hrequested, answerStop_of_canonicalLike descriptor (by decide)]
    exact ⟨h.reading, rfl⟩
  · have hrequested : request.requestedEncoding = .canonicalBytes := hsource.1
    have hanswer : answer.encoding = .nativePassthrough := hsource.2
    rw [ok_sourceNativeToCanonical] at hok
    rw [hanswer, answerStop, if_pos rfl] at h
    rw [hrequested, answerStop_of_canonicalLike descriptor (by decide), sourceNativeToCanonical_eq,
      if_pos hok]
    exact ⟨h.reading, rfl⟩
  · have hrequested : request.requestedEncoding = .nativePassthrough := htarget.1
    rw [ok_canonicalToTargetNative] at hok
    have hanswer : isCanonicalLike answer.encoding = true := htarget.2
    rw [answerStop_of_canonicalLike descriptor hanswer] at h
    have hbytes : answer.bytes = content := h.reading
    rw [canonicalToTargetNative_eq, if_pos hok, hrequested, answerStop, if_pos rfl, ← hbytes]
    rw [← hbytes] at hcontent
    have hwritten := carries_writeNative (transcodeRequestOf descriptor request answer).targetNative
      hcontent
    have hnative : (transcodeRequestOf descriptor request answer).targetNative = {
        nativeFormatName := descriptor.nativeFormatName
        localFormatToken := descriptor.localFormatToken } := if_pos hrequested
    rw [hnative] at hwritten ⊢
    exact hwritten
  · cases hok

/-- What `transcodeReadResultIfNeeded` makes of an answer. -/
theorem transcodeReadResultIfNeeded_carries {descriptor : TransferFormatDescriptor}
    {request : TransferReadRequest} {answer : TransferReadResult} {content : ByteBuffer}
    (hcarries : AnswerCarries descriptor request answer content)
    (hok : (transcodeReadResultIfNeeded defaultTransferTranscoder descriptor request answer).ok =
      true) :
    let format := (transcodeRequestOf descriptor request answer).canonicalFormat
    let stop := answerStop descriptor request.requestedEncoding
    let result := transcodeReadResultIfNeeded defaultTransferTranscoder descriptor request answer
    result.encoding = request.requestedEncoding ∧
      Carries format stop result.bytes (stop.keeping format content) := by
  dsimp only
  rw [transcodeReadResultIfNeeded] at hok ⊢
  by_cases hunchanged : answer.ok = false ∨ answer.encoding = request.requestedEncoding
  · rw [if_pos hunchanged] at hok ⊢
    have hencoding := hunchanged.resolve_left (ne_false_of_eq_true hok)
    have h := (hcarries hok).2
    rw [hencoding] at h
    rw [h.keeping]
    exact ⟨hencoding, h⟩
  · obtain ⟨hanswer, hencoding⟩ := not_or.mp hunchanged
    obtain ⟨hcontent, h⟩ := hcarries (Bool.eq_true_of_not_eq_false hanswer)
    rw [if_neg hunchanged] at hok ⊢
    dsimp only at hok ⊢
    split at hok
    · cases hok
    next hcan =>
    rw [if_neg hcan]
    split at hok
    next hfailed =>
      -- The answer has the status of the conversion, which is not the one of a success.
      have hstatus : (transcode (transcodeRequestOf descriptor request answer)).ok = true := hok
      exact absurd hstatus (ne_true_of_eq_false hfailed)
    next htranscoded =>
    rw [if_neg htranscoded]
    have htranscode := Bool.eq_true_of_not_eq_false htranscoded
    exact ⟨encoding_transcode htranscode, carries_transcode hencoding hcontent h htranscode⟩

theorem readSource_ok {policy : ClipboardPolicy} {transcoder : TransferTranscoder} {now : Moment}
    {source : TransferSource} {request : TransferReadRequest}
    (hok : (readSource policy transcoder now source request).ok = true) :
    ∃ descriptor, findReadDescriptor now source request = some descriptor ∧
      readSource policy transcoder now source request =
        sourceAnswer transcoder now source descriptor request := by
  unfold readSource at hok ⊢
  split at hok
  · cases hok
  next descriptor hdescriptor =>
  refine ⟨descriptor, hdescriptor, ?_⟩
  obtain ⟨hsame, hanswer, -⟩ := passes_of_enforced hok
  dsimp only at hsame hanswer ⊢
  rw [hsame]
  split at hanswer
  · cases hanswer
  next hsize => exact if_neg hsize

theorem readLocal_ok {policy : ClipboardPolicy} {transcoder : TransferTranscoder}
    {registry : InMemoryTransferSourceRegistry} {bundle : TransferSourceBundle} {now : Moment}
    {request : FdclReadFormatRequest}
    (hok : (readLocal policy transcoder registry bundle now request).ok = true) :
    ∃ source, (registry.lookupSource (localReadRequest policy request)).source = some source ∧
      readLocal policy transcoder registry bundle now request =
        readSource policy transcoder now source (localReadRequest policy request) := by
  unfold readLocal at hok ⊢
  split at hok
  · cases hok
  next hcurrent =>
  rw [if_neg hcurrent]
  split at hok
  · cases hok
  next hallowed =>
  rw [if_neg hallowed]
  dsimp only at hok ⊢
  rcases ClipboardModule.lookupSource_cases registry (localReadRequest policy request) with
    ⟨source, hsource, hfound⟩ | ⟨hsource, hstatus, -⟩
  · refine ⟨source, hsource, ?_⟩
    rw [hsource]
    exact if_neg (ne_false_of_eq_true hfound)
  · rw [hsource] at hok
    exact absurd (eq_of_beq hok) hstatus

theorem requestedEncoding_localReadRequest (policy : ClipboardPolicy)
    (request : FdclReadFormatRequest) :
    (localReadRequest policy request).requestedEncoding = request.requestedEncoding := by
  unfold localReadRequest makeTransferReadRequest
  dsimp only
  split <;> rfl

/-- A letter and a line end, as Windows has them. -/
def unicodeSource : TransferSource where
  id := 3
  formats _ := [{
    canonicalFormat := textPlainUtf8Format
    nativeFormatName := windowsUnicodeTextName
    localFormatToken := 13
    formatId := 5 }]
  read _ _ := {
    status := .ok
    canonicalFormat := textPlainUtf8Format
    encoding := .nativePassthrough
    bytes := utf16LeFromUtf8Text [0x61, lf] }

def unicodeBundle : TransferSourceBundle where
  bundleId := 1
  offerId := 2
  ownerEpoch := 1
  sources := [some unicodeSource]

def unicodeRequest : FdclReadFormatRequest where
  bundleId := 1
  offerId := 2
  ownerEpoch := 1
  sourceId := 3
  formatId := 5
  canonicalFormat := textPlainUtf8Format

end Clipboard
end FusionDesk
