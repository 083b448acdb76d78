import FusionDesk.Clipboard.TranscodedContent

/-!
# The default format mapper

`clipboard_transfer_format.cpp`: which canonical format a native format of a platform stands for, and
which native formats of a platform a canonical format can be offered as.  The chains of comparisons
of the source are tables here, in their order.

* `mapped_known`: what a native format is mapped to is a canonical format of the same class.
* `pasted_exact`: the mapper and the default transcoder agree about content that is
  copied on one platform and pasted on another.
-/

namespace FusionDesk
namespace Clipboard

open Protocol
open LinuxClipboard (lowered)

def fdclOwnerMarkerFormat : StdString := bytesOf "application/x-fdcl-owner-marker"

/-- `enum class TransferFormatClass`. -/
inductive TransferFormatClass
  | unknown
  | plainText
  | html
  | rtf
  | image
  | fileList
  | ownerMarker
  | custom
  deriving DecidableEq, Repr

/-- `enum class TransferCanonicalFormatScope`. -/
inductive TransferCanonicalFormatScope
  | unknown
  | crossOs
  | samePlatform
  | internal
  deriving DecidableEq, Repr

structure TransferCanonicalFormatSpec where
  canonicalFormat : StdString
  formatClass : TransferFormatClass := .unknown
  scope : TransferCanonicalFormatScope := .unknown
  canonicalEncoding : TransferEncodingMode := .canonicalBytes
  userVisible : Bool := false
  deriving DecidableEq, Repr

structure TransferFormatMappingRequest where
  native : NativeTransferFormat := {}
  formatId : TransferFormatId := 0
  itemIndex : UInt32 := 0
  estimatedBytes : UInt64 := 0
  canInline : Bool := true
  canStream : Bool := false
  deriving DecidableEq, Repr

structure TransferFormatMappingResult where
  mapped : Bool := false
  descriptor : TransferFormatDescriptor := {}
  formatClass : TransferFormatClass := .unknown
  reason : StdString := []
  deriving DecidableEq, Repr

structure NativeTransferFormatCandidate where
  native : NativeTransferFormat
  encoding : TransferEncodingMode := .transcoded
  priority : Int := 0
  deriving DecidableEq, Repr

/-! ## Canonical formats -/

def classForCanonical (canonical : StdString) : TransferFormatClass :=
  let value := lowered canonical
  if value = textPlainUtf8Format then .plainText
  else if value = textHtmlFormat then .html
  else if value = textRtfFormat then .rtf
  else if value = imagePngFormat ∨ value = imageDibFormat then .image
  else if value = fdclFileListFormat then .fileList
  else if value = fdclOwnerMarkerFormat then .ownerMarker
  else if value ≠ [] then .custom
  else .unknown

def defaultCanonicalTransferFormats : List TransferCanonicalFormatSpec :=
  [⟨textPlainUtf8Format, .plainText, .crossOs, .canonicalBytes, true⟩,
    ⟨textHtmlFormat, .html, .crossOs, .canonicalBytes, true⟩,
    ⟨textRtfFormat, .rtf, .crossOs, .canonicalBytes, true⟩,
    ⟨imagePngFormat, .image, .crossOs, .canonicalBytes, true⟩,
    ⟨fdclFileListFormat, .fileList, .crossOs, .canonicalBytes, true⟩,
    ⟨imageDibFormat, .image, .samePlatform, .nativePassthrough, true⟩,
    ⟨fdclOwnerMarkerFormat, .ownerMarker, .internal, .canonicalBytes, false⟩]

def canonicalTransferFormatSpec (canonicalFormat : StdString) : Option TransferCanonicalFormatSpec :=
  defaultCanonicalTransferFormats.find? fun spec =>
    lowered spec.canonicalFormat == lowered canonicalFormat

def isKnownCanonicalTransferFormat (canonicalFormat : StdString) : Bool :=
  (canonicalTransferFormatSpec canonicalFormat).isSome

def isCrossOsCanonicalTransferFormat (canonicalFormat : StdString) : Bool :=
  (canonicalTransferFormatSpec canonicalFormat).any fun spec => spec.scope == .crossOs

/-! ## From native formats -/

/-- The native names that `canonicalForNative` compares with, in lower case. -/
def nativeTable : TransferPlatformFamily → List (StdString × StdString)
  | .windows =>
    [(bytesOf "cf_unicodetext", textPlainUtf8Format), (bytesOf "html format", textHtmlFormat),
      (bytesOf "rich text format", textRtfFormat), (bytesOf "png", imagePngFormat),
      (bytesOf "cf_dib", imageDibFormat), (bytesOf "cf_dibv5", imageDibFormat),
      (bytesOf "filegroupdescriptorw", fdclFileListFormat),
      (bytesOf "filecontents", fdclFileListFormat), (bytesOf "cf_hdrop", fdclFileListFormat)]
  | .linux | .qt | .wayland | .gtk =>
    [(bytesOf "utf8_string", textPlainUtf8Format), (bytesOf "text/plain", textPlainUtf8Format),
      (bytesOf "text/plain;charset=utf-8", textPlainUtf8Format),
      (bytesOf "text/plain;charset=utf8", textPlainUtf8Format),
      (bytesOf "text/html", textHtmlFormat), (bytesOf "text/rtf", textRtfFormat),
      (bytesOf "application/rtf", textRtfFormat), (bytesOf "image/png", imagePngFormat),
      (bytesOf "text/uri-list", fdclFileListFormat),
      (bytesOf "x-special/gnome-copied-files", fdclFileListFormat),
      (bytesOf "x-special/mate-copied-files", fdclFileListFormat),
      (bytesOf "text/x-moz-url", fdclFileListFormat)]
  | .macOS | .ios =>
    [(bytesOf "public.utf8-plain-text", textPlainUtf8Format),
      (bytesOf "public.utf16-plain-text", textPlainUtf8Format),
      (bytesOf "public.html", textHtmlFormat), (bytesOf "public.rtf", textRtfFormat),
      (bytesOf "public.png", imagePngFormat), (bytesOf "public.file-url", fdclFileListFormat)]
  | .android =>
    [(bytesOf "text/plain", textPlainUtf8Format), (bytesOf "text/html", textHtmlFormat),
      (bytesOf "image/png", imagePngFormat), (bytesOf "text/uri-list", fdclFileListFormat)]
  | .unknown => []

def canonicalForNative (platform : TransferPlatformFamily) (nativeName : StdString) : StdString :=
  let name := lowered nativeName
  if name = [] then [] else ((nativeTable platform).lookup name).getD []

/-- `DefaultTransferFormatMapper::mapNativeToCanonical`. -/
def mapNativeToCanonical (request : TransferFormatMappingRequest) : TransferFormatMappingResult :=
  let canonical := canonicalForNative request.native.platform request.native.nativeFormatName
  if canonical = [] then { reason := bytesOf "native clipboard format is not mapped" }
  else {
    mapped := true
    formatClass := classForCanonical canonical
    descriptor := {
      canonicalFormat := canonical
      nativeFormatName := request.native.nativeFormatName
      localFormatToken := request.native.localFormatToken
      formatId := request.formatId
      itemIndex := request.itemIndex
      estimatedBytes := request.estimatedBytes
      canInline := request.canInline
      canStream := request.canStream
      preferredEncoding := .nativePassthrough } }

/-! ## To native formats -/

def candidate (platform : TransferPlatformFamily) (nativeName : StdString)
    (encoding : TransferEncodingMode) (priority : Int) : NativeTransferFormatCandidate where
  native := { platform := platform, nativeFormatName := nativeName }
  encoding := encoding
  priority := priority

/-- The candidates of a platform for each canonical format. -/
def candidateTable :
    TransferPlatformFamily → List (StdString × List (StdString × TransferEncodingMode × Int))
  | .windows =>
    [(textPlainUtf8Format, [(bytesOf "CF_UNICODETEXT", .transcoded, 100)]),
      (textHtmlFormat, [(bytesOf "HTML Format", .transcoded, 100)]),
      (textRtfFormat, [(bytesOf "Rich Text Format", .nativePassthrough, 100)]),
      (imagePngFormat, [(bytesOf "PNG", .nativePassthrough, 100),
        (bytesOf "CF_DIBV5", .transcoded, 90), (bytesOf "CF_DIB", .transcoded, 80)]),
      (imageDibFormat, [(bytesOf "CF_DIBV5", .nativePassthrough, 100),
        (bytesOf "CF_DIB", .nativePassthrough, 90)]),
      (fdclFileListFormat, [(bytesOf "FileGroupDescriptorW", .transcoded, 100),
        (bytesOf "FileContents", .transcoded, 90)])]
  | .linux | .qt | .wayland | .gtk =>
    [(textPlainUtf8Format, [(bytesOf "text/plain;charset=utf-8", .canonicalBytes, 100),
        (bytesOf "UTF8_STRING", .canonicalBytes, 90)]),
      (textHtmlFormat, [(bytesOf "text/html", .canonicalBytes, 100)]),
      (textRtfFormat, [(bytesOf "text/rtf", .nativePassthrough, 100)]),
      (imagePngFormat, [(bytesOf "image/png", .canonicalBytes, 100)]),
      (fdclFileListFormat, [(bytesOf "text/uri-list", .transcoded, 100),
        (bytesOf "x-special/gnome-copied-files", .transcoded, 95),
        (bytesOf "x-special/mate-copied-files", .transcoded, 90),
        (bytesOf "text/x-moz-url", .transcoded, 80)])]
  | .macOS | .ios =>
    [(textPlainUtf8Format, [(bytesOf "public.utf8-plain-text", .canonicalBytes, 100)]),
      (textHtmlFormat, [(bytesOf "public.html", .canonicalBytes, 100)]),
      (textRtfFormat, [(bytesOf "public.rtf", .nativePassthrough, 100)]),
      (imagePngFormat, [(bytesOf "public.png", .canonicalBytes, 100)]),
      (fdclFileListFormat, [(bytesOf "public.file-url", .transcoded, 100)])]
  | .android =>
    [(textPlainUtf8Format, [(bytesOf "text/plain", .canonicalBytes, 100)]),
      (textHtmlFormat, [(bytesOf "text/html", .canonicalBytes, 100)]),
      (imagePngFormat, [(bytesOf "image/png", .canonicalBytes, 100)]),
      (fdclFileListFormat, [(bytesOf "text/uri-list", .transcoded, 100)])]
  | .unknown => []

/-- `DefaultTransferFormatMapper::nativeCandidates`. -/
def nativeCandidates (canonicalFormat : StdString) (targetPlatform : TransferPlatformFamily) :
    List NativeTransferFormatCandidate :=
  (((candidateTable targetPlatform).lookup (lowered canonicalFormat)).getD []).map fun entry =>
    candidate targetPlatform entry.1 entry.2.1 entry.2.2

/-! ## The tables -/

variable {α : Type*}

/-- **The class of a canonical format is the one that its specification has**, in any case of its
letters. -/
theorem classForCanonical_of_spec {canonicalFormat : StdString} {spec : TransferCanonicalFormatSpec}
    (h : canonicalTransferFormatSpec canonicalFormat = some spec) :
    classForCanonical canonicalFormat = spec.formatClass := by
  have hspecs : ∀ spec ∈ defaultCanonicalTransferFormats,
      classForCanonical spec.canonicalFormat = spec.formatClass := by decide +kernel
  have hfound := (List.find?_eq_some_iff_append.mp h).1
  have hname : lowered spec.canonicalFormat = lowered canonicalFormat := eq_of_beq hfound
  rw [← hspecs spec (List.mem_of_find?_eq_some h), classForCanonical, classForCanonical, hname]

/-- What is checked of a row of `nativeTable`. -/
structure NativeRow (row : StdString × StdString) : Prop where
  lowered : lowered row.1 = row.1
  lowerFormat : LinuxClipboard.lowered row.2 = row.2
  readable : row.2 ≠ fdclFileListFormat → isNativeOf row.2 { nativeFormatName := row.1 } = true
  known : isKnownCanonicalTransferFormat row.2 = true

instance (row : StdString × StdString) : Decidable (NativeRow row) :=
  decidable_of_iff
    (lowered row.1 = row.1 ∧ lowered row.2 = row.2 ∧
      (row.2 ≠ fdclFileListFormat → isNativeOf row.2 { nativeFormatName := row.1 } = true) ∧
      isKnownCanonicalTransferFormat row.2 = true)
    ⟨fun ⟨name, format, readable, known⟩ => ⟨name, format, readable, known⟩,
      fun ⟨name, format, readable, known⟩ => ⟨name, format, readable, known⟩⟩

theorem nativeRow_of_mem {platform : TransferPlatformFamily} {row : StdString × StdString}
    (h : row ∈ nativeTable platform) : NativeRow row := by
  have hwindows : ∀ row ∈ nativeTable .windows, NativeRow row := by decide +kernel
  have hlinux : ∀ row ∈ nativeTable .linux, NativeRow row := by decide +kernel
  have hmacOS : ∀ row ∈ nativeTable .macOS, NativeRow row := by decide +kernel
  have handroid : ∀ row ∈ nativeTable .android, NativeRow row := by decide +kernel
  cases platform with
  | unknown => exact absurd h List.not_mem_nil
  | windows => exact hwindows row h
  | linux | qt | wayland | gtk => exact hlinux row h
  | macOS | ios => exact hmacOS row h
  | android => exact handroid row h

theorem mem_of_lookup {table : List (StdString × α)} {name : StdString} {found : α}
    (h : table.lookup name = some found) : (name, found) ∈ table := by
  obtain ⟨front, rest, hsplit, -⟩ := List.lookup_eq_some_iff.mp h
  rw [hsplit]
  exact List.mem_append_right front List.mem_cons_self

/-- What a native format is mapped to stands in the table. -/
theorem nativeRow_of_mapped {platform : TransferPlatformFamily} {nativeName : StdString}
    (h : canonicalForNative platform nativeName ≠ []) :
    NativeRow (lowered nativeName, canonicalForNative platform nativeName) := by
  rw [canonicalForNative] at h ⊢
  split at h
  · exact absurd rfl h
  next hname =>
  rw [if_neg hname]
  cases hlookup : (nativeTable platform).lookup (lowered nativeName) with
  | none =>
    rw [hlookup] at h
    exact absurd rfl h
  | some canonical => exact nativeRow_of_mem (mem_of_lookup hlookup)

/-- Of the name of a native format only the letters count, not their case. -/
theorem isNativeOf_of_name {format : StdString} {left right : NativeTransferFormat}
    (hname : lowered left.nativeFormatName = lowered right.nativeFormatName)
    (htoken : left.localFormatToken = 0) (h : isNativeOf format left = true) :
    isNativeOf format right = true := by
  have hnames (expected : StdString) : nativeNameIs left expected = nativeNameIs right expected := by
    rw [nativeNameIs, nativeNameIs, sameName, sameName, hname]
  have htokens : (left.localFormatToken == 13) = false := by
    rw [htoken]
    rfl
  simp only [isNativeOf, isUtf8TextNative, isUtf16TextNative, isWindowsUnicodeText, isHtmlNative,
    isRtfNative, isPngNative, isDibNative, hnames, htokens, Bool.and_false, Bool.or_false] at h ⊢
  split_ifs at h ⊢
  · refine Bool.or_eq_true_iff.mpr ((Bool.or_eq_true_iff.mp h).imp_right fun hutf16 => ?_)
    refine Bool.or_eq_true_iff.mpr ((Bool.or_eq_true_iff.mp hutf16).imp_left fun hunicode => ?_)
    exact Bool.or_eq_true_iff.mpr (Or.inl hunicode)
  all_goals exact h

/-- **The transcoder can read what the mapper maps**, file lists apart. -/
theorem isNativeOf_of_mapped {native : NativeTransferFormat} {format : StdString}
    (hmapped : canonicalForNative native.platform native.nativeFormatName = format)
    (hformat : format ≠ []) (hfiles : format ≠ fdclFileListFormat) :
    isNativeOf format native = true := by
  subst hmapped
  have hrow := nativeRow_of_mapped hformat
  exact isNativeOf_of_name hrow.lowered rfl (hrow.readable hfiles)

/-- What is checked of a candidate. -/
structure CandidateRow (platform : TransferPlatformFamily) (format nativeName : StdString) :
    Prop where
  mapsBack : canonicalForNative platform nativeName = format ∨
    format = imagePngFormat ∧ canonicalForNative platform nativeName = imageDibFormat
  known : canonicalForNative platform nativeName ≠ []
  writable : format ≠ fdclFileListFormat →
    isNativeOf format { nativeFormatName := nativeName } = true →
    canonicalForNative platform nativeName = format

instance (platform : TransferPlatformFamily) (format nativeName : StdString) :
    Decidable (CandidateRow platform format nativeName) :=
  decidable_of_iff
    ((canonicalForNative platform nativeName = format ∨
        format = imagePngFormat ∧ canonicalForNative platform nativeName = imageDibFormat) ∧
      canonicalForNative platform nativeName ≠ [] ∧
      (format ≠ fdclFileListFormat → isNativeOf format { nativeFormatName := nativeName } = true →
        canonicalForNative platform nativeName = format))
    ⟨fun ⟨mapsBack, known, writable⟩ => ⟨mapsBack, known, writable⟩,
      fun ⟨mapsBack, known, writable⟩ => ⟨mapsBack, known, writable⟩⟩

theorem candidateRow_of_table {platform : TransferPlatformFamily}
    {row : StdString × List (StdString × TransferEncodingMode × Int)}
    (hrow : row ∈ candidateTable platform) {entry : StdString × TransferEncodingMode × Int}
    (hentry : entry ∈ row.2) : CandidateRow platform row.1 entry.1 := by
  have hwindows : ∀ row ∈ candidateTable .windows, ∀ entry ∈ row.2,
    CandidateRow .windows row.1 entry.1 := by decide +kernel
  have hlinux : ∀ row ∈ candidateTable .linux, ∀ entry ∈ row.2,
    CandidateRow .linux row.1 entry.1 := by decide +kernel
  have hmacOS : ∀ row ∈ candidateTable .macOS, ∀ entry ∈ row.2,
    CandidateRow .macOS row.1 entry.1 := by decide +kernel
  have handroid : ∀ row ∈ candidateTable .android, ∀ entry ∈ row.2,
    CandidateRow .android row.1 entry.1 := by decide +kernel
  cases platform with
  | unknown => exact absurd hrow List.not_mem_nil
  | windows => exact hwindows row hrow entry hentry
  | linux => exact hlinux row hrow entry hentry
  | qt | wayland | gtk =>
    -- These have the tables of Linux.
    obtain ⟨mapsBack, known, writable⟩ := hlinux row hrow entry hentry
    exact ⟨mapsBack, known, writable⟩
  | macOS => exact hmacOS row hrow entry hentry
  | ios =>
    obtain ⟨mapsBack, known, writable⟩ := hmacOS row hrow entry hentry
    exact ⟨mapsBack, known, writable⟩
  | android => exact handroid row hrow entry hentry

theorem candidateRow_of_mem {format : StdString} {platform : TransferPlatformFamily}
    {candidate : NativeTransferFormatCandidate}
    (h : candidate ∈ nativeCandidates format platform) :
    candidate.native.platform = platform ∧ candidate.native.localFormatToken = 0 ∧
      CandidateRow platform (lowered format) candidate.native.nativeFormatName := by
  rw [nativeCandidates] at h
  obtain ⟨entry, hentry, rfl⟩ := List.mem_map.mp h
  cases hlookup : (candidateTable platform).lookup (lowered format) with
  | none =>
    rw [hlookup] at hentry
    cases hentry
  | some entries =>
    rw [hlookup] at hentry
    exact ⟨rfl, rfl, candidateRow_of_table (mem_of_lookup hlookup) hentry⟩

/-- Of the candidates of a format, the transcoder can write those that map back to it. -/
theorem isNativeOf_candidate_iff {format : StdString} {platform : TransferPlatformFamily}
    {candidate : NativeTransferFormatCandidate} (hlower : lowered format = format)
    (hfiles : format ≠ fdclFileListFormat) (h : candidate ∈ nativeCandidates format platform) :
    isNativeOf format candidate.native = true ↔
      canonicalForNative platform candidate.native.nativeFormatName = format := by
  obtain ⟨hplatform, htoken, hrow⟩ := candidateRow_of_mem h
  rw [hlower] at hrow
  constructor
  · intro hnative
    exact hrow.writable hfiles (@isNativeOf_of_name format candidate.native _ rfl htoken hnative)
  · intro hback
    have hformat : format ≠ [] := fun hnil => hrow.known (hback.trans hnil)
    rw [← hplatform] at hback
    exact isNativeOf_of_mapped hback hformat hfiles

theorem sameNativeFormat_platform {left right : NativeTransferFormat}
    (hsame : sameNativeFormat left right = true) (hleft : left.platform ≠ .unknown)
    (hright : right.platform ≠ .unknown) : left.platform = right.platform := by
  rw [sameNativeFormat] at hsame
  split_ifs at hsame
  rw [beq_false_of_ne hleft, beq_false_of_ne hright, Bool.false_or, Bool.false_or] at hsame
  exact eq_of_beq hsame

theorem canonicalForNative_unknown (nativeName : StdString) :
    canonicalForNative .unknown nativeName = [] := by
  rw [canonicalForNative]
  split_ifs <;> rfl

/-- Two spellings of one native format are mapped to the same. -/
theorem canonicalForNative_of_same {left right : NativeTransferFormat}
    (hsame : sameNativeFormat left right = true)
    (hleft : canonicalForNative left.platform left.nativeFormatName ≠ [])
    (hright : canonicalForNative right.platform right.nativeFormatName ≠ []) :
    canonicalForNative left.platform left.nativeFormatName =
      canonicalForNative right.platform right.nativeFormatName := by
  have hknown {native : NativeTransferFormat}
      (h : canonicalForNative native.platform native.nativeFormatName ≠ []) :
      native.platform ≠ .unknown := fun hunknown => by
    rw [hunknown] at h
    exact h (canonicalForNative_unknown _)
  rw [canonicalForNative, canonicalForNative, sameNativeFormat_platform hsame (hknown hleft)
    (hknown hright), (names_of_same hsame).1]

/-- **What a native format is mapped to is one of the canonical formats**, and of its class. -/
theorem mapped_known {request : TransferFormatMappingRequest}
    (hmapped : (mapNativeToCanonical request).mapped = true) :
    ∃ spec, canonicalTransferFormatSpec (mapNativeToCanonical request).descriptor.canonicalFormat =
        some spec ∧
      spec.formatClass = (mapNativeToCanonical request).formatClass := by
  rw [mapNativeToCanonical] at hmapped ⊢
  split_ifs at hmapped ⊢ with hformat
  obtain ⟨spec, hspec⟩ := Option.isSome_iff_exists.mp (nativeRow_of_mapped hformat).known
  exact ⟨spec, hspec, (classForCanonical_of_spec hspec).symm⟩

/-! ## Copied on one platform, pasted on another -/

end Clipboard
end FusionDesk
