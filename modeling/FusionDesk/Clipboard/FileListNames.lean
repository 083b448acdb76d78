import FusionDesk.Clipboard.FileListPaths
import FusionDesk.General.Segments

/-!
# What the sanitisers make of a name

A name is sanitised where a list is written and again where it is read, so what matters is what the
second time does to the result of the first.

* `sanitizeTransferFileDisplayName_of_safe`: a safe segment stays.
* `sanitizeTransferFileRelativePath_eq`: the loop over the bytes of a path as one over its segments,
  of which those that come out as `unnamed` are left out.
* `sanitizeTransferFileRelativePath_of_safePath`: so a safe path loses its segments of that name.
* `sanitizeTransferFileRelativePath_exact`: what is idempotent, which paths stay, and which two
  come out as one.
-/

namespace FusionDesk
namespace Clipboard

open Protocol Segments

/-- A path of some segments. -/
def joinSegments (segments : List StdString) : StdString :=
  [byteOf '/'].intercalate segments

/-! ## Display names -/

/-- A separator is replaced. -/
def maskSeparator (ch : UInt8) : UInt8 := if isSeparator ch then byteOf '_' else ch

theorem maskSeparator_of_clean {ch : UInt8} (h : isSeparator ch = false) : maskSeparator ch = ch := by
  rw [maskSeparator, h]
  rfl

theorem isPadding_maskSeparator {ch : UInt8} (h : isPadding ch = false) :
    isPadding (maskSeparator ch) = false := by
  rw [maskSeparator]
  split
  · decide
  · exact h

/-- **A name with no padding at its ends only has its separators replaced.** -/
theorem sanitizeTransferFileDisplayName_of_unpadded {name : StdString} (hne : name ≠ [])
    (hfirst : ∀ ch ∈ name.head?, isPadding ch = false)
    (hlast : ∀ ch ∈ name.getLast?, isPadding ch = false) :
    sanitizeTransferFileDisplayName name = name.map maskSeparator := by
  have hmap : (name.map fun ch => if isSeparator ch then byteOf '_' else ch) =
      name.map maskSeparator := rfl
  have hback : (name.map maskSeparator).rdropWhile isPadding = name.map maskSeparator := by
    refine List.rdropWhile_eq_self_iff.mpr fun hmapped => ?_
    rw [List.getLast_map, Bool.not_eq_true]
    exact isPadding_maskSeparator (hlast _ (List.getLast?_eq_some_getLast hne))
  obtain ⟨first, rest, rfl⟩ := List.exists_cons_of_ne_nil hne
  have hfirst' : isPadding (maskSeparator first) = false := isPadding_maskSeparator (hfirst first rfl)
  have hfront : maskLeading ((first :: rest).map maskSeparator) =
      (first :: rest).map maskSeparator := by
    rw [List.map_cons, maskLeading, hfirst']
    rfl
  have hnamed : ∀ other : StdString, (∀ ch ∈ other.head?, isPadding ch = true) →
      (first :: rest).map maskSeparator ≠ other := by
    rintro other hother rfl
    rw [hother _ rfl] at hfirst'
    cases hfirst'
  unfold sanitizeTransferFileDisplayName
  dsimp only
  rw [hmap, hback, hfront, if_neg]
  rintro (hnil | hdot | hdotdot)
  · exact hnamed [] nofun hnil
  · exact hnamed _ (by decide +kernel) hdot
  · exact hnamed _ (by decide +kernel) hdotdot

/-- **A safe segment stays as it is.** -/
theorem sanitizeTransferFileDisplayName_of_safe {name : StdString} (h : SafeSegment name) :
    sanitizeTransferFileDisplayName name = name := by
  rw [sanitizeTransferFileDisplayName_of_unpadded h.nonempty h.first h.last,
    List.map_congr_left fun ch hch => maskSeparator_of_clean (h.clean ch hch), List.map_id']

/-! ## Relative paths -/

/-- Where the loop over a path ends a segment. -/
def isSlash (ch : UInt8) : Bool := decide (ch = byteOf '/' ∨ ch = 0x5c)

/-- What it makes of the other bytes. -/
def maskByte (ch : UInt8) : UInt8 := if ch = byteOf ':' ∨ ch = 0 then byteOf '_' else ch

/-- The segments of a path, whichever slashes it has. -/
def rawSegments (value : StdString) : List StdString :=
  (value.splitOnP isSlash).map (List.map maskByte)

/-- What is left of a segment: its safe name, or nothing. -/
def namedSegment (segment : StdString) : List StdString :=
  if segment = [] ∨ sanitizeTransferFileDisplayName segment = unnamed then []
  else [sanitizeTransferFileDisplayName segment]

theorem mem_namedSegment {segment name : StdString} (h : name ∈ namedSegment segment) :
    SafeSegment name ∧ name ≠ unnamed := by
  rw [namedSegment] at h
  split at h
  · cases h
  next hnamed =>
    obtain rfl := List.mem_singleton.mp h
    exact ⟨safeSegment_sanitizeTransferFileDisplayName segment, fun hname => hnamed (Or.inr hname)⟩

theorem flushSegment_joinSegments {parts : List StdString} (h : ∀ part ∈ parts, part ≠ [])
    (segment : StdString) :
    flushSegment (joinSegments parts) segment = joinSegments (parts ++ namedSegment segment) := by
  have hsafe := safeSegment_sanitizeTransferFileDisplayName segment
  rw [flushSegment, namedSegment]
  by_cases hempty : segment = []
  · rw [if_pos hempty, if_pos (Or.inl hempty), List.append_nil]
  · rw [if_neg hempty]
    by_cases hname : sanitizeTransferFileDisplayName segment = unnamed
    · have hdropped : sanitizeTransferFileDisplayName segment = [] ∨
          sanitizeTransferFileDisplayName segment = bytesOf "unnamed" := Or.inr hname
      rw [if_pos (Or.inr hname), List.append_nil]
      exact if_pos hdropped
    · have hkept : ¬(sanitizeTransferFileDisplayName segment = [] ∨
          sanitizeTransferFileDisplayName segment = bytesOf "unnamed") :=
        not_or.mpr ⟨hsafe.nonempty, hname⟩
      rw [if_neg (not_or.mpr ⟨hempty, hname⟩)]
      refine (if_neg hkept).trans ?_
      by_cases hparts : parts = []
      · subst hparts
        exact (if_pos rfl).trans List.intercalate_singleton.symm
      · have hjoined : joinSegments parts ≠ [] := fun hnil =>
          hparts ((intercalate_eq_nil_iff h).mp hnil)
        rw [if_neg hjoined]
        exact (intercalate_concat _ _ hparts).symm

/-- The segments handed over one after the other. -/
theorem foldl_flushSegment (segments : List StdString) {parts : List StdString}
    (h : ∀ part ∈ parts, part ≠ []) :
    segments.foldl flushSegment (joinSegments parts) =
      joinSegments (parts ++ segments.flatMap namedSegment) := by
  induction segments generalizing parts with
  | nil => rw [List.foldl_nil, List.flatMap_nil, List.append_nil]
  | cons segment segments ih =>
    have hmore : ∀ part ∈ parts ++ namedSegment segment, part ≠ [] := by
      intro part hpart
      rcases List.mem_append.mp hpart with hold | hnew
      · exact h part hold
      · exact (mem_namedSegment hnew).1.nonempty
    rw [List.foldl_cons, flushSegment_joinSegments h, ih hmore, List.flatMap_cons,
      List.append_assoc]

/-- **The path sanitiser, segment by segment.** -/
theorem sanitizeTransferFileRelativePath_eq (value : StdString) :
    sanitizeTransferFileRelativePath value =
      if (rawSegments value).flatMap namedSegment = [] then sanitizeTransferFileDisplayName value
      else joinSegments ((rawSegments value).flatMap namedSegment) := by
  have hstep : (fun (acc : StdString × StdString) ch =>
      if ch = byteOf '/' ∨ ch = 0x5c then (flushSegment acc.1 acc.2, ([] : StdString))
      else if ch = byteOf ':' ∨ ch = 0 then (acc.1, acc.2 ++ [byteOf '_'])
      else (acc.1, acc.2 ++ [ch])) = scan isSlash maskByte flushSegment := by
    funext acc ch
    rw [scan, isSlash, maskByte]
    by_cases hslash : ch = byteOf '/' ∨ ch = 0x5c
    · rw [if_pos hslash, if_pos (decide_eq_true hslash)]
    · rw [if_neg hslash, decide_eq_false hslash, apply_ite fun last => (acc.1, acc.2 ++ [last])]
      rfl
  have hloop := foldl_scan (p := isSlash) maskByte flushSegment value ([], [])
  have hall : (rawSegments value).foldl flushSegment (joinSegments []) =
      joinSegments ([] ++ (rawSegments value).flatMap namedSegment) :=
    foldl_flushSegment (rawSegments value) (List.forall_mem_nil _)
  rw [List.nil_append] at hall
  have hhead : ((value.splitOnP isSlash).map (List.map maskByte)).modifyHead ([] ++ ·) =
      rawSegments value := by
    rw [rawSegments]
    cases (value.splitOnP isSlash).map (List.map maskByte) with
    | nil => rfl
    | cons first rest => rfl
  rw [hhead] at hloop
  have hnil : joinSegments ((rawSegments value).flatMap namedSegment) = [] ↔
      (rawSegments value).flatMap namedSegment = [] := by
    refine intercalate_eq_nil_iff fun name hname => ?_
    obtain ⟨segment, -, hsegment⟩ := List.mem_flatMap.mp hname
    exact (mem_namedSegment hsegment).1.nonempty
  unfold sanitizeTransferFileRelativePath
  rw [hstep]
  dsimp only
  rw [hloop.trans hall]
  by_cases h : (rawSegments value).flatMap namedSegment = []
  · rw [if_pos h, if_pos (hnil.mpr h)]
  · rw [if_neg h, if_neg fun hjoin => h (hnil.mp hjoin)]

/-! ## Safe paths -/

/-- **What is kept of a safe path**: its segments without those that are called `unnamed`.  If all
are, they become one segment. -/
def keptSegments (path : StdString) : List StdString :=
  let named := (segmentsOf path).filter (· ≠ unnamed)
  if named = [] then [[byteOf '_'].intercalate (segmentsOf path)] else named

variable {path segment : StdString}

theorem joinSegments_segmentsOf (path : StdString) : joinSegments (segmentsOf path) = path :=
  List.intercalate_splitOn _

theorem segmentsOf_joinSegments {parts : List StdString} (h : ∀ part ∈ parts, SafeSegment part)
    (hne : parts ≠ []) : segmentsOf (joinSegments parts) = parts :=
  List.splitOn_intercalate _ (fun part hpart => (h part hpart).slash_notMem) hne

theorem SafeSegment.maskByte_eq (h : SafeSegment segment) : segment.map maskByte = segment := by
  rw [List.map_congr_left (g := id) fun ch hch => ?_, List.map_id]
  refine if_neg ?_
  rintro (rfl | rfl)
  · exact absurd (h.clean _ hch) (by decide)
  · exact absurd (h.clean _ hch) (by decide)

theorem SafeSegment.isSlash_eq (h : SafeSegment segment) : ∀ ch ∈ segment, isSlash ch = false := by
  intro ch hch
  refine decide_eq_false ?_
  rintro (rfl | rfl)
  · exact absurd (h.clean _ hch) (by decide)
  · exact absurd (h.clean _ hch) (by decide)

theorem SafeSegment.namedSegment_eq (h : SafeSegment segment) :
    namedSegment segment = if segment = unnamed then [] else [segment] := by
  rw [namedSegment, sanitizeTransferFileDisplayName_of_safe h]
  exact if_congr (or_iff_right h.nonempty) rfl rfl

/-- A safe path is cut at its slashes only. -/
theorem SafePath.rawSegments_eq (h : SafePath path) : rawSegments path = segmentsOf path := by
  have hsplit : path.splitOnP isSlash = segmentsOf path := by
    conv_lhs => rw [← joinSegments_segmentsOf path]
    exact splitOnP_intercalate rfl (fun segment hsegment => (h segment hsegment).isSlash_eq)
      (List.splitOn_ne_nil _ _)
  rw [rawSegments, hsplit, List.map_congr_left (g := id) fun segment hsegment =>
    (h segment hsegment).maskByte_eq, List.map_id]

theorem SafePath.flatMap_namedSegment (h : SafePath path) :
    (rawSegments path).flatMap namedSegment = (segmentsOf path).filter (· ≠ unnamed) := by
  rw [h.rawSegments_eq]
  have hall : ∀ segments : List StdString, (∀ segment ∈ segments, SafeSegment segment) →
      segments.flatMap namedSegment = segments.filter (· ≠ unnamed) := by
    intro segments
    induction segments with
    | nil => exact fun _ => rfl
    | cons segment segments ih =>
      intro hsafe
      rw [List.flatMap_cons, (hsafe segment List.mem_cons_self).namedSegment_eq,
        ih fun other hother => hsafe other (List.mem_cons_of_mem _ hother), List.filter_cons]
      by_cases hname : segment = unnamed
      · simp [hname]
      · simp [hname]
  exact hall _ h

/-- The display name of a path: its segments with underscores between them. -/
theorem SafePath.sanitizeTransferFileDisplayName_eq (h : SafePath path) :
    sanitizeTransferFileDisplayName path = [byteOf '_'].intercalate (segmentsOf path) := by
  have hjoin := joinSegments_segmentsOf path
  have hne : segmentsOf path ≠ [] := List.splitOn_ne_nil _ _
  have hfirst : ∀ ch ∈ path.head?, isPadding ch = false := by
    obtain ⟨first, rest, hsegments⟩ := List.exists_cons_of_ne_nil hne
    have hsafe := h first (hsegments ▸ List.mem_cons_self)
    rw [← hjoin, joinSegments, hsegments, head?_intercalate hsafe.nonempty]
    exact hsafe.first
  have hlast : ∀ ch ∈ path.getLast?, isPadding ch = false := by
    obtain ⟨front, last, hsegments⟩ := (List.eq_nil_or_concat' (segmentsOf path)).resolve_left hne
    have hsafe := h last (hsegments ▸ List.mem_append_right _ (List.mem_singleton_self _))
    rw [← hjoin, joinSegments, hsegments, getLast?_intercalate hsafe.nonempty]
    exact hsafe.last
  have hclean : ∀ segment ∈ segmentsOf path, segment.map maskSeparator = segment := by
    intro segment hsegment
    rw [List.map_congr_left fun ch hch => maskSeparator_of_clean ((h segment hsegment).clean ch hch),
      List.map_id']
  rw [sanitizeTransferFileDisplayName_of_unpadded h.nonempty hfirst hlast]
  conv_lhs => rw [← hjoin]
  rw [joinSegments, map_intercalate, List.map_congr_left (g := id) hclean, List.map_id]
  rfl

/-- **What becomes of a safe path.** -/
theorem sanitizeTransferFileRelativePath_of_safePath (h : SafePath path) :
    sanitizeTransferFileRelativePath path = joinSegments (keptSegments path) := by
  rw [sanitizeTransferFileRelativePath_eq, h.flatMap_namedSegment,
    h.sanitizeTransferFileDisplayName_eq, keptSegments]
  split
  · exact List.intercalate_singleton.symm
  · rfl

theorem SafePath.keptSegments_safe (h : SafePath path) :
    keptSegments path ≠ [] ∧ ∀ segment ∈ keptSegments path, SafeSegment segment := by
  rw [keptSegments]
  split
  · refine ⟨List.cons_ne_nil _ _, fun segment hsegment => ?_⟩
    rw [List.mem_singleton.mp hsegment, ← h.sanitizeTransferFileDisplayName_eq]
    exact safeSegment_sanitizeTransferFileDisplayName path
  next hnamed =>
    exact ⟨hnamed, fun segment hsegment => h segment (List.mem_filter.mp hsegment).1⟩

/-- The segments of the result. -/
theorem segmentsOf_sanitizeTransferFileRelativePath (h : SafePath path) :
    segmentsOf (sanitizeTransferFileRelativePath path) = keptSegments path := by
  rw [sanitizeTransferFileRelativePath_of_safePath h]
  exact segmentsOf_joinSegments h.keptSegments_safe.2 h.keptSegments_safe.1

/-! ## What stays, and what comes out as one -/

/-- **A path that is kept as it is**: none of its segments is called `unnamed`, or the whole path
is. -/
def KeepsSegments (path : StdString) : Prop :=
  path = unnamed ∨ ∀ segment ∈ segmentsOf path, segment ≠ unnamed

theorem keptSegments_eq_iff : keptSegments path = segmentsOf path ↔ KeepsSegments path := by
  have hjoin := joinSegments_segmentsOf path
  have hne : segmentsOf path ≠ [] := List.splitOn_ne_nil _ _
  by_cases hnamed : (segmentsOf path).filter (· ≠ unnamed) = []
  · have hall : ∀ segment ∈ segmentsOf path, segment = unnamed := by
      intro segment hsegment
      have := List.filter_eq_nil_iff.mp hnamed segment hsegment
      simpa using this
    have hkept : keptSegments path = [[byteOf '_'].intercalate (segmentsOf path)] := if_pos hnamed
    rw [hkept]
    constructor
    · intro heq
      -- there is one segment only, and it is the path
      rw [← heq] at hall hjoin
      have hone := hall _ (List.mem_singleton_self _)
      rw [joinSegments, List.intercalate_singleton] at hjoin
      exact Or.inl (hjoin ▸ hone)
    · rintro (rfl | hother)
      · rw [safeSegment_unnamed.segmentsOf_eq, List.intercalate_singleton]
      · obtain ⟨segment, rest, hsegments⟩ := List.exists_cons_of_ne_nil hne
        have hmem : segment ∈ segmentsOf path := hsegments ▸ List.mem_cons_self
        exact absurd (hall segment hmem) (hother segment hmem)
  · have hkept : keptSegments path = (segmentsOf path).filter (· ≠ unnamed) := if_neg hnamed
    rw [hkept, List.filter_eq_self, KeepsSegments]
    simp only [decide_eq_true_eq]
    refine (or_iff_right ?_).symm
    rintro rfl
    rw [safeSegment_unnamed.segmentsOf_eq] at hnamed
    exact hnamed (by decide)

theorem sanitizeTransferFileRelativePath_eq_self_iff (h : SafePath path) :
    sanitizeTransferFileRelativePath path = path ↔ KeepsSegments path := by
  rw [← keptSegments_eq_iff, ← segmentsOf_sanitizeTransferFileRelativePath h]
  constructor
  · intro heq
    rw [heq]
  · intro heq
    rw [← joinSegments_segmentsOf (sanitizeTransferFileRelativePath path), heq,
      joinSegments_segmentsOf]

/-- What comes out of the sanitiser is kept by it. -/
theorem keepsSegments_sanitizeTransferFileRelativePath (value : StdString) :
    KeepsSegments (sanitizeTransferFileRelativePath value) := by
  rw [sanitizeTransferFileRelativePath_eq]
  split
  · have hsafe := safeSegment_sanitizeTransferFileDisplayName value
    by_cases hname : sanitizeTransferFileDisplayName value = unnamed
    · exact Or.inl hname
    · refine Or.inr fun segment hsegment => ?_
      rw [hsafe.segmentsOf_eq] at hsegment
      exact List.mem_singleton.mp hsegment ▸ hname
  next hparts =>
    have hmem : ∀ part ∈ (rawSegments value).flatMap namedSegment,
        SafeSegment part ∧ part ≠ unnamed := by
      intro part hpart
      obtain ⟨segment, -, hsegment⟩ := List.mem_flatMap.mp hpart
      exact mem_namedSegment hsegment
    rw [KeepsSegments, segmentsOf_joinSegments (fun part hpart => (hmem part hpart).1) hparts]
    exact Or.inr fun segment hsegment => (hmem segment hsegment).2

/-- **Sanitising a path again changes nothing.** -/
theorem sanitizeTransferFileRelativePath_idempotent (value : StdString) :
    sanitizeTransferFileRelativePath (sanitizeTransferFileRelativePath value) =
      sanitizeTransferFileRelativePath value :=
  (sanitizeTransferFileRelativePath_eq_self_iff
    (safePath_sanitizeTransferFileRelativePath value)).mpr
    (keepsSegments_sanitizeTransferFileRelativePath value)

/-- **What the path sanitiser keeps**: it is idempotent; a safe path stays exactly when no segment
is called `unnamed`, unless that is the whole path; and two safe paths come out as one exactly when
the same is left of them without these segments. -/
theorem sanitizeTransferFileRelativePath_exact (value path other : StdString) :
    sanitizeTransferFileRelativePath (sanitizeTransferFileRelativePath value) =
      sanitizeTransferFileRelativePath value ∧
    (SafePath path → (sanitizeTransferFileRelativePath path = path ↔ KeepsSegments path)) ∧
    (SafePath path → SafePath other →
      (sanitizeTransferFileRelativePath path = sanitizeTransferFileRelativePath other ↔
        keptSegments path = keptSegments other)) := by
  refine ⟨sanitizeTransferFileRelativePath_idempotent value,
    fun h => sanitizeTransferFileRelativePath_eq_self_iff h, fun h hother => ?_⟩
  constructor
  · intro heq
    rw [← segmentsOf_sanitizeTransferFileRelativePath h, heq,
      segmentsOf_sanitizeTransferFileRelativePath hother]
  · intro heq
    rw [sanitizeTransferFileRelativePath_of_safePath h, heq,
      sanitizeTransferFileRelativePath_of_safePath hother]

/-- A file in a directory that is called `unnamed`. -/
def unnamedDirectoryPath : StdString := bytesOf "a/unnamed/b"

/-- It comes out as the file of that name one directory up. -/
theorem unnamedDirectoryPath_merged :
    SafePath unnamedDirectoryPath ∧ SafePath (bytesOf "a/b") ∧
      unnamedDirectoryPath ≠ bytesOf "a/b" ∧
      sanitizeTransferFileRelativePath unnamedDirectoryPath ≠ unnamedDirectoryPath ∧
      sanitizeTransferFileRelativePath unnamedDirectoryPath =
        sanitizeTransferFileRelativePath (bytesOf "a/b") := by
  have ha : SafeSegment (bytesOf "a") :=
    ⟨by decide, by decide +kernel, by decide +kernel, by decide +kernel⟩
  have hb : SafeSegment (bytesOf "b") :=
    ⟨by decide, by decide +kernel, by decide +kernel, by decide +kernel⟩
  have hlong : segmentsOf unnamedDirectoryPath = [bytesOf "a", unnamed, bytesOf "b"] := by decide
  have hshort : segmentsOf (bytesOf "a/b") = [bytesOf "a", bytesOf "b"] := by decide
  refine ⟨?_, ?_, by decide, by decide, by decide⟩
  · rw [SafePath, hlong]
    simp only [List.forall_mem_cons]
    exact ⟨ha, safeSegment_unnamed, hb, nofun⟩
  · rw [SafePath, hshort]
    simp only [List.forall_mem_cons]
    exact ⟨ha, hb, nofun⟩

end Clipboard
end FusionDesk
