import FusionDesk.Clipboard.FileList

/-!
# The paths of a file list

Whatever the bytes of a peer are, a decoded list has names that stay in their directory: a display
name is one safe segment, and a relative path is made of safe segments with single slashes between
them.  So a path that is joined to a directory resolves to something below it.

* `safeSegment_sanitizeTransferFileDisplayName`: one segment.
* `safePath_sanitizeTransferFileRelativePath`: a path, segment by segment.
* `decodeTransferFileList_safe`: a list that is decoded.
-/

namespace FusionDesk
namespace Clipboard

open Protocol ByteReader

/-! ## Safe names -/

/-- A name that can stand between two slashes and means nothing but itself. -/
structure SafeSegment (name : StdString) : Prop where
  nonempty : name ≠ []
  clean : ∀ ch ∈ name, isSeparator ch = false
  first : ∀ ch ∈ name.head?, isPadding ch = false
  last : ∀ ch ∈ name.getLast?, isPadding ch = false

/-- The segments of a path. -/
def segmentsOf (path : StdString) : List StdString := path.splitOn (byteOf '/')

def SafePath (path : StdString) : Prop := ∀ segment ∈ segmentsOf path, SafeSegment segment

namespace SafeSegment

variable {name : StdString}

theorem ne_dot (h : SafeSegment name) : name ≠ bytesOf "." := by
  rintro rfl
  exact absurd (h.first (byteOf '.') rfl) (by decide)

theorem ne_dotdot (h : SafeSegment name) : name ≠ bytesOf ".." := by
  rintro rfl
  exact absurd (h.first (byteOf '.') rfl) (by decide)

theorem slash_notMem (h : SafeSegment name) : byteOf '/' ∉ name := fun hmem =>
  absurd (h.clean _ hmem) (by decide)

/-- It is a path of one segment. -/
theorem segmentsOf_eq (h : SafeSegment name) : segmentsOf name = [name] :=
  List.splitOn_eq_singleton h.slash_notMem

theorem safePath (h : SafeSegment name) : SafePath name := by
  intro segment hsegment
  rw [h.segmentsOf_eq] at hsegment
  exact List.mem_singleton.mp hsegment ▸ h

end SafeSegment

theorem SafePath.nonempty {path : StdString} (h : SafePath path) : path ≠ [] := by
  rintro rfl
  exact (h [] (List.mem_singleton_self _)).nonempty rfl

/-! ### Display names -/

theorem maskLeading_eq_nil {name : StdString} (h : maskLeading name = []) : name = [] := by
  cases name with
  | nil => rfl
  | cons ch rest =>
    unfold maskLeading at h
    split at h <;> cases h

/-- A mask is put on, or the name has the byte. -/
theorem mem_maskLeading {name : StdString} {ch : UInt8} (h : ch ∈ maskLeading name) :
    ch = byteOf '_' ∨ ch ∈ name := by
  induction name with
  | nil => exact Or.inr h
  | cons first rest ih =>
    unfold maskLeading at h
    split at h
    · rcases List.mem_cons.mp h with hmask | hrest
      · exact Or.inl hmask
      · exact (ih hrest).imp_right (List.mem_cons_of_mem _)
    · exact Or.inr h

theorem head_maskLeading {name : StdString} {ch : UInt8} (h : ch ∈ (maskLeading name).head?) :
    isPadding ch = false := by
  cases name with
  | nil => cases h
  | cons first rest =>
    unfold maskLeading at h
    split at h
    · cases h
      decide
    next hfirst =>
      cases h
      exact Bool.eq_false_iff.mpr hfirst

/-- The last byte is not masked, unless all are. -/
theorem last_maskLeading {name : StdString}
    (hlast : ∀ ch ∈ name.getLast?, isPadding ch = false) {ch : UInt8}
    (h : ch ∈ (maskLeading name).getLast?) : isPadding ch = false := by
  induction name with
  | nil => cases h
  | cons first rest ih =>
    unfold maskLeading at h
    split at h
    next hfirst =>
      cases rest with
      | nil =>
        cases h
        decide
      | cons second rest =>
        have hne : maskLeading (second :: rest) ≠ [] := fun hnil =>
          absurd (maskLeading_eq_nil hnil) (List.cons_ne_nil _ _)
        rw [Option.mem_def, List.getLast?_cons_of_ne_nil hne] at h
        refine ih (fun ch hch => hlast ch ?_) h
        rwa [Option.mem_def, List.getLast?_cons_cons]
    · exact hlast ch h

/-- What a segment is called that has no name of its own. -/
def unnamed : StdString := bytesOf "unnamed"

theorem safeSegment_unnamed : SafeSegment unnamed :=
  ⟨by decide, by decide +kernel, by decide +kernel, by decide +kernel⟩

/-- **The display name that a list gets is a safe segment.** -/
theorem safeSegment_sanitizeTransferFileDisplayName (value : StdString) :
    SafeSegment (sanitizeTransferFileDisplayName value) := by
  unfold sanitizeTransferFileDisplayName
  generalize hclean : (value.map fun ch => if isSeparator ch then byteOf '_' else ch) = cleaned
  have hcleaned : ∀ ch ∈ cleaned, isSeparator ch = false := by
    intro ch hch
    rw [← hclean] at hch
    obtain ⟨old, -, rfl⟩ := List.mem_map.mp hch
    split
    · decide
    next hold => exact Bool.eq_false_iff.mpr hold
  have hlast : ∀ ch ∈ (cleaned.rdropWhile isPadding).getLast?, isPadding ch = false := by
    intro ch hch
    obtain ⟨hne, rfl⟩ := List.mem_getLast?_eq_getLast hch
    exact Bool.eq_false_iff.mpr (List.rdropWhile_last_not isPadding cleaned hne)
  dsimp only
  split
  · exact safeSegment_unnamed
  next hnamed =>
  push Not at hnamed
  refine ⟨hnamed.1, fun ch hch => ?_, fun ch hch => head_maskLeading hch,
    fun ch hch => last_maskLeading hlast hch⟩
  rcases mem_maskLeading hch with rfl | hold
  · decide
  · exact hcleaned ch ((List.rdropWhile_prefix isPadding cleaned).subset hold)

/-! ### Relative paths -/

/-- A path that is begun. -/
theorem flushSegment_safe {result : StdString} (h : result = [] ∨ SafePath result)
    (segment : StdString) : flushSegment result segment = [] ∨
      SafePath (flushSegment result segment) := by
  have hsafe := safeSegment_sanitizeTransferFileDisplayName segment
  unfold flushSegment
  split
  · exact h
  dsimp only
  split
  · exact h
  split
  · exact Or.inr hsafe.safePath
  next hresult =>
  refine Or.inr fun part hpart => ?_
  rw [segmentsOf, List.append_assoc, List.singleton_append, List.splitOn_append_cons_self] at hpart
  rcases List.mem_append.mp hpart with hold | hnew
  · exact h.resolve_left hresult part hold
  · exact hsafe.safePath part hnew

/-- **A relative path is made of safe segments.** -/
theorem safePath_sanitizeTransferFileRelativePath (value : StdString) :
    SafePath (sanitizeTransferFileRelativePath value) := by
  unfold sanitizeTransferFileRelativePath
  generalize hstep : (fun (acc : StdString × StdString) ch =>
    if ch = byteOf '/' ∨ ch = 0x5c then (flushSegment acc.1 acc.2, ([] : StdString))
    else if ch = byteOf ':' ∨ ch = 0 then (acc.1, acc.2 ++ [byteOf '_'])
    else (acc.1, acc.2 ++ [ch])) = step
  -- the path so far is safe, if there is any
  have hloop : ∀ (rest : StdString) (acc : StdString × StdString),
      (acc.1 = [] ∨ SafePath acc.1) →
        (rest.foldl step acc).1 = [] ∨ SafePath (rest.foldl step acc).1 := by
    intro rest
    induction rest with
    | nil => exact fun acc h => h
    | cons ch rest ih =>
      intro acc h
      refine ih (step acc ch) ?_
      rw [← hstep]
      dsimp only
      split
      · exact flushSegment_safe h acc.2
      · split
        · exact h
        · exact h
  have hlast := flushSegment_safe (hloop value ([], []) (Or.inl rfl)) (value.foldl step ([], [])).2
  dsimp only
  split
  · exact (safeSegment_sanitizeTransferFileDisplayName value).safePath
  next hresult => exact hlast.resolve_left hresult

/-! ## Lists that are decoded -/

/-- An entry whose names are safe. -/
structure SafeNames (file : TransferFileDescriptor) : Prop where
  displayName : SafeSegment file.displayName
  relativePath : SafePath file.relativePath

open Reader

/-- **An entry that is read has safe names.** -/
theorem yields_readFileEntry (minor : UInt16) (maxNameBytes : ℕ) :
    Yields (readFileEntry minor maxNameBytes) SafeNames := by
  refine Yields.bind (P := fun file => SafeSegment file.displayName) (Yields.named <|
    Yields.bind' fun _ => Yields.bind' fun _ => Yields.bind' fun _ => Yields.bind' fun _ =>
    Yields.bind' fun name =>
    Yields.pure (safeSegment_sanitizeTransferFileDisplayName name)) fun file hname => ?_
  -- an entry without a path of its own has its display name
  have hpath : ∀ path, path = [] ∨ SafePath path → SafeNames { file with
      relativePath := if path = [] ∨ path = bytesOf "unnamed" then file.displayName else path } := by
    intro path hpath
    refine ⟨hname, ?_⟩
    show SafePath (if path = [] ∨ path = bytesOf "unnamed" then file.displayName else path)
    split
    · exact hname.safePath
    next hown => exact hpath.resolve_left fun hempty => hown (Or.inl hempty)
  refine Yields.ite (Yields.bind (P := SafePath) ?_ fun path h => Yields.pure (hpath path (Or.inr h)))
    (Yields.pure (hpath [] (Or.inl rfl)))
  exact Yields.named (Yields.bind' fun path =>
    Yields.pure (safePath_sanitizeTransferFileRelativePath path))

/-- **A list that is read has no more files than it may have**, and each is one that was read. -/
theorem yields_readFileList {P : TransferFileDescriptor → Prop} {maxNameBytes : ℕ}
    (h : ∀ minor, Yields (readFileEntry minor maxNameBytes) P) (maxFiles : ℕ) :
    Yields (readFileList maxFiles maxNameBytes) fun list =>
      list.files.length ≤ min maxFiles (2 ^ 32 - 1) ∧ ∀ file ∈ list.files, P file := by
  refine Yields.bind' fun header => Yields.refuseIf_bind fun _ => Yields.refuseIf_bind fun hcount =>
    Yields.bind (Yields.times (h header.2.1) header.2.2.toNat) fun files hfiles =>
    Yields.bind' fun _ => Yields.pure ⟨?_, hfiles.2⟩
  have hlt := header.2.2.toNat_lt
  rw [hfiles.1]
  omega

theorem yields_decodeTransferFileList {P : TransferFileList → Prop} {maxFiles maxNameBytes : ℕ}
    (h : Yields (readFileList maxFiles maxNameBytes) P) {bytes : ByteBuffer}
    (hok : (decodeTransferFileList bytes maxFiles maxNameBytes).ok = true) :
    P (decodeTransferFileList bytes maxFiles maxNameBytes).fileList := by
  unfold decodeTransferFileList at hok ⊢
  split at hok
  · cases hok
  next hmagic =>
  rw [if_neg hmagic]
  cases hread : (readFileList maxFiles maxNameBytes).outcome bytes with
  | error e =>
    rw [hread] at hok
    cases hok
  | ok read =>
    obtain ⟨list, next⟩ := read
    exact h bytes 0 list next (outcome_eq_iff.mp hread)

/-! ## Below a directory -/

/-- The directory that a segment leads to. -/
def enterSegment (directory : List StdString) (segment : StdString) : List StdString :=
  if segment = [] ∨ segment = bytesOf "." then directory
  else if segment = bytesOf ".." then directory.dropLast
  else directory ++ [segment]

/-- What a path comes to that is joined to a directory. -/
def resolvePath (root : List StdString) (path : StdString) : List StdString :=
  (segmentsOf path).foldl enterSegment root

theorem foldl_enterSegment {segments : List StdString}
    (h : ∀ segment ∈ segments, SafeSegment segment) (root : List StdString) :
    segments.foldl enterSegment root = root ++ segments := by
  induction segments generalizing root with
  | nil => rw [List.foldl_nil, List.append_nil]
  | cons segment segments ih =>
    have hsegment := h segment List.mem_cons_self
    have henter : enterSegment root segment = root ++ [segment] := by
      rw [enterSegment, if_neg (not_or.mpr ⟨hsegment.nonempty, hsegment.ne_dot⟩),
        if_neg hsegment.ne_dotdot]
    rw [List.foldl_cons, henter, ih fun other hother => h other (List.mem_cons_of_mem _ hother),
      List.append_assoc]
    rfl

/-- **A safe path goes down from the directory, segment by segment.** -/
theorem resolvePath_eq {path : StdString} (h : SafePath path) (root : List StdString) :
    resolvePath root path = root ++ segmentsOf path :=
  foldl_enterSegment h root

/-- Nor does any part of it leave the directory. -/
theorem prefix_foldl_enterSegment {path : StdString} (h : SafePath path) (root : List StdString)
    (count : ℕ) : root <+: ((segmentsOf path).take count).foldl enterSegment root := by
  rw [foldl_enterSegment (fun segment hsegment => h segment (List.mem_of_mem_take hsegment)) root]
  exact List.prefix_append _ _

/-- What a name is asked for that is shown. -/
structure SafeDisplayName (name : StdString) : Prop where
  nonempty : name ≠ []
  clean : ∀ ch ∈ name, ch ≠ byteOf '/' ∧ ch ≠ 0x5c ∧ ch ≠ byteOf ':' ∧ ch ≠ 0

/-- What a path is asked for: its segments, and where it leads from any directory. -/
structure SafeRelativePath (path : StdString) : Prop where
  segments : ∃ segments : List StdString, segments ≠ [] ∧
    path = [byteOf '/'].intercalate segments ∧ ∀ segment ∈ segments,
      SafeDisplayName segment ∧ segment ≠ bytesOf "." ∧ segment ≠ bytesOf ".." ∧
        (∀ ch ∈ segment.head?, ch ≠ byteOf '.' ∧ ch ≠ byteOf ' ') ∧
        ∀ ch ∈ segment.getLast?, ch ≠ byteOf '.' ∧ ch ≠ byteOf ' '
  below : ∀ root, ∃ inside, inside ≠ [] ∧ resolvePath root path = root ++ inside
  within : ∀ root count, root <+: ((segmentsOf path).take count).foldl enterSegment root

theorem ne_of_not_isPadding {ch : UInt8} (h : isPadding ch = false) :
    ch ≠ byteOf '.' ∧ ch ≠ byteOf ' ' := by
  constructor
  · rintro rfl
    exact absurd h (by decide)
  · rintro rfl
    exact absurd h (by decide)

theorem SafeSegment.safeDisplayName {name : StdString} (h : SafeSegment name) :
    SafeDisplayName name := by
  refine ⟨h.nonempty, fun ch hch => ?_⟩
  have hclean := h.clean ch hch
  refine ⟨?_, ?_, ?_, ?_⟩
  · rintro rfl
    exact absurd hclean (by decide)
  · rintro rfl
    exact absurd hclean (by decide)
  · rintro rfl
    exact absurd hclean (by decide)
  · rintro rfl
    exact absurd hclean (by decide)

theorem SafePath.safeRelativePath {path : StdString} (h : SafePath path) :
    SafeRelativePath path where
  segments := by
    refine ⟨segmentsOf path, List.splitOn_ne_nil _ _, (List.intercalate_splitOn _).symm,
      fun segment hsegment => ?_⟩
    have hsafe := h segment hsegment
    exact ⟨hsafe.safeDisplayName, hsafe.ne_dot, hsafe.ne_dotdot,
      fun ch hch => ne_of_not_isPadding (hsafe.first ch hch),
      fun ch hch => ne_of_not_isPadding (hsafe.last ch hch)⟩
  below root := ⟨segmentsOf path, List.splitOn_ne_nil _ _, resolvePath_eq h root⟩
  within root count := prefix_foldl_enterSegment h root count

/-- **Every name and every path of a list that is decoded is safe**, whatever its bytes are. -/
theorem decodeTransferFileList_safe (bytes : ByteBuffer) (maxFiles maxNameBytes : ℕ)
    (hok : (decodeTransferFileList bytes maxFiles maxNameBytes).ok = true) :
    ∀ file ∈ (decodeTransferFileList bytes maxFiles maxNameBytes).fileList.files,
      SafeDisplayName file.displayName ∧ SafeRelativePath file.relativePath := by
  intro file hfile
  have hlist := yields_decodeTransferFileList (yields_readFileList
    (fun minor => yields_readFileEntry minor maxNameBytes) maxFiles) hok
  have hnames := hlist.2 file hfile
  exact ⟨hnames.displayName.safeDisplayName, hnames.relativePath.safeRelativePath⟩

/-- A list of one file, of the name `..` and the path `../a`. -/
def climbingList : ByteBuffer :=
  bytesOf "FDFL" ++ [1, 0, 1, 0, 1, 0, 0, 0] ++ List.replicate 25 0 ++ [2, 0] ++ bytesOf ".." ++
    [4, 0] ++ bytesOf "../a"

theorem climbingList_safe :
    let decoded := decodeTransferFileList climbingList defaultMaxFiles defaultMaxNameBytes
    (decoded.fileList.files.map fun file => (file.displayName, file.relativePath)) =
        [(bytesOf "unnamed", bytesOf "a")] ∧
      ∀ file ∈ decoded.fileList.files,
        SafeDisplayName file.displayName ∧ SafeRelativePath file.relativePath :=
  ⟨by decide, decodeTransferFileList_safe climbingList defaultMaxFiles defaultMaxNameBytes
    (by decide)⟩

end Clipboard
end FusionDesk
