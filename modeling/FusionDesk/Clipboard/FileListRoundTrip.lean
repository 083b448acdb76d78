import FusionDesk.Clipboard.FileListNames
import FusionDesk.General.LittleEndian
import FusionDesk.Protocol.ByteIO

/-!
# File lists there and back

What `decodeTransferFileList` makes of what `encodeTransferFileList` has written.  Both ends make the
names safe, so a list comes back with its names normalised, and a list that has come back once comes
back unchanged.

* `normalized`: an entry with the names it gets.
* `WithinBounds`: a list whose names are short enough, once they are normalised.
* `decode_encodeTransferFileList`: such a list comes back normalised.
* `transferFileList_roundTrip`: with what is decoded from any bytes.
-/

namespace FusionDesk
namespace Clipboard

open Protocol ByteReader LittleEndian Segments

/-! ## Fields -/

namespace BinaryWriter

variable (output : ByteBuffer)

theorem appendU16_eq (value : UInt16) : appendU16 output value = output ++ leBytes 2 value.toNat := by
  have h0 : (value &&& 0xff).toUInt8 = UInt8.ofNat (value.toNat / 256 ^ 0) := by
    simpa using shiftByte16 value 0 (by decide)
  have h1 : ((value >>> 8) &&& 0xff).toUInt8 = UInt8.ofNat (value.toNat / 256 ^ 1) :=
    shiftByte16 value 8 (by decide)
  rw [appendU16, h0, h1, List.append_assoc]
  rfl

theorem appendU32_eq (value : UInt32) : appendU32 output value = output ++ leBytes 4 value.toNat := by
  have hbyte : ∀ i, i < 4 → ((value >>> UInt32.ofNat (i * 8)) &&& 0xff).toUInt8 =
      UInt8.ofNat (value.toNat / 256 ^ i) := by
    intro i hi
    have hshift : (UInt32.ofNat (i * 8)).toNat = i * 8 := by
      rw [UInt32.toNat_ofNat', Nat.mod_eq_of_lt (by omega)]
    rw [shiftByte32 _ _ (by rw [hshift]; omega), hshift, Nat.mul_comm, pow_mul]
    rfl
  have hrange : List.range 4 = [0, 1, 2, 3] := rfl
  rw [appendU32, hrange]
  simp only [List.foldl_cons, List.foldl_nil, List.append_assoc, List.singleton_append]
  rw [hbyte 0 (by omega), hbyte 1 (by omega), hbyte 2 (by omega), hbyte 3 (by omega)]
  rfl

theorem appendU64_eq (value : UInt64) : appendU64 output value = output ++ leBytes 8 value.toNat := by
  have hbyte : ∀ i, i < 8 → ((value >>> UInt64.ofNat (i * 8)) &&& 0xff).toUInt8 =
      UInt8.ofNat (value.toNat / 256 ^ i) := by
    intro i hi
    have hshift : (UInt64.ofNat (i * 8)).toNat = i * 8 := by
      rw [UInt64.toNat_ofNat', Nat.mod_eq_of_lt (by omega)]
    rw [shiftByte64 _ _ (by rw [hshift]; omega), hshift, Nat.mul_comm, pow_mul]
    rfl
  have hrange : List.range 8 = [0, 1, 2, 3, 4, 5, 6, 7] := rfl
  rw [appendU64, hrange]
  simp only [List.foldl_cons, List.foldl_nil, List.append_assoc, List.singleton_append]
  rw [hbyte 0 (by omega), hbyte 1 (by omega), hbyte 2 (by omega), hbyte 3 (by omega),
    hbyte 4 (by omega), hbyte 5 (by omega), hbyte 6 (by omega), hbyte 7 (by omega)]
  rfl

/-- A name that is not cut off. -/
def nameBytes (name : StdString) : ByteBuffer := leBytes 2 name.length ++ name

theorem appendName_eq {name : StdString} (h : name.length ≤ 65535) :
    appendName output name = output ++ nameBytes name := by
  rw [appendName, Nat.min_eq_left h, appendU16_eq, UInt16.toNat_ofNat_of_lt' (Nat.lt_succ_of_le h),
    List.take_length, List.append_assoc, nameBytes]

end BinaryWriter

namespace BinaryReader

open Reader

variable (rest : ByteBuffer)

/-- Where a number has been written, it is read. -/
theorem littleEndian_leBytes (before : ByteBuffer) {w n : ℕ} (h : n < 256 ^ w) :
    littleEndian (before ++ (leBytes w n ++ rest)) before.length w = some n := by
  have hfits : before.length + w ≤ (before ++ (leBytes w n ++ rest)).length := by
    rw [List.length_append, List.length_append, length_leBytes]
    omega
  rw [littleEndian, range, if_pos hfits, BigEndian.slice_append_right le_rfl, Nat.sub_self,
    BigEndian.slice_append_left (length_leBytes w n), Option.map_some]
  exact congrArg some (leNat_leBytes_of_lt h)

theorem reads_u8 (value : UInt8) : Reads readU8 value [value] rest := by
  refine Reads.checked rfl fun before => ?_
  rw [List.getElem?_append_right le_rfl, Nat.sub_self]
  rfl

theorem reads_u16 (value : UInt16) : Reads readU16 value (leBytes 2 value.toNat) rest := by
  refine Reads.checked (length_leBytes _ _) fun before => ?_
  rw [littleEndian_leBytes rest before value.toNat_lt, Option.map_some, UInt16.ofNat_toNat]

theorem reads_u32 (value : UInt32) : Reads readU32 value (leBytes 4 value.toNat) rest := by
  refine Reads.checked (length_leBytes _ _) fun before => ?_
  rw [littleEndian_leBytes rest before value.toNat_lt, Option.map_some, UInt32.ofNat_toNat]

theorem reads_u64 (value : UInt64) : Reads readU64 value (leBytes 8 value.toNat) rest := by
  refine Reads.checked (length_leBytes _ _) fun before => ?_
  rw [littleEndian_leBytes rest before value.toNat_lt, Option.map_some, UInt64.ofNat_toNat]

/-- **A name is read back if it is short enough** for its length and for the reader. -/
theorem reads_string {name : StdString} {maxBytes : ℕ} (h : name.length ≤ min maxBytes 65535) :
    Reads (readString maxBytes) name (BinaryWriter.nameBytes name) rest := by
  have hlength : (UInt16.ofNat name.length).toNat = name.length :=
    UInt16.toNat_ofNat_of_lt' (Nat.lt_succ_of_le (h.trans (Nat.min_le_right _ _)))
  have hread := reads_u16 (name ++ rest) (UInt16.ofNat name.length)
  rw [hlength] at hread
  refine hread.bind (Reads.bind_refuseIf (by omega) ?_)
  exact Reads.bytes hlength.symm

end BinaryReader

/-! ## Entries -/

/-- **An entry with the names it gets**: a safe display name, and a safe path, which is the display
name if it comes out as unnamed. -/
def normalized (file : TransferFileDescriptor) : TransferFileDescriptor :=
  { file with displayName := (writtenNames file).1, relativePath := (writtenNames file).2 }

/-- **An entry whose names are short enough.** -/
structure NamesWithin (maxNameBytes : ℕ) (file : TransferFileDescriptor) : Prop where
  displayName : (normalized file).displayName.length ≤ min maxNameBytes 65535
  relativePath : (normalized file).relativePath.length ≤ min (maxNameBytes * 8 % 2 ^ 64) 65535

theorem keepsSegments_of_safe {name : StdString} (h : SafeSegment name) : KeepsSegments name := by
  by_cases hname : name = unnamed
  · exact Or.inl hname
  · refine Or.inr fun segment hsegment => ?_
    rw [h.segmentsOf_eq] at hsegment
    exact List.mem_singleton.mp hsegment ▸ hname

/-- The names that are written are left as they are by the end that reads them. -/
theorem writtenNames_spec (file : TransferFileDescriptor) :
    sanitizeTransferFileDisplayName (writtenNames file).1 = (writtenNames file).1 ∧
      (if sanitizeTransferFileRelativePath (writtenNames file).2 = [] ∨
          sanitizeTransferFileRelativePath (writtenNames file).2 = bytesOf "unnamed"
        then (writtenNames file).1
        else sanitizeTransferFileRelativePath (writtenNames file).2) = (writtenNames file).2 := by
  have hsafe := safeSegment_sanitizeTransferFileDisplayName file.displayName
  refine ⟨sanitizeTransferFileDisplayName_of_safe hsafe, ?_⟩
  by_cases hpath : sanitizeTransferFileRelativePath file.relativePath = [] ∨
      sanitizeTransferFileRelativePath file.relativePath = bytesOf "unnamed"
  · have hwritten : (writtenNames file).2 = (writtenNames file).1 := if_pos hpath
    have hkept : sanitizeTransferFileRelativePath (writtenNames file).1 = (writtenNames file).1 :=
      (sanitizeTransferFileRelativePath_eq_self_iff hsafe.safePath).mpr
        (keepsSegments_of_safe hsafe)
    rw [hwritten, hkept, ite_self]
  · have hwritten : (writtenNames file).2 = sanitizeTransferFileRelativePath file.relativePath :=
      if_neg hpath
    rw [hwritten, sanitizeTransferFileRelativePath_idempotent]
    exact if_neg hpath

theorem writtenNames_normalized (file : TransferFileDescriptor) :
    writtenNames (normalized file) = writtenNames file := by
  obtain ⟨hdisplay, hpath⟩ := writtenNames_spec file
  have hdisplay' : sanitizeTransferFileDisplayName (normalized file).displayName =
      (writtenNames file).1 := hdisplay
  refine Prod.ext hdisplay ?_
  rw [← hpath, writtenNames]
  dsimp only
  rw [hdisplay']
  rfl

/-- Normalising an entry again changes nothing. -/
theorem normalized_idempotent (file : TransferFileDescriptor) :
    normalized (normalized file) = normalized file := by
  rw [normalized, writtenNames_normalized]
  rfl

theorem NamesWithin.normalized {maxNameBytes : ℕ} {file : TransferFileDescriptor}
    (h : NamesWithin maxNameBytes file) : NamesWithin maxNameBytes (normalized file) := by
  obtain ⟨hdisplay, hpath⟩ := h
  rw [← normalized_idempotent] at hdisplay hpath
  exact ⟨hdisplay, hpath⟩

/-- A flag, as it is written. -/
def directoryByte (file : TransferFileDescriptor) : UInt8 := if file.directory then 1 else 0

/-- The bytes of an entry. -/
def fileBytes (file : TransferFileDescriptor) : ByteBuffer :=
  leBytes 8 file.objectId.toNat ++ (leBytes 8 file.sizeBytes.toNat ++
    (leBytes 8 file.lastModifiedUnixUsec.toNat ++ ([directoryByte file] ++
      BinaryWriter.nameBytes (writtenNames file).1))) ++
    BinaryWriter.nameBytes (writtenNames file).2

theorem fileBytes_normalized (file : TransferFileDescriptor) :
    fileBytes (normalized file) = fileBytes file := by
  rw [fileBytes, writtenNames_normalized]
  rfl

variable {maxFiles maxNameBytes : ℕ} {file : TransferFileDescriptor}

theorem appendFile_eq (h : NamesWithin maxNameBytes file) (output : ByteBuffer) :
    appendFile output file = output ++ fileBytes file := by
  have hdisplay : (writtenNames file).1.length ≤ 65535 := h.displayName.trans (Nat.min_le_right _ _)
  have hpath : (writtenNames file).2.length ≤ 65535 := h.relativePath.trans (Nat.min_le_right _ _)
  unfold appendFile
  dsimp only
  rw [BinaryWriter.appendName_eq _ hpath, BinaryWriter.appendName_eq _ hdisplay,
    BinaryWriter.appendU64_eq, BinaryWriter.appendU64_eq, BinaryWriter.appendU64_eq, fileBytes]
  simp only [BinaryWriter.appendU8, directoryByte, List.append_assoc]

/-- **An entry comes back normalised.** -/
theorem reads_readFileEntry (h : NamesWithin maxNameBytes file) (rest : ByteBuffer) :
    Reads (readFileEntry 1 maxNameBytes) (normalized file) (fileBytes file) rest := by
  obtain ⟨hdisplay, hpath⟩ := writtenNames_spec file
  have hdirectory : (directoryByte file != 0) = file.directory := by
    rw [directoryByte]
    cases file.directory with
    | false => rfl
    | true => rfl
  refine Reads.bind (a := { normalized file with relativePath := [] }) (Reads.named _ ?_) ?_
  · refine (BinaryReader.reads_u64 _ _).bind ((BinaryReader.reads_u64 _ _).bind
      ((BinaryReader.reads_u64 _ _).bind ((BinaryReader.reads_u8 _ _).bind
      ((BinaryReader.reads_string _ h.displayName).last ?_))))
    rw [show (normalized file).displayName = (writtenNames file).1 from rfl, hdisplay, hdirectory]
    exact Reads.pure _ _
  · refine Reads.last (a := sanitizeTransferFileRelativePath (writtenNames file).2) ?_ ?_
    · refine Reads.named _ ((BinaryReader.reads_string _ h.relativePath).last ?_)
      exact Reads.pure _ _
    · have hentry : ({ normalized file with
          relativePath :=
            if sanitizeTransferFileRelativePath (writtenNames file).2 = [] ∨
                sanitizeTransferFileRelativePath (writtenNames file).2 = bytesOf "unnamed"
              then (writtenNames file).1
              else sanitizeTransferFileRelativePath (writtenNames file).2 } :
          TransferFileDescriptor) = normalized file := by
        rw [hpath]
        rfl
      rw [← hentry]
      exact Reads.pure _ _

/-! ## Lists -/

/-- **A list that fits into the bounds of the decoder**, with the names it gets. -/
structure WithinBounds (maxFiles maxNameBytes : ℕ) (fileList : TransferFileList) : Prop where
  count : fileList.files.length ≤ min maxFiles (2 ^ 32 - 1)
  names : ∀ file ∈ fileList.files, NamesWithin maxNameBytes file

/-- A list that is decoded without an error. -/
def decodedList (files : List TransferFileDescriptor) : TransferFileListDecodeResult where
  ok := true
  status := .ok
  fileList := { files := files }

/-- The header of a list. -/
def headerBytes (count : ℕ) : ByteBuffer :=
  leBytes 4 0x4c464446 ++ (leBytes 2 1 ++ (leBytes 2 1 ++ leBytes 4 count))

variable {fileList : TransferFileList}

theorem encodeTransferFileList_eq (h : WithinBounds maxFiles maxNameBytes fileList) :
    encodeTransferFileList fileList =
      headerBytes fileList.files.length ++ fileList.files.flatMap fileBytes := by
  have hloop : ∀ (files : List TransferFileDescriptor) (output : ByteBuffer),
      (∀ file ∈ files, NamesWithin maxNameBytes file) →
        files.foldl appendFile output = output ++ files.flatMap fileBytes := by
    intro files
    induction files with
    | nil =>
      intro output _
      rw [List.foldl_nil, List.flatMap_nil, List.append_nil]
    | cons file files ih =>
      intro output hfiles
      rw [List.foldl_cons, appendFile_eq (hfiles file List.mem_cons_self),
        ih _ fun other hother => hfiles other (List.mem_cons_of_mem _ hother), List.flatMap_cons,
        List.append_assoc]
  have hcount : (UInt32.ofNat fileList.files.length).toNat = fileList.files.length :=
    UInt32.toNat_ofNat_of_lt'
      (Nat.lt_of_le_of_lt (h.count.trans (Nat.min_le_right _ _)) (by decide))
  have hmagic : bytesOf "FDFL" = leBytes 4 0x4c464446 := by decide
  unfold encodeTransferFileList
  dsimp only
  rw [hloop _ _ h.names, BinaryWriter.appendU32_eq, BinaryWriter.appendU16_eq,
    BinaryWriter.appendU16_eq, hcount, headerBytes, hmagic]
  simp only [List.append_assoc]
  rfl

/-- **A list that fits comes back with its names normalised**, entry by entry. -/
theorem decode_encodeTransferFileList (h : WithinBounds maxFiles maxNameBytes fileList) :
    decodeTransferFileList (encodeTransferFileList fileList) maxFiles maxNameBytes =
      decodedList (fileList.files.map normalized) := by
  have hcount : (UInt32.ofNat fileList.files.length).toNat = fileList.files.length :=
    UInt32.toNat_ofNat_of_lt'
      (Nat.lt_of_le_of_lt (h.count.trans (Nat.min_le_right _ _)) (by decide))
  have hmax : fileList.files.length ≤ maxFiles := h.count.trans (Nat.min_le_left _ _)
  have hentries : Reads (Reader.times (readFileEntry 1 maxNameBytes) fileList.files.length)
      (fileList.files.map normalized) (fileList.files.flatMap fileBytes) [] := by
    have hbytes : fileList.files.flatMap fileBytes =
        (fileList.files.map normalized).flatMap fileBytes := by
      rw [List.flatMap_map]
      simp only [fileBytes_normalized]
    rw [hbytes, ← List.length_map normalized]
    refine Reads.times fun file hfile rest => ?_
    obtain ⟨old, hold, rfl⟩ := List.mem_map.mp hfile
    have hentry := reads_readFileEntry (h.names old hold).normalized rest
    rwa [normalized_idempotent] at hentry
  have hread : Reads (readFileList maxFiles maxNameBytes)
      { files := fileList.files.map normalized } (encodeTransferFileList fileList) [] := by
    rw [encodeTransferFileList_eq h]
    refine Reads.bind (a := (1, 1, UInt32.ofNat fileList.files.length)) (Reads.named _ ?_) ?_
    · have hnumber := BinaryReader.reads_u32 (fileList.files.flatMap fileBytes ++ [])
        (UInt32.ofNat fileList.files.length)
      rw [hcount] at hnumber
      exact (BinaryReader.reads_u32 _ 0x4c464446).bind ((BinaryReader.reads_u16 _ 1).bind
        ((BinaryReader.reads_u16 _ 1).bind (hnumber.last (Reads.pure _ _))))
    · have hversion : ¬((1 : UInt16) ≠ 1 ∨ (1 : UInt16) > 1) := by decide
      refine Reads.bind_refuseIf hversion (Reads.bind_refuseIf (by rw [hcount]; omega) ?_)
      rw [hcount]
      exact hentries.last (Reads.bind_expectEnd (Reads.pure _ _))
  have hmagic : ¬((encodeTransferFileList fileList).length < 12 ∨
      (encodeTransferFileList fileList).take 4 ≠ bytesOf "FDFL") := by
    rw [encodeTransferFileList_eq h, not_or, not_not]
    refine ⟨?_, rfl⟩
    rw [List.length_append, headerBytes, List.length_append, List.length_append, List.length_append]
    simp only [length_leBytes]
    omega
  have hrun := hread []
  rw [List.nil_append, List.append_nil] at hrun
  rw [decodeTransferFileList, if_neg hmagic, Reader.outcome_eq_iff.mpr hrun]
  rfl

/-! ## Lists from a peer -/

/-- **An entry that is read is a normalised one**, of names that are no longer than they may be. -/
def NormalizedFrom (maxNameBytes : ℕ) (file : TransferFileDescriptor) : Prop :=
  ∃ raw, file = normalized raw ∧ raw.displayName.length ≤ min maxNameBytes 65535 ∧
    raw.relativePath.length ≤ min (maxNameBytes * 8 % 2 ^ 64) 65535

theorem yields_readString (maxBytes : ℕ) :
    Yields (BinaryReader.readString maxBytes) fun name => name.length ≤ min maxBytes 65535 := by
  refine Yields.bind' fun length => Yields.refuseIf_bind fun hmax => ?_
  intro input offset name next hrun
  have hname := Yields.bytes length.toNat () input offset name next hrun
  have hlength := length.toNat_lt
  omega

theorem yields_normalized (minor : UInt16) (maxNameBytes : ℕ) :
    Yields (readFileEntry minor maxNameBytes) (NormalizedFrom maxNameBytes) := by
  refine Yields.bind (P := fun file => ∃ name : StdString, name.length ≤ min maxNameBytes 65535 ∧
      file.displayName = sanitizeTransferFileDisplayName name) (Yields.named <|
    Yields.bind' fun _ => Yields.bind' fun _ => Yields.bind' fun _ => Yields.bind' fun _ =>
    Yields.bind (yields_readString maxNameBytes) fun name hname =>
    Yields.pure ⟨name, hname, rfl⟩) fun file hfile => ?_
  obtain ⟨name, hname, hdisplay⟩ := hfile
  -- an entry without a path of its own has its display name
  have hentry : ∀ path raw : StdString, raw.length ≤ min (maxNameBytes * 8 % 2 ^ 64) 65535 →
      (path = [] ∧ raw = [] ∨ path = sanitizeTransferFileRelativePath raw) →
        NormalizedFrom maxNameBytes { file with
          relativePath :=
            if path = [] ∨ path = bytesOf "unnamed" then file.displayName else path } := by
    intro path raw hraw hpath
    refine ⟨{ file with displayName := name, relativePath := raw }, ?_, hname, hraw⟩
    rw [normalized, writtenNames]
    dsimp only
    rw [hdisplay]
    rcases hpath with ⟨rfl, rfl⟩ | rfl
    · rfl
    · rfl
  refine Yields.ite ?_ (Yields.pure (hentry [] [] (Nat.zero_le _) (Or.inl ⟨rfl, rfl⟩)))
  refine Yields.bind (P := fun path => ∃ raw : StdString,
      raw.length ≤ min (maxNameBytes * 8 % 2 ^ 64) 65535 ∧
        path = sanitizeTransferFileRelativePath raw)
    (Yields.named (Yields.bind (yields_readString _) fun raw hraw =>
      Yields.pure ⟨raw, hraw, rfl⟩)) fun path hpath => ?_
  obtain ⟨raw, hraw, hpath⟩ := hpath
  exact Yields.pure (hentry path raw hraw (Or.inr hpath))

/-- A display name is not longer than what it is made of, unless it is the one of the unnamed. -/
theorem length_sanitizeTransferFileDisplayName (value : StdString) :
    sanitizeTransferFileDisplayName value = unnamed ∨
      (sanitizeTransferFileDisplayName value).length ≤ value.length := by
  have hmask : ∀ name : StdString, (maskLeading name).length = name.length := by
    intro name
    induction name with
    | nil => rfl
    | cons ch rest ih =>
      rw [maskLeading]
      split
      · rw [List.length_cons, ih, List.length_cons]
      · rfl
  unfold sanitizeTransferFileDisplayName
  dsimp only
  split
  · exact Or.inl rfl
  · refine Or.inr ?_
    rw [hmask]
    refine (List.rdropWhile_prefix isPadding _).length_le.trans ?_
    rw [List.length_map]

theorem extent_namedSegment (segment : StdString) :
    extent (namedSegment segment) ≤ segment.length + 1 := by
  rw [namedSegment]
  split
  · exact Nat.zero_le _
  next hnamed =>
    have hlength := (length_sanitizeTransferFileDisplayName segment).resolve_left
      fun hname => hnamed (Or.inr hname)
    rw [extent_cons, extent, List.map_nil, List.sum_nil]
    omega

/-- Nor is a path. -/
theorem length_sanitizeTransferFileRelativePath (value : StdString) :
    sanitizeTransferFileRelativePath value = unnamed ∨
      (sanitizeTransferFileRelativePath value).length ≤ value.length := by
  rw [sanitizeTransferFileRelativePath_eq]
  split
  · exact length_sanitizeTransferFileDisplayName value
  next hparts =>
    refine Or.inr ?_
    have hjoin := length_intercalate (byteOf '/') hparts
    have hkept := extent_flatMap_le extent_namedSegment (rawSegments value)
    have hraw : extent (rawSegments value) = value.length + 1 := by
      rw [← extent_splitOnP isSlash value, extent, extent, rawSegments, List.map_map]
      simp only [Function.comp_def, List.length_map]
    rw [joinSegments]
    omega

/-- **Room for the name of the unnamed is enough**: an entry that was read fits again. -/
theorem NormalizedFrom.namesWithin (h : NormalizedFrom maxNameBytes file)
    (hroom : unnamed.length ≤ maxNameBytes) (hproduct : maxNameBytes * 8 < 2 ^ 64) :
    NamesWithin maxNameBytes file := by
  obtain ⟨raw, rfl, hname, hpath⟩ := h
  have hunnamed : unnamed.length = 7 := rfl
  have hdisplay : (writtenNames raw).1.length ≤ min maxNameBytes 65535 := by
    rcases length_sanitizeTransferFileDisplayName raw.displayName with heq | hle
    · have hwritten : (writtenNames raw).1 = unnamed := heq
      rw [hwritten]
      omega
    · exact hle.trans hname
  have hrelative : (writtenNames raw).2.length ≤ min (maxNameBytes * 8 % 2 ^ 64) 65535 := by
    by_cases hnone : sanitizeTransferFileRelativePath raw.relativePath = [] ∨
        sanitizeTransferFileRelativePath raw.relativePath = bytesOf "unnamed"
    · have hwritten : (writtenNames raw).2 = (writtenNames raw).1 := if_pos hnone
      rw [hwritten, Nat.mod_eq_of_lt hproduct]
      omega
    · have hwritten : (writtenNames raw).2 = sanitizeTransferFileRelativePath raw.relativePath :=
        if_neg hnone
      rw [hwritten]
      exact ((length_sanitizeTransferFileRelativePath raw.relativePath).resolve_left
        fun hname => hnone (Or.inr hname)).trans hpath
  exact NamesWithin.normalized ⟨hdisplay, hrelative⟩

/-- What is known of a list that was read. -/
theorem normalizedFrom_decodeTransferFileList {bytes : ByteBuffer}
    (hok : (decodeTransferFileList bytes maxFiles maxNameBytes).ok = true) :
    let decoded := decodeTransferFileList bytes maxFiles maxNameBytes
    decoded = decodedList decoded.fileList.files ∧
      decoded.fileList.files.length ≤ min maxFiles (2 ^ 32 - 1) ∧
      ∀ file ∈ decoded.fileList.files, NormalizedFrom maxNameBytes file := by
  refine ⟨?_, yields_decodeTransferFileList (yields_readFileList
    (fun minor => yields_normalized minor maxNameBytes) maxFiles) hok⟩
  unfold decodeTransferFileList at hok ⊢
  split at hok
  · cases hok
  next hmagic =>
    rw [if_neg hmagic]
    cases hread : (readFileList maxFiles maxNameBytes).outcome bytes with
    | error e =>
      rw [hread] at hok
      cases hok
    | ok read => rfl

/-- **A file list there and back.**  A list that fits into the bounds comes back entry by entry with
its names normalised; and a list that was read from any bytes, written again within the bounds, is
read as itself.  It is within them if there is room for the name of the unnamed. -/
theorem transferFileList_roundTrip (maxFiles maxNameBytes : ℕ) :
    (∀ fileList, WithinBounds maxFiles maxNameBytes fileList →
      decodeTransferFileList (encodeTransferFileList fileList) maxFiles maxNameBytes =
        decodedList (fileList.files.map normalized)) ∧
    ∀ bytes, (decodeTransferFileList bytes maxFiles maxNameBytes).ok = true →
      let decoded := decodeTransferFileList bytes maxFiles maxNameBytes
      (WithinBounds maxFiles maxNameBytes decoded.fileList →
        decodeTransferFileList (encodeTransferFileList decoded.fileList) maxFiles maxNameBytes =
          decoded) ∧
      (unnamed.length ≤ maxNameBytes → maxNameBytes * 8 < 2 ^ 64 →
        WithinBounds maxFiles maxNameBytes decoded.fileList) := by
  refine ⟨fun fileList h => decode_encodeTransferFileList h, fun bytes hok => ?_⟩
  obtain ⟨hdecoded, hcount, hnames⟩ := normalizedFrom_decodeTransferFileList hok
  refine ⟨fun hbounds => ?_, fun hroom hproduct => ⟨hcount, fun file hfile => ?_⟩⟩
  · have hsame : (decodeTransferFileList bytes maxFiles maxNameBytes).fileList.files.map normalized =
        (decodeTransferFileList bytes maxFiles maxNameBytes).fileList.files := by
      rw [List.map_congr_left (g := id) fun file hfile => ?_, List.map_id]
      obtain ⟨raw, rfl, -⟩ := hnames file hfile
      exact normalized_idempotent raw
    rw [decode_encodeTransferFileList hbounds, hsame]
    exact hdecoded.symm
  · exact (hnames file hfile).namesWithin hroom hproduct

end Clipboard
end FusionDesk
