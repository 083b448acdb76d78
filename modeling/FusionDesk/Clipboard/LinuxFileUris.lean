import FusionDesk.Clipboard.FileList

/-!
# Lists of file URIs

The part of `src/platform/linux/clipboard/linux_clipboard_endpoint.cpp` that turns paths into file
URIs, writes the three clipboard layouts of a list of URIs, and reads such a list back.  A path of
the file system is the bytes it is made of.

* `LocalPath`: an absolute path, as the file system has it.
* `percentDecodePath_encoded`, `fileUriToPath_fileUriFromPath`: one URI.
* `readLines_line`: the loop over the lines of a text.
* `fileUriListPaths_roundTrip`: what is read from each layout.
* `fileUriListPaths_absolute`: what is read from any text.
-/

namespace FusionDesk
namespace Clipboard

open Protocol

namespace LinuxClipboard

def newline : UInt8 := byteOf '\n'
def carriageReturn : UInt8 := byteOf '\r'
def slash : UInt8 := byteOf '/'
def percent : UInt8 := byteOf '%'

def linuxNautilusClipboardHeader : StdString := bytesOf "x-special/nautilus-clipboard"

/-! ## Bytes -/

/-- `std::tolower`, in the C locale. -/
def toLower (ch : UInt8) : UInt8 :=
  if byteOf 'A' ≤ ch ∧ ch ≤ byteOf 'Z' then ch + 0x20 else ch

def lowered (value : StdString) : StdString := value.map toLower

/-- `std::isxdigit`. -/
def isHexDigit (ch : UInt8) : Bool :=
  (byteOf '0' ≤ ch && ch ≤ byteOf '9') || (byteOf 'a' ≤ ch && ch ≤ byteOf 'f') ||
    (byteOf 'A' ≤ ch && ch ≤ byteOf 'F')

def hexValue (ch : UInt8) : Int32 :=
  if byteOf '0' ≤ ch ∧ ch ≤ byteOf '9' then (ch - byteOf '0').toUInt32.toInt32
  else if byteOf 'a' ≤ ch ∧ ch ≤ byteOf 'f' then (ch - byteOf 'a').toUInt32.toInt32 + 10
  else if byteOf 'A' ≤ ch ∧ ch ≤ byteOf 'F' then (ch - byteOf 'A').toUInt32.toInt32 + 10
  else -1

/-- `static_cast<char>((high << 4) | low)`. -/
def byteOfDigits (high low : UInt8) : UInt8 :=
  ((hexValue high <<< 4) ||| hexValue low).toInt8.toUInt8

def isUriPathByteAllowed (ch : UInt8) : Bool :=
  (byteOf 'A' ≤ ch && ch ≤ byteOf 'Z') || (byteOf 'a' ≤ ch && ch ≤ byteOf 'z') ||
    (byteOf '0' ≤ ch && ch ≤ byteOf '9') || ch == slash || ch == byteOf '-' ||
    ch == byteOf '_' || ch == byteOf '.' || ch == byteOf '~'

/-- `static constexpr char hex[]`. -/
def hex : StdString := bytesOf "0123456789ABCDEF"

/-- What the loop of `fileUriFromPath` puts out for a byte. -/
def encodedByte (ch : UInt8) : StdString :=
  if isUriPathByteAllowed ch then [ch]
  else [percent, hex.getD (ch >>> 4 &&& 0x0f).toNat 0, hex.getD (ch &&& 0x0f).toNat 0]

/-! ## One URI -/

def uriScheme : StdString := bytesOf "file://"

def fileUriFromPath (path : StdString) : StdString :=
  uriScheme ++ path.flatMap encodedByte

def percentDecodePath : StdString → StdString
  | [] => []
  | [a] => [a]
  | [a, b] => [a, b]
  | a :: high :: low :: rest =>
    if a = percent ∧ isHexDigit high ∧ isHexDigit low then
      byteOfDigits high low :: percentDecodePath rest
    else a :: percentDecodePath (high :: low :: rest)

/-- The part of a URI behind the host, which is empty or this machine. -/
def pathPart (rest : StdString) : Option StdString :=
  if rest.head? = some slash then some rest
  else
    match rest.findIdx? (· == slash) with
    | none => none
    | some index =>
      let host := lowered (rest.take index)
      if host ≠ [] ∧ host ≠ bytesOf "localhost" then none else some (rest.drop index)

def fileUriToPath (uri : StdString) : Option StdString :=
  if uriScheme.isPrefixOf uri = false then none
  else
    match pathPart (uri.drop uriScheme.length) with
    | none => none
    | some part => if part.head? ≠ some slash then none else some (percentDecodePath part)

/-! ## A list of URIs -/

/-- The lines of a text, from an offset on. -/
def readLines (text : StdString) : List StdString :=
  match h : text.findIdx? (· == newline) with
  | none => [text]
  | some next => text.take next :: readLines (text.drop (next + 1))
termination_by text.length
decreasing_by
  have hlt := (List.findIdx?_eq_some_iff_getElem.mp h).1
  rw [List.length_drop]
  omega

/-- The line without what ends it. -/
def trimLine (line : StdString) : StdString :=
  line.rdropWhile fun ch => ch == carriageReturn || ch == 0

/-- The path that a line stands for. -/
def linePath (line : StdString) : List StdString :=
  let line := trimLine line
  if line = [] ∨ line.head? = some (byteOf '#') then []
  else if lowered line = bytesOf "copy" ∨ lowered line = bytesOf "cut" then []
  else
    match fileUriToPath line with
    | some path => if path = [] then [] else [path]
    | none => []

def fileUriListPaths (bytes : ByteBuffer) : List StdString :=
  (readLines bytes).flatMap linePath

def uriListBytes (uris : List StdString) : ByteBuffer :=
  uris.flatMap fun uri => uri ++ [carriageReturn, newline]

def copiedFilesBytes (uris : List StdString) : ByteBuffer :=
  bytesOf "copy" ++ newline :: uris.flatMap fun uri => uri ++ [newline]

def nautilusClipboardBytes (uris : List StdString) : ByteBuffer :=
  linuxNautilusClipboardHeader ++ newline :: bytesOf "copy" ++ newline ::
    uris.flatMap fun uri => uri ++ [newline]

/-! ## A path through the encoding -/

theorem percentDecodePath_cons {a : UInt8} (h : a ≠ percent) (rest : StdString) :
    percentDecodePath (a :: rest) = a :: percentDecodePath rest := by
  rcases rest with - | ⟨high, - | ⟨low, rest⟩⟩
  · rfl
  · rfl
  · rw [percentDecodePath, if_neg fun hall => h hall.1]

/-- A fact about a byte, from the facts about its two halves. -/
theorem forall_byte {P : UInt8 → Prop} (h : ∀ a < 16, ∀ b < 16, P (UInt8.ofNat (16 * a + b)))
    (ch : UInt8) : P ch := by
  have hch := h (ch.toNat / 16) (Nat.div_lt_of_lt_mul ch.toNat_lt) (ch.toNat % 16)
    (Nat.mod_lt _ (by decide))
  rwa [Nat.div_add_mod, UInt8.ofNat_toNat] at hch

theorem ne_percent_of_allowed {ch : UInt8} (h : isUriPathByteAllowed ch = true) :
    ch ≠ percent := by
  rintro rfl
  have hpercent : isUriPathByteAllowed percent = false := rfl
  rw [hpercent] at h
  cases h

theorem hex_eq : hex =
    [0x30, 0x31, 0x32, 0x33, 0x34, 0x35, 0x36, 0x37, 0x38, 0x39, 0x41, 0x42, 0x43, 0x44, 0x45,
      0x46] := rfl

/-- The two digits that stand for a byte give it back. -/
theorem byteOfDigits_hex (ch : UInt8) :
    isHexDigit (hex.getD (ch >>> 4 &&& 0x0f).toNat 0) = true ∧
      isHexDigit (hex.getD (ch &&& 0x0f).toNat 0) = true ∧
      byteOfDigits (hex.getD (ch >>> 4 &&& 0x0f).toNat 0) (hex.getD (ch &&& 0x0f).toNat 0) = ch := by
  rw [hex_eq]
  revert ch
  exact forall_byte (by decide)

theorem percentDecodePath_encodedByte (ch : UInt8) (rest : StdString) :
    percentDecodePath (encodedByte ch ++ rest) = ch :: percentDecodePath rest := by
  rw [encodedByte]
  by_cases hallowed : isUriPathByteAllowed ch = true
  · rw [if_pos hallowed]
    exact percentDecodePath_cons (ne_percent_of_allowed hallowed) rest
  · obtain ⟨hhigh, hlow, hbyte⟩ := byteOfDigits_hex ch
    rw [if_neg hallowed]
    show percentDecodePath (_ :: _ :: _ :: rest) = _
    rw [percentDecodePath, if_pos ⟨rfl, hhigh, hlow⟩, hbyte]

/-- **Decoding gives the bytes that were encoded**, whatever they are. -/
theorem percentDecodePath_encoded (path : StdString) :
    percentDecodePath (path.flatMap encodedByte) = path := by
  induction path with
  | nil => rfl
  | cons ch path ih => rw [List.flatMap_cons, percentDecodePath_encodedByte, ih]

/-- What an encoded byte is made of: nothing that ends a line. -/
theorem visible_encodedByte (ch : UInt8) :
    ∀ b ∈ encodedByte ch, b ≠ newline ∧ b ≠ carriageReturn ∧ b ≠ 0 := by
  intro b hb
  rw [encodedByte] at hb
  split_ifs at hb with hallowed
  · rw [List.mem_singleton.mp hb]
    -- none of the three stands in a URI as it is
    refine ⟨?_, ?_, ?_⟩ <;> rintro rfl <;> exact absurd hallowed (by decide)
  · have hhex : ∀ n < 16, hex.getD n 0 ≠ newline ∧ hex.getD n 0 ≠ carriageReturn ∧
        hex.getD n 0 ≠ 0 := by
      rw [hex_eq]
      decide
    have hdigit : ∀ value : UInt8, (value &&& 0x0f).toNat < 16 := fun value => by
      rw [UInt8.toNat_and]
      exact Nat.lt_of_le_of_lt Nat.and_le_right (by decide)
    simp only [List.mem_cons, List.not_mem_nil, or_false] at hb
    rcases hb with rfl | rfl | rfl
    · decide
    · exact hhex _ (hdigit _)
    · exact hhex _ (hdigit _)

theorem encodedByte_slash : encodedByte slash = [slash] := rfl

theorem uriScheme_eq : uriScheme = [0x66, 0x69, 0x6c, 0x65, 0x3a, 0x2f, 0x2f] := rfl

/-- A path that begins at the root. -/
def Absolute (path : StdString) : Prop := path.head? = some slash

theorem head?_percentDecodePath {part : StdString} (h : Absolute part) :
    Absolute (percentDecodePath part) := by
  obtain ⟨rest, rfl⟩ : ∃ rest, part = slash :: rest := by
    cases part with
    | nil => cases h
    | cons first rest => exact ⟨rest, by rw [Option.some.inj h]⟩
  rw [percentDecodePath_cons (by decide)]
  rfl

/-- **The path behind the URI of an absolute path** is the path. -/
theorem fileUriToPath_fileUriFromPath {path : StdString} (h : Absolute path) :
    fileUriToPath (fileUriFromPath path) = some path := by
  have hprefix : uriScheme.isPrefixOf (fileUriFromPath path) = true :=
    List.isPrefixOf_iff_prefix.mpr (List.prefix_append _ _)
  have hpart : Absolute (path.flatMap encodedByte) := by
    cases path with
    | nil => cases h
    | cons first path =>
      obtain rfl : first = slash := Option.some.inj h
      rw [List.flatMap_cons, encodedByte_slash]
      rfl
  have hrest : pathPart (path.flatMap encodedByte) = some (path.flatMap encodedByte) := if_pos hpart
  rw [fileUriToPath, hprefix, if_neg Bool.true_eq_false_eq_False, fileUriFromPath,
    List.drop_left, hrest]
  exact (if_neg (not_not_intro hpart)).trans (congrArg some (percentDecodePath_encoded path))

/-- **Only an absolute path comes out of a URI.** -/
theorem absolute_of_fileUriToPath {uri path : StdString} (h : fileUriToPath uri = some path) :
    Absolute path := by
  rw [fileUriToPath] at h
  by_cases hprefix : uriScheme.isPrefixOf uri = false
  · rw [if_pos hprefix] at h
    cases h
  rw [if_neg hprefix] at h
  cases hpart : pathPart (uri.drop uriScheme.length) with
  | none =>
    rw [hpart] at h
    cases h
  | some part =>
    rw [hpart] at h
    dsimp only at h
    by_cases habsolute : part.head? ≠ some slash
    · rw [if_pos habsolute] at h
      cases h
    · rw [if_neg habsolute] at h
      rw [← Option.some.inj h]
      exact head?_percentDecodePath (not_not.mp habsolute)

/-! ## Lines -/

theorem readLines_line {line : StdString} (h : newline ∉ line) (rest : StdString) :
    readLines (line ++ newline :: rest) = line :: readLines rest := by
  have hfind : (line ++ newline :: rest).findIdx? (· == newline) = some line.length := by
    rw [List.findIdx?_append, List.findIdx?_eq_none_iff.mpr, List.findIdx?_cons]
    · simp
    · rintro ch hch
      exact beq_false_of_ne fun heq => h (heq ▸ hch)
  rw [readLines]
  split
  · next hnone =>
    rw [hfind] at hnone
    cases hnone
  · next next hnext =>
    obtain rfl := Option.some.inj (hfind.symm.trans hnext)
    rw [List.take_left, List.drop_length_add_append, List.drop_succ_cons, List.drop_zero]

/-- The last line of a text that ends with a newline. -/
theorem readLines_nil : readLines [] = [[]] := by
  rw [readLines]
  rfl

/-- The paths of a text whose lines are each ended by a newline. -/
theorem flatMap_readLines {lines : List StdString} (h : ∀ line ∈ lines, newline ∉ line) :
    fileUriListPaths (lines.flatMap fun line => line ++ [newline]) = lines.flatMap linePath := by
  induction lines with
  | nil => rw [List.flatMap_nil, fileUriListPaths, readLines_nil]; rfl
  | cons line lines ih =>
    have hrest := ih fun other hother => h other (List.mem_cons_of_mem _ hother)
    rw [fileUriListPaths] at hrest
    rw [fileUriListPaths, List.flatMap_cons, List.append_assoc, List.singleton_append,
      readLines_line (h line List.mem_cons_self), List.flatMap_cons, hrest, List.flatMap_cons]

/-! ## The lines of the three layouts -/

/-- What is in the URI of a path. -/
theorem visible_fileUriFromPath (path : StdString) :
    ∀ b ∈ fileUriFromPath path, b ≠ newline ∧ b ≠ carriageReturn ∧ b ≠ 0 := by
  intro b hb
  rcases List.mem_append.mp hb with hscheme | hpath
  · have hvisible : ∀ b ∈ uriScheme, b ≠ newline ∧ b ≠ carriageReturn ∧ b ≠ 0 := by
      rw [uriScheme_eq]
      simp only [List.forall_mem_cons, List.not_mem_nil, false_implies, implies_true]
      decide
    exact hvisible b hscheme
  · obtain ⟨ch, -, hch⟩ := List.mem_flatMap.mp hpath
    exact visible_encodedByte ch b hch

theorem not_mem_newline_fileUriFromPath (path : StdString) : newline ∉ fileUriFromPath path :=
  fun h => (visible_fileUriFromPath path newline h).1 rfl

/-- A line that ends with a carriage return or not, behind the URI. -/
theorem trimLine_fileUriFromPath (path ending : StdString)
    (hending : ∀ b ∈ ending, b = carriageReturn) :
    trimLine (fileUriFromPath path ++ ending) = fileUriFromPath path := by
  have hself : trimLine (fileUriFromPath path) = fileUriFromPath path := by
    rw [trimLine, List.rdropWhile_eq_self_iff]
    intro hne
    obtain ⟨-, hreturn, hnul⟩ := visible_fileUriFromPath path _ (List.getLast_mem hne)
    rw [beq_false_of_ne hreturn, beq_false_of_ne hnul]
    exact Bool.false_ne_true
  induction ending using List.reverseRecOn with
  | nil => rw [List.append_nil, hself]
  | append_singleton ending b ih =>
    have hb : b = carriageReturn := hending b (List.mem_append_right _ (List.mem_singleton_self b))
    have hrest := ih fun other hother => hending other (List.mem_append_left _ hother)
    rw [trimLine] at hrest ⊢
    rw [← List.append_assoc, List.rdropWhile_concat_pos _ _ _ (by rw [hb]; rfl), hrest]

/-- **The line of a path**: the path. -/
theorem linePath_fileUriFromPath {path : StdString} (h : Absolute path) (ending : StdString)
    (hending : ∀ b ∈ ending, b = carriageReturn) :
    linePath (fileUriFromPath path ++ ending) = [path] := by
  have hhead : fileUriFromPath path = 0x66 :: (fileUriFromPath path).tail := by
    rw [fileUriFromPath, uriScheme_eq]
    rfl
  have hshort : 4 < (lowered (fileUriFromPath path)).length := by
    rw [lowered, List.length_map, fileUriFromPath, uriScheme_eq, List.length_append]
    exact Nat.lt_of_lt_of_le (by decide) (Nat.le_add_right _ _)
  have hcopy : ¬(lowered (fileUriFromPath path) = bytesOf "copy" ∨
      lowered (fileUriFromPath path) = bytesOf "cut") := by
    rintro (hverb | hverb) <;> rw [hverb] at hshort <;> revert hshort <;> decide
  rw [linePath, trimLine_fileUriFromPath path ending hending]
  have hline : ¬(fileUriFromPath path = [] ∨ (fileUriFromPath path).head? = some (byteOf '#')) := by
    rw [hhead]
    rintro (hnil | hhash)
    · cases hnil
    · exact absurd (Option.some.inj hhash) (by decide)
  rw [if_neg hline, if_neg hcopy, fileUriToPath_fileUriFromPath h]
  refine if_neg ?_
  rintro rfl
  cases h

/-- The lines of the paths, each with the same ending. -/
def pathLines (ending : StdString) (paths : List StdString) : List StdString :=
  paths.map fun path => fileUriFromPath path ++ ending

theorem not_mem_newline_pathLines {ending : StdString} (hending : ∀ b ∈ ending, b = carriageReturn)
    (paths : List StdString) : ∀ line ∈ pathLines ending paths, newline ∉ line := by
  intro line hline hmem
  obtain ⟨path, -, rfl⟩ := List.mem_map.mp hline
  rcases List.mem_append.mp hmem with huri | hend
  · exact not_mem_newline_fileUriFromPath path huri
  · exact absurd (hending _ hend) (by decide)

theorem flatMap_linePath_pathLines {paths : List StdString} (h : ∀ path ∈ paths, Absolute path)
    {ending : StdString} (hending : ∀ b ∈ ending, b = carriageReturn) :
    (pathLines ending paths).flatMap linePath = paths := by
  rw [pathLines, List.flatMap_map]
  induction paths with
  | nil => rfl
  | cons path paths ih =>
    rw [List.flatMap_cons, ih fun other hother => h other (List.mem_cons_of_mem _ hother),
      linePath_fileUriFromPath (h path List.mem_cons_self) ending hending, List.singleton_append]

/-- The paths of a text in which lines that stand for none come first. -/
theorem fileUriListPaths_headed {headers : List StdString} {paths : List StdString}
    (hheaders : ∀ header ∈ headers, newline ∉ header ∧ linePath header = [])
    (h : ∀ path ∈ paths, Absolute path) {ending : StdString}
    (hending : ∀ b ∈ ending, b = carriageReturn) :
    fileUriListPaths ((headers ++ pathLines ending paths).flatMap fun line => line ++ [newline]) =
      paths := by
  rw [flatMap_readLines, List.flatMap_append, flatMap_linePath_pathLines h hending,
    List.flatMap_eq_nil_iff.mpr fun header hheader => (hheaders header hheader).2, List.nil_append]
  intro line hline
  rcases List.mem_append.mp hline with hheader | hpath
  · exact (hheaders line hheader).1
  · exact not_mem_newline_pathLines hending paths line hpath

theorem copy_header : newline ∉ bytesOf "copy" ∧ linePath (bytesOf "copy") = [] :=
  ⟨by decide, rfl⟩

theorem nautilus_header : newline ∉ linuxNautilusClipboardHeader ∧
    linePath linuxNautilusClipboardHeader = [] :=
  ⟨by decide, rfl⟩

/-! ## Round trips -/

/-- An absolute path of the file system: separators neither repeated nor at the end, and no `NUL`. -/
structure LocalPath (path : StdString) : Prop where
  absolute : Absolute path
  repeated : ¬[slash, slash] <:+: path
  trailing : path = [slash] ∨ path.getLast? ≠ some slash
  nul : 0 ∉ path

/-- **Lists of file URIs round trip**: the paths come back out of each of the three layouts, in
their order, whatever bytes they are made of. -/
theorem fileUriListPaths_roundTrip (paths : List StdString) (h : ∀ path ∈ paths, LocalPath path) :
    fileUriListPaths (uriListBytes (paths.map fileUriFromPath)) = paths ∧
      fileUriListPaths (copiedFilesBytes (paths.map fileUriFromPath)) = paths ∧
      fileUriListPaths (nautilusClipboardBytes (paths.map fileUriFromPath)) = paths := by
  have habsolute : ∀ path ∈ paths, Absolute path := fun path hpath => (h path hpath).absolute
  have hnone : ∀ b ∈ ([] : StdString), b = carriageReturn := List.forall_mem_nil _
  have hplain : ∀ uris : List StdString,
      uris = paths.map fileUriFromPath →
        (uris.flatMap fun uri => uri ++ [newline]) =
          (pathLines [] paths).flatMap fun line => line ++ [newline] := by
    rintro _ rfl
    rw [pathLines]
    simp only [List.append_nil]
  refine ⟨?_, ?_, ?_⟩
  · have hlines : uriListBytes (paths.map fileUriFromPath) =
        ([] ++ pathLines [carriageReturn] paths).flatMap fun line => line ++ [newline] := by
      rw [uriListBytes, List.nil_append, pathLines, List.flatMap_map, List.flatMap_map]
      simp only [List.append_assoc, List.singleton_append]
    rw [hlines]
    exact fileUriListPaths_headed (List.forall_mem_nil _) habsolute
      fun b hb => List.mem_singleton.mp hb
  · have hlines : copiedFilesBytes (paths.map fileUriFromPath) =
        ([bytesOf "copy"] ++ pathLines [] paths).flatMap fun line => line ++ [newline] := by
      rw [copiedFilesBytes, hplain _ rfl, List.singleton_append, List.flatMap_cons,
        List.append_assoc, List.singleton_append]
    rw [hlines]
    refine fileUriListPaths_headed (fun header hheader => ?_) habsolute hnone
    rw [List.mem_singleton.mp hheader]
    exact copy_header
  · have hlines : nautilusClipboardBytes (paths.map fileUriFromPath) =
        ([linuxNautilusClipboardHeader, bytesOf "copy"] ++ pathLines [] paths).flatMap
          fun line => line ++ [newline] := by
      rw [nautilusClipboardBytes, hplain _ rfl, List.cons_append, List.singleton_append,
        List.flatMap_cons, List.flatMap_cons]
      simp only [List.append_assoc, List.nil_append, List.cons_append]
    rw [hlines]
    refine fileUriListPaths_headed (fun header hheader => ?_) habsolute hnone
    rcases List.mem_cons.mp hheader with rfl | hcopy
    · exact nautilus_header
    · rw [List.mem_singleton.mp hcopy]
      exact copy_header

/-- The root, a name with a percent sign and two digits behind it, and one with a newline, a hash
sign and a byte that is not ASCII. -/
theorem fileUriListPaths_roundTrip_samples :
    fileUriListPaths (nautilusClipboardBytes
      ([[slash], bytesOf "/a%41", [slash, newline, 0x23, 0xe9]].map fileUriFromPath)) =
      [[slash], bytesOf "/a%41", [slash, newline, 0x23, 0xe9]] := by
  refine (fileUriListPaths_roundTrip _ fun path hpath => ?_).2.2
  have hall : ∀ path ∈ [[slash], bytesOf "/a%41", [slash, newline, 0x23, 0xe9]],
      path.head? = some slash ∧ ¬[slash, slash] <:+: path ∧
        (path = [slash] ∨ path.getLast? ≠ some slash) ∧ 0 ∉ path := by
    decide +kernel
  obtain ⟨habsolute, hrepeated, htrailing, hnul⟩ := hall path hpath
  exact ⟨habsolute, hrepeated, htrailing, hnul⟩

/-! ## Any text -/

/-- **Whatever the text, only absolute paths are read from it**, and no more of them than it has
lines. -/
theorem fileUriListPaths_absolute (bytes : ByteBuffer) :
    (∀ path ∈ fileUriListPaths bytes, Absolute path) ∧
      (fileUriListPaths bytes).length ≤ (readLines bytes).length := by
  have hline : ∀ line, (∀ path ∈ linePath line, Absolute path) ∧ (linePath line).length ≤ 1 := by
    intro line
    rw [linePath]
    split
    · exact ⟨List.forall_mem_nil _, Nat.zero_le _⟩
    split
    · exact ⟨List.forall_mem_nil _, Nat.zero_le _⟩
    cases hpath : fileUriToPath (trimLine line) with
    | none => exact ⟨List.forall_mem_nil _, Nat.zero_le _⟩
    | some path =>
      dsimp only
      split
      · exact ⟨List.forall_mem_nil _, Nat.zero_le _⟩
      · refine ⟨fun other hother => ?_, Nat.le_refl _⟩
        rw [List.mem_singleton.mp hother]
        exact absolute_of_fileUriToPath hpath
  constructor
  · intro path hpath
    obtain ⟨line, -, hmem⟩ := List.mem_flatMap.mp hpath
    exact (hline line).1 path hmem
  · rw [fileUriListPaths]
    induction readLines bytes with
    | nil => exact Nat.le_refl _
    | cons line lines ih =>
      rw [List.flatMap_cons, List.length_append, List.length_cons]
      have hone := (hline line).2
      omega

end LinuxClipboard

end Clipboard
end FusionDesk
