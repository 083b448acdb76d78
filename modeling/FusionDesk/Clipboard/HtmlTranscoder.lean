import FusionDesk.Clipboard.FileList
import FusionDesk.General.Decimal
import FusionDesk.General.Substring

/-!
# HTML between canonical HTML and CF_HTML

The HTML functions of `clipboard_transfer_transcoder.cpp` and their copies in
`windows_clipboard_format_conversion.cpp`, which are in the namespace `WindowsEndpoint` here.
Windows has a header with four offsets in front of the text, and markers around the fragment.

* `windowsHtmlFromCanonicalHtml_eq`: the header with the offsets that have been filled in.
* `canonicalHtml_windowsHtml_eq`: what comes back of a fragment ends at its first end marker.
* `htmlRoundTrip_iff`: so it is the fragment exactly if there is none in it.
-/

namespace FusionDesk
namespace Clipboard

open Protocol
open Substring (find Apart)
open Decimal (padded digit isDigit)

/-- A string literal. -/
def ascii (text : String) : StdString := text.toList.map byteOf

/-- `std::string::npos`. -/
def npos : ℕ := 2 ^ 64 - 1

/-- `value.find(name)`, with its `std::size_t`. -/
def findPos (value name : StdString) : ℕ := (find name value).getD npos

def decimalField (value name : StdString) (fallback : ℕ) : ℕ :=
  match find name value with
  | none => fallback
  | some pos =>
    let digits := ((value.drop (pos + name.length)).dropWhile (· == byteOf ' ')).takeWhile isDigit
    if digits = [] then fallback
    else digits.foldl (fun result b => (result * 10 + digit b) % 2 ^ 64) 0

def startMarker : StdString := ascii "<!--StartFragment-->"

def endMarker : StdString := ascii "<!--EndFragment-->"

/-- What `snprintf` writes for `"%010zu"` into the 11 bytes of its buffer, the last one a 0. -/
def tenDigits (value : ℕ) : StdString := (padded 10 value).take 10

def patchField (header name : StdString) (value : ℕ) : StdString :=
  match find name header with
  | none => header
  | some pos =>
    header.take (pos + name.length) ++ (tenDigits value ++ header.drop (pos + name.length + 10))

/-- The text that is wrapped. -/
def wrappedHtml (fragment : StdString) : StdString :=
  ascii "<html><body>" ++ (startMarker ++ (fragment ++ (endMarker ++ ascii "</body></html>")))

/-- The header with its blank fields. -/
def blankHeader : StdString :=
  ascii "Version:1.0\r\n" ++ (ascii "StartHTML:0000000000\r\n" ++ (ascii "EndHTML:0000000000\r\n" ++
    (ascii "StartFragment:0000000000\r\n" ++ ascii "EndFragment:0000000000\r\n")))

def windowsHtmlFromCanonicalHtml (fragment : ByteBuffer) : ByteBuffer :=
  let html := wrappedHtml fragment
  let header := blankHeader
  let startHtml := header.length
  let startFragment := (startHtml + findPos html startMarker + startMarker.length) % 2 ^ 64
  let endFragment := (startHtml + findPos html endMarker) % 2 ^ 64
  let endHtml := (startHtml + html.length) % 2 ^ 64
  let header := patchField header (ascii "StartHTML:") startHtml
  let header := patchField header (ascii "EndHTML:") endHtml
  let header := patchField header (ascii "StartFragment:") startFragment
  let header := patchField header (ascii "EndFragment:") endFragment
  header ++ html

/-- The fragment between two offsets, which are those of the header. -/
def substring (value : StdString) (start stop : ℕ) : StdString :=
  (value.drop start).take (stop - start)

/-- The second half of both copies: the fragment between the markers, or all of it. -/
def htmlByMarkers (value : StdString) : StdString :=
  match find startMarker value, find endMarker value with
  | some startMarkerPos, some endMarkerPos =>
    if startMarkerPos + startMarker.length ≤ endMarkerPos then
      substring value (startMarkerPos + startMarker.length) endMarkerPos
    else value
  | _, _ => value

def canonicalHtmlFromWindowsHtml (value : ByteBuffer) : ByteBuffer :=
  if value = [] then []
  else
    let hasStartField := (find (ascii "StartFragment:") value).isSome
    let hasEndField := (find (ascii "EndFragment:") value).isSome
    let start := decimalField value (ascii "StartFragment:") 0
    let stop := decimalField value (ascii "EndFragment:") value.length
    if (hasStartField && hasEndField) = true ∧ start < stop ∧ stop ≤ value.length then
      substring value start stop
    else htmlByMarkers value

namespace WindowsEndpoint

/-- The same text as in the transcoder. -/
def windowsHtmlFromCanonicalHtml (fragment : ByteBuffer) : ByteBuffer :=
  Clipboard.windowsHtmlFromCanonicalHtml fragment

/-- Without the look whether the fields are there. -/
def canonicalHtmlFromWindowsHtml (value : ByteBuffer) : ByteBuffer :=
  if value = [] then []
  else
    let start := decimalField value (ascii "StartFragment:") 0
    let stop := decimalField value (ascii "EndFragment:") value.length
    if start < stop ∧ stop ≤ value.length then substring value start stop
    else htmlByMarkers value

end WindowsEndpoint

/-! ## The header -/

def crlf : StdString := ascii "\r\n"

/-- The fields of a header, each with its ten digits on a line. -/
def fieldLines (fields : List (StdString × ℕ)) : StdString :=
  fields.flatMap fun field => field.1 ++ (tenDigits field.2 ++ crlf)

/-- The first line of the header. -/
def version : StdString := ascii "Version:1.0\r\n"

/-- The header with these offsets. -/
def header (startHtml endHtml startFragment endFragment : ℕ) : StdString :=
  version ++ fieldLines [(ascii "StartHTML:", startHtml), (ascii "EndHTML:", endHtml),
    (ascii "StartFragment:", startFragment), (ascii "EndFragment:", endFragment)]

/-- The part of the wrapped text in front of the fragment. -/
def htmlFront : StdString := ascii "<html><body>" ++ startMarker

/-! ### The texts -/

/-- What is used of the texts: how long they are, that a marker begins with a character the header does
not have, and that nothing that is searched for begins in what stands in front of it. -/
structure Texts : Prop where
  length_crlf : crlf.length = 2
  length_version : version.length = 13
  length_startHtml : (ascii "StartHTML:").length = 10
  length_endHtml : (ascii "EndHTML:").length = 8
  length_startFragment : (ascii "StartFragment:").length = 14
  length_endFragment : (ascii "EndFragment:").length = 12
  length_body : (ascii "<html><body>").length = 12
  length_end : (ascii "</body></html>").length = 14
  length_startMarker : startMarker.length = 20
  length_endMarker : endMarker.length = 18
  length_htmlFront : htmlFront.length = 32
  length_blankHeader : blankHeader.length = 105
  blankHeader_eq : blankHeader = header 0 0 0 0
  head_startMarker : startMarker.head? = some (byteOf '<')
  head_endMarker : endMarker.head? = some (byteOf '<')
  tail_endMarker : byteOf '<' ∉ endMarker.tail
  not_mem_version : byteOf '<' ∉ version
  not_mem_crlf : byteOf '<' ∉ crlf
  not_mem_names : ∀ name ∈ [ascii "StartHTML:", ascii "EndHTML:", ascii "StartFragment:",
    ascii "EndFragment:"], byteOf '<' ∉ name
  startMarker_body : Apart startMarker (ascii "<html><body>")
  endMarker_front : Apart endMarker htmlFront
  names_version : ∀ name ∈ [ascii "StartHTML:", ascii "EndHTML:", ascii "StartFragment:",
    ascii "EndFragment:"], Apart name version ∧ Apart name crlf
  head_endHtml : (ascii "EndHTML:").head? = some (byteOf 'E')
  head_startFragment : (ascii "StartFragment:").head? = some (byteOf 'S')
  head_endFragment : (ascii "EndFragment:").head? = some (byteOf 'E')
  endHtml_names : ∀ name ∈ [ascii "StartHTML:"], Apart (ascii "EndHTML:") name
  startFragment_names : ∀ name ∈ [ascii "StartHTML:", ascii "EndHTML:"],
    Apart (ascii "StartFragment:") name
  endFragment_names : ∀ name ∈ [ascii "StartHTML:", ascii "EndHTML:", ascii "StartFragment:"],
    Apart (ascii "EndFragment:") name

/-- The characters of a literal, without the decoder of strings. -/
theorem ascii_ofList (chars : List Char) : ascii (String.ofList chars) = chars.map byteOf := by
  rw [ascii, String.toList_ofList]

theorem texts : Texts := by
  have hcrlf : ascii "\r\n" = _ := ascii_ofList _
  have hversion : ascii "Version:1.0\r\n" = _ := ascii_ofList _
  have hstartHtml : ascii "StartHTML:" = _ := ascii_ofList _
  have hendHtml : ascii "EndHTML:" = _ := ascii_ofList _
  have hstartFragment : ascii "StartFragment:" = _ := ascii_ofList _
  have hendFragment : ascii "EndFragment:" = _ := ascii_ofList _
  have hstartHtmlLine : ascii "StartHTML:0000000000\r\n" = _ := ascii_ofList _
  have hendHtmlLine : ascii "EndHTML:0000000000\r\n" = _ := ascii_ofList _
  have hstartFragmentLine : ascii "StartFragment:0000000000\r\n" = _ := ascii_ofList _
  have hendFragmentLine : ascii "EndFragment:0000000000\r\n" = _ := ascii_ofList _
  have hbody : ascii "<html><body>" = _ := ascii_ofList _
  have hend : ascii "</body></html>" = _ := ascii_ofList _
  have hstartMarker : ascii "<!--StartFragment-->" = _ := ascii_ofList _
  have hendMarker : ascii "<!--EndFragment-->" = _ := ascii_ofList _
  constructor
  all_goals
    simp only [htmlFront, blankHeader, header, version, crlf, startMarker, endMarker, fieldLines,
      hcrlf, hversion, hstartHtml, hendHtml, hstartFragment, hendFragment, hstartHtmlLine,
      hendHtmlLine, hstartFragmentLine, hendFragmentLine, hbody, hend, hstartMarker, hendMarker]
    decide +kernel

/-! ### The fields -/

theorem length_tenDigits (value : ℕ) : (tenDigits value).length = 10 :=
  List.length_take_of_le (Decimal.le_length_padded 10 value)

theorem isDigit_of_mem_tenDigits {value : ℕ} {b : UInt8} (h : b ∈ tenDigits value) :
    isDigit b = true :=
  Decimal.isDigit_of_mem_padded (List.mem_of_mem_take h)

theorem tenDigits_eq {value : ℕ} (h : value < 10 ^ 10) : tenDigits value = padded 10 value :=
  List.take_of_length_le (Nat.le_of_eq (Decimal.length_padded (by decide) h))

/-- No occurrence starts in some fields whose names it is apart from, if it does not start with a
digit. -/
theorem apart_fieldLines {needle : StdString} {first : UInt8} (hfirst : needle.head? = some first)
    (hdigit : isDigit first = false) (hcrlf : Apart needle crlf) {fields : List (StdString × ℕ)}
    (hfields : ∀ name ∈ fields.map Prod.fst, Apart needle name) :
    Apart needle (fieldLines fields) := by
  induction fields with
  | nil => trivial
  | cons field fields ih =>
    rw [List.map_cons, List.forall_mem_cons] at hfields
    have hnot : first ∉ tenDigits field.2 := by
      intro hmem
      rw [isDigit_of_mem_tenDigits hmem] at hdigit
      cases hdigit
    have hline := hfields.1.append ((Apart.of_not_mem hfirst hnot).append hcrlf)
    exact hline.append (ih hfields.2)

section Fields

variable {front name : StdString} (fields others : List (StdString × ℕ))

/-- A field between the others. -/
theorem fieldLines_split (value : ℕ) :
    front ++ fieldLines (fields ++ (name, value) :: others) =
      front ++ fieldLines fields ++ (name ++ (tenDigits value ++ (crlf ++ fieldLines others))) := by
  simp only [fieldLines, List.flatMap_append, List.flatMap_cons, List.append_assoc]

variable (hname : Apart name (front ++ fieldLines fields))
include hname

/-- **A field is filled in**, if its name is not in front of it. -/
theorem patchField_fieldLines (old value : ℕ) :
    patchField (front ++ fieldLines (fields ++ (name, old) :: others)) name value =
      front ++ fieldLines (fields ++ (name, value) :: others) := by
  obtain ⟨before, hbefore⟩ : ∃ before, before = front ++ fieldLines fields := ⟨_, rfl⟩
  obtain ⟨back, hback⟩ : ∃ back, back = crlf ++ fieldLines others := ⟨_, rfl⟩
  rw [← hbefore] at hname
  rw [fieldLines_split, fieldLines_split, ← hbefore, ← hback, patchField,
    Substring.find_behind hname]
  have htake : (before ++ (name ++ (tenDigits old ++ back))).take (before.length + name.length) =
      before ++ name := by
    rw [← List.append_assoc, ← List.length_append, List.take_left]
  have hdrop : (before ++ (name ++ (tenDigits old ++ back))).drop
      (before.length + name.length + 10) = back := by
    rw [← List.append_assoc, ← List.append_assoc, ← length_tenDigits old, ← List.length_append,
      ← List.length_append, List.drop_left]
  dsimp only
  rw [htake, hdrop, List.append_assoc]

/-- **Its number is read**, by the name as well. -/
theorem decimalField_fieldLines {value : ℕ} (hvalue : value < 10 ^ 10) (html : StdString)
    (fallback : ℕ) : decimalField (front ++ fieldLines (fields ++ (name, value) :: others) ++ html)
      name fallback = value := by
  have hread : ((tenDigits value ++ (crlf ++ (fieldLines others ++ html))).dropWhile
      (· == byteOf ' ')).takeWhile isDigit = tenDigits value := by
    have hdrop : (tenDigits value ++ (crlf ++ (fieldLines others ++ html))).dropWhile
        (· == byteOf ' ') = tenDigits value ++ (crlf ++ (fieldLines others ++ html)) := by
      cases hds : tenDigits value with
      | nil => rfl
      | cons b ds =>
        refine List.dropWhile_cons_of_neg ?_
        have hmem : b ∈ tenDigits value := hds ▸ List.mem_cons_self
        have hb := isDigit_of_mem_tenDigits hmem
        rw [beq_iff_eq]
        rintro rfl
        cases hb
    rw [hdrop, List.takeWhile_append_of_pos fun _ => isDigit_of_mem_tenDigits,
      show crlf = [13, 10] from rfl]
    exact List.append_nil _
  have hne : tenDigits value ≠ [] := List.ne_nil_of_length_eq_add_one (length_tenDigits value)
  have hfold := Decimal.foldl_mod (2 ^ 64) (tenDigits value) 0
  have hback : (tenDigits value).foldl (fun n b => n * 10 + digit b) 0 = value := by
    rw [tenDigits_eq hvalue]
    exact Decimal.value_padded 10 value
  rw [hback, Nat.zero_mod, Nat.mod_eq_of_lt (Nat.lt_trans hvalue (by norm_num))] at hfold
  have hparts : front ++ fieldLines fields ++
      (name ++ (tenDigits value ++ (crlf ++ fieldLines others))) ++ html =
      front ++ fieldLines fields ++
        (name ++ (tenDigits value ++ (crlf ++ (fieldLines others ++ html)))) := by
    simp only [List.append_assoc]
  rw [fieldLines_split, hparts, decimalField, Substring.find_behind hname]
  dsimp only
  rw [← List.append_assoc (front ++ fieldLines fields), ← List.length_append, List.drop_left,
    hread, if_neg hne, hfold]

end Fields

/-! ## The offsets -/

/-- Where the fragment ends for the code: at its first end marker, or else at its end. -/
def fragmentEnd (fragment : StdString) : ℕ := (find endMarker fragment).getD fragment.length

theorem fragmentEnd_le (fragment : StdString) : fragmentEnd fragment ≤ fragment.length := by
  rw [fragmentEnd]
  cases h : find endMarker fragment with
  | none => exact Nat.le_refl _
  | some k => exact (Substring.prefix_of_find h).2

theorem wrappedHtml_eq (fragment : StdString) : wrappedHtml fragment =
    htmlFront ++ (fragment ++ (endMarker ++ ascii "</body></html>")) := by
  rw [wrappedHtml, htmlFront, List.append_assoc]

/-- The end marker is found in the fragment, or else behind it. -/
theorem find_endMarker (fragment rest : StdString) :
    find endMarker (fragment ++ (endMarker ++ rest)) = some (fragmentEnd fragment) :=
  Substring.find_front (Texts.head_endMarker texts) (Texts.tail_endMarker texts) fragment rest

theorem findPos_startMarker (fragment : StdString) :
    findPos (wrappedHtml fragment) startMarker = 12 := by
  have htexts := texts
  rw [findPos, wrappedHtml, Substring.find_behind htexts.startMarker_body, htexts.length_body]
  rfl

theorem findPos_endMarker (fragment : StdString) :
    findPos (wrappedHtml fragment) endMarker = 32 + fragmentEnd fragment := by
  have htexts := texts
  rw [findPos, wrappedHtml_eq, Substring.find_append_of_apart htexts.endMarker_front,
    find_endMarker, htexts.length_htmlFront, Nat.add_comm]
  rfl

section Names

variable (a b c : ℕ)

/-! No name of the header is in front of its field. -/

theorem apart_startHtml : Apart (ascii "StartHTML:") (version ++ fieldLines []) :=
  (Texts.names_version texts _ (by simp)).1.append trivial

theorem apart_endHtml :
    Apart (ascii "EndHTML:") (version ++ fieldLines [(ascii "StartHTML:", a)]) := by
  have htexts := texts
  obtain ⟨hversion, hcrlf⟩ := htexts.names_version (ascii "EndHTML:") (by simp)
  exact hversion.append
    (apart_fieldLines htexts.head_endHtml (by decide) hcrlf htexts.endHtml_names)

theorem apart_startFragment : Apart (ascii "StartFragment:") (version ++ fieldLines
    [(ascii "StartHTML:", a), (ascii "EndHTML:", b)]) := by
  have htexts := texts
  obtain ⟨hversion, hcrlf⟩ := htexts.names_version (ascii "StartFragment:") (by simp)
  exact hversion.append
    (apart_fieldLines htexts.head_startFragment (by decide) hcrlf htexts.startFragment_names)

theorem apart_endFragment : Apart (ascii "EndFragment:") (version ++ fieldLines
    [(ascii "StartHTML:", a), (ascii "EndHTML:", b), (ascii "StartFragment:", c)]) := by
  have htexts := texts
  obtain ⟨hversion, hcrlf⟩ := htexts.names_version (ascii "EndFragment:") (by simp)
  exact hversion.append
    (apart_fieldLines htexts.head_endFragment (by decide) hcrlf htexts.endFragment_names)

end Names

/-- **What Windows gets**: the header with its offsets filled in, and the text. -/
theorem windowsHtmlFromCanonicalHtml_eq (fragment : ByteBuffer) :
    windowsHtmlFromCanonicalHtml fragment =
      header 105 ((105 + (wrappedHtml fragment).length) % 2 ^ 64) 137
        ((137 + fragmentEnd fragment) % 2 ^ 64) ++ wrappedHtml fragment := by
  have htexts := texts
  have hfirst := patchField_fieldLines [] [(ascii "EndHTML:", 0), (ascii "StartFragment:", 0),
    (ascii "EndFragment:", 0)] apart_startHtml 0 105
  have hsecond := patchField_fieldLines [(ascii "StartHTML:", 105)]
    [(ascii "StartFragment:", 0), (ascii "EndFragment:", 0)] (apart_endHtml _) 0
    ((105 + (wrappedHtml fragment).length) % 2 ^ 64)
  have hthird := patchField_fieldLines [(ascii "StartHTML:", 105), (ascii "EndHTML:",
    (105 + (wrappedHtml fragment).length) % 2 ^ 64)] [(ascii "EndFragment:", 0)]
    (apart_startFragment _ _) 0 137
  have hfourth := patchField_fieldLines [(ascii "StartHTML:", 105), (ascii "EndHTML:",
    (105 + (wrappedHtml fragment).length) % 2 ^ 64), (ascii "StartFragment:", 137)] []
    (apart_endFragment _ _ _) 0 ((137 + fragmentEnd fragment) % 2 ^ 64)
  simp only [List.nil_append, List.cons_append] at hfirst hsecond hthird hfourth
  rw [windowsHtmlFromCanonicalHtml]
  simp only [htexts.length_blankHeader, htexts.length_startMarker, findPos_startMarker,
    findPos_endMarker, ← Nat.add_assoc]
  rw [htexts.blankHeader_eq, header, hfirst, hsecond]
  show patchField (patchField _ _ 137) _ _ ++ _ = _
  rw [hthird, hfourth]
  rfl

/-! ## There and back -/

theorem length_header (a b c d : ℕ) : (header a b c d).length = 105 := by
  have htexts := texts
  have hline : ∀ (name : StdString) (value : ℕ),
      (name ++ (tenDigits value ++ crlf)).length = name.length + 12 := by
    intro name value
    rw [List.length_append, List.length_append, length_tenDigits, htexts.length_crlf]
  simp only [header, fieldLines, List.flatMap_cons, List.flatMap_nil, List.length_append, hline,
    htexts.length_version, htexts.length_startHtml, htexts.length_endHtml, htexts.length_startFragment,
    htexts.length_endFragment, List.length_nil]

/-- How long the text for Windows is. -/
theorem length_windowsHtml (fragment : ByteBuffer) :
    (windowsHtmlFromCanonicalHtml fragment).length = 169 + fragment.length := by
  have htexts := texts
  rw [windowsHtmlFromCanonicalHtml_eq, List.length_append, length_header, wrappedHtml_eq]
  simp only [List.length_append, htexts.length_htmlFront, htexts.length_endMarker, htexts.length_end]
  omega

/-- No marker starts in the header. -/
theorem apart_header {marker : StdString} (hfirst : marker.head? = some (byteOf '<'))
    (a b c d : ℕ) : Apart marker (header a b c d) := by
  have htexts := texts
  have hnames : ∀ name ∈ [ascii "StartHTML:", ascii "EndHTML:", ascii "StartFragment:",
      ascii "EndFragment:"], Apart marker name := fun name hname =>
    Apart.of_not_mem hfirst (htexts.not_mem_names name hname)
  exact (Apart.of_not_mem hfirst htexts.not_mem_version).append (apart_fieldLines hfirst (by decide)
    (Apart.of_not_mem hfirst htexts.not_mem_crlf) hnames)

/-- The fragment, as far as its end for the code. -/
theorem substring_windowsHtml (fragment : StdString) (a b c d : ℕ) :
    substring (header a b c d ++ wrappedHtml fragment) 137 (137 + fragmentEnd fragment) =
      fragment.take (fragmentEnd fragment) := by
  have htexts := texts
  have hfront : (header a b c d ++ htmlFront).length = 137 := by
    rw [List.length_append, length_header, htexts.length_htmlFront]
  rw [substring, wrappedHtml_eq, ← List.append_assoc, ← hfront, List.drop_left,
    Nat.add_sub_cancel_left, List.take_append_of_le_length (fragmentEnd_le fragment)]

/-- The markers have the same fragment between them as the offsets. -/
theorem htmlByMarkers_windowsHtml (fragment : StdString) (a b c d : ℕ) :
    htmlByMarkers (header a b c d ++ wrappedHtml fragment) =
      fragment.take (fragmentEnd fragment) := by
  have htexts := texts
  have hstart : find startMarker (header a b c d ++ wrappedHtml fragment) = some 117 := by
    have hapart : Apart startMarker (header a b c d ++ ascii "<html><body>") :=
      (apart_header htexts.head_startMarker a b c d).append htexts.startMarker_body
    rw [wrappedHtml, ← List.append_assoc, Substring.find_behind hapart, List.length_append,
      length_header, htexts.length_body]
  have hend : find endMarker (header a b c d ++ wrappedHtml fragment) =
      some (fragmentEnd fragment + 137) := by
    have hapart : Apart endMarker (header a b c d ++ htmlFront) :=
      (apart_header htexts.head_endMarker a b c d).append htexts.endMarker_front
    rw [wrappedHtml_eq, ← List.append_assoc, Substring.find_append_of_apart hapart,
      find_endMarker, List.length_append, length_header, htexts.length_htmlFront]
    rfl
  rw [htmlByMarkers, hstart, hend]
  dsimp only
  rw [htexts.length_startMarker, if_pos (by omega), Nat.add_comm (fragmentEnd fragment)]
  exact substring_windowsHtml fragment a b c d

section RoundTrip

variable {fragment : ByteBuffer}
  (hlength : (windowsHtmlFromCanonicalHtml fragment).length < 10 ^ 10)
include hlength

/-- The offsets that are read are those that were written. -/
theorem decimalField_windowsHtml (fallback : ℕ) :
    decimalField (windowsHtmlFromCanonicalHtml fragment) (ascii "StartFragment:") fallback = 137 ∧
      decimalField (windowsHtmlFromCanonicalHtml fragment) (ascii "EndFragment:") fallback =
        137 + fragmentEnd fragment ∧
      137 + fragmentEnd fragment ≤ (windowsHtmlFromCanonicalHtml fragment).length := by
  have htexts := texts
  have hle := fragmentEnd_le fragment
  have htotal : 137 + fragment.length ≤ (windowsHtmlFromCanonicalHtml fragment).length := by
    rw [windowsHtmlFromCanonicalHtml_eq, List.length_append, length_header, wrappedHtml_eq,
      List.length_append, List.length_append, htexts.length_htmlFront]
    omega
  have hmod : (137 + fragmentEnd fragment) % 2 ^ 64 = 137 + fragmentEnd fragment :=
    Nat.mod_eq_of_lt (by omega)
  refine ⟨?_, ?_, by omega⟩
  · rw [windowsHtmlFromCanonicalHtml_eq]
    exact decimalField_fieldLines [_, _] [_] (apart_startFragment _ _) (by norm_num) _ _
  · rw [windowsHtmlFromCanonicalHtml_eq, hmod]
    exact decimalField_fieldLines [_, _, _] [] (apart_endFragment _ _ _) (by omega) _ _

/-- **What comes back of a fragment**, in both copies: all of it in front of its first end marker. -/
theorem canonicalHtml_windowsHtml_eq :
    canonicalHtmlFromWindowsHtml (windowsHtmlFromCanonicalHtml fragment) =
        fragment.take (fragmentEnd fragment) ∧
      WindowsEndpoint.canonicalHtmlFromWindowsHtml
          (WindowsEndpoint.windowsHtmlFromCanonicalHtml fragment) =
        fragment.take (fragmentEnd fragment) := by
  obtain ⟨hstart, -, -⟩ := decimalField_windowsHtml hlength 0
  obtain ⟨-, hstop, hle⟩ :=
    decimalField_windowsHtml hlength (windowsHtmlFromCanonicalHtml fragment).length
  have hne : windowsHtmlFromCanonicalHtml fragment ≠ [] := fun h => by
    rw [h, List.length_nil] at hle
    omega
  have hsub : substring (windowsHtmlFromCanonicalHtml fragment) 137 (137 + fragmentEnd fragment) =
      fragment.take (fragmentEnd fragment) := by
    rw [windowsHtmlFromCanonicalHtml_eq]
    exact substring_windowsHtml fragment _ _ _ _
  have hmarkers : htmlByMarkers (windowsHtmlFromCanonicalHtml fragment) =
      fragment.take (fragmentEnd fragment) := by
    rw [windowsHtmlFromCanonicalHtml_eq]
    exact htmlByMarkers_windowsHtml fragment _ _ _ _
  constructor
  · rw [canonicalHtmlFromWindowsHtml, if_neg hne]
    dsimp only
    rw [hstart, hstop, hsub, hmarkers, ite_self]
  · rw [WindowsEndpoint.windowsHtmlFromCanonicalHtml,
      WindowsEndpoint.canonicalHtmlFromWindowsHtml, if_neg hne]
    dsimp only
    rw [hstart, hstop, hsub, hmarkers, ite_self]

end RoundTrip

/-- All of a fragment is in front of its first end marker exactly if it has none. -/
theorem take_fragmentEnd_iff (fragment : StdString) :
    fragment.take (fragmentEnd fragment) = fragment ↔ ¬endMarker <:+: fragment := by
  have htexts := texts
  rw [Substring.infix_iff_find, List.take_eq_self_iff, fragmentEnd]
  cases h : find endMarker fragment with
  | none => simp
  | some k =>
    have hocc := (Substring.prefix_of_find h).1.length_le
    rw [List.length_drop, htexts.length_endMarker] at hocc
    refine iff_of_false (fun hle => ?_) fun hnone => hnone ⟨k, rfl⟩
    rw [Option.getD_some] at hle
    omega

/-- **A fragment comes back as it was exactly if it has no end marker in it**, in both copies. -/
theorem htmlRoundTrip_iff {fragment : ByteBuffer}
    (hlength : (windowsHtmlFromCanonicalHtml fragment).length < 10 ^ 10) :
    (canonicalHtmlFromWindowsHtml (windowsHtmlFromCanonicalHtml fragment) = fragment ↔
        ¬endMarker <:+: fragment) ∧
      (WindowsEndpoint.canonicalHtmlFromWindowsHtml
          (WindowsEndpoint.windowsHtmlFromCanonicalHtml fragment) = fragment ↔
        ¬endMarker <:+: fragment) := by
  obtain ⟨hmodule, hendpoint⟩ := canonicalHtml_windowsHtml_eq hlength
  rw [hmodule, hendpoint]
  exact ⟨take_fragmentEnd_iff fragment, take_fragmentEnd_iff fragment⟩

/-- A bold letter comes back. -/
theorem htmlRoundTrip_iff_bold :
    canonicalHtmlFromWindowsHtml (windowsHtmlFromCanonicalHtml (ascii "<b>a</b>")) =
        ascii "<b>a</b>" ∧
      WindowsEndpoint.canonicalHtmlFromWindowsHtml
          (WindowsEndpoint.windowsHtmlFromCanonicalHtml (ascii "<b>a</b>")) = ascii "<b>a</b>" := by
  have hlength : (windowsHtmlFromCanonicalHtml (ascii "<b>a</b>")).length < 10 ^ 10 := by
    rw [length_windowsHtml]
    decide +kernel
  obtain ⟨hmodule, hendpoint⟩ := htmlRoundTrip_iff hlength
  have hnot : ¬endMarker <:+: ascii "<b>a</b>" := by decide +kernel
  exact ⟨hmodule.mpr hnot, hendpoint.mpr hnot⟩

/-- A fragment with an end marker in it is cut off there, in both copies. -/
theorem html_cut_off :
    (windowsHtmlFromCanonicalHtml (ascii "a<!--EndFragment-->b")).length < 10 ^ 10 ∧
      canonicalHtmlFromWindowsHtml (windowsHtmlFromCanonicalHtml (ascii "a<!--EndFragment-->b")) =
        ascii "a" ∧
      WindowsEndpoint.canonicalHtmlFromWindowsHtml
          (WindowsEndpoint.windowsHtmlFromCanonicalHtml (ascii "a<!--EndFragment-->b")) =
        ascii "a" ∧
      ascii "a" ≠ ascii "a<!--EndFragment-->b" := by
  have hlength : (windowsHtmlFromCanonicalHtml (ascii "a<!--EndFragment-->b")).length < 10 ^ 10 := by
    rw [length_windowsHtml]
    decide +kernel
  have hfirst : (ascii "a<!--EndFragment-->b").take
      (fragmentEnd (ascii "a<!--EndFragment-->b")) = ascii "a" := by
    decide +kernel
  obtain ⟨hmodule, hendpoint⟩ := canonicalHtml_windowsHtml_eq hlength
  exact ⟨hlength, hmodule.trans hfirst, hendpoint.trans hfirst, by decide +kernel⟩

end Clipboard
end FusionDesk
