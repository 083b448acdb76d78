import FusionDesk.General.BoundedLoop
import FusionDesk.Clipboard.Types

/-!
# Text between UTF-8 and UTF-16

The text functions of `clipboard_transfer_transcoder.cpp`: canonical text is UTF-8 with LF, the text
of Windows is UTF-16LE with CRLF and a unit 0 at the end.

A `std::string` of bytes and a `ByteBuffer` are the same list here.  A read of `utf8FromUtf16LeText`
outside the buffer gives `none`.  `taken` is not in the source: the code units that the loop has gone
past, in the portions in which it has.
-/

namespace FusionDesk
namespace Clipboard

open Protocol

/-! ## Line ends -/

/-- `'\r'`. -/
def cr : UInt8 := 13

/-- `'\n'`. -/
def lf : UInt8 := 10

def normalizeCrlfToLf : StdString → StdString
  | [] => []
  | ch :: rest =>
    if ch = cr then
      match rest with
      | next :: others =>
        if next = lf then lf :: normalizeCrlfToLf others else ch :: normalizeCrlfToLf (next :: others)
      | [] => [ch]
    else ch :: normalizeCrlfToLf rest

def normalizeLfToCrlf : StdString → StdString
  | [] => []
  | ch :: rest =>
    if ch = cr then
      match rest with
      | next :: others =>
        if next = lf then cr :: lf :: normalizeLfToCrlf others
        else cr :: lf :: normalizeLfToCrlf (next :: others)
      | [] => [cr, lf]
    else if ch = lf then cr :: lf :: normalizeLfToCrlf rest
    else ch :: normalizeLfToCrlf rest

/-! ## UTF-8 -/

/-- A byte behind the first one. -/
def tailByte (bits : UInt32) : UInt8 := (0x80 ||| (bits &&& 0x3f) : UInt32).toUInt8

def appendUtf8CodePoint (output : StdString) (codePoint : UInt32) : StdString :=
  if codePoint ≤ 0x7f then output ++ [codePoint.toUInt8]
  else if codePoint ≤ 0x7ff then
    output ++ [((0xc0 : UInt32) ||| codePoint >>> 6).toUInt8, tailByte codePoint]
  else if codePoint ≤ 0xffff then
    output ++ [((0xe0 : UInt32) ||| codePoint >>> 12).toUInt8, tailByte (codePoint >>> 6),
      tailByte codePoint]
  else
    output ++ [((0xf0 : UInt32) ||| codePoint >>> 18).toUInt8, tailByte (codePoint >>> 12),
      tailByte (codePoint >>> 6), tailByte codePoint]

/-- What the first byte of a longer sequence says. -/
structure LeadByte where
  codePoint : UInt32
  needed : ℕ
  minValue : UInt32
  deriving DecidableEq

def leadByte (first : UInt8) : Option LeadByte :=
  if first &&& 0xe0 = 0xc0 then some ⟨(first &&& 0x1f).toUInt32, 1, 0x80⟩
  else if first &&& 0xf0 = 0xe0 then some ⟨(first &&& 0x0f).toUInt32, 2, 0x800⟩
  else if first &&& 0xf8 = 0xf0 then some ⟨(first &&& 0x07).toUInt32, 3, 0x10000⟩
  else none

/-- The body of the loop over the bytes behind the first one. -/
def addTailByte (value : StdString) (index : ℕ) (codePoint : UInt32) (offset : ℕ) : Option UInt32 :=
  let next := value.getD (index + offset) 0
  if next &&& 0xc0 ≠ 0x80 then none
  else some (codePoint <<< 6 ||| (next &&& 0x3f).toUInt32)

/-- The code point at an index, and the index behind it. -/
def nextUtf8CodePoint (value : StdString) (index : ℕ) : UInt32 × ℕ :=
  if index ≥ value.length then (0, index)
  else
    let first := value.getD index 0
    if first < 0x80 then (first.toUInt32, index + 1)
    else
      match leadByte first with
      | none => (0xfffd, index + 1)
      | some lead =>
        if index + lead.needed ≥ value.length then (0xfffd, index + 1)
        else
          match ((List.range lead.needed).map (· + 1)).foldlM (addTailByte value index)
              lead.codePoint with
          | none => (0xfffd, index + 1)
          | some codePoint =>
            (if codePoint < lead.minValue ∨ codePoint > 0x10ffff ∨
                codePoint ≥ 0xd800 ∧ codePoint ≤ 0xdfff then 0xfffd else codePoint,
              index + lead.needed + 1)

theorem lt_nextUtf8CodePoint {value : StdString} {index : ℕ} (h : index < value.length) :
    index < (nextUtf8CodePoint value index).2 := by
  rw [nextUtf8CodePoint, if_neg (by omega)]
  dsimp only
  split
  · exact Nat.lt_succ_self index
  · split
    · exact Nat.lt_succ_self index
    · split
      · exact Nat.lt_succ_self index
      · split
        · exact Nat.lt_succ_self index
        · show index < index + _ + 1
          omega

/-! ## UTF-16 -/

def appendUtf16LeUnit (output : ByteBuffer) (unit : UInt16) : ByteBuffer :=
  output ++ [(unit &&& 0xff).toUInt8, ((unit >>> 8) &&& 0xff).toUInt8]

/-- The code units of a code point. -/
def appendUtf16LeCodePoint (output : ByteBuffer) (codePoint : UInt32) : ByteBuffer :=
  if codePoint ≤ 0xffff then appendUtf16LeUnit output codePoint.toUInt16
  else
    let scalar := codePoint - 0x10000
    appendUtf16LeUnit (appendUtf16LeUnit output ((0xd800 : UInt32) + (scalar >>> 10)).toUInt16)
      ((0xdc00 : UInt32) + (scalar &&& 0x3ff)).toUInt16

/-- The loop of `utf16LeFromUtf8Text`, with its index and its result so far. -/
def utf16Loop (normalized : StdString) : BoundedLoop (ℕ × ByteBuffer) ByteBuffer where
  body s :=
    if s.1 < normalized.length then
      let next := nextUtf8CodePoint normalized s.1
      .inr (next.2, appendUtf16LeCodePoint s.2 next.1)
    else .inl s.2
  variant s := normalized.length - s.1
  decreases {s next} h := by
    split at h
    next hin =>
      cases h
      have hlt := lt_nextUtf8CodePoint hin
      dsimp only
      omega
    · cases h

def utf16LeFromUtf8Text (bytes : ByteBuffer) : ByteBuffer :=
  appendUtf16LeUnit ((utf16Loop (normalizeLfToCrlf bytes)).run (0, [])) 0

/-- The code unit whose bytes are at an index. -/
def unitAt (bytes : ByteBuffer) (index : ℕ) : Option UInt16 := do
  let low ← bytes[index]?
  let high ← bytes[index + 1]?
  return low.toUInt16 ||| (high.toUInt16 <<< 8)

def isHighSurrogate (unit : UInt16) : Bool := decide (unit ≥ 0xd800 ∧ unit ≤ 0xdbff)

def isLowSurrogate (unit : UInt16) : Bool := decide (unit ≥ 0xdc00 ∧ unit ≤ 0xdfff)

/-- The code point of a pair. -/
def pairCodePoint (unit low : UInt16) : UInt32 :=
  (0x10000 : UInt32) + (((unit.toUInt32 - 0xd800) <<< 10) ||| (low.toUInt32 - 0xdc00))

/-- The state of the loop of `utf8FromUtf16LeText`. -/
structure Utf16Reading where
  index : ℕ := 0
  value : StdString := []
  taken : List (List UInt16) := []

/-- The code point at a unit, and the units that it takes. -/
def codePointAt (bytes : ByteBuffer) (index : ℕ) (unit : UInt16) :
    Option (UInt32 × List UInt16) :=
  if isHighSurrogate unit ∧ index + 3 < bytes.length then do
    let low ← unitAt bytes (index + 2)
    if isLowSurrogate low then return (pairCodePoint unit low, [unit, low])
    else return (0xfffd, [unit])
  else if isLowSurrogate unit then some (0xfffd, [unit])
  else some (unit.toUInt32, [unit])

theorem taken_of_codePointAt {bytes : ByteBuffer} {index : ℕ} {unit : UInt16}
    {found : UInt32 × List UInt16} (h : codePointAt bytes index unit = some found) :
    0 < found.2.length := by
  rw [codePointAt] at h
  split at h
  · obtain ⟨low, -, hlow⟩ := Option.bind_eq_some_iff.mp h
    split at hlow
    · cases hlow
      exact Nat.succ_pos _
    · cases hlow
      exact Nat.succ_pos _
  · split at h
    · cases h
      exact Nat.succ_pos _
    · cases h
      exact Nat.succ_pos _

/-- The loop of `utf8FromUtf16LeText`. -/
def utf8Loop (bytes : ByteBuffer) : BoundedLoop Utf16Reading (Option Utf16Reading) where
  body s :=
    if s.index + 1 < bytes.length then
      match unitAt bytes s.index with
      | none => .inl none
      | some unit =>
        if unit = 0 then .inl (some s)
        else
          match codePointAt bytes s.index unit with
          | none => .inl none
          | some found =>
            .inr ⟨s.index + 2 * found.2.length, appendUtf8CodePoint s.value found.1,
              s.taken ++ [found.2]⟩
    else .inl (some s)
  variant s := bytes.length - s.index
  decreases {s next} h := by
    split at h
    next hin =>
      split at h
      · cases h
      · split at h
        · cases h
        · split at h
          · cases h
          next found hfound =>
            cases h
            have hpos := taken_of_codePointAt hfound
            dsimp only
            omega
    · cases h

/-- `utf8FromUtf16LeText`: its result, and the code units that it has gone past. -/
def utf8FromUtf16LeText (bytes : ByteBuffer) : Option (ByteBuffer × List (List UInt16)) :=
  ((utf8Loop bytes).run {}).map fun s => (normalizeCrlfToLf s.value, s.taken)

end Clipboard
end FusionDesk
