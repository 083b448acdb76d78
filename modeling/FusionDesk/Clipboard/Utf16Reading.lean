import FusionDesk.Clipboard.TextTranscoder
import FusionDesk.General.BigEndian
import FusionDesk.General.Utf8

/-!
# Reading UTF-16 text

What `utf8FromUtf16LeText` makes of any buffer.

* `run_utf8Loop`: the loop over the bytes is `readUnits` over the code units of the buffer.
* `readUnits_split`: every code point that is read is a character, but for a high surrogate that is
  the last code unit of all.
* `utf8FromUtf16LeText_readAsText_iff`: the result is well-formed exactly without such an end.
-/

namespace FusionDesk
namespace Clipboard

open Protocol
open Utf8 (WellFormed encode scheme KeepsHigh rewriteAscii)

/-! ## The bytes of a code point -/

/-- A character, by its number. -/
def IsScalar (codePoint : UInt32) : Prop := codePoint.toNat.isValidChar

theorem toNat_and_mask (v : UInt32) : (v &&& 0x3f).toNat = v.toNat % 64 := by
  rw [UInt32.toNat_and]
  exact Nat.and_two_pow_sub_one_eq_mod v.toNat 6

theorem tailByte_eq (v : UInt32) : tailByte v = UInt8.ofNat (v.toNat % 64 + 0x80) := by
  have hlow := Nat.mod_lt v.toNat (show 0 < 2 ^ 6 by norm_num)
  apply UInt8.toNat_inj.mp
  rw [tailByte, UInt32.toNat_toUInt8, UInt32.toNat_or, toNat_and_mask, UInt8.toNat_ofNat']
  show (2 * 2 ^ 6 ||| v.toNat % 2 ^ 6) % 256 = _
  rw [BigEndian.lor_low 2 6 hlow, Nat.add_comm]
  rfl

/-- A first byte: its mark, which leaves `k` bits, and the number. -/
theorem markByte_eq (mark : UInt32) {a k : ℕ} (hmark : mark.toNat = a * 2 ^ k) {v : UInt32}
    (hv : v.toNat < 2 ^ k) : (mark ||| v).toUInt8 = UInt8.ofNat (v.toNat + mark.toNat) := by
  apply UInt8.toNat_inj.mp
  rw [UInt32.toNat_toUInt8, UInt32.toNat_or, hmark, BigEndian.lor_low a k hv, UInt8.toNat_ofNat',
    Nat.add_comm]

theorem toNat_shiftRight (v : UInt32) {k : UInt32} (hk : k.toNat < 32) :
    (v >>> k).toNat = v.toNat / 2 ^ k.toNat := by
  rw [UInt32.toNat_shiftRight, Nat.mod_eq_of_lt hk, Nat.shiftRight_eq_div_pow]

theorem toUInt8_eq (v : UInt32) : v.toUInt8 = UInt8.ofNat v.toNat := by
  apply UInt8.toNat_inj.mp
  rw [UInt32.toNat_toUInt8, UInt8.toNat_ofNat']

/-- **A code point is appended by the scheme of the encoding.** -/
theorem appendUtf8CodePoint_eq (output : StdString) {v : UInt32} (hv : v.toNat < 0x110000) :
    appendUtf8CodePoint output v = output ++ scheme v.toNat := by
  have h6 : (v >>> 6).toNat = v.toNat / 64 := toNat_shiftRight v (by decide)
  have h12 : (v >>> 12).toNat = v.toNat / 4096 := toNat_shiftRight v (by decide)
  have h18 : (v >>> 18).toNat = v.toNat / 262144 := toNat_shiftRight v (by decide)
  have h7f : v ≤ 0x7f ↔ v.toNat ≤ 0x7f := UInt32.le_iff_toNat_le
  have h7ff : v ≤ 0x7ff ↔ v.toNat ≤ 0x7ff := UInt32.le_iff_toNat_le
  have hffff : v ≤ 0xffff ↔ v.toNat ≤ 0xffff := UInt32.le_iff_toNat_le
  simp only [appendUtf8CodePoint, scheme, h7f, h7ff, hffff]
  by_cases hone : v.toNat ≤ 0x7f
  · rw [if_pos hone, if_pos hone, toUInt8_eq]
  rw [if_neg hone, if_neg hone]
  by_cases htwo : v.toNat ≤ 0x7ff
  · have hlead : ((0xc0 : UInt32) ||| v >>> 6).toUInt8 = _ :=
      markByte_eq 0xc0 (a := 6) (k := 5) rfl (by omega)
    rw [if_pos htwo, if_pos htwo, hlead, tailByte_eq, h6,
      Nat.mod_eq_of_lt (show v.toNat / 64 < 0x20 by omega)]
    rfl
  rw [if_neg htwo, if_neg htwo]
  by_cases hthree : v.toNat ≤ 0xffff
  · have hlead : ((0xe0 : UInt32) ||| v >>> 12).toUInt8 = _ :=
      markByte_eq 0xe0 (a := 14) (k := 4) rfl (by omega)
    rw [if_pos hthree, if_pos hthree, hlead, tailByte_eq, tailByte_eq, h6, h12,
      Nat.mod_eq_of_lt (show v.toNat / 4096 < 0x10 by omega)]
    rfl
  · have hlead : ((0xf0 : UInt32) ||| v >>> 18).toUInt8 = _ :=
      markByte_eq 0xf0 (a := 30) (k := 3) rfl (by omega)
    rw [if_neg hthree, if_neg hthree, hlead, tailByte_eq, tailByte_eq,
      tailByte_eq, h6, h12, h18, Nat.mod_eq_of_lt (show v.toNat / 262144 < 0x08 by omega)]
    rfl

theorem appendUtf8CodePoint_char (output : StdString) (c : Char) :
    appendUtf8CodePoint output c.val = output ++ String.utf8EncodeChar c := by
  have hvalid : c.val.toNat < 0xd800 ∨ 0xdfff < c.val.toNat ∧ c.val.toNat < 0x110000 := c.valid
  rw [appendUtf8CodePoint_eq output (by omega), Utf8.utf8EncodeChar_eq_scheme]

/-! ## Code units -/

/-- The complete code units of a buffer. -/
def units : ByteBuffer → List UInt16
  | low :: high :: rest => (low.toUInt16 ||| (high.toUInt16 <<< 8)) :: units rest
  | _ => []

theorem length_units : ∀ bytes : ByteBuffer, (units bytes).length = bytes.length / 2
  | [] => rfl
  | [_] => by simp [units]
  | low :: high :: rest => by
    rw [units, List.length_cons, length_units rest, List.length_cons, List.length_cons]
    omega

theorem unitAt_eq : ∀ (bytes : ByteBuffer) (k : ℕ), unitAt bytes (2 * k) = (units bytes)[k]?
  | [], k => by simp [unitAt, units]
  | [b], 0 => rfl
  | [b], k + 1 => by simp [unitAt, units, Nat.mul_add]
  | low :: high :: rest, 0 => rfl
  | low :: high :: rest, k + 1 => by
    have hnext := unitAt_eq rest k
    rw [units, List.getElem?_cons_succ, ← hnext]
    rfl

/-- The code point of a unit that is not read as a part of a pair.  A high surrogate is replaced if
another unit follows it. -/
def loneCodePoint (unit : UInt16) (last : Bool) : UInt32 :=
  if isHighSurrogate unit && !last then 0xfffd
  else if isLowSurrogate unit then 0xfffd
  else unit.toUInt32

/-- What is read of the code units, as far as the first 0: the code points, each with its units. -/
def readUnits : List UInt16 → List (UInt32 × List UInt16)
  | [] => []
  | [unit] => if unit = 0 then [] else [(loneCodePoint unit true, [unit])]
  | unit :: low :: others =>
    if unit = 0 then []
    else if isHighSurrogate unit && isLowSurrogate low then
      (pairCodePoint unit low, [unit, low]) :: readUnits others
    else (loneCodePoint unit false, [unit]) :: readUnits (low :: others)

/-- The code point at the last unit. -/
theorem codePointAt_last {bytes : ByteBuffer} {k : ℕ} {unit : UInt16}
    (h : (units bytes).drop k = [unit]) :
    codePointAt bytes (2 * k) unit = some (loneCodePoint unit true, [unit]) := by
  have hlength := congrArg List.length h
  rw [List.length_drop, length_units, List.length_singleton] at hlength
  have hend : ¬(isHighSurrogate unit = true ∧ 2 * k + 3 < bytes.length) := by omega
  rw [codePointAt, if_neg hend, loneCodePoint]
  cases isLowSurrogate unit
  · simp
  · simp

/-- The code point at a unit with another one behind it. -/
theorem codePointAt_of_next {bytes : ByteBuffer} {k : ℕ} {unit low : UInt16} {others : List UInt16}
    (h : (units bytes).drop k = unit :: low :: others) :
    codePointAt bytes (2 * k) unit =
      if isHighSurrogate unit && isLowSurrogate low then
        some (pairCodePoint unit low, [unit, low])
      else some (loneCodePoint unit false, [unit]) := by
  have hlength := congrArg List.length h
  rw [List.length_drop, length_units, List.length_cons, List.length_cons] at hlength
  have hlow : unitAt bytes (2 * k + 2) = some low := by
    have hnext := congrArg (fun us : List UInt16 => us[1]?) h
    simp only [List.getElem?_drop, List.getElem?_cons_succ, List.getElem?_cons_zero] at hnext
    exact (unitAt_eq bytes (k + 1)).trans hnext
  cases hhigh : isHighSurrogate unit with
  | false =>
    cases hsecond : isLowSurrogate unit with
    | false => simp [codePointAt, loneCodePoint, hhigh, hsecond]
    | true => simp [codePointAt, loneCodePoint, hhigh, hsecond]
  | true =>
    have hin : 2 * k + 3 < bytes.length := by omega
    rw [codePointAt, if_pos ⟨hhigh, hin⟩, hlow]
    cases hsecond : isLowSurrogate low with
    | false => simp [loneCodePoint, hhigh, hsecond]
    | true => simp [hsecond]

/-- The value when the code points have been appended. -/
def appendRead (value : StdString) (read : List (UInt32 × List UInt16)) : StdString :=
  read.foldl (fun value found => appendUtf8CodePoint value found.1) value

section Passes

variable {bytes : ByteBuffer} {k : ℕ} {unit : UInt16} {rest : List UInt16}
  (h : (units bytes).drop k = unit :: rest) (value : StdString) (taken : List (List UInt16))
include h

theorem unitAt_of_drop : 2 * k + 1 < bytes.length ∧ unitAt bytes (2 * k) = some unit := by
  have hlength := congrArg List.length h
  rw [List.length_drop, length_units, List.length_cons] at hlength
  have hfirst := congrArg (fun us : List UInt16 => us[0]?) h
  simp only [List.getElem?_drop, Nat.add_zero, List.getElem?_cons_zero] at hfirst
  exact ⟨by omega, (unitAt_eq bytes k).trans hfirst⟩

/-- A pass of the loop at a unit. -/
theorem run_utf8Loop_pass (hunit : unit ≠ 0) {found : UInt32 × List UInt16}
    (hfound : codePointAt bytes (2 * k) unit = some found) :
    (utf8Loop bytes).run ⟨2 * k, value, taken⟩ = (utf8Loop bytes).run
      ⟨2 * (k + found.2.length), appendUtf8CodePoint value found.1, taken ++ [found.2]⟩ := by
  obtain ⟨hin, hat⟩ := unitAt_of_drop h
  refine (utf8Loop bytes).run_of_inr ?_
  simp only [utf8Loop, if_pos hin, hat, if_neg hunit, hfound, Nat.mul_add]

/-- A unit 0 ends the loop. -/
theorem run_utf8Loop_zero (hunit : unit = 0) :
    (utf8Loop bytes).run ⟨2 * k, value, taken⟩ = some ⟨2 * k, value, taken⟩ := by
  obtain ⟨hin, hat⟩ := unitAt_of_drop h
  refine (utf8Loop bytes).run_of_inl ?_
  simp only [utf8Loop, if_pos hin, hat, if_pos hunit]

end Passes

/-- And so does the end of the buffer. -/
theorem run_utf8Loop_end {bytes : ByteBuffer} {k : ℕ} (h : (units bytes).drop k = [])
    (value : StdString) (taken : List (List UInt16)) :
    (utf8Loop bytes).run ⟨2 * k, value, taken⟩ = some ⟨2 * k, value, taken⟩ := by
  have hlength := congrArg List.length h
  rw [List.length_drop, length_units, List.length_nil] at hlength
  have hout : ¬2 * k + 1 < bytes.length := by omega
  refine (utf8Loop bytes).run_of_inl ?_
  simp only [utf8Loop, if_neg hout]

/-- **The loop over the bytes reads the code units.** -/
theorem run_utf8Loop {bytes : ByteBuffer} {us : List UInt16} {k : ℕ}
    (h : (units bytes).drop k = us) (value : StdString) (taken : List (List UInt16)) :
    ∃ index, (utf8Loop bytes).run ⟨2 * k, value, taken⟩ =
      some ⟨index, appendRead value (readUnits us), taken ++ (readUnits us).map Prod.snd⟩ := by
  induction us using readUnits.induct generalizing k value taken with
  | case1 =>
    refine ⟨2 * k, ?_⟩
    rw [run_utf8Loop_end h, readUnits, List.map_nil, List.append_nil]
    rfl
  | case2 =>
    refine ⟨2 * k, ?_⟩
    rw [run_utf8Loop_zero h value taken rfl, readUnits, if_pos rfl, List.map_nil,
      List.append_nil]
    rfl
  | case3 unit hunit =>
    have hnext : (units bytes).drop (k + 1) = [] := by
      rw [← List.drop_drop, h]
      rfl
    refine ⟨2 * (k + 1), ?_⟩
    rw [run_utf8Loop_pass h value taken hunit (codePointAt_last h), readUnits, if_neg hunit]
    exact run_utf8Loop_end hnext _ _
  | case4 low others =>
    refine ⟨2 * k, ?_⟩
    rw [run_utf8Loop_zero h value taken rfl, readUnits, if_pos rfl, List.map_nil,
      List.append_nil]
    rfl
  | case5 unit low others hunit hpair ih =>
    have hnext : (units bytes).drop (k + 2) = others := by
      rw [← List.drop_drop, h]
      rfl
    have hfound := codePointAt_of_next h
    rw [if_pos hpair] at hfound
    obtain ⟨index, hindex⟩ := ih hnext (appendUtf8CodePoint value (pairCodePoint unit low))
      (taken ++ [[unit, low]])
    refine ⟨index, ?_⟩
    rw [run_utf8Loop_pass h value taken hunit hfound, readUnits, if_neg hunit, if_pos hpair]
    rw [List.append_assoc] at hindex
    exact hindex
  | case6 unit low others hunit hpair ih =>
    have hnext : (units bytes).drop (k + 1) = low :: others := by
      rw [← List.drop_drop, h]
      rfl
    have hfound := codePointAt_of_next h
    rw [if_neg hpair] at hfound
    obtain ⟨index, hindex⟩ := ih hnext (appendUtf8CodePoint value (loneCodePoint unit false))
      (taken ++ [[unit]])
    refine ⟨index, ?_⟩
    rw [run_utf8Loop_pass h value taken hunit hfound, readUnits, if_neg hunit, if_neg hpair]
    rw [List.append_assoc] at hindex
    exact hindex

/-- **What `utf8FromUtf16LeText` gives for any buffer.** -/
theorem utf8FromUtf16LeText_eq (bytes : ByteBuffer) :
    utf8FromUtf16LeText bytes = some (normalizeCrlfToLf (appendRead [] (readUnits (units bytes))),
      (readUnits (units bytes)).map Prod.snd) := by
  obtain ⟨index, hindex⟩ := run_utf8Loop (List.drop_zero (l := units bytes)) [] []
  rw [utf8FromUtf16LeText, show (({} : Utf16Reading)) = ⟨2 * 0, [], []⟩ from rfl, hindex]
  rfl

/-! ## The code units that are read -/

theorem ne_zero_of_isLowSurrogate {low : UInt16} (h : isLowSurrogate low = true) : low ≠ 0 := by
  rintro rfl
  cases h

/-- **Every code unit in front of the first 0 is read once.** -/
theorem flatten_readUnits (us : List UInt16) :
    ((readUnits us).map Prod.snd).flatten = us.takeWhile (· != 0) := by
  induction us using readUnits.induct with
  | case1 => rfl
  | case2 => rfl
  | case3 unit hunit => simp [readUnits, hunit]
  | case4 low others => rfl
  | case5 unit low others hunit hpair ih =>
    have hlow := ne_zero_of_isLowSurrogate (Bool.and_eq_true_iff.mp hpair).2
    rw [readUnits, if_neg hunit, if_pos hpair, List.map_cons, List.flatten_cons, ih]
    simp [hunit, hlow]
  | case6 unit low others hunit hpair ih =>
    have hkeep : (unit != 0) = true := by simpa using hunit
    rw [readUnits, if_neg hunit, if_neg hpair, List.map_cons, List.flatten_cons, ih]
    exact (List.takeWhile_cons_of_pos (p := (· != 0)) hkeep).symm

/-- A portion of the code units: one of them, or a pair. -/
def Portion (us : List UInt16) : Prop :=
  (∃ unit, us = [unit]) ∨
    ∃ unit low, us = [unit, low] ∧ isHighSurrogate unit = true ∧ isLowSurrogate low = true

/-- They are read alone or in pairs. -/
theorem portion_of_mem_readUnits {us : List UInt16} {found : UInt32 × List UInt16}
    (h : found ∈ readUnits us) : Portion found.2 := by
  induction us using readUnits.induct with
  | case1 => cases h
  | case2 =>
    rw [readUnits, if_pos rfl] at h
    cases h
  | case3 unit hunit =>
    rw [readUnits, if_neg hunit, List.mem_singleton] at h
    exact Or.inl ⟨unit, congrArg Prod.snd h⟩
  | case4 low others =>
    rw [readUnits, if_pos rfl] at h
    cases h
  | case5 unit low others hunit hpair ih =>
    rw [readUnits, if_neg hunit, if_pos hpair] at h
    rcases List.mem_cons.mp h with rfl | h
    · exact Or.inr ⟨unit, low, rfl, Bool.and_eq_true_iff.mp hpair⟩
    · exact ih h
  | case6 unit low others hunit hpair ih =>
    rw [readUnits, if_neg hunit, if_neg hpair] at h
    rcases List.mem_cons.mp h with rfl | h
    · exact Or.inl ⟨unit, rfl⟩
    · exact ih h

/-! ## The code points that are read -/

theorem isHighSurrogate_iff {unit : UInt16} :
    isHighSurrogate unit = true ↔ 0xd800 ≤ unit.toNat ∧ unit.toNat ≤ 0xdbff := by
  simp [isHighSurrogate, UInt16.le_iff_toNat_le]

theorem isLowSurrogate_iff {unit : UInt16} :
    isLowSurrogate unit = true ↔ 0xdc00 ≤ unit.toNat ∧ unit.toNat ≤ 0xdfff := by
  simp [isLowSurrogate, UInt16.le_iff_toNat_le]

/-- The number of a pair: ten bits of each surrogate. -/
theorem toNat_pairCodePoint {unit low : UInt16} (hunit : isHighSurrogate unit = true)
    (hlow : isLowSurrogate low = true) : (pairCodePoint unit low).toNat =
      0x10000 + ((unit.toNat - 0xd800) * 0x400 + (low.toNat - 0xdc00)) := by
  rw [isHighSurrogate_iff] at hunit
  rw [isLowSurrogate_iff] at hlow
  have hfirst : (unit.toUInt32 - 0xd800).toNat = unit.toNat - 0xd800 := by
    rw [UInt32.toNat_sub_of_le _ _ (by
      rw [UInt32.le_iff_toNat_le, UInt16.toNat_toUInt32]
      exact hunit.1), UInt16.toNat_toUInt32]
    rfl
  have hsecond : (low.toUInt32 - 0xdc00).toNat = low.toNat - 0xdc00 := by
    rw [UInt32.toNat_sub_of_le _ _ (by
      rw [UInt32.le_iff_toNat_le, UInt16.toNat_toUInt32]
      exact hlow.1), UInt16.toNat_toUInt32]
    rfl
  have hshift : ((unit.toUInt32 - 0xd800) <<< 10).toNat = (unit.toNat - 0xd800) * 2 ^ 10 := by
    rw [UInt32.toNat_shiftLeft, hfirst, Nat.shiftLeft_eq]
    show (unit.toNat - 0xd800) * 2 ^ 10 % 2 ^ 32 = _
    exact Nat.mod_eq_of_lt (by omega)
  rw [pairCodePoint, UInt32.toNat_add, UInt32.toNat_or, hshift, hsecond,
    BigEndian.lor_low _ 10 (by omega)]
  show (0x10000 + ((unit.toNat - 0xd800) * 2 ^ 10 + (low.toNat - 0xdc00))) % 2 ^ 32 = _
  exact Nat.mod_eq_of_lt (by omega)

/-- A pair is a character. -/
theorem isScalar_pairCodePoint {unit low : UInt16} (hunit : isHighSurrogate unit = true)
    (hlow : isLowSurrogate low = true) : IsScalar (pairCodePoint unit low) := by
  have hvalue := toNat_pairCodePoint hunit hlow
  rw [isHighSurrogate_iff] at hunit
  rw [isLowSurrogate_iff] at hlow
  exact Or.inr ⟨by omega, by omega⟩

/-- A unit that is read alone is a character or is replaced by one, except for a high surrogate at
the end. -/
theorem isScalar_loneCodePoint {unit : UInt16} {last : Bool}
    (h : last = true → isHighSurrogate unit = false) : IsScalar (loneCodePoint unit last) := by
  have hreplacement : IsScalar 0xfffd := Or.inr ⟨by decide, by decide⟩
  rw [loneCodePoint]
  split
  · exact hreplacement
  next hhigh =>
    split
    · exact hreplacement
    next hlow =>
      have hnot : isHighSurrogate unit = false := by
        cases last with
        | true => exact h rfl
        | false => simpa using hhigh
      rw [← Bool.not_eq_true, isHighSurrogate_iff] at hnot
      rw [isLowSurrogate_iff] at hlow
      have hlt := unit.toNat_lt
      have hunit : unit.toUInt32.toNat = unit.toNat := UInt16.toNat_toUInt32 unit
      rcases Nat.lt_or_ge unit.toNat 0xd800 with hbelow | habove
      · exact Or.inl (by omega)
      · exact Or.inr ⟨by omega, by omega⟩

/-- The units have no 0, and the last one is a high surrogate. -/
def EndsHigh (us : List UInt16) : Prop :=
  0 ∉ us ∧ ∃ unit, us.getLast? = some unit ∧ isHighSurrogate unit = true

theorem endsHigh_cons {unit : UInt16} (hunit : unit ≠ 0) {us : List UInt16} (hus : us ≠ []) :
    EndsHigh (unit :: us) ↔ EndsHigh us := by
  obtain ⟨first, others, rfl⟩ := List.exists_cons_of_ne_nil hus
  rw [EndsHigh, EndsHigh, List.mem_cons, not_or, List.getLast?_cons_cons]
  exact ⟨fun h => ⟨h.1.2, h.2⟩, fun h => ⟨⟨Ne.symm hunit, h.1⟩, h.2⟩⟩

theorem not_endsHigh_nil : ¬EndsHigh [] := by
  rintro ⟨-, unit, hlast, -⟩
  cases hlast

theorem endsHigh_singleton {unit : UInt16} :
    EndsHigh [unit] ↔ unit ≠ 0 ∧ isHighSurrogate unit = true := by
  rw [EndsHigh, List.mem_singleton, List.getLast?_singleton]
  constructor
  · rintro ⟨hzero, last, hlast, hhigh⟩
    cases Option.some.inj hlast
    exact ⟨Ne.symm hzero, hhigh⟩
  · rintro ⟨hzero, hhigh⟩
    exact ⟨Ne.symm hzero, unit, rfl, hhigh⟩

theorem not_endsHigh_of_zero (us : List UInt16) : ¬EndsHigh (0 :: us) :=
  fun h => h.1 List.mem_cons_self

/-- **The code points that are read are characters, up to a high surrogate at the end.** -/
theorem readUnits_split (us : List UInt16) : ∃ front, (∀ found ∈ front, IsScalar found.1) ∧
    (¬EndsHigh us ∧ readUnits us = front ∨
      EndsHigh us ∧ ∃ unit, isHighSurrogate unit = true ∧
        readUnits us = front ++ [(unit.toUInt32, [unit])]) := by
  induction us using readUnits.induct with
  | case1 => exact ⟨[], List.forall_mem_nil _, Or.inl ⟨not_endsHigh_nil, rfl⟩⟩
  | case2 => exact ⟨[], List.forall_mem_nil _, Or.inl ⟨not_endsHigh_of_zero _, rfl⟩⟩
  | case3 unit hunit =>
    rw [readUnits, if_neg hunit]
    cases hhigh : isHighSurrogate unit with
    | true =>
      have hlone : loneCodePoint unit true = unit.toUInt32 := by
        have hlow : isLowSurrogate unit = false := by
          rw [isHighSurrogate_iff] at hhigh
          rw [← Bool.not_eq_true, isLowSurrogate_iff]
          omega
        simp [loneCodePoint, hlow]
      rw [hlone]
      exact ⟨[], List.forall_mem_nil _,
        Or.inr ⟨endsHigh_singleton.mpr ⟨hunit, hhigh⟩, unit, hhigh, rfl⟩⟩
    | false =>
      refine ⟨_, List.forall_mem_singleton.mpr (isScalar_loneCodePoint fun _ => hhigh),
        Or.inl ⟨fun h => ?_, rfl⟩⟩
      have hlast := (endsHigh_singleton.mp h).2
      rw [hhigh] at hlast
      cases hlast
  | case4 low others => exact ⟨[], List.forall_mem_nil _, Or.inl ⟨not_endsHigh_of_zero _, rfl⟩⟩
  | case5 unit low others hunit hpair ih =>
    obtain ⟨hhigh, hlow⟩ := Bool.and_eq_true_iff.mp hpair
    obtain ⟨front, hfront, hcases⟩ := ih
    have hlowZero := ne_zero_of_isLowSurrogate hlow
    have hends : EndsHigh (unit :: low :: others) ↔ EndsHigh others := by
      rw [endsHigh_cons hunit (List.cons_ne_nil _ _)]
      cases others with
      | nil =>
        refine iff_of_false (fun h => ?_) not_endsHigh_nil
        have hlast := (endsHigh_singleton.mp h).2
        rw [isHighSurrogate_iff] at hlast
        rw [isLowSurrogate_iff] at hlow
        omega
      | cons next others => exact endsHigh_cons hlowZero (List.cons_ne_nil _ _)
    rw [readUnits, if_neg hunit, if_pos hpair, hends]
    refine ⟨(pairCodePoint unit low, [unit, low]) :: front,
      List.forall_mem_cons.mpr ⟨isScalar_pairCodePoint hhigh hlow, hfront⟩, ?_⟩
    rcases hcases with ⟨hnot, heq⟩ | ⟨hyes, last, hlast, heq⟩
    · exact Or.inl ⟨hnot, by rw [heq]⟩
    · exact Or.inr ⟨hyes, last, hlast, by rw [heq, List.cons_append]⟩
  | case6 unit low others hunit hpair ih =>
    obtain ⟨front, hfront, hcases⟩ := ih
    have hlone : IsScalar (loneCodePoint unit false) := isScalar_loneCodePoint fun h => by cases h
    rw [readUnits, if_neg hunit, if_neg hpair, endsHigh_cons hunit (List.cons_ne_nil _ _)]
    refine ⟨(loneCodePoint unit false, [unit]) :: front,
      List.forall_mem_cons.mpr ⟨hlone, hfront⟩, ?_⟩
    rcases hcases with ⟨hnot, heq⟩ | ⟨hyes, last, hlast, heq⟩
    · exact Or.inl ⟨hnot, by rw [heq]⟩
    · exact Or.inr ⟨hyes, last, hlast, by rw [heq, List.cons_append]⟩

/-! ## The text -/

/-- One step of `normalizeCrlfToLf`: a CR is dropped in front of an LF. -/
def crlfToLf (b : UInt8) (next : Option UInt8) : List UInt8 :=
  if b = cr ∧ next = some lf then [] else [b]

theorem keepsHigh_crlfToLf : KeepsHigh crlfToLf where
  high b next hb := by
    refine if_neg fun h => hb ?_
    rw [h.1]
    decide
  ascii b next hb x hx := by
    rw [crlfToLf] at hx
    split at hx
    · cases hx
    · rw [List.mem_singleton.mp hx]
      exact hb

theorem normalizeCrlfToLf_cons (b : UInt8) (rest : StdString) :
    normalizeCrlfToLf (b :: rest) = crlfToLf b rest.head? ++ normalizeCrlfToLf rest := by
  by_cases hb : b = cr
  · subst hb
    cases rest with
    | nil => rfl
    | cons next others =>
      by_cases hnext : next = lf
      · subst hnext
        have hlf : normalizeCrlfToLf (lf :: others) = lf :: normalizeCrlfToLf others := by
          rw [normalizeCrlfToLf.eq_def]
          exact if_neg (by decide)
        rw [normalizeCrlfToLf, if_pos rfl, if_pos rfl, hlf]
        rfl
      · rw [normalizeCrlfToLf, if_pos rfl, if_neg hnext, List.head?_cons, crlfToLf,
          if_neg fun h => hnext (Option.some.inj h.2)]
        rfl
  · rw [normalizeCrlfToLf.eq_def, crlfToLf, if_neg fun h => hb h.1]
    exact if_neg hb

theorem normalizeCrlfToLf_eq (value : StdString) :
    normalizeCrlfToLf value = rewriteAscii crlfToLf value := by
  induction value with
  | nil => rfl
  | cons b rest ih => rw [normalizeCrlfToLf_cons, ih, rewriteAscii]

theorem appendRead_append (value : StdString) (read others : List (UInt32 × List UInt16)) :
    appendRead value (read ++ others) = appendRead (appendRead value read) others :=
  List.foldl_append

/-- Characters make a text. -/
theorem wellFormed_appendRead {read : List (UInt32 × List UInt16)}
    (h : ∀ found ∈ read, IsScalar found.1) {value : StdString} (hvalue : WellFormed value) :
    WellFormed (appendRead value read) := by
  induction read generalizing value with
  | nil => exact hvalue
  | cons found read ih =>
    have hfirst : appendUtf8CodePoint value found.1 = _ :=
      appendUtf8CodePoint_char value ⟨found.1, h found List.mem_cons_self⟩
    show WellFormed (appendRead (appendUtf8CodePoint value found.1) read)
    rw [hfirst]
    exact ih (fun found hfound => h found (List.mem_cons_of_mem _ hfound))
      (hvalue.append (Utf8.wellFormed_char _))

/-- A surrogate of its own behind a text is no text. -/
theorem not_wellFormed_normalized {value : StdString} (hvalue : WellFormed value) {unit : UInt16}
    (hhigh : isHighSurrogate unit = true) :
    ¬WellFormed (normalizeCrlfToLf (appendUtf8CodePoint value unit.toUInt32)) := by
  have hrange := isHighSurrogate_iff.mp hhigh
  have hnat : unit.toUInt32.toNat = unit.toNat := UInt16.toNat_toUInt32 unit
  have hbytes : ∀ b ∈ scheme unit.toNat, ¬b < 0x80 :=
    fun b hb => Utf8.high_of_mem_scheme (by omega) hb
  -- The first byte of the surrogate is no LF, so that a CR in front of it stays.
  have hseam : ∀ b, crlfToLf b (scheme unit.toNat).head? = crlfToLf b none := by
    intro b
    rw [Utf8.scheme_of_surrogate (by omega) (by omega)] at hbytes ⊢
    have hfirst := hbytes _ List.mem_cons_self
    rw [crlfToLf, crlfToLf, if_neg, if_neg fun h => nomatch h.2]
    rintro ⟨-, hlf⟩
    rw [List.head?_cons, Option.some.injEq] at hlf
    rw [hlf] at hfirst
    exact hfirst (by decide)
  have hsame := Utf8.rewriteAscii_append_of_high keepsHigh_crlfToLf hbytes []
  rw [List.append_nil] at hsame
  rw [normalizeCrlfToLf_eq, appendUtf8CodePoint_eq value (by omega), hnat,
    Utf8.rewriteAscii_append hseam, hsame]
  exact Utf8.not_wellFormed_surrogate (hvalue.rewriteAscii keepsHigh_crlfToLf) (by omega)
    (by omega)

/-- The text of the code units is well-formed exactly without a high surrogate at the end. -/
theorem wellFormed_readUnits_iff (us : List UInt16) :
    WellFormed (normalizeCrlfToLf (appendRead [] (readUnits us))) ↔ ¬EndsHigh us := by
  obtain ⟨front, hfront, hcases⟩ := readUnits_split us
  have hvalue := wellFormed_appendRead hfront WellFormed.nil
  rcases hcases with ⟨hnot, heq⟩ | ⟨hends, unit, hhigh, heq⟩
  · rw [heq, normalizeCrlfToLf_eq]
    exact iff_of_true (hvalue.rewriteAscii keepsHigh_crlfToLf) hnot
  · rw [heq, appendRead_append]
    exact iff_of_false (not_wellFormed_normalized hvalue hhigh) fun h => h hends

/-- The buffer is read as a text: no read is outside of it, the result is well-formed, and every code
unit in front of the first 0 is read once, alone or in a pair. -/
def ReadAsText (bytes : ByteBuffer) : Prop :=
  ∃ output taken, utf8FromUtf16LeText bytes = some (output, taken) ∧ WellFormed output ∧
    taken.flatten = (units bytes).takeWhile (· != 0) ∧ ∀ us ∈ taken, Portion us

/-- All of it but the well-formed result is so for any buffer. -/
theorem readAsText_iff_wellFormed (bytes : ByteBuffer) : ReadAsText bytes ↔
    WellFormed (normalizeCrlfToLf (appendRead [] (readUnits (units bytes)))) := by
  constructor
  · rintro ⟨output, taken, heq, houtput, -⟩
    rw [utf8FromUtf16LeText_eq, Option.some.injEq, Prod.mk.injEq] at heq
    rw [heq.1]
    exact houtput
  · intro h
    refine ⟨_, _, utf8FromUtf16LeText_eq bytes, h, flatten_readUnits _, fun us hus => ?_⟩
    obtain ⟨found, hfound, rfl⟩ := List.mem_map.mp hus
    exact portion_of_mem_readUnits hfound

/-- **A buffer is read as a text exactly if its code units do not end with a high surrogate.** -/
theorem utf8FromUtf16LeText_readAsText_iff (bytes : ByteBuffer) :
    ReadAsText bytes ↔ ¬EndsHigh (units bytes) :=
  (readAsText_iff_wellFormed bytes).trans (wellFormed_readUnits_iff (units bytes))

/-- The high surrogate `0xd800` alone becomes the bytes `ed a0 80`, which are no text. -/
theorem not_readAsText_lone_high_surrogate :
    (utf8FromUtf16LeText [0x00, 0xd8]).map Prod.fst = some [0xed, 0xa0, 0x80] ∧
      ¬ReadAsText [0x00, 0xd8] := by
  refine ⟨by decide +kernel, fun h => ?_⟩
  have hends : EndsHigh (units [0x00, 0xd8]) :=
    endsHigh_singleton.mpr ⟨by decide, by decide⟩
  exact (wellFormed_readUnits_iff _).mp ((readAsText_iff_wellFormed _).mp h) hends

end Clipboard
end FusionDesk
