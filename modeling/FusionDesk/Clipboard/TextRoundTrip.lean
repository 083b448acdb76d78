import FusionDesk.Clipboard.Utf16Reading

/-!
# Text through UTF-16 and back

A text that goes to Windows and comes back.

* `nextUtf8CodePoint_encode`, `run_utf16Loop`: the characters of a well-formed text are read one
  after the other, and written as their code units.
* `readUnits_charUnits`: the code units of characters are read as these characters.
* `normalizeCrlfToLf_normalizeLfToCrlf`: what the two passes over the line ends do together.
* `textRoundTrip`: a text comes back with LF for every line end.
-/

namespace FusionDesk
namespace Clipboard

open Protocol
open Utf8 (WellFormed encode scheme KeepsHigh rewriteAscii)
open String (utf8EncodeChar)

/-! ## Reading a character -/

theorem leadByte_two {k : ℕ} (h : k < 0x20) :
    leadByte (UInt8.ofNat (k + 0xc0)) = some ⟨UInt32.ofNat k, 1, 0x80⟩ := by
  revert k
  decide

theorem leadByte_three {k : ℕ} (h : k < 0x10) :
    leadByte (UInt8.ofNat (k + 0xe0)) = some ⟨UInt32.ofNat k, 2, 0x800⟩ := by
  revert k
  decide

theorem leadByte_four {k : ℕ} (h : k < 0x08) :
    leadByte (UInt8.ofNat (k + 0xf0)) = some ⟨UInt32.ofNat k, 3, 0x10000⟩ := by
  revert k
  decide

/-- A byte behind the first one has its mark and six bits. -/
theorem tailBits {k : ℕ} (h : k < 0x40) :
    UInt8.ofNat (k + 0x80) &&& 0xc0 = 0x80 ∧
      (UInt8.ofNat (k + 0x80) &&& 0x3f).toUInt32 = UInt32.ofNat k := by
  revert k
  decide

/-- Such a byte is read into the code point. -/
theorem addTailByte_eq {value : StdString} {index offset n k : ℕ} (hk : k < 0x40)
    (hn : n < 2 ^ 26) (hbyte : value.getD (index + offset) 0 = UInt8.ofNat (k + 0x80)) :
    addTailByte value index (UInt32.ofNat n) offset = some (UInt32.ofNat (n * 64 + k)) := by
  obtain ⟨hmark, hbits⟩ := tailBits hk
  have hvalue : UInt32.ofNat n <<< 6 ||| UInt32.ofNat k = UInt32.ofNat (n * 64 + k) := by
    apply UInt32.toNat_inj.mp
    have hsize : UInt32.size = 2 ^ 32 := rfl
    rw [UInt32.toNat_or, UInt32.toNat_shiftLeft, UInt32.toNat_ofNat_of_lt' (by omega),
      UInt32.toNat_ofNat_of_lt' (by omega), UInt32.toNat_ofNat_of_lt' (by omega),
      Nat.shiftLeft_eq]
    show n * 2 ^ 6 % 2 ^ 32 ||| k = n * 2 ^ 6 + k
    rw [Nat.mod_eq_of_lt (by omega), BigEndian.lor_low n 6 hk]
  rw [addTailByte, hbyte]
  simp only [hmark, hbits, hvalue, ne_eq, not_true_eq_false, if_false]

/-- The bytes at an index behind some others. -/
theorem getD_behind (front bytes rest : StdString) {k : ℕ} {b : UInt8} (h : bytes[k]? = some b) :
    (front ++ (bytes ++ rest)).getD (front.length + k) 0 = b := by
  rw [List.getD_eq_getElem?_getD, List.getElem?_append_right (Nat.le_add_right _ _),
    Nat.add_sub_cancel_left, List.getElem?_append_left (List.getElem?_eq_some_iff.mp h).1, h]
  rfl

/-- The loop over the bytes behind the first one puts their bits together. -/
theorem foldlM_addTailByte (value : StdString) (index offset : ℕ) {bits : List ℕ} {n : ℕ}
    (hbits : ∀ k ∈ bits, k < 0x40) (hn : (n + 1) * 64 ^ bits.length ≤ 2 ^ 32)
    (hbytes : ∀ i k, bits[i]? = some k →
      value.getD (index + (offset + i)) 0 = UInt8.ofNat (k + 0x80)) :
    (List.range' offset bits.length).foldlM (addTailByte value index) (UInt32.ofNat n) =
      some (UInt32.ofNat (bits.foldl (fun n k => n * 64 + k) n)) := by
  induction bits generalizing n offset with
  | nil => rfl
  | cons k bits ih =>
    have hk := hbits k List.mem_cons_self
    rw [List.length_cons, pow_succ] at hn
    have hpos : 0 < 64 ^ bits.length := Nat.pow_pos (by decide)
    have hnext : (n * 64 + k + 1) * 64 ^ bits.length ≤ 2 ^ 32 := by
      calc (n * 64 + k + 1) * 64 ^ bits.length ≤ (n + 1) * 64 * 64 ^ bits.length :=
            Nat.mul_le_mul_right _ (by omega)
        _ = (n + 1) * (64 ^ bits.length * 64) := by ring
        _ ≤ 2 ^ 32 := hn
    have hsmall : n < 2 ^ 26 := by
      have hle : (n * 64 + k + 1) * 1 ≤ (n * 64 + k + 1) * 64 ^ bits.length :=
        Nat.mul_le_mul_left _ hpos
      omega
    have hfirst := addTailByte_eq hk hsmall (hbytes 0 k rfl)
    have hrest := ih (offset + 1) (fun x hx => hbits x (List.mem_cons_of_mem _ hx)) hnext
      (fun i x hx => by rw [← hbytes (i + 1) x hx]; congr 2; omega)
    rw [List.length_cons, List.range'_succ, List.foldlM_cons, Nat.add_zero] at *
    rw [hfirst]
    exact hrest

/-- A longer sequence is read, if its first byte says how long it is and its bits make a character
that is not too small for it. -/
theorem nextUtf8CodePoint_sequence (front rest : StdString) {v n : ℕ} {first : UInt8}
    {bits : List ℕ} {minValue : UInt32} (hvalid : IsScalar (UInt32.ofNat v))
    (hlead : leadByte first = some ⟨UInt32.ofNat n, bits.length, minValue⟩)
    (hhigh : ¬first < 0x80) (hbits : ∀ k ∈ bits, k < 0x40)
    (hn : (n + 1) * 64 ^ bits.length ≤ 2 ^ 32)
    (hvalue : bits.foldl (fun n k => n * 64 + k) n = v)
    (hmin : minValue ≤ UInt32.ofNat v) {bytes : StdString}
    (hbytes : bytes = first :: bits.map fun k => UInt8.ofNat (k + 0x80)) :
    nextUtf8CodePoint (front ++ (bytes ++ rest)) front.length =
      (UInt32.ofNat v, front.length + bytes.length) := by
  have hlength : bytes.length = bits.length + 1 := by
    rw [hbytes, List.length_cons, List.length_map]
  have hin : ¬front.length ≥ (front ++ (bytes ++ rest)).length := by
    simp only [List.length_append]
    omega
  have hfits : ¬front.length + bits.length ≥ (front ++ (bytes ++ rest)).length := by
    simp only [List.length_append]
    omega
  have hfirst : (front ++ (bytes ++ rest)).getD front.length 0 = first :=
    getD_behind front bytes rest (k := 0) (by rw [hbytes]; rfl)
  have hfold := foldlM_addTailByte (front ++ (bytes ++ rest)) front.length 1 hbits hn
    fun i k hi => by
      refine getD_behind front bytes rest ?_
      rw [hbytes, Nat.add_comm, List.getElem?_cons_succ, List.getElem?_map, hi]
      rfl
  have hnot : ¬(UInt32.ofNat v < minValue ∨ UInt32.ofNat v > 0x10ffff ∨
      UInt32.ofNat v ≥ 0xd800 ∧ UInt32.ofNat v ≤ 0xdfff) := by
    have hscalar : (UInt32.ofNat v).toNat < 0xd800 ∨
        0xdfff < (UInt32.ofNat v).toNat ∧ (UInt32.ofNat v).toNat < 0x110000 := hvalid
    rw [UInt32.le_iff_toNat_le] at hmin
    simp only [gt_iff_lt, ge_iff_le, UInt32.lt_iff_toNat_lt, UInt32.le_iff_toNat_le,
      UInt32.reduceToNat]
    omega
  rw [hvalue, List.range'_eq_map_range, List.map_congr_left fun k _ => Nat.add_comm 1 k] at hfold
  rw [nextUtf8CodePoint, if_neg hin]
  simp only [hfirst, if_neg hhigh, hlead, if_neg hfits, hfold, if_neg hnot, hlength,
    Nat.add_assoc]

/-- **A character of the text is read, with all of its bytes.** -/
theorem nextUtf8CodePoint_encode (front rest : StdString) (c : Char) :
    nextUtf8CodePoint (front ++ (utf8EncodeChar c ++ rest)) front.length =
      (c.val, front.length + (utf8EncodeChar c).length) := by
  obtain ⟨v, hv⟩ : ∃ v, v = c.val.toNat := ⟨_, rfl⟩
  have hchar : UInt32.ofNat v = c.val := hv ▸ UInt32.ofNat_toNat
  have hvalid : IsScalar (UInt32.ofNat v) := hchar ▸ c.valid
  have hlt : v < 0x110000 := by
    have hrange : c.val.toNat < 0xd800 ∨ 0xdfff < c.val.toNat ∧ c.val.toNat < 0x110000 := c.valid
    omega
  have hmin : ∀ m : UInt32, m.toNat ≤ v → m ≤ UInt32.ofNat v := by
    intro m hm
    rw [UInt32.le_iff_toNat_le, UInt32.toNat_ofNat_of_lt' (Nat.lt_trans hlt (by decide))]
    exact hm
  have hhigh : ∀ {b : UInt8} {tail : List UInt8}, ¬v < 0x80 → scheme v = b :: tail → ¬b < 0x80 :=
    fun hnot heq => Utf8.high_of_mem_scheme hnot (heq ▸ List.mem_cons_self)
  rw [Utf8.utf8EncodeChar_eq_scheme, ← hv, ← hchar]
  by_cases hone : v ≤ 0x7f
  · have hbytes : scheme v = [UInt8.ofNat v] := if_pos hone
    have hget := getD_behind front (scheme v) rest (k := 0) (by rw [hbytes]; rfl)
    have hbyte : (UInt8.ofNat v).toNat = v :=
      UInt8.toNat_ofNat_of_lt' (Nat.lt_of_le_of_lt hone (by decide))
    have hascii : UInt8.ofNat v < 0x80 := by
      rw [UInt8.lt_iff_toNat_lt, hbyte]
      exact Nat.lt_succ_of_le hone
    have hin : ¬front.length ≥ (front ++ (scheme v ++ rest)).length := by
      rw [hbytes]
      simp only [List.length_append, List.length_cons, List.length_nil]
      omega
    have hvalue : (UInt8.ofNat v).toUInt32 = UInt32.ofNat v := by
      apply UInt32.toNat_inj.mp
      rw [UInt8.toNat_toUInt32, hbyte, UInt32.toNat_ofNat_of_lt' (Nat.lt_trans hlt (by decide))]
    have hlength : (scheme v).length = 1 := congrArg List.length hbytes
    rw [nextUtf8CodePoint, if_neg hin]
    rw [Nat.add_zero] at hget
    simp only [hget, if_pos hascii, hvalue, hlength]
  by_cases htwo : v ≤ 0x7ff
  · have hbytes : scheme v = UInt8.ofNat (v / 64 % 0x20 + 0xc0) ::
        [v % 0x40].map fun k => UInt8.ofNat (k + 0x80) := by
      rw [scheme, if_neg hone, if_pos htwo]
      rfl
    exact nextUtf8CodePoint_sequence front rest hvalid
      (leadByte_two (Nat.mod_lt (v / 64) (by decide))) (hhigh (by omega) hbytes)
      (by simp only [List.mem_singleton, forall_eq]; omega)
      (by simp only [List.length_singleton]; omega)
      (by simp only [List.foldl_cons, List.foldl_nil]; omega) (hmin 0x80 (Nat.lt_of_not_le hone)) hbytes
  by_cases hthree : v ≤ 0xffff
  · have hbytes : scheme v = UInt8.ofNat (v / 4096 % 0x10 + 0xe0) ::
        [v / 64 % 0x40, v % 0x40].map fun k => UInt8.ofNat (k + 0x80) := by
      rw [scheme, if_neg hone, if_neg htwo, if_pos hthree]
      rfl
    exact nextUtf8CodePoint_sequence front rest hvalid
      (leadByte_three (Nat.mod_lt (v / 4096) (by decide))) (hhigh (by omega) hbytes)
      (by simp only [List.mem_cons, List.not_mem_nil, or_false, forall_eq_or_imp, forall_eq]; omega)
      (by simp only [List.length_cons, List.length_nil]; omega)
      (by simp only [List.foldl_cons, List.foldl_nil]; omega) (hmin 0x800 (Nat.lt_of_not_le htwo)) hbytes
  · have hbytes : scheme v = UInt8.ofNat (v / 262144 % 0x08 + 0xf0) ::
        [v / 4096 % 0x40, v / 64 % 0x40, v % 0x40].map fun k => UInt8.ofNat (k + 0x80) := by
      rw [scheme, if_neg hone, if_neg htwo, if_neg hthree]
      rfl
    exact nextUtf8CodePoint_sequence front rest hvalid
      (leadByte_four (Nat.mod_lt (v / 262144) (by decide))) (hhigh (by omega) hbytes)
      (by simp only [List.mem_cons, List.not_mem_nil, or_false, forall_eq_or_imp, forall_eq]; omega)
      (by simp only [List.length_cons, List.length_nil]; omega)
      (by simp only [List.foldl_cons, List.foldl_nil]; omega) (hmin 0x10000 (Nat.lt_of_not_le hthree))
      hbytes

/-! ## Writing the code units -/

/-- The bytes of some code units. -/
def unitBytes (us : List UInt16) : ByteBuffer :=
  us.flatMap fun unit : UInt16 => [(unit &&& 0xff).toUInt8, ((unit >>> 8) &&& 0xff).toUInt8]

/-- The code units of a character. -/
def charUnits (c : Char) : List UInt16 :=
  if c.val ≤ 0xffff then [c.val.toUInt16]
  else
    [((0xd800 : UInt32) + ((c.val - 0x10000) >>> 10)).toUInt16,
      ((0xdc00 : UInt32) + ((c.val - 0x10000) &&& 0x3ff)).toUInt16]

theorem unitBytes_append (us others : List UInt16) :
    unitBytes (us ++ others) = unitBytes us ++ unitBytes others := List.flatMap_append

theorem appendUtf16LeUnit_eq (output : ByteBuffer) (unit : UInt16) :
    appendUtf16LeUnit output unit = output ++ unitBytes [unit] := rfl

theorem appendUtf16LeCodePoint_char (output : ByteBuffer) (c : Char) :
    appendUtf16LeCodePoint output c.val = output ++ unitBytes (charUnits c) := by
  rw [appendUtf16LeCodePoint, charUnits]
  split
  · rfl
  · exact List.append_assoc _ _ _

/-- **The loop writes the code units of the characters**, one after the other. -/
theorem run_utf16Loop (chars : List Char) (front : StdString) (output : ByteBuffer) :
    (utf16Loop (front ++ encode chars)).run (front.length, output) =
      output ++ unitBytes (chars.flatMap charUnits) := by
  induction chars generalizing front output with
  | nil =>
    refine BoundedLoop.run_of_inl _ ?_
    simp [utf16Loop, unitBytes]
  | cons c chars ih =>
    have hin : front.length < (front ++ encode (c :: chars)).length := by
      have hpos := List.length_pos_of_ne_nil (String.utf8EncodeChar_ne_nil (c := c))
      simp only [List.length_append, Utf8.encode_cons]
      omega
    have hnext := nextUtf8CodePoint_encode front (encode chars) c
    have hrest := ih (front ++ utf8EncodeChar c) (appendUtf16LeCodePoint output c.val)
    rw [List.append_assoc, ← Utf8.encode_cons, List.length_append] at hrest
    rw [List.flatMap_cons, unitBytes_append, ← List.append_assoc, ← appendUtf16LeCodePoint_char,
      ← hrest]
    refine BoundedLoop.run_of_inr _ ?_
    rw [← Utf8.encode_cons] at hnext
    simp only [utf16Loop, if_pos hin, hnext]

/-! ## Reading the code units -/

/-- A unit from its two bytes. -/
theorem unit_of_bytes (unit : UInt16) : (unit &&& 0xff).toUInt8.toUInt16 |||
    (((unit >>> 8) &&& 0xff).toUInt8.toUInt16 <<< 8) = unit := by
  have hlt := unit.toNat_lt
  have hmask : ∀ u : UInt16, (u &&& 0xff).toUInt8.toUInt16.toNat = u.toNat % 256 := by
    intro u
    rw [UInt8.toNat_toUInt16, UInt16.toNat_toUInt8, UInt16.toNat_and]
    show (u.toNat &&& 2 ^ 8 - 1) % 256 = _
    rw [Nat.and_two_pow_sub_one_eq_mod, Nat.mod_mod]
  have hshift : (unit >>> 8).toNat = unit.toNat / 256 := by
    rw [UInt16.toNat_shiftRight, Nat.shiftRight_eq_div_pow]
    rfl
  have hhigh : (((unit >>> 8) &&& 0xff).toUInt8.toUInt16 <<< 8).toNat =
      unit.toNat / 256 * 2 ^ 8 := by
    rw [UInt16.toNat_shiftLeft, hmask, hshift, Nat.shiftLeft_eq]
    show unit.toNat / 256 % 256 * 2 ^ 8 % 2 ^ 16 = _
    omega
  apply UInt16.toNat_inj.mp
  rw [UInt16.toNat_or, hmask, hhigh, Nat.or_comm, BigEndian.lor_low _ 8 (by omega)]
  omega

theorem units_unitBytes (us : List UInt16) : units (unitBytes us) = us := by
  induction us with
  | nil => rfl
  | cons unit us ih =>
    show _ :: units (unitBytes us) = _
    rw [ih, unit_of_bytes]

/-- A unit that is no surrogate is read as its number. -/
theorem readUnits_plain {unit : UInt16} (hunit : unit ≠ 0) (hhigh : isHighSurrogate unit = false)
    (hlow : isLowSurrogate unit = false) (us : List UInt16) :
    readUnits (unit :: us) = (unit.toUInt32, [unit]) :: readUnits us := by
  cases us with
  | nil => simp [readUnits, hunit, loneCodePoint, hhigh, hlow]
  | cons low us => simp [readUnits, hunit, loneCodePoint, hhigh, hlow]

/-- A pair is read as its number. -/
theorem readUnits_pair {unit low : UInt16} (hhigh : isHighSurrogate unit = true)
    (hlow : isLowSurrogate low = true) (us : List UInt16) :
    readUnits (unit :: low :: us) = (pairCodePoint unit low, [unit, low]) :: readUnits us := by
  have hunit : unit ≠ 0 := by
    rintro rfl
    cases hhigh
  simp [readUnits, hunit, hhigh, hlow]

/-- The units of a character are read as this character. -/
theorem readUnits_charUnits {c : Char} (hc : c ≠ Char.ofNat 0) (us : List UInt16) :
    readUnits (charUnits c ++ us) = (c.val, charUnits c) :: readUnits us := by
  have hvalid : c.val.toNat < 0xd800 ∨ 0xdfff < c.val.toNat ∧ c.val.toNat < 0x110000 := c.valid
  have hzero : c.val.toNat ≠ 0 := fun h => hc (Char.ext (UInt32.toNat_inj.mp h))
  rw [charUnits]
  by_cases hsmall : c.val ≤ 0xffff
  · rw [if_pos hsmall]
    rw [UInt32.le_iff_toNat_le] at hsmall
    have hunit : c.val.toUInt16.toNat = c.val.toNat := by
      rw [UInt32.toNat_toUInt16]
      exact Nat.mod_eq_of_lt (Nat.lt_succ_of_le hsmall)
    have hvalue : c.val.toUInt16.toUInt32 = c.val := by
      apply UInt32.toNat_inj.mp
      rw [UInt16.toNat_toUInt32, hunit]
    rw [List.singleton_append, readUnits_plain, hvalue]
    · exact fun h => hzero (hunit ▸ congrArg UInt16.toNat h)
    · rw [← Bool.not_eq_true, isHighSurrogate_iff, hunit]
      omega
    · rw [← Bool.not_eq_true, isLowSurrogate_iff, hunit]
      omega
  · rw [if_neg hsmall]
    rw [UInt32.le_iff_toNat_le, show (0xffff : UInt32).toNat = 0xffff from rfl] at hsmall
    have hscalar : (c.val - 0x10000).toNat = c.val.toNat - 0x10000 := by
      refine UInt32.toNat_sub_of_le _ _ ?_
      rw [UInt32.le_iff_toNat_le]
      exact Nat.lt_of_not_le hsmall
    have hfirst : ((0xd800 : UInt32) + ((c.val - 0x10000) >>> 10)).toUInt16.toNat =
        0xd800 + (c.val.toNat - 0x10000) / 1024 := by
      rw [UInt32.toNat_toUInt16, UInt32.toNat_add, toNat_shiftRight _ (by decide), hscalar]
      show (0xd800 + (c.val.toNat - 0x10000) / 1024) % 2 ^ 32 % 2 ^ 16 = _
      omega
    have hsecond : ((0xdc00 : UInt32) + ((c.val - 0x10000) &&& 0x3ff)).toUInt16.toNat =
        0xdc00 + (c.val.toNat - 0x10000) % 1024 := by
      rw [UInt32.toNat_toUInt16, UInt32.toNat_add, UInt32.toNat_and, hscalar]
      show (0xdc00 + (c.val.toNat - 0x10000 &&& 2 ^ 10 - 1)) % 2 ^ 32 % 2 ^ 16 = _
      rw [Nat.and_two_pow_sub_one_eq_mod]
      omega
    have hhigh := isHighSurrogate_iff.mpr (hfirst ▸ (by omega :
      0xd800 ≤ 0xd800 + (c.val.toNat - 0x10000) / 1024 ∧
        0xd800 + (c.val.toNat - 0x10000) / 1024 ≤ 0xdbff))
    have hlow := isLowSurrogate_iff.mpr (hsecond ▸ (by omega :
      0xdc00 ≤ 0xdc00 + (c.val.toNat - 0x10000) % 1024 ∧
        0xdc00 + (c.val.toNat - 0x10000) % 1024 ≤ 0xdfff))
    have hvalue := toNat_pairCodePoint hhigh hlow
    rw [hfirst, hsecond] at hvalue
    have hpair : pairCodePoint _ _ = c.val := UInt32.toNat_inj.mp (hvalue.trans (by omega))
    rw [List.cons_append, List.singleton_append, readUnits_pair hhigh hlow, hpair]

/-- So are the units of some characters, as far as a unit 0. -/
theorem readUnits_flatMap {chars : List Char} (hchars : Char.ofNat 0 ∉ chars) :
    readUnits (chars.flatMap charUnits ++ [0]) = chars.map fun c => (c.val, charUnits c) := by
  induction chars with
  | nil => rfl
  | cons c chars ih =>
    rw [List.mem_cons, not_or] at hchars
    rw [List.flatMap_cons, List.append_assoc, readUnits_charUnits (Ne.symm hchars.1),
      ih hchars.2, List.map_cons]

theorem appendRead_map (chars : List Char) (value : StdString) :
    appendRead value (chars.map fun c => (c.val, charUnits c)) = value ++ encode chars := by
  induction chars generalizing value with
  | nil => exact (List.append_nil value).symm
  | cons c chars ih =>
    show appendRead (appendUtf8CodePoint value c.val) _ = _
    rw [ih, appendUtf8CodePoint_char, List.append_assoc, Utf8.encode_cons]

/-! ## Line ends -/

/-- One step of `normalizeLfToCrlf`: a line end becomes CRLF, at the LF of a CRLF. -/
def lfToCrlf (b : UInt8) (next : Option UInt8) : List UInt8 :=
  if b = cr then if next = some lf then [] else [cr, lf]
  else if b = lf then [cr, lf]
  else [b]

/-- Each line end, be it CRLF, CR or LF, becomes one LF. -/
def lineEndsToLf : StdString → StdString
  | b :: next :: rest =>
    if b = cr ∧ next = lf then lf :: lineEndsToLf rest
    else if b = cr then lf :: lineEndsToLf (next :: rest)
    else b :: lineEndsToLf (next :: rest)
  | [b] => if b = cr then [lf] else [b]
  | [] => []

/-- One step of `lineEndsToLf`: a line end becomes LF, at the LF of a CRLF. -/
def lineEnd (b : UInt8) (next : Option UInt8) : List UInt8 :=
  if b = cr then if next = some lf then [] else [lf] else [b]

theorem keepsHigh_lfToCrlf : KeepsHigh lfToCrlf where
  high b next hb := by
    have hcr : b ≠ cr := fun h => hb (h ▸ by decide)
    have hlf : b ≠ lf := fun h => hb (h ▸ by decide)
    rw [lfToCrlf, if_neg hcr, if_neg hlf]
  ascii b next hb x hx := by
    have hends : ∀ x ∈ [cr, lf], x < 0x80 := by decide +kernel
    rw [lfToCrlf] at hx
    split at hx
    · split at hx
      · cases hx
      · exact hends x hx
    · split at hx
      · exact hends x hx
      · rw [List.mem_singleton.mp hx]
        exact hb

theorem keepsHigh_lineEnd : KeepsHigh lineEnd where
  high b next hb := by
    have hcr : b ≠ cr := fun h => hb (h ▸ by decide)
    rw [lineEnd, if_neg hcr]
  ascii b next hb x hx := by
    rw [lineEnd] at hx
    split at hx
    · split at hx
      · cases hx
      · rw [List.mem_singleton.mp hx]
        decide
    · rw [List.mem_singleton.mp hx]
      exact hb

theorem normalizeLfToCrlf_cons (b : UInt8) (rest : StdString) :
    normalizeLfToCrlf (b :: rest) = lfToCrlf b rest.head? ++ normalizeLfToCrlf rest := by
  by_cases hb : b = cr
  · subst hb
    cases rest with
    | nil => rfl
    | cons next others =>
      by_cases hnext : next = lf
      · subst hnext
        have hlf : normalizeLfToCrlf (lf :: others) = cr :: lf :: normalizeLfToCrlf others := by
          rw [normalizeLfToCrlf.eq_def]
          exact (if_neg (by decide)).trans (if_pos rfl)
        rw [normalizeLfToCrlf, if_pos rfl, if_pos rfl, hlf]
        rfl
      · rw [normalizeLfToCrlf, if_pos rfl, if_neg hnext, List.head?_cons, lfToCrlf, if_pos rfl,
          if_neg fun h => hnext (Option.some.inj h)]
        rfl
  · rw [normalizeLfToCrlf.eq_def, lfToCrlf, if_neg hb]
    refine (if_neg hb).trans ?_
    split
    · rfl
    · rfl

theorem normalizeLfToCrlf_eq (value : StdString) :
    normalizeLfToCrlf value = rewriteAscii lfToCrlf value := by
  induction value with
  | nil => rfl
  | cons b rest ih => rw [normalizeLfToCrlf_cons, ih, rewriteAscii]

theorem lineEndsToLf_cons (b : UInt8) (rest : StdString) :
    lineEndsToLf (b :: rest) = lineEnd b rest.head? ++ lineEndsToLf rest := by
  cases rest with
  | nil =>
    by_cases hb : b = cr
    · simp [lineEndsToLf, lineEnd, hb]
    · simp [lineEndsToLf, lineEnd, hb]
  | cons next others =>
    by_cases hb : b = cr
    · subst hb
      by_cases hnext : next = lf
      · subst hnext
        have hlf : lineEndsToLf (lf :: others) = lf :: lineEndsToLf others := by
          cases others with
          | nil => rfl
          | cons next others => rfl
        rw [lineEndsToLf, if_pos ⟨rfl, rfl⟩, hlf]
        rfl
      · simp [lineEndsToLf, lineEnd, hnext]
    · simp [lineEndsToLf, lineEnd, hb]

theorem lineEndsToLf_eq (value : StdString) : lineEndsToLf value = rewriteAscii lineEnd value := by
  induction value with
  | nil => rfl
  | cons b rest ih => rw [lineEndsToLf_cons, ih, rewriteAscii]

/-- **The two passes together make every line end an LF.** -/
theorem normalizeCrlfToLf_normalizeLfToCrlf (value : StdString) :
    normalizeCrlfToLf (normalizeLfToCrlf value) = lineEndsToLf value := by
  have hcrlf : ∀ rest, normalizeCrlfToLf (cr :: lf :: rest) = lf :: normalizeCrlfToLf rest :=
    fun rest => rfl
  induction value with
  | nil => rfl
  | cons b rest ih =>
    rw [normalizeLfToCrlf_cons, lineEndsToLf_cons, lfToCrlf, lineEnd]
    by_cases hb : b = cr
    · rw [if_pos hb, if_pos hb]
      by_cases hnext : rest.head? = some lf
      · rw [if_pos hnext, if_pos hnext]
        exact ih
      · rw [if_neg hnext, if_neg hnext]
        exact (hcrlf _).trans (congrArg (lf :: ·) ih)
    · rw [if_neg hb, if_neg hb]
      by_cases hlf : b = lf
      · rw [if_pos hlf, hlf]
        exact (hcrlf _).trans (congrArg (lf :: ·) ih)
      · rw [if_neg hlf, List.singleton_append, normalizeCrlfToLf_cons, crlfToLf,
          if_neg fun h => hb h.1, ih]

theorem lineEndsToLf_of_no_cr {value : StdString} (h : cr ∉ value) :
    lineEndsToLf value = value := by
  induction value with
  | nil => rfl
  | cons b rest ih =>
    rw [List.mem_cons, not_or] at h
    rw [lineEndsToLf_cons, lineEnd, if_neg (Ne.symm h.1), ih h.2, List.singleton_append]

theorem no_cr_lineEndsToLf (value : StdString) : cr ∉ lineEndsToLf value := by
  intro h
  rw [lineEndsToLf_eq] at h
  obtain ⟨b, -, next, hout⟩ := Utf8.mem_rewriteAscii h
  rw [lineEnd] at hout
  split at hout
  · split at hout
    · cases hout
    · cases List.mem_singleton.mp hout
  next hb => exact hb (List.mem_singleton.mp hout).symm

theorem no_zero_lineEndsToLf {value : StdString} (h : 0 ∉ value) : 0 ∉ lineEndsToLf value := by
  intro hzero
  rw [lineEndsToLf_eq] at hzero
  obtain ⟨b, hb, next, hout⟩ := Utf8.mem_rewriteAscii hzero
  rw [lineEnd] at hout
  split at hout
  · split at hout
    · cases hout
    · cases List.mem_singleton.mp hout
  · exact h (List.mem_singleton.mp hout ▸ hb)

theorem no_zero_normalizeLfToCrlf {value : StdString} (h : 0 ∉ value) :
    0 ∉ normalizeLfToCrlf value := by
  have hends : 0 ∉ [cr, lf] := by decide
  intro hzero
  rw [normalizeLfToCrlf_eq] at hzero
  obtain ⟨b, hb, next, hout⟩ := Utf8.mem_rewriteAscii hzero
  rw [lfToCrlf] at hout
  split at hout
  · split at hout
    · cases hout
    · exact hends hout
  · split at hout
    · exact hends hout
    · exact h (List.mem_singleton.mp hout ▸ hb)

/-! ## There and back -/

/-- The text to Windows and back. -/
def throughUtf16 (bytes : ByteBuffer) : Option ByteBuffer :=
  (utf8FromUtf16LeText (utf16LeFromUtf8Text bytes)).map Prod.fst

/-- The UTF-16 text of a well-formed text without a NUL is read as this text. -/
theorem readUnits_utf16Loop {value : StdString} (hvalue : WellFormed value) (hzero : 0 ∉ value) :
    appendRead [] (readUnits (units (appendUtf16LeUnit ((utf16Loop value).run (0, [])) 0))) =
      value := by
  obtain ⟨chars, rfl⟩ := hvalue
  have hrun := run_utf16Loop chars [] []
  rw [List.nil_append, List.nil_append, List.length_nil] at hrun
  rw [hrun, appendUtf16LeUnit_eq, ← unitBytes_append, units_unitBytes,
    readUnits_flatMap (Utf8.not_mem_of_encode hzero), appendRead_map, List.nil_append]

theorem throughUtf16_eq {bytes : ByteBuffer} (hbytes : WellFormed bytes) (hzero : 0 ∉ bytes) :
    throughUtf16 bytes = some (lineEndsToLf bytes) := by
  have hvalue : WellFormed (normalizeLfToCrlf bytes) := by
    rw [normalizeLfToCrlf_eq]
    exact hbytes.rewriteAscii keepsHigh_lfToCrlf
  rw [throughUtf16, utf8FromUtf16LeText_eq, utf16LeFromUtf8Text,
    readUnits_utf16Loop hvalue (no_zero_normalizeLfToCrlf hzero),
    normalizeCrlfToLf_normalizeLfToCrlf]
  rfl

/-- **A well-formed text without a NUL comes back with an LF for every line end**: as it was if it has
no CR, and the second time as the first. -/
theorem textRoundTrip {bytes : ByteBuffer} (hbytes : WellFormed bytes) (hzero : 0 ∉ bytes) :
    throughUtf16 bytes = some (lineEndsToLf bytes) ∧
      (cr ∉ bytes → throughUtf16 bytes = some bytes) ∧
      (throughUtf16 bytes).bind throughUtf16 = throughUtf16 bytes := by
  have heq := throughUtf16_eq hbytes hzero
  have hends : WellFormed (lineEndsToLf bytes) := by
    rw [lineEndsToLf_eq]
    exact hbytes.rewriteAscii keepsHigh_lineEnd
  refine ⟨heq, fun hcr => ?_, ?_⟩
  · rw [heq, lineEndsToLf_of_no_cr hcr]
  · rw [heq, Option.bind_some, throughUtf16_eq hends (no_zero_lineEndsToLf hzero),
      lineEndsToLf_of_no_cr (no_cr_lineEndsToLf bytes)]

/-- The letter `a`, a CRLF, a CR and a character that takes a pair. -/
theorem textRoundTrip_of_pair :
    WellFormed [0x61, cr, lf, cr, 0xf0, 0x9f, 0x98, 0x80] ∧
      throughUtf16 [0x61, cr, lf, cr, 0xf0, 0x9f, 0x98, 0x80] =
        some [0x61, lf, lf, 0xf0, 0x9f, 0x98, 0x80] := by
  have hbytes : WellFormed [0x61, cr, lf, cr, 0xf0, 0x9f, 0x98, 0x80] :=
    ⟨[Char.ofNat 0x61, Char.ofNat 13, Char.ofNat 10, Char.ofNat 13, Char.ofNat 0x1f600],
      by decide⟩
  exact ⟨hbytes, (textRoundTrip hbytes (by decide)).1⟩

end Clipboard
end FusionDesk
