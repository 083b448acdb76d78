import Mathlib.Data.List.Basic

/-!
# UTF-8 as lists of bytes

The encoding of a list of Unicode scalar values, which are the `Char`s, and what byte strings it
gives.

* `encode`, `WellFormed`: the encoding, and the byte strings that are one.
* `encode_append_inj`: a character at the front of an encoding is known from it.
* `not_wellFormed_surrogate`: a surrogate, encoded like a character, spoils the text.
* `rewriteAscii`, `WellFormed.rewriteAscii`: a pass that replaces ASCII bytes by ASCII bytes, with a
  look at the next one, keeps a text well-formed.
-/

namespace Utf8

open String (utf8EncodeChar)

/-- The bytes of the characters, one after the other. -/
def encode (chars : List Char) : List UInt8 := chars.flatMap utf8EncodeChar

/-- The bytes are the encoding of some characters. -/
def WellFormed (bytes : List UInt8) : Prop := ∃ chars, bytes = encode chars

@[simp] theorem encode_nil : encode [] = [] := rfl

@[simp] theorem encode_cons (c : Char) (chars : List Char) :
    encode (c :: chars) = utf8EncodeChar c ++ encode chars := rfl

@[simp] theorem encode_append (chars others : List Char) :
    encode (chars ++ others) = encode chars ++ encode others := List.flatMap_append

theorem WellFormed.nil : WellFormed [] := ⟨[], rfl⟩

/-- A zero byte is a character of its own. -/
theorem not_mem_of_encode {chars : List Char} (h : 0 ∉ encode chars) : Char.ofNat 0 ∉ chars :=
  fun hmem => h (List.mem_flatMap.mpr ⟨_, hmem, by decide⟩)

theorem WellFormed.append {front back : List UInt8} (hfront : WellFormed front)
    (hback : WellFormed back) : WellFormed (front ++ back) := by
  obtain ⟨chars, rfl⟩ := hfront
  obtain ⟨others, rfl⟩ := hback
  exact ⟨chars ++ others, (encode_append chars others).symm⟩

theorem wellFormed_char (c : Char) : WellFormed (utf8EncodeChar c) :=
  ⟨[c], (List.append_nil _).symm⟩

/-! ## ASCII -/

theorem utf8EncodeChar_of_ascii {c : Char} (h : c.toNat < 0x80) :
    utf8EncodeChar c = [UInt8.ofNat c.toNat] := by
  rw [utf8EncodeChar]
  exact if_pos (Nat.le_of_lt_succ h)

/-- The bytes that the encoding has for a number, be it a character or not. -/
def scheme (v : ℕ) : List UInt8 :=
  if v ≤ 0x7f then [UInt8.ofNat v]
  else if v ≤ 0x7ff then [UInt8.ofNat (v / 64 % 0x20 + 0xc0), UInt8.ofNat (v % 0x40 + 0x80)]
  else if v ≤ 0xffff then
    [UInt8.ofNat (v / 4096 % 0x10 + 0xe0), UInt8.ofNat (v / 64 % 0x40 + 0x80),
      UInt8.ofNat (v % 0x40 + 0x80)]
  else
    [UInt8.ofNat (v / 262144 % 0x08 + 0xf0), UInt8.ofNat (v / 4096 % 0x40 + 0x80),
      UInt8.ofNat (v / 64 % 0x40 + 0x80), UInt8.ofNat (v % 0x40 + 0x80)]

theorem utf8EncodeChar_eq_scheme (c : Char) : utf8EncodeChar c = scheme c.val.toNat := rfl

/-- Above ASCII, the bytes are not of ASCII either. -/
theorem high_of_mem_scheme {v : ℕ} (h : ¬v < 0x80) {b : UInt8} (hb : b ∈ scheme v) :
    ¬b < 0x80 := by
  have hbyte : ∀ n : ℕ, 0x80 ≤ n → n < 256 → ¬UInt8.ofNat n < 0x80 := by
    intro n hlow hhigh
    rw [UInt8.lt_iff_toNat_lt, UInt8.toNat_ofNat_of_lt' hhigh]
    simpa using hlow
  rw [scheme, if_neg fun hle => h (Nat.lt_succ_of_le hle)] at hb
  split at hb
  · simp only [List.mem_cons, List.not_mem_nil, or_false] at hb
    rcases hb with rfl | rfl
    all_goals exact hbyte _ (by omega) (by omega)
  · split at hb
    · simp only [List.mem_cons, List.not_mem_nil, or_false] at hb
      rcases hb with rfl | rfl | rfl
      all_goals exact hbyte _ (by omega) (by omega)
    · simp only [List.mem_cons, List.not_mem_nil, or_false] at hb
      rcases hb with rfl | rfl | rfl | rfl
      all_goals exact hbyte _ (by omega) (by omega)

theorem high_of_mem_utf8EncodeChar {c : Char} (h : ¬c.toNat < 0x80) {b : UInt8}
    (hb : b ∈ utf8EncodeChar c) : ¬b < 0x80 := high_of_mem_scheme h hb

/-- A text of ASCII bytes is well-formed. -/
theorem wellFormed_of_ascii {bytes : List UInt8} (h : ∀ b ∈ bytes, b < 0x80) :
    WellFormed bytes := by
  induction bytes with
  | nil => exact WellFormed.nil
  | cons b bytes ih =>
    have hb := h b List.mem_cons_self
    rw [UInt8.lt_iff_toNat_lt] at hb
    have hlt : b.toNat < 0x80 := hb
    have hval : (Char.ofUInt8 b).toNat = b.toNat := rfl
    have hchar : utf8EncodeChar (Char.ofUInt8 b) = [b] := by
      rw [utf8EncodeChar_of_ascii (by rw [hval]; exact hlt), hval, UInt8.ofNat_toNat]
    have hfront := wellFormed_char (Char.ofUInt8 b)
    rw [hchar] at hfront
    exact hfront.append (ih fun b hb => h b (List.mem_cons_of_mem _ hb))

/-! ## Reading the front -/

/-- **The character at the front of a text is known from it.** -/
theorem encode_append_inj {c d : Char} {rest others : List UInt8}
    (h : utf8EncodeChar c ++ rest = utf8EncodeChar d ++ others) : c = d ∧ rest = others := by
  have hdecode := congrArg (fun bytes : List UInt8 => bytes.toByteArray.utf8DecodeChar? 0) h
  simp only [List.toByteArray_append, ByteArray.utf8DecodeChar?_utf8EncodeChar_append,
    Option.some.injEq] at hdecode
  subst hdecode
  exact ⟨rfl, List.append_cancel_left h⟩

/-- What is left of a well-formed text behind a well-formed front is well-formed. -/
theorem WellFormed.of_append {front back : List UInt8} (hfront : WellFormed front)
    (h : WellFormed (front ++ back)) : WellFormed back := by
  obtain ⟨chars, rfl⟩ := hfront
  obtain ⟨all, hall⟩ := h
  induction chars generalizing all with
  | nil => exact ⟨all, hall⟩
  | cons c chars ih =>
    cases all with
    | nil =>
      rw [encode_cons, List.append_assoc, encode_nil] at hall
      exact absurd (List.append_eq_nil_iff.mp hall).1 String.utf8EncodeChar_ne_nil
    | cons d all =>
      rw [encode_cons, encode_cons, List.append_assoc] at hall
      exact ih all (encode_append_inj hall).2

/-! ## Surrogates -/

theorem scheme_of_surrogate {v : ℕ} (hlow : 0xd800 ≤ v) (hhigh : v ≤ 0xdfff) :
    scheme v = [UInt8.ofNat (v / 4096 % 0x10 + 0xe0), UInt8.ofNat (v / 64 % 0x40 + 0x80),
      UInt8.ofNat (v % 0x40 + 0x80)] := by
  rw [scheme, if_neg (by omega), if_neg (by omega), if_pos (by omega)]

theorem ofNat_inj {m n : ℕ} (hm : m < 256) (hn : n < 256) (h : UInt8.ofNat m = UInt8.ofNat n) :
    m = n := by
  have htoNat := congrArg UInt8.toNat h
  rwa [UInt8.toNat_ofNat_of_lt' hm, UInt8.toNat_ofNat_of_lt' hn] at htoNat

/-- **No text has a surrogate in it**, encoded like a character. -/
theorem not_wellFormed_surrogate {front rest : List UInt8} (hfront : WellFormed front) {v : ℕ}
    (hlow : 0xd800 ≤ v) (hhigh : v ≤ 0xdfff) : ¬WellFormed (front ++ (scheme v ++ rest)) := by
  intro h
  obtain ⟨chars, hchars⟩ := hfront.of_append h
  rw [scheme_of_surrogate hlow hhigh] at hchars
  cases chars with
  | nil => cases hchars
  | cons d chars =>
    -- The first byte leaves the characters from 0xd000 on, the second one only surrogates.
    have hvalid : d.val.toNat < 0xd800 ∨ 0xdfff < d.val.toNat ∧ d.val.toNat < 0x110000 := d.valid
    rw [encode_cons, utf8EncodeChar] at hchars
    simp only [List.cons_append, List.nil_append] at hchars
    split at hchars
    · have hfirst := ofNat_inj (by omega) (by omega) (List.cons.inj hchars).1
      omega
    split at hchars
    · have hfirst := ofNat_inj (by omega) (by omega) (List.cons.inj hchars).1
      omega
    split at hchars
    · obtain ⟨hfirst, htail⟩ := List.cons.inj hchars
      have hfirst := ofNat_inj (by omega) (by omega) hfirst
      have hsecond := ofNat_inj (by omega) (by omega) (List.cons.inj htail).1
      omega
    · have hfirst := ofNat_inj (by omega) (by omega) (List.cons.inj hchars).1
      omega

/-! ## Passes over ASCII bytes -/

/-- A pass that puts some bytes in the place of each one, with a look at the next. -/
def rewriteAscii (out : UInt8 → Option UInt8 → List UInt8) : List UInt8 → List UInt8
  | [] => []
  | b :: rest => out b rest.head? ++ rewriteAscii out rest

/-- The pass leaves the bytes that are not of ASCII, and puts ASCII bytes for the others. -/
structure KeepsHigh (out : UInt8 → Option UInt8 → List UInt8) : Prop where
  high : ∀ b next, ¬b < 0x80 → out b next = [b]
  ascii : ∀ b next, b < 0x80 → ∀ x ∈ out b next, x < 0x80

theorem rewriteAscii_append_of_high {out : UInt8 → Option UInt8 → List UInt8}
    (hout : KeepsHigh out) {front : List UInt8} (hfront : ∀ b ∈ front, ¬b < 0x80)
    (rest : List UInt8) :
    rewriteAscii out (front ++ rest) = front ++ rewriteAscii out rest := by
  induction front with
  | nil => rfl
  | cons b front ih =>
    rw [List.cons_append, rewriteAscii, hout.high b _ (hfront b List.mem_cons_self),
      ih fun x hx => hfront x (List.mem_cons_of_mem _ hx)]
    rfl

/-- A pass over two parts, if it does the same at the seam as at an end. -/
theorem rewriteAscii_append {out : UInt8 → Option UInt8 → List UInt8} {back : List UInt8}
    (hseam : ∀ b, out b back.head? = out b none) (front : List UInt8) :
    rewriteAscii out (front ++ back) = rewriteAscii out front ++ rewriteAscii out back := by
  induction front with
  | nil => rfl
  | cons b front ih =>
    have hhead : out b (front ++ back).head? = out b front.head? := by
      cases front with
      | nil => exact hseam b
      | cons next front => rfl
    rw [List.cons_append, rewriteAscii, rewriteAscii, hhead, ih, List.append_assoc]

theorem mem_rewriteAscii {out : UInt8 → Option UInt8 → List UInt8} {bytes : List UInt8} {x : UInt8}
    (h : x ∈ rewriteAscii out bytes) : ∃ b ∈ bytes, ∃ next, x ∈ out b next := by
  induction bytes with
  | nil => cases h
  | cons b rest ih =>
    rcases List.mem_append.mp h with h | h
    · exact ⟨b, List.mem_cons_self, rest.head?, h⟩
    · obtain ⟨b', hb', hx⟩ := ih h
      exact ⟨b', List.mem_cons_of_mem _ hb', hx⟩

/-- **Such a pass keeps a text well-formed.** -/
theorem WellFormed.rewriteAscii {out : UInt8 → Option UInt8 → List UInt8} (hout : KeepsHigh out)
    {bytes : List UInt8} (h : WellFormed bytes) : WellFormed (rewriteAscii out bytes) := by
  obtain ⟨chars, rfl⟩ := h
  induction chars with
  | nil => exact WellFormed.nil
  | cons c chars ih =>
    rw [encode_cons]
    by_cases hc : c.toNat < 0x80
    · have hbyte : UInt8.ofNat c.toNat < 0x80 := by
        rw [UInt8.lt_iff_toNat_lt, UInt8.toNat_ofNat_of_lt' (Nat.lt_trans hc (by decide))]
        exact hc
      rw [utf8EncodeChar_of_ascii hc, List.cons_append, List.nil_append, Utf8.rewriteAscii]
      exact (wellFormed_of_ascii (hout.ascii _ _ hbyte)).append ih
    · rw [rewriteAscii_append_of_high hout fun b hb => high_of_mem_utf8EncodeChar hc hb]
      exact (wellFormed_char c).append ih

end Utf8
