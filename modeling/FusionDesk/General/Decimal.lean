import Mathlib.Algebra.Ring.Nat
import Mathlib.Data.List.Basic
import Mathlib.Tactic.Common

/-!
# Decimal numbers as ASCII bytes

Numbers printed with leading zeros, and read back.

* `padded`: at least so many digits; `length_padded`: exactly so many, if the number has no more.
* `value`, `value_padded`: a number is read back from its digits.
* `foldl_mod`: the reading loop of a machine integer gives the remainder.
-/

namespace Decimal

/-- A byte from `'0'` to `'9'`. -/
def isDigit (b : UInt8) : Bool := decide (0x30 ≤ b ∧ b ≤ 0x39)

/-- The number of a digit. -/
def digit (b : UInt8) : ℕ := b.toNat - 0x30

/-- The digits of a number. -/
def digits (n : ℕ) : List UInt8 := (Nat.toDigits 10 n).map fun c => UInt8.ofNat c.toNat

/-- The digits of a number, with zeros in front of them up to a width. -/
def padded (width n : ℕ) : List UInt8 :=
  List.replicate (width - (digits n).length) 0x30 ++ digits n

/-- The number that some digits spell. -/
def value (bytes : List UInt8) : ℕ := bytes.foldl (fun n b => n * 10 + digit b) 0

theorem isDigit_ofNat {c : Char} (h : c.isDigit = true) :
    (UInt8.ofNat c.toNat).toNat = c.toNat ∧ isDigit (UInt8.ofNat c.toNat) = true := by
  have hrange : '0'.val ≤ c.val ∧ c.val ≤ '9'.val := by simpa [Char.isDigit] using h
  have hlow : 48 ≤ c.toNat := UInt32.le_iff_toNat_le.mp hrange.1
  have hhigh : c.toNat ≤ 57 := UInt32.le_iff_toNat_le.mp hrange.2
  have hbyte : (UInt8.ofNat c.toNat).toNat = c.toNat :=
    UInt8.toNat_ofNat_of_lt' (Nat.lt_of_le_of_lt hhigh (by decide))
  refine ⟨hbyte, ?_⟩
  rw [isDigit, decide_eq_true_eq, UInt8.le_iff_toNat_le, UInt8.le_iff_toNat_le, hbyte]
  exact ⟨hlow, hhigh⟩

theorem isDigit_of_mem_padded {width n : ℕ} {b : UInt8} (h : b ∈ padded width n) :
    isDigit b = true := by
  rcases List.mem_append.mp h with h | h
  · rw [List.eq_of_mem_replicate h]
    rfl
  · obtain ⟨c, hc, rfl⟩ := List.mem_map.mp h
    exact (isDigit_ofNat (Nat.isDigit_of_mem_toDigits (by decide) (by decide) hc)).2

theorem le_length_padded (width n : ℕ) : width ≤ (padded width n).length := by
  rw [padded, List.length_append, List.length_replicate]
  omega

theorem length_padded {width n : ℕ} (hwidth : 0 < width) (h : n < 10 ^ width) :
    (padded width n).length = width := by
  have hle : (digits n).length ≤ width := by
    rw [digits, List.length_map]
    exact (Nat.length_toDigits_le_iff (by decide) hwidth).mpr h
  rw [padded, List.length_append, List.length_replicate]
  omega

/-- The digits of a number are read as in the library. -/
theorem foldl_map_toNat (chars : List Char) (h : ∀ c ∈ chars, c.isDigit = true) (n : ℕ) :
    (chars.map fun c => UInt8.ofNat c.toNat).foldl (fun n b => n * 10 + digit b) n =
      Nat.ofDigitChars 10 chars n := by
  induction chars generalizing n with
  | nil => rfl
  | cons c chars ih =>
    have hbyte := (isDigit_ofNat (h c List.mem_cons_self)).1
    rw [List.map_cons, List.foldl_cons, Nat.ofDigitChars_cons, digit, hbyte, Nat.mul_comm n 10]
    exact ih (fun c hc => h c (List.mem_cons_of_mem _ hc)) _

/-- **A number is read back from its digits.** -/
theorem value_padded (width n : ℕ) : value (padded width n) = n := by
  have hzeros : ∀ k, (List.replicate k (0x30 : UInt8)).foldl (fun n b => n * 10 + digit b) 0 = 0 := by
    intro k
    induction k with
    | zero => rfl
    | succ k ih =>
      rw [List.replicate_succ, List.foldl_cons]
      exact ih
  rw [value, padded, List.foldl_append, hzeros, digits,
    foldl_map_toNat _ fun c hc => Nat.isDigit_of_mem_toDigits (by decide) (by decide) hc]
  exact Nat.ofDigitChars_ten_toDigits

/-- The loop of a machine integer gives the remainder. -/
theorem foldl_mod (m : ℕ) (bytes : List UInt8) (n : ℕ) :
    bytes.foldl (fun n b => (n * 10 + digit b) % m) (n % m) =
      bytes.foldl (fun n b => n * 10 + digit b) n % m := by
  induction bytes generalizing n with
  | nil => rfl
  | cons b bytes ih =>
    rw [List.foldl_cons, List.foldl_cons, ← ih]
    congr 1
    rw [Nat.add_mod, Nat.mul_mod, Nat.mod_mod, ← Nat.mul_mod, ← Nat.add_mod]

end Decimal
