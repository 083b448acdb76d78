import Mathlib.Data.Nat.Notation
import Mathlib.Logic.Function.Iterate
import Mathlib.Tactic.Common

/-!
# Reflected cyclic redundancy checks

A register of any width that is shifted to the right, with a polynomial added whenever a one falls
out, and the check it computes of a sequence of bytes.  The polynomial is arbitrary but for its top
bit, which is the one that is shifted in behind a bit that has fallen out.

* `bit_xor`, `bit_injective`: a step of the register is linear, and no two registers have the same
  successor.
* `fold_eq`: as long as they fit in the register, the bytes can be added to it all at once, before
  the steps instead of between them.
* `fold_burst`: hence two sequences that differ only within a stretch that fits in the register
  have different checks.
-/

namespace ReflectedCrc

variable {w : ℕ} {poly : BitVec w}

/-! ## The register -/

/-- One step of the register. -/
def bit (poly reg : BitVec w) : BitVec w :=
  (reg >>> 1) ^^^ (if reg.getLsbD 0 then poly else 0#w)

/-- One byte into the register. -/
def byte (poly reg : BitVec w) (b : BitVec 8) : BitVec w :=
  (bit poly)^[8] (reg ^^^ b.setWidth w)

/-- A bit of the register after a step: the bit above it, and the polynomial's if a one fell
out. -/
theorem getLsbD_bit (poly reg : BitVec w) (i : ℕ) :
    (bit poly reg).getLsbD i =
      (reg.getLsbD (1 + i) ^^ (reg.getLsbD 0 && poly.getLsbD i)) := by
  rw [bit, BitVec.getLsbD_xor, BitVec.getLsbD_ushiftRight]
  cases reg.getLsbD 0 with
  | false => simp
  | true => simp

/-- **A step is linear.** -/
theorem bit_xor (poly x y : BitVec w) : bit poly (x ^^^ y) = bit poly x ^^^ bit poly y := by
  apply BitVec.eq_of_getLsbD_eq
  intro i _
  rw [BitVec.getLsbD_xor, getLsbD_bit, getLsbD_bit, getLsbD_bit, BitVec.getLsbD_xor,
    BitVec.getLsbD_xor, Bool.and_xor_distrib_right, Bool.xor_assoc, Bool.xor_assoc]
  exact congrArg _ (Bool.xor_left_comm _ _ _)

theorem iterate_bit_xor (poly x y : BitVec w) (n : ℕ) :
    (bit poly)^[n] (x ^^^ y) = (bit poly)^[n] x ^^^ (bit poly)^[n] y := by
  induction n generalizing x y with
  | zero => rfl
  | succ n ih => rw [Function.iterate_succ_apply, bit_xor, ih]; rfl

/-- **No two registers have the same successor**: the top bit of the successor is the bit that fell
out, and with it the rest can be told. -/
theorem bit_injective (hpoly : poly.getLsbD (w - 1) = true) :
    Function.Injective (bit poly) := by
  intro x y h
  have hbit : ∀ i, (x.getLsbD (1 + i) ^^ (x.getLsbD 0 && poly.getLsbD i)) =
      (y.getLsbD (1 + i) ^^ (y.getLsbD 0 && poly.getLsbD i)) := by
    intro i
    rw [← getLsbD_bit, ← getLsbD_bit, h]
  apply BitVec.eq_of_getLsbD_eq
  intro i hi
  have hlow : x.getLsbD 0 = y.getLsbD 0 := by
    have htop := hbit (w - 1)
    rw [hpoly, BitVec.getLsbD_of_ge x _ (by omega), BitVec.getLsbD_of_ge y _ (by omega)] at htop
    simpa using htop
  cases i with
  | zero => exact hlow
  | succ i =>
    have hnext := hbit i
    rw [hlow] at hnext
    rw [Nat.add_comm i 1]
    exact Bool.xor_left_inj.mp hnext

theorem iterate_bit_injective (hpoly : poly.getLsbD (w - 1) = true) (n : ℕ) :
    Function.Injective ((bit poly)^[n]) :=
  (bit_injective hpoly).iterate n

/-- A byte into two registers. -/
theorem byte_injective (hpoly : poly.getLsbD (w - 1) = true) (b : BitVec 8) :
    Function.Injective fun reg => byte poly reg b := by
  intro x y h
  have hxor := iterate_bit_injective hpoly 8 h
  calc x = x ^^^ b.setWidth w ^^^ b.setWidth w := by
        rw [BitVec.xor_assoc, BitVec.xor_self, BitVec.xor_zero]
    _ = y ^^^ b.setWidth w ^^^ b.setWidth w := by rw [hxor]
    _ = y := by rw [BitVec.xor_assoc, BitVec.xor_self, BitVec.xor_zero]

/-- The same bytes into two registers. -/
theorem fold_injective (hpoly : poly.getLsbD (w - 1) = true) (bytes : List (BitVec 8)) :
    Function.Injective fun reg => bytes.foldl (byte poly) reg := by
  induction bytes with
  | nil => exact fun _ _ h => h
  | cons b bytes ih => exact fun x y h => byte_injective hpoly b (ih h)

/-! ## Bytes that fit in the register -/

/-- No bit from `n` on is set. -/
def Below (n : ℕ) (x : BitVec w) : Prop := ∀ i, n ≤ i → x.getLsbD i = false

/-- Shifting up by what is then shifted down again. -/
theorem iterate_bit_shiftLeft (poly : BitVec w) {x : BitVec w} (n : ℕ) (hx : Below (w - n) x)
    (hn : n ≤ w) : (bit poly)^[n] (x <<< n) = x := by
  induction n with
  | zero => exact BitVec.shiftLeft_zero x
  | succ n ih =>
    have hstep : bit poly (x <<< (n + 1)) = x <<< n := by
      apply BitVec.eq_of_getLsbD_eq
      intro i hi
      rw [getLsbD_bit, BitVec.getLsbD_shiftLeft, BitVec.getLsbD_shiftLeft,
        BitVec.getLsbD_shiftLeft]
      by_cases hlast : 1 + i < w
      · have hsub : 1 + i - (n + 1) = i - n := by omega
        have hlt : (1 + i < n + 1) = (i < n) := propext (by omega)
        simp [hlast, hi, hsub, hlt]
      · -- the bit that would have to come from above the register is not set
        have htop : x.getLsbD (i - n) = false := hx (i - n) (by omega)
        simp [hlast, htop]
    rw [Function.iterate_succ_apply, hstep]
    exact ih (fun i hi => hx i (by omega)) (by omega)

/-- The bytes side by side, the first one lowest. -/
def pack (w : ℕ) : List (BitVec 8) → BitVec w
  | [] => 0#w
  | b :: bytes => b.setWidth w ^^^ (pack w bytes <<< 8)

theorem getLsbD_pack_cons (b : BitVec 8) (bytes : List (BitVec 8)) (i : ℕ) :
    (pack w (b :: bytes)).getLsbD i =
      if i < 8 then decide (i < w) && b.getLsbD i
      else decide (i < w) && (pack w bytes).getLsbD (i - 8) := by
  rw [pack, BitVec.getLsbD_xor, BitVec.getLsbD_setWidth, BitVec.getLsbD_shiftLeft]
  by_cases hi : i < 8
  · simp [hi]
  · have hb : b.getLsbD i = false := BitVec.getLsbD_of_ge b i (by omega)
    simp [hi, hb]

theorem below_pack (bytes : List (BitVec 8)) : Below (8 * bytes.length) (pack w bytes) := by
  induction bytes with
  | nil =>
    intro i _
    exact BitVec.getLsbD_zero
  | cons b bytes ih =>
    intro i hi
    rw [List.length_cons] at hi
    rw [getLsbD_pack_cons, if_neg (by omega), ih (i - 8) (by omega), Bool.and_false]

/-- Bytes that fit can be told from their packing. -/
theorem pack_injective {xs ys : List (BitVec 8)} (hlen : xs.length = ys.length)
    (hfit : 8 * xs.length ≤ w) (h : pack w xs = pack w ys) : xs = ys := by
  induction xs generalizing ys with
  | nil => exact (List.eq_nil_of_length_eq_zero hlen.symm).symm
  | cons x xs ih =>
    obtain ⟨y, ys, rfl⟩ := List.exists_cons_of_length_eq_add_one hlen.symm
    rw [List.length_cons, List.length_cons, Nat.add_right_cancel_iff] at hlen
    rw [List.length_cons] at hfit
    have hbit : ∀ i, (pack w (x :: xs)).getLsbD i = (pack w (y :: ys)).getLsbD i := by
      intro i
      rw [h]
    have hhead : x = y := by
      apply BitVec.eq_of_getLsbD_eq
      intro i hi
      have hi' := hbit i
      rw [getLsbD_pack_cons, getLsbD_pack_cons, if_pos hi, if_pos hi] at hi'
      simpa [show i < w by omega] using hi'
    have htail : pack w xs = pack w ys := by
      apply BitVec.eq_of_getLsbD_eq
      intro i hi
      by_cases hlast : i + 8 < w
      · have hi' := hbit (i + 8)
        rw [getLsbD_pack_cons, getLsbD_pack_cons, if_neg (by omega), if_neg (by omega),
          Nat.add_sub_cancel] at hi'
        simpa [hlast] using hi'
      · rw [below_pack xs i (by omega), below_pack ys i (by omega)]
    rw [hhead, ih hlen (by omega) htail]

/-- **Bytes that fit in the register can be added to it at once**, before the steps. -/
theorem fold_eq (poly reg : BitVec w) (bytes : List (BitVec 8)) (hfit : 8 * bytes.length ≤ w) :
    bytes.foldl (byte poly) reg = (bit poly)^[8 * bytes.length] (reg ^^^ pack w bytes) := by
  induction bytes generalizing reg with
  | nil =>
    rw [List.foldl_nil, pack, BitVec.xor_zero]
    rfl
  | cons b bytes ih =>
    rw [List.length_cons] at hfit
    have hshift : (bit poly)^[8] (pack w bytes <<< 8) = pack w bytes :=
      iterate_bit_shiftLeft poly 8 (fun i hi => below_pack bytes i (by omega)) (by omega)
    calc (b :: bytes).foldl (byte poly) reg
        = (bit poly)^[8 * bytes.length] (byte poly reg b ^^^ pack w bytes) :=
          ih (byte poly reg b) (by omega)
      _ = (bit poly)^[8 * bytes.length] ((bit poly)^[8] (reg ^^^ b.setWidth w) ^^^
            (bit poly)^[8] (pack w bytes <<< 8)) := by rw [hshift]; rfl
      _ = (bit poly)^[8 * bytes.length] ((bit poly)^[8] (reg ^^^ pack w (b :: bytes))) := by
          rw [← iterate_bit_xor, pack, BitVec.xor_assoc]
      _ = (bit poly)^[8 * (b :: bytes).length] (reg ^^^ pack w (b :: bytes)) := by
          rw [← Function.iterate_add_apply, List.length_cons, Nat.mul_succ]

/-- Into one register, different bytes that fit lead to different registers. -/
theorem fold_inj_of_fit (hpoly : poly.getLsbD (w - 1) = true) {reg : BitVec w}
    {xs ys : List (BitVec 8)} (hlen : xs.length = ys.length) (hfit : 8 * xs.length ≤ w)
    (h : xs.foldl (byte poly) reg = ys.foldl (byte poly) reg) : xs = ys := by
  rw [fold_eq poly reg xs hfit, fold_eq poly reg ys (hlen ▸ hfit), hlen] at h
  have hxor := iterate_bit_injective hpoly _ h
  refine pack_injective hlen hfit ?_
  calc pack w xs = reg ^^^ (reg ^^^ pack w xs) := by
        rw [← BitVec.xor_assoc, BitVec.xor_self, BitVec.zero_xor]
    _ = reg ^^^ (reg ^^^ pack w ys) := by rw [hxor]
    _ = pack w ys := by rw [← BitVec.xor_assoc, BitVec.xor_self, BitVec.zero_xor]

/-- **Bursts are detected**: two sequences with the same beginning and the same end, and between
them stretches of one length that fit in the register, have the same check only if the stretches are
the same. -/
theorem fold_burst (hpoly : poly.getLsbD (w - 1) = true) {reg : BitVec w}
    (front back : List (BitVec 8)) {xs ys : List (BitVec 8)} (hlen : xs.length = ys.length)
    (hfit : 8 * xs.length ≤ w)
    (h : (front ++ (xs ++ back)).foldl (byte poly) reg =
      (front ++ (ys ++ back)).foldl (byte poly) reg) : xs = ys := by
  rw [List.foldl_append, List.foldl_append, List.foldl_append, List.foldl_append] at h
  exact fold_inj_of_fit hpoly hlen hfit (fold_injective hpoly back h)

end ReflectedCrc
