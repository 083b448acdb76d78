import FusionDesk.General.BigEndian

/-!
# Little-endian fields in a byte buffer

A natural number as a fixed number of bytes, the low one first: the big-endian bytes the other way
round.

* `leBytes` / `leNat`: `w` bytes of a number and the number of some bytes, with `leNat_leBytes`.
-/

namespace LittleEndian

open BigEndian

/-- The `w` little-endian bytes of `n`; what does not fit is dropped at the top. -/
def leBytes (w n : ℕ) : List UInt8 := (beBytes w n).reverse

/-- The number a run of little-endian bytes spells. -/
def leNat (bytes : List UInt8) : ℕ := bytes.foldr (fun b n => b.toNat + 256 * n) 0

@[simp] theorem length_leBytes (w n : ℕ) : (leBytes w n).length = w := by
  rw [leBytes, List.length_reverse, length_beBytes]

theorem leNat_eq (bytes : List UInt8) : leNat bytes = beNat bytes.reverse := by
  rw [beNat, List.foldl_reverse, leNat]
  congr 1
  funext b n
  rw [Nat.add_comm, Nat.mul_comm]

/-- Reading back what was written. -/
theorem leNat_leBytes (w n : ℕ) : leNat (leBytes w n) = n % 256 ^ w := by
  rw [leNat_eq, leBytes, List.reverse_reverse, beNat_beBytes]

theorem leNat_leBytes_of_lt {w n : ℕ} (h : n < 256 ^ w) : leNat (leBytes w n) = n := by
  rw [leNat_leBytes, Nat.mod_eq_of_lt h]

end LittleEndian
