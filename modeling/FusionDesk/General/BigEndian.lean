import Mathlib.Data.List.Basic
import Mathlib.Data.Nat.Bitwise
import Mathlib.Tactic.Ring
import Mathlib.Tactic.NormNum

/-!
# Big-endian fields in a byte buffer

A natural number written as a fixed number of bytes, most significant byte first, and the two
operations a binary format performs on a buffer: reading a run of bytes at an offset and writing a
run of bytes over the ones that are there.

* `beBytes` / `beNat`: `w` bytes of a number and the number of some bytes, with `beNat_beBytes`
  and `beBytes_beNat`.
* `slice` / `overwrite`: the bytes at an offset, and the buffer with these bytes replaced.
* `overwrite_frontier`: writing at the end of the part that is already written turns the next
  blank bytes into the new ones, which is how a header filled in field by field becomes the
  concatenation of its fields.
* `slice_append_left`, `slice_append_right`, `slice_take_of_le`: where a field of a
  concatenation is.
* `flatten_slices`: a run cut into runs, which is how a header that was read field by field is put
  together again.
* `lor_low`: or-ing a number into the blank low bits of another one adds it, so that a number
  assembled by shifts is the number of its bytes.
-/

namespace BigEndian

/-! ## Numbers and bytes -/

/-- The `w` big-endian bytes of `n`; what does not fit is dropped at the top. -/
def beBytes : ℕ → ℕ → List UInt8
  | 0, _ => []
  | w + 1, n => UInt8.ofNat (n / 256 ^ w) :: beBytes w n

/-- The number a run of big-endian bytes spells. -/
def beNat (bytes : List UInt8) : ℕ :=
  bytes.foldl (fun n b => n * 256 + b.toNat) 0

@[simp] theorem length_beBytes (w n : ℕ) : (beBytes w n).length = w := by
  induction w with
  | zero => rfl
  | succ w ih => rw [beBytes, List.length_cons, ih]

@[simp] theorem beNat_nil : beNat [] = 0 := rfl

/-- The accumulator of the reading loop is a prefix of higher digits. -/
theorem foldl_beNat (bytes : List UInt8) (k : ℕ) :
    bytes.foldl (fun n b => n * 256 + b.toNat) k = k * 256 ^ bytes.length + beNat bytes := by
  induction bytes generalizing k with
  | nil => simp
  | cons b bytes ih =>
    have h := ih (b.toNat)
    rw [beNat, List.foldl_cons, List.foldl_cons, ih, Nat.zero_mul, Nat.zero_add, h,
      List.length_cons, pow_succ]
    ring

theorem beNat_cons (b : UInt8) (bytes : List UInt8) :
    beNat (b :: bytes) = b.toNat * 256 ^ bytes.length + beNat bytes := by
  rw [beNat, List.foldl_cons, Nat.zero_mul, Nat.zero_add, foldl_beNat]

theorem beNat_lt (bytes : List UInt8) : beNat bytes < 256 ^ bytes.length := by
  induction bytes with
  | nil => simp
  | cons b bytes ih =>
    have hb : b.toNat + 1 ≤ 256 := b.toNat_lt
    rw [beNat_cons, List.length_cons, pow_succ]
    calc b.toNat * 256 ^ bytes.length + beNat bytes
        < b.toNat * 256 ^ bytes.length + 256 ^ bytes.length := by omega
      _ = (b.toNat + 1) * 256 ^ bytes.length := by ring
      _ ≤ 256 * 256 ^ bytes.length := Nat.mul_le_mul_right _ hb
      _ = 256 ^ bytes.length * 256 := Nat.mul_comm _ _

/-- Reading back what was written. -/
theorem beNat_beBytes (w n : ℕ) : beNat (beBytes w n) = n % 256 ^ w := by
  induction w with
  | zero => simp [beBytes, Nat.mod_one]
  | succ w ih =>
    rw [beBytes, beNat_cons, length_beBytes, ih, pow_succ, Nat.mod_mul, UInt8.toNat_ofNat']
    have h256 : (2 : ℕ) ^ 8 = 256 := by norm_num
    rw [h256]
    ring

theorem beNat_beBytes_of_lt {w n : ℕ} (h : n < 256 ^ w) : beNat (beBytes w n) = n := by
  rw [beNat_beBytes, Nat.mod_eq_of_lt h]

/-- Only the digits below `256 ^ w` matter for the low `w` bytes. -/
theorem beBytes_add_mul (w n k : ℕ) : beBytes w (k * 256 ^ w + n) = beBytes w n := by
  induction w generalizing k with
  | zero => rfl
  | succ w ih =>
    have hsplit : k * 256 ^ (w + 1) + n = (k * 256) * 256 ^ w + n := by ring
    rw [beBytes, beBytes, hsplit, ih]
    congr 1
    apply UInt8.toNat_inj.mp
    rw [UInt8.toNat_ofNat', UInt8.toNat_ofNat', Nat.add_comm,
      Nat.add_mul_div_right _ _ (by positivity)]
    omega

/-- Writing what was read gives the same bytes. -/
theorem beBytes_beNat (bytes : List UInt8) : beBytes bytes.length (beNat bytes) = bytes := by
  induction bytes with
  | nil => rfl
  | cons b bytes ih =>
    rw [List.length_cons, beBytes, beNat_cons, beBytes_add_mul, ih]
    congr 1
    rw [Nat.add_comm, Nat.add_mul_div_right _ _ (by positivity),
      Nat.div_eq_of_lt (beNat_lt bytes), Nat.zero_add, UInt8.ofNat_toNat]

/-- Or-ing into the blank low bits is adding. -/
theorem lor_low (a k : ℕ) {b : ℕ} (hb : b < 2 ^ k) : a * 2 ^ k ||| b = a * 2 ^ k + b := by
  rw [Nat.mul_comm, Nat.two_pow_add_eq_or_of_lt hb]

/-! ## Reading and writing in place -/

variable {α : Type*}

/-- The `n` entries at offset `off`. -/
def slice (buffer : List α) (off n : ℕ) : List α :=
  (buffer.drop off).take n

/-- The buffer with the entries from offset `off` on replaced by `new`. -/
def overwrite (buffer : List α) (off : ℕ) (new : List α) : List α :=
  buffer.take off ++ new ++ buffer.drop (off + new.length)

/-- Writing at the frontier between the written and the blank part. -/
theorem overwrite_frontier (written new : List α) (blank : α) {off m : ℕ}
    (hoff : written.length = off) (hm : new.length ≤ m) :
    overwrite (written ++ List.replicate m blank) off new =
      (written ++ new) ++ List.replicate (m - new.length) blank := by
  subst hoff
  rw [overwrite, List.take_left, List.drop_append, List.drop_of_length_le (by omega),
    List.nil_append, List.drop_replicate]
  congr 2
  omega

/-- Writing over a run of the same length in the middle. -/
theorem overwrite_middle (front old new rest : List α) {off : ℕ} (hoff : front.length = off)
    (hlen : old.length = new.length) :
    overwrite (front ++ (old ++ rest)) off new = front ++ (new ++ rest) := by
  subst hoff
  rw [overwrite, List.take_left, List.drop_append, List.drop_of_length_le (by omega),
    List.nil_append, Nat.add_sub_cancel_left, ← hlen, List.drop_left, List.append_assoc]

/-- Leaving a gap of blank entries before the frontier. -/
theorem append_replicate_gap (written : List α) (blank : α) {gap m : ℕ} (h : gap ≤ m) :
    written ++ List.replicate m blank =
      (written ++ List.replicate gap blank) ++ List.replicate (m - gap) blank := by
  rw [List.append_assoc, List.replicate_append_replicate]
  congr 2
  omega

theorem slice_append_left {front rest : List α} {n : ℕ} (h : front.length = n) :
    slice (front ++ rest) 0 n = front := by
  rw [slice, List.drop_zero, ← h, List.take_left]

theorem slice_append_right {front rest : List α} {off n : ℕ} (h : front.length ≤ off) :
    slice (front ++ rest) off n = slice rest (off - front.length) n := by
  rw [slice, slice, List.drop_append, List.drop_of_length_le h, List.nil_append]

/-- A slice of the front of a buffer is a slice of the buffer. -/
theorem slice_take_of_le {buffer : List α} {off n m : ℕ} (h : off + n ≤ m) :
    slice (buffer.take m) off n = slice buffer off n := by
  rw [slice, slice, List.drop_take, List.take_take, Nat.min_eq_left (by omega)]

/-- A field of a concatenation of fields stands behind the fields before it. -/
theorem slice_flatten {fields : List (List α)} {i off n : ℕ} {field : List α} (rest : List α)
    (hfield : fields[i]? = some field) (hoff : (fields.take i).flatten.length = off)
    (hlen : field.length = n) : slice (fields.flatten ++ rest) off n = field := by
  obtain ⟨hi, hget⟩ := List.getElem?_eq_some_iff.mp hfield
  have hsplit : fields.flatten ++ rest =
      (fields.take i).flatten ++ (field ++ ((fields.drop (i + 1)).flatten ++ rest)) := by
    conv_lhs => rw [← List.take_append_drop i fields, List.drop_eq_getElem_cons hi, hget]
    rw [List.flatten_append, List.flatten_cons, List.append_assoc, List.append_assoc]
  rw [hsplit, slice, ← hoff, List.drop_left, ← hlen, List.take_left]

/-- A run of entries, one at a time. -/
theorem slice_succ {buffer : List α} {off n : ℕ} (d : α) (h : off < buffer.length) :
    slice buffer off (n + 1) = buffer.getD off d :: slice buffer (off + 1) n := by
  rw [slice, slice, List.drop_eq_getElem_cons h, List.take_succ_cons, List.getD_eq_getElem _ _ h]

@[simp] theorem slice_zero (buffer : List α) (off : ℕ) : slice buffer off 0 = [] := by
  rw [slice, List.take_zero]

@[simp] theorem overwrite_nil (buffer : List α) (off : ℕ) : overwrite buffer off [] = buffer := by
  simp [overwrite]

/-- Overwriting a run is setting its entries one at a time. -/
theorem overwrite_cons {buffer : List α} {off : ℕ} (a : α) (new : List α)
    (h : off < buffer.length) :
    overwrite buffer off (a :: new) = overwrite (buffer.set off a) (off + 1) new := by
  have htake : (buffer.set off a).take (off + 1) = buffer.take off ++ [a] := by
    rw [List.take_add_one, List.take_set_of_le (Nat.le_refl _), List.getElem?_set_self h]
    rfl
  have hdrop : (buffer.set off a).drop (off + 1 + new.length) =
      buffer.drop (off + (new.length + 1)) := by
    rw [List.drop_set_of_lt (by omega)]
    congr 1
    omega
  rw [overwrite, overwrite, htake, hdrop, List.length_cons]
  simp only [List.append_assoc, List.cons_append, List.nil_append]

theorem getElem?_slice (buffer : List α) (off n i : ℕ) :
    (slice buffer off n)[i]? = if i < n then buffer[off + i]? else none := by
  rw [slice, List.getElem?_take, List.getElem?_drop]

/-- Two runs are the same when their entries are. -/
theorem slice_congr {buffer other : List α} {off n : ℕ}
    (h : ∀ i, i < n → buffer[off + i]? = other[off + i]?) :
    slice buffer off n = slice other off n := by
  ext1 i
  rw [getElem?_slice, getElem?_slice]
  by_cases hi : i < n
  · rw [if_pos hi, if_pos hi, h i hi]
  · rw [if_neg hi, if_neg hi]

/-- A run of runs: each begins where the one before it ends. -/
def slices (buffer : List α) : ℕ → List ℕ → List (List α)
  | _, [] => []
  | off, n :: widths => slice buffer off n :: slices buffer (off + n) widths

/-- **Runs one behind the other are one run.** -/
theorem flatten_slices (buffer : List α) (off : ℕ) (widths : List ℕ) :
    (slices buffer off widths).flatten = slice buffer off widths.sum := by
  induction widths generalizing off with
  | nil => rw [slices, List.flatten_nil, List.sum_nil, slice_zero]
  | cons n widths ih =>
    rw [slices, List.flatten_cons, ih, List.sum_cons, slice, slice, slice, List.take_add,
      List.drop_drop]

theorem length_slice {buffer : List α} {off n : ℕ} (h : off + n ≤ buffer.length) :
    (slice buffer off n).length = n := by
  rw [slice, List.length_take, List.length_drop]
  omega

end BigEndian
