import FusionDesk.General.BigEndian
import FusionDesk.Protocol.Types
import Mathlib.Data.List.Induction

/-!
# Reading and writing integers in a buffer

`include/fusiondesk/core/protocol/byte_io.h`.  Every function checks its bounds first; a write
reports whether it happened beside the buffer, a read gives `none` when it did not.

Each of them is an instance of `BigEndian.overwrite` or `BigEndian.slice`
(`writeU32At_eq`, `readU32At_eq`, and so on), which is all that the packet codec's proofs use.
-/

namespace FusionDesk
namespace Protocol

open BigEndian

/-! ## The functions of the source -/

def writeU8At (output : ByteBuffer) (offset : ℕ) (value : UInt8) : Bool × ByteBuffer :=
  if offset ≥ output.length then (false, output)
  else (true, output.set offset value)

def writeU16At (output : ByteBuffer) (offset : ℕ) (value : UInt16) : Bool × ByteBuffer :=
  if offset + 2 > output.length then (false, output)
  else (true, (output.set offset ((value >>> 8) &&& 0xff).toUInt8).set (offset + 1)
    (value &&& 0xff).toUInt8)

def writeU32At (output : ByteBuffer) (offset : ℕ) (value : UInt32) : Bool × ByteBuffer :=
  if offset + 4 > output.length then (false, output)
  else (true, (((output.set offset ((value >>> 24) &&& 0xff).toUInt8).set (offset + 1)
    ((value >>> 16) &&& 0xff).toUInt8).set (offset + 2)
    ((value >>> 8) &&& 0xff).toUInt8).set (offset + 3) (value &&& 0xff).toUInt8)

def writeU64At (output : ByteBuffer) (offset : ℕ) (value : UInt64) : Bool × ByteBuffer :=
  if offset + 8 > output.length then (false, output)
  else (true, (List.range 8).foldl (fun output index =>
    output.set (offset + index) ((value >>> UInt64.ofNat ((7 - index) * 8)) &&& 0xff).toUInt8)
    output)

def readU8At (input : ByteBuffer) (offset : ℕ) : Option UInt8 :=
  if offset ≥ input.length then none
  else some (input.getD offset 0)

def readU16At (input : ByteBuffer) (offset : ℕ) : Option UInt16 :=
  if offset + 2 > input.length then none
  else some (((input.getD offset 0).toUInt16 <<< 8) ||| (input.getD (offset + 1) 0).toUInt16)

def readU32At (input : ByteBuffer) (offset : ℕ) : Option UInt32 :=
  if offset + 4 > input.length then none
  else some (((input.getD offset 0).toUInt32 <<< 24) |||
    ((input.getD (offset + 1) 0).toUInt32 <<< 16) |||
    ((input.getD (offset + 2) 0).toUInt32 <<< 8) ||| (input.getD (offset + 3) 0).toUInt32)

def readU64At (input : ByteBuffer) (offset : ℕ) : Option UInt64 :=
  if offset + 8 > input.length then none
  else some ((List.range 8).foldl (fun value index =>
    (value <<< 8) ||| (input.getD (offset + index) 0).toUInt64) 0)

/-! ## Writes are overwrites -/

/-- One byte of the writing functions: a shift, a mask and a cast. -/
theorem shiftByte16 (v s : UInt16) (hs : s.toNat < 16) :
    ((v >>> s) &&& 0xff).toUInt8 = UInt8.ofNat (v.toNat / 2 ^ s.toNat) := by
  apply UInt8.toNat_inj.mp
  have hmask : (0xff : UInt16).toNat = 2 ^ 8 - 1 := rfl
  rw [UInt16.toNat_toUInt8, UInt16.toNat_and, hmask, Nat.and_two_pow_sub_one_eq_mod,
    UInt16.toNat_shiftRight, Nat.mod_eq_of_lt hs, Nat.shiftRight_eq_div_pow, UInt8.toNat_ofNat',
    Nat.mod_mod]

theorem shiftByte32 (v s : UInt32) (hs : s.toNat < 32) :
    ((v >>> s) &&& 0xff).toUInt8 = UInt8.ofNat (v.toNat / 2 ^ s.toNat) := by
  apply UInt8.toNat_inj.mp
  have hmask : (0xff : UInt32).toNat = 2 ^ 8 - 1 := rfl
  rw [UInt32.toNat_toUInt8, UInt32.toNat_and, hmask, Nat.and_two_pow_sub_one_eq_mod,
    UInt32.toNat_shiftRight, Nat.mod_eq_of_lt hs, Nat.shiftRight_eq_div_pow, UInt8.toNat_ofNat',
    Nat.mod_mod]

theorem shiftByte64 (v s : UInt64) (hs : s.toNat < 64) :
    ((v >>> s) &&& 0xff).toUInt8 = UInt8.ofNat (v.toNat / 2 ^ s.toNat) := by
  apply UInt8.toNat_inj.mp
  have hmask : (0xff : UInt64).toNat = 2 ^ 8 - 1 := rfl
  rw [UInt64.toNat_toUInt8, UInt64.toNat_and, hmask, Nat.and_two_pow_sub_one_eq_mod,
    UInt64.toNat_shiftRight, Nat.mod_eq_of_lt hs, Nat.shiftRight_eq_div_pow, UInt8.toNat_ofNat',
    Nat.mod_mod]

theorem writeU8At_eq {output : ByteBuffer} {offset : ℕ} (value : UInt8)
    (h : offset + 1 ≤ output.length) :
    writeU8At output offset value = (true, overwrite output offset [value]) := by
  rw [writeU8At, if_neg (by omega), overwrite_cons _ _ (by omega), overwrite_nil]

theorem writeU16At_eq {output : ByteBuffer} {offset : ℕ} (value : UInt16)
    (h : offset + 2 ≤ output.length) :
    writeU16At output offset value = (true, overwrite output offset (beBytes 2 value.toNat)) := by
  have h0 := shiftByte16 value 8 (by decide)
  have h1 : (value &&& 0xff).toUInt8 = UInt8.ofNat (value.toNat / 256 ^ 0) := by
    simpa using shiftByte16 value 0 (by decide)
  rw [writeU16At, if_neg (by omega), h0, h1, beBytes, beBytes, beBytes,
    overwrite_cons _ _ (by omega), overwrite_cons _ _ (by rw [List.length_set]; omega),
    overwrite_nil]
  rfl

theorem writeU32At_eq {output : ByteBuffer} {offset : ℕ} (value : UInt32)
    (h : offset + 4 ≤ output.length) :
    writeU32At output offset value = (true, overwrite output offset (beBytes 4 value.toNat)) := by
  have h0 := shiftByte32 value 24 (by decide)
  have h1 := shiftByte32 value 16 (by decide)
  have h2 := shiftByte32 value 8 (by decide)
  have h3 : (value &&& 0xff).toUInt8 = UInt8.ofNat (value.toNat / 256 ^ 0) := by
    simpa using shiftByte32 value 0 (by decide)
  rw [writeU32At, if_neg (by omega), h0, h1, h2, h3, beBytes, beBytes, beBytes, beBytes, beBytes,
    overwrite_cons _ _ (by omega), overwrite_cons _ _ (by simp only [List.length_set]; omega),
    overwrite_cons _ _ (by simp only [List.length_set]; omega),
    overwrite_cons _ _ (by simp only [List.length_set]; omega), overwrite_nil]
  rfl

theorem writeU64At_eq {output : ByteBuffer} {offset : ℕ} (value : UInt64)
    (h : offset + 8 ≤ output.length) :
    writeU64At output offset value = (true, overwrite output offset (beBytes 8 value.toNat)) := by
  have hbyte : ∀ index, index < 8 →
      ((value >>> UInt64.ofNat ((7 - index) * 8)) &&& 0xff).toUInt8 =
        UInt8.ofNat (value.toNat / 256 ^ (7 - index)) := by
    intro index hindex
    have hshift : (UInt64.ofNat ((7 - index) * 8)).toNat = (7 - index) * 8 := by
      rw [UInt64.toNat_ofNat', Nat.mod_eq_of_lt (by omega)]
    rw [shiftByte64 _ _ (by rw [hshift]; omega), hshift, Nat.mul_comm, pow_mul]
    rfl
  have hrange : List.range 8 = [0, 1, 2, 3, 4, 5, 6, 7] := rfl
  rw [writeU64At, if_neg (by omega), hrange]
  simp only [List.foldl_cons, List.foldl_nil]
  rw [hbyte 0 (by omega), hbyte 1 (by omega), hbyte 2 (by omega), hbyte 3 (by omega),
    hbyte 4 (by omega), hbyte 5 (by omega), hbyte 6 (by omega), hbyte 7 (by omega)]
  simp only [beBytes]
  rw [overwrite_cons _ _ (by omega)]
  iterate 7 rw [overwrite_cons _ _ (by simp only [List.length_set]; omega)]
  rw [overwrite_nil]
  rfl

/-! ## Reads are slices -/

theorem readU8At_eq {input : ByteBuffer} {offset : ℕ} (h : offset + 1 ≤ input.length) :
    readU8At input offset = some (UInt8.ofNat (beNat (slice input offset 1))) := by
  rw [readU8At, if_neg (by omega), slice_succ 0 (by omega), slice_zero, beNat_cons]
  simp

/-- A byte shifted into place, below the width of the word. -/
theorem shiftLeft_byte (b : UInt8) {k w : ℕ} (hk : k + 8 ≤ w) :
    b.toNat <<< k % 2 ^ w = b.toNat * 2 ^ k := by
  rw [Nat.shiftLeft_eq, Nat.mod_eq_of_lt]
  calc b.toNat * 2 ^ k < 2 ^ 8 * 2 ^ k := Nat.mul_lt_mul_of_pos_right b.toNat_lt (by positivity)
    _ = 2 ^ (8 + k) := (pow_add 2 8 k).symm
    _ ≤ 2 ^ w := Nat.pow_le_pow_right (by norm_num) (by omega)

theorem readU16At_eq {input : ByteBuffer} {offset : ℕ} (h : offset + 2 ≤ input.length) :
    readU16At input offset = some (UInt16.ofNat (beNat (slice input offset 2))) := by
  rw [readU16At, if_neg (by omega), slice_succ 0 (by omega), slice_succ 0 (by omega), slice_zero]
  congr 1
  generalize input.getD offset 0 = a
  generalize input.getD (offset + 1) 0 = b
  have hb := b.toNat_lt
  have hlt : beNat [a, b] < 2 ^ 16 := by simpa using beNat_lt [a, b]
  apply UInt16.toNat_inj.mp
  have hleft : (a.toUInt16 <<< 8 ||| b.toUInt16).toNat = a.toNat * 2 ^ 8 ||| b.toNat := by
    rw [UInt16.toNat_or, UInt16.toNat_shiftLeft, UInt8.toNat_toUInt16, UInt8.toNat_toUInt16]
    exact congrArg (· ||| b.toNat) (shiftLeft_byte a (k := 8) (w := 16) (by omega))
  rw [hleft, UInt16.toNat_ofNat_of_lt' hlt, lor_low _ _ hb]
  simp [beNat_cons]

theorem readU32At_eq {input : ByteBuffer} {offset : ℕ} (h : offset + 4 ≤ input.length) :
    readU32At input offset = some (UInt32.ofNat (beNat (slice input offset 4))) := by
  rw [readU32At, if_neg (by omega)]
  iterate 4 rw [slice_succ 0 (by omega)]
  rw [slice_zero]
  congr 1
  generalize input.getD offset 0 = a
  generalize input.getD (offset + 1) 0 = b
  generalize input.getD (offset + 2) 0 = c
  generalize input.getD (offset + 3) 0 = d
  have hb := b.toNat_lt
  have hc := c.toNat_lt
  have hd := d.toNat_lt
  have hlt : beNat [a, b, c, d] < 2 ^ 32 := by simpa using beNat_lt [a, b, c, d]
  apply UInt32.toNat_inj.mp
  have hleft : (a.toUInt32 <<< 24 ||| b.toUInt32 <<< 16 ||| c.toUInt32 <<< 8 ||| d.toUInt32).toNat
      = a.toNat * 2 ^ 24 ||| b.toNat * 2 ^ 16 ||| c.toNat * 2 ^ 8 ||| d.toNat := by
    have ea := shiftLeft_byte a (k := 24) (w := 32) (by omega)
    have eb := shiftLeft_byte b (k := 16) (w := 32) (by omega)
    have ec := shiftLeft_byte c (k := 8) (w := 32) (by omega)
    simp only [UInt32.toNat_or, UInt32.toNat_shiftLeft, UInt8.toNat_toUInt32]
    rw [← ea, ← eb, ← ec]
    rfl
  have hab : a.toNat * 2 ^ 24 ||| b.toNat * 2 ^ 16 = (a.toNat * 2 ^ 8 + b.toNat) * 2 ^ 16 := by
    rw [lor_low _ _ (by omega)]
    ring
  have habc : (a.toNat * 2 ^ 8 + b.toNat) * 2 ^ 16 ||| c.toNat * 2 ^ 8 =
      ((a.toNat * 2 ^ 8 + b.toNat) * 2 ^ 8 + c.toNat) * 2 ^ 8 := by
    rw [lor_low _ _ (by omega)]
    ring
  rw [hleft, hab, habc, lor_low _ _ hd, UInt32.toNat_ofNat_of_lt' hlt]
  simp only [beNat_cons, beNat_nil, List.length_cons, List.length_nil]
  ring

/-- The accumulating loop of `readU64At` spells the bytes it has read. -/
theorem foldl_shift_or (bytes : List UInt8) (h : bytes.length ≤ 8) :
    (bytes.foldl (fun (value : UInt64) b => (value <<< 8) ||| b.toUInt64) 0).toNat =
      beNat bytes := by
  induction bytes using List.reverseRecOn with
  | nil => rfl
  | append_singleton bytes b ih =>
    rw [List.length_append, List.length_singleton] at h
    have hih := ih (by omega)
    have hlt : beNat bytes * 2 ^ 8 < 2 ^ 64 := by
      calc beNat bytes * 2 ^ 8 < 256 ^ bytes.length * 2 ^ 8 :=
            Nat.mul_lt_mul_of_pos_right (beNat_lt bytes) (by norm_num)
        _ ≤ 256 ^ 7 * 2 ^ 8 :=
            Nat.mul_le_mul_right _ (Nat.pow_le_pow_right (by norm_num) (by omega))
        _ = 2 ^ 64 := by norm_num
    have hbe : beNat (bytes ++ [b]) = beNat bytes * 2 ^ 8 + b.toNat := by
      rw [beNat, List.foldl_append]
      rfl
    rw [List.foldl_append, List.foldl_cons, List.foldl_nil, UInt64.toNat_or,
      UInt64.toNat_shiftLeft, UInt8.toNat_toUInt64, hih, hbe, ← lor_low _ _ b.toNat_lt]
    congr 1
    rw [Nat.shiftLeft_eq]
    exact Nat.mod_eq_of_lt hlt

theorem readU64At_eq {input : ByteBuffer} {offset : ℕ} (h : offset + 8 ≤ input.length) :
    readU64At input offset = some (UInt64.ofNat (beNat (slice input offset 8))) := by
  have hslice : slice input offset 8 =
      (List.range 8).map fun index => input.getD (offset + index) 0 := by
    iterate 8 rw [slice_succ 0 (by omega)]
    rw [slice_zero]
    rfl
  have hlen : (slice input offset 8).length = 8 := length_slice h
  rw [readU64At, if_neg (by omega)]
  congr 1
  apply UInt64.toNat_inj.mp
  have hlt : beNat (slice input offset 8) < 2 ^ 64 := by
    simpa [hlen] using beNat_lt (slice input offset 8)
  rw [UInt64.toNat_ofNat_of_lt' hlt, ← foldl_shift_or _ (by omega), hslice, List.foldl_map]

end Protocol
end FusionDesk
