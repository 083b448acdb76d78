import FusionDesk.General.ByteReader
import FusionDesk.Protocol.CapabilityPayloadRoundTrip

/-!
# The fields of a control payload

The codecs of the peer profile, of the module inventory and of the display codec profile each have
the same functions for a field: `appendU8` to `appendCount`, `readU8` to `readString`.  They are here
once.  What is counted and what is read in a loop is behind a count of two bytes.

An append that returns a `bool` gives `none` for `false`; a read that returns `false` is a reader
that fails, and whoever calls it has the text.

* `appendList_eq`, `reads_list`: a list that is written item by item is read item by item.
* `takes_u16`, `takes_string` and so on: the bytes of a field that has been read.
-/

namespace FusionDesk
namespace Protocol
namespace PayloadFields

open BigEndian ByteReader Reader

/-- `std::string`. -/
abbrev StdString := List UInt8

/-! ## The functions of the source -/

def appendU8 (output : ByteBuffer) (value : UInt8) : ByteBuffer := output ++ [value]

def appendU16 (output : ByteBuffer) (value : UInt16) : ByteBuffer :=
  CapabilityPayload.writeU16 output value

def appendU32 (output : ByteBuffer) (value : UInt32) : ByteBuffer :=
  CapabilityPayload.writeU32 output value

def appendU64 (output : ByteBuffer) (value : UInt64) : ByteBuffer :=
  CapabilityPayload.writeU64 output value

def appendI32 (output : ByteBuffer) (value : Int32) : ByteBuffer :=
  appendU32 output value.toUInt32

/-- A `bool`, as the codecs write it. -/
def flag (value : Bool) : UInt8 := if value then 1 else 0

/-- `appendString`, and `appendBytes`. -/
def appendString (output : ByteBuffer) (value : StdString) : Option ByteBuffer :=
  if value.length > 0xffffffff then none
  else some (appendU32 output (UInt32.ofNat value.length) ++ value)

def appendCount (output : ByteBuffer) (value : ℕ) : Option ByteBuffer :=
  if value > 0xffff then none else some (appendU16 output (UInt16.ofNat value))

/-- A count, and a loop that appends the items. -/
def appendList {α : Type} (append : ByteBuffer → α → Option ByteBuffer) (output : ByteBuffer)
    (values : List α) : Option ByteBuffer := do
  let output ← appendCount output values.length
  values.foldlM append output

def readU8 : Reader Unit UInt8 :=
  checked 1 () (fun input offset => input[offset]?) isSome_getElem?

def readU16 : Reader Unit UInt16 :=
  checked 2 () CapabilityPayload.readU16 CapabilityPayload.isSome_readU16

def readU32 : Reader Unit UInt32 :=
  checked 4 () CapabilityPayload.readU32 CapabilityPayload.isSome_readU32

def readU64 : Reader Unit UInt64 :=
  checked 8 () CapabilityPayload.readU64 CapabilityPayload.isSome_readU64

def readI32 : Reader Unit Int32 := do
  let raw ← readU32
  return raw.toInt32

/-- `readString`, and `readBytes`. -/
def readString : Reader Unit StdString := do
  let size ← readU32
  bytes size.toNat ()

/-- A count, and a loop that reads the items. -/
def readList {α : Type} (r : Reader Unit α) : Reader Unit (List α) := do
  let count ← readU16
  times r count.toNat

/-! ## The bytes of a field -/

def u16Bytes (value : UInt16) : ByteBuffer := beBytes 2 value.toNat
def u32Bytes (value : UInt32) : ByteBuffer := beBytes 4 value.toNat
def u64Bytes (value : UInt64) : ByteBuffer := beBytes 8 value.toNat
def stringBytes (value : StdString) : ByteBuffer := u32Bytes (UInt32.ofNat value.length) ++ value

def listBytes {α : Type} (encode : α → ByteBuffer) (values : List α) : ByteBuffer :=
  u16Bytes (UInt16.ofNat values.length) ++ values.flatMap encode

@[simp] theorem length_u16Bytes (value : UInt16) : (u16Bytes value).length = 2 :=
  length_beBytes _ _

@[simp] theorem length_u32Bytes (value : UInt32) : (u32Bytes value).length = 4 :=
  length_beBytes _ _

@[simp] theorem length_u64Bytes (value : UInt64) : (u64Bytes value).length = 8 :=
  length_beBytes _ _

section Append

variable (output : ByteBuffer)

@[simp] theorem appendU8_eq (value : UInt8) : appendU8 output value = output ++ [value] := rfl

@[simp] theorem appendU16_eq (value : UInt16) :
    appendU16 output value = output ++ u16Bytes value :=
  CapabilityPayload.writeU16_eq output value

@[simp] theorem appendU32_eq (value : UInt32) :
    appendU32 output value = output ++ u32Bytes value :=
  CapabilityPayload.writeU32_eq output value

@[simp] theorem appendU64_eq (value : UInt64) :
    appendU64 output value = output ++ u64Bytes value :=
  CapabilityPayload.writeU64_eq output value

@[simp] theorem appendI32_eq (value : Int32) :
    appendI32 output value = output ++ u32Bytes value.toUInt32 :=
  appendU32_eq output _

theorem appendString_eq {value : StdString} (h : value.length < 2 ^ 32) :
    appendString output value = some (output ++ stringBytes value) := by
  rw [appendString, if_neg (by omega), appendU32_eq, stringBytes, List.append_assoc]

/-- **A list is written behind its count**, if every item is written. -/
theorem appendList_eq {α : Type} (append : ByteBuffer → α → Option ByteBuffer)
    {encode : α → ByteBuffer} {values : List α} (hcount : values.length < 2 ^ 16)
    (h : ∀ a ∈ values, ∀ output, append output a = some (output ++ encode a)) :
    appendList append output values = some (output ++ listBytes encode values) := by
  have hloop : ∀ (values : List α) (output : ByteBuffer),
      (∀ a ∈ values, ∀ output, append output a = some (output ++ encode a)) →
        values.foldlM append output = some (output ++ values.flatMap encode) := by
    intro values
    induction values with
    | nil =>
      intro output _
      rw [List.flatMap_nil, List.append_nil]
      rfl
    | cons a values ih =>
      intro output h
      rw [List.foldlM_cons, h a List.mem_cons_self, Option.bind_eq_bind, Option.bind_some,
        ih _ fun b hb => h b (List.mem_cons_of_mem _ hb), List.flatMap_cons, List.append_assoc]
  rw [appendList, appendCount, if_neg (by omega), Option.bind_eq_bind, Option.bind_some,
    hloop values _ h, appendU16_eq, listBytes, List.append_assoc]

end Append

/-! ## Reading a field back -/

theorem flag_ne_zero (value : Bool) : (flag value != 0) = value := by
  cases value <;> rfl

section Reads

variable (rest : ByteBuffer)

theorem reads_u8 (value : UInt8) : Reads readU8 value [value] rest := by
  refine Reads.checked rfl fun before => ?_
  rw [List.getElem?_append_right le_rfl, Nat.sub_self]
  rfl

theorem reads_u16 (value : UInt16) : Reads readU16 value (u16Bytes value) rest :=
  Reads.checked (length_beBytes _ _) fun before =>
    CapabilityPayload.readU16_frontier before rest value rfl

theorem reads_u32 (value : UInt32) : Reads readU32 value (u32Bytes value) rest := by
  refine Reads.checked (length_beBytes _ _) fun before => ?_
  rw [CapabilityPayload.readU32_eq (by simp), slice_append_right le_rfl, Nat.sub_self,
    slice_append_left (length_u32Bytes value), u32Bytes, PacketCodec.ofNat_beNat_u32]

theorem reads_u64 (value : UInt64) : Reads readU64 value (u64Bytes value) rest := by
  refine Reads.checked (length_beBytes _ _) fun before => ?_
  rw [CapabilityPayload.readU64_eq (by simp), slice_append_right le_rfl, Nat.sub_self,
    slice_append_left (length_u64Bytes value), u64Bytes, PacketCodec.ofNat_beNat_u64]

theorem reads_i32 (value : Int32) : Reads readI32 value (u32Bytes value.toUInt32) rest := by
  refine Reads.last (reads_u32 rest value.toUInt32) ?_
  rw [Int32.toInt32_toUInt32]
  exact Reads.pure value rest

theorem reads_string {value : StdString} (h : value.length < 2 ^ 32) :
    Reads readString value (stringBytes value) rest :=
  (reads_u32 _ _).bind (Reads.bytes (UInt32.toNat_ofNat_of_lt' h).symm)

/-- **A list is read back**, if every item is. -/
theorem reads_list {α : Type} {r : Reader Unit α} {encode : α → ByteBuffer} {values : List α}
    (hcount : values.length < 2 ^ 16) (h : ∀ a ∈ values, ∀ rest, Reads r a (encode a) rest) :
    Reads (readList r) values (listBytes encode values) rest := by
  have hlength : (UInt16.ofNat values.length).toNat = values.length :=
    UInt16.toNat_ofNat_of_lt' hcount
  refine (reads_u16 _ _).bind ?_
  rw [hlength]
  exact Reads.times h

end Reads

/-! ## The bytes of a field that has been read -/

theorem takes_u8 : Takes readU8 fun value front => front = [value] := by
  refine Takes.checked fun input offset value hfits haccess => ?_
  have hvalue := List.getElem?_eq_some_iff.mp haccess
  obtain ⟨hlt, rfl⟩ := hvalue
  rw [slice, List.drop_eq_getElem_cons hlt, List.take_succ_cons, List.take_zero]

theorem takes_u16 : Takes readU16 fun value front => front = u16Bytes value := by
  refine Takes.checked fun input offset value hfits haccess => ?_
  have hlength := length_slice hfits
  have hbytes := beBytes_beNat (slice input offset 2)
  have hlt := beNat_lt (slice input offset 2)
  rw [hlength] at hbytes hlt
  rw [CapabilityPayload.readU16_eq hfits] at haccess
  cases haccess
  rw [u16Bytes, UInt16.toNat_ofNat_of_lt' hlt, hbytes]

theorem takes_u32 : Takes readU32 fun value front => front = u32Bytes value := by
  refine Takes.checked fun input offset value hfits haccess => ?_
  have hlength := length_slice hfits
  have hbytes := beBytes_beNat (slice input offset 4)
  have hlt := beNat_lt (slice input offset 4)
  rw [hlength] at hbytes hlt
  rw [CapabilityPayload.readU32_eq hfits] at haccess
  cases haccess
  rw [u32Bytes, UInt32.toNat_ofNat_of_lt' hlt, hbytes]

theorem takes_u64 : Takes readU64 fun value front => front = u64Bytes value := by
  refine Takes.checked fun input offset value hfits haccess => ?_
  have hlength := length_slice hfits
  have hbytes := beBytes_beNat (slice input offset 8)
  have hlt := beNat_lt (slice input offset 8)
  rw [hlength] at hbytes hlt
  rw [CapabilityPayload.readU64_eq hfits] at haccess
  cases haccess
  rw [u64Bytes, UInt64.toNat_ofNat_of_lt' hlt, hbytes]

theorem takes_i32 : Takes readI32 fun value front => front = u32Bytes value.toUInt32 := by
  refine takes_u32.bind fun raw front hfront => Takes.pure ?_
  rw [List.append_nil, UInt32.toUInt32_toInt32]
  exact hfront

theorem takes_string :
    Takes readString fun value front => front = stringBytes value ∧ value.length < 2 ^ 32 := by
  refine takes_u32.bind fun size front hfront => (Takes.bytes size.toNat ()).mono ?_
  rintro value back ⟨rfl, hlength⟩
  rw [hfront, stringBytes, hlength, UInt32.ofNat_toNat]
  exact ⟨rfl, size.toNat_lt⟩

theorem takes_list {α : Type} {r : Reader Unit α} {P : α → ByteBuffer → Prop} (h : Takes r P) :
    Takes (readList r) fun values front => values.length < 2 ^ 16 ∧ ∃ parts,
      front = u16Bytes (UInt16.ofNat values.length) ++ parts.flatten ∧
        List.Forall₂ P values parts := by
  refine takes_u16.bind fun count front hfront => (Takes.times h count.toNat).mono ?_
  rintro values back ⟨hlength, parts, rfl, hparts⟩
  rw [hlength, UInt16.ofNat_toNat]
  exact ⟨count.toNat_lt, parts, by rw [hfront], hparts⟩

/-- The bytes of a list whose items are written in one way only. -/
theorem takes_list_eq {α : Type} {r : Reader Unit α} {encode : α → ByteBuffer} {D : α → Prop}
    (h : Takes r fun a front => front = encode a ∧ D a) :
    Takes (readList r) fun values front =>
      front = listBytes encode values ∧ values.length < 2 ^ 16 ∧ ∀ a ∈ values, D a := by
  refine (takes_list h).mono ?_
  rintro values front ⟨hcount, parts, rfl, hparts⟩
  have hitems : parts.flatten = values.flatMap encode ∧ ∀ a ∈ values, D a := by
    clear hcount
    induction hparts with
    | nil => exact ⟨rfl, List.forall_mem_nil _⟩
    | @cons a part values parts ha _ ih =>
      rw [List.flatten_cons, List.flatMap_cons, ha.1, ih.1]
      exact ⟨rfl, List.forall_mem_cons.mpr ⟨ha.2, ih.2⟩⟩
  rw [hitems.1, listBytes]
  exact ⟨rfl, hcount, hitems.2⟩

end PayloadFields
end Protocol
end FusionDesk
