import FusionDesk.General.ReflectedCrc
import FusionDesk.Protocol.AcceptedFrames

/-!
# What the checksums of a frame protect

The `crc32` of the codec is a reflected check with a register of 32 bits, so no change of a buffer
within four consecutive bytes leaves it as it was (`crc32_burst`).

A frame has two of them.  The payload's checksum stands in the header and is covered by the
header's, the header's stands in its own field, which counts as blank, and the length of the payload
stands in the header and is compared with the length of the buffer.  A change within four bytes may
touch a checksum and what it covers at once.  That it is noticed all the same is
`decode_corrupted`, for a change anywhere in the frame:

* if the payload changes, its checksum has to change with it, which takes the change across the
  boundary and out of the reach of the header's checksum, so the header's does not fit;
* if the payload does not change, its checksum does not either, so a change of the header outside
  the field of its checksum lies before that field and has to reach into it; between the two is the
  length, which cannot change.
-/

namespace FusionDesk
namespace Protocol

open BigEndian

namespace PacketCodec

/-! ## The checksum is a reflected check -/

/-- The polynomial of `crc32`. -/
def crcPolynomial : BitVec 32 := 0xedb88320#32

theorem toBitVec_crcBit (crc : UInt32) :
    (crcBit crc).toBitVec = ReflectedCrc.bit crcPolynomial crc.toBitVec := by
  have hlow : (crc &&& 1).toBitVec =
      BitVec.setWidth 32 (BitVec.ofBool (crc.toBitVec.getLsbD 0)) := by
    rw [UInt32.toBitVec_and]
    exact BitVec.and_one_eq_setWidth_ofBool_getLsbD
  unfold crcBit ReflectedCrc.bit
  cases hbit : crc.toBitVec.getLsbD 0 with
  | false =>
    rw [hbit] at hlow
    have hzero : crc &&& 1 = 0 := UInt32.toBitVec_inj.mp hlow
    rw [hzero]
    rfl
  | true =>
    rw [hbit] at hlow
    have hone : crc &&& 1 = 1 := UInt32.toBitVec_inj.mp hlow
    rw [hone]
    rfl

theorem toBitVec_crcByte (crc : UInt32) (b : UInt8) :
    (crcByte crc b).toBitVec = ReflectedCrc.byte crcPolynomial crc.toBitVec b.toBitVec := by
  have hiterate : Function.Semiconj UInt32.toBitVec (crcBit^[8])
      ((ReflectedCrc.bit crcPolynomial)^[8]) :=
    Function.Semiconj.iterate_right toBitVec_crcBit 8
  exact hiterate (crc ^^^ b.toUInt32)

theorem toBitVec_foldl_crcByte (crc : UInt32) (data : ByteBuffer) :
    (data.foldl crcByte crc).toBitVec =
      (data.map UInt8.toBitVec).foldl (ReflectedCrc.byte crcPolynomial) crc.toBitVec := by
  induction data generalizing crc with
  | nil => rfl
  | cons b data ih => rw [List.foldl_cons, ih, List.map_cons, List.foldl_cons, toBitVec_crcByte]

/-- Two buffers with one checksum leave the register alike. -/
theorem foldl_eq_of_crc32_eq {xs ys : ByteBuffer} (h : crc32 xs = crc32 ys) :
    (xs.map UInt8.toBitVec).foldl (ReflectedCrc.byte crcPolynomial) (0xffffffff : UInt32).toBitVec =
      (ys.map UInt8.toBitVec).foldl (ReflectedCrc.byte crcPolynomial)
        (0xffffffff : UInt32).toBitVec := by
  rw [← toBitVec_foldl_crcByte, ← toBitVec_foldl_crcByte]
  exact congrArg UInt32.toBitVec (UInt32.not_inj.mp h)

/-- The two buffers differ only within the four bytes from `start` on. -/
def DifferWithin (start : ℕ) (xs ys : ByteBuffer) : Prop :=
  ∀ i, xs[i]? ≠ ys[i]? → start ≤ i ∧ i < start + 4

/-- **A change within four consecutive bytes changes the checksum.** -/
theorem crc32_burst {xs ys : ByteBuffer} {start : ℕ} (hlen : xs.length = ys.length)
    (hwithin : DifferWithin start xs ys) (h : crc32 xs = crc32 ys) : xs = ys := by
  have hfront : xs.take start = ys.take start := by
    ext1 i
    rw [List.getElem?_take, List.getElem?_take]
    by_cases hi : i < start
    · rw [if_pos hi, if_pos hi]
      by_contra hne
      exact absurd (hwithin i hne).1 (Nat.not_le.mpr hi)
    · rw [if_neg hi, if_neg hi]
  have hback : xs.drop (start + 4) = ys.drop (start + 4) := by
    ext1 i
    rw [List.getElem?_drop, List.getElem?_drop]
    by_contra hne
    have hlt := (hwithin _ hne).2
    omega
  have hsplit : ∀ zs : ByteBuffer,
      zs = zs.take start ++ (slice zs start 4 ++ zs.drop (start + 4)) := by
    intro zs
    rw [slice, ← List.drop_drop, List.take_append_drop, List.take_append_drop]
  have hslice : (slice xs start 4).length = (slice ys start 4).length := by
    rw [slice, slice, List.length_take, List.length_take, List.length_drop, List.length_drop, hlen]
  have hfit : (slice xs start 4).length ≤ 4 := by
    rw [slice, List.length_take]
    exact Nat.min_le_left _ _
  have hfold := foldl_eq_of_crc32_eq h
  rw [hsplit xs, hsplit ys, hfront, hback] at hfold
  simp only [List.map_append] at hfold
  have hpoly : crcPolynomial.getLsbD (32 - 1) = true := by decide
  have hbits := ReflectedCrc.fold_burst hpoly _ _
    (by rw [List.length_map, List.length_map, hslice]) (by rw [List.length_map]; omega) hfold
  have hinj : Function.Injective UInt8.toBitVec := fun _ _ hb => UInt8.toBitVec_inj.mp hb
  rw [hsplit xs, hsplit ys, hfront, hback, List.map_injective_iff.mpr hinj hbits]

/-! ## The two checksums of a frame -/

section Frames

variable {xs ys : ByteBuffer}

/-- Two fields of four bytes have one value exactly if their bytes are the same. -/
theorem readU32_eq_iff {offset : ℕ} (hxs : offset + 4 ≤ xs.length) (hys : offset + 4 ≤ ys.length) :
    readU32 xs offset = readU32 ys offset ↔
      ∀ i, offset ≤ i → i < offset + 4 → xs[i]? = ys[i]? := by
  constructor
  · intro h i hle hlt
    have hslice : slice xs offset 4 = slice ys offset 4 := by
      rw [← beBytes_readU32 hxs, ← beBytes_readU32 hys, h]
    have hget : (slice xs offset 4)[i - offset]? = (slice ys offset 4)[i - offset]? := by
      rw [hslice]
    rw [getElem?_slice, getElem?_slice, if_pos (by omega), if_pos (by omega)] at hget
    rwa [Nat.add_sub_cancel' hle] at hget
  · intro h
    rw [readU32_eq hxs, readU32_eq hys,
      slice_congr fun i hi => h (offset + i) (by omega) (by omega)]

/-- The bytes of the header whose checksum is taken. -/
theorem getElem?_headerForChecksum (h : 100 ≤ xs.length) (i : ℕ) :
    (headerForChecksum (xs.take 100))[i]? =
      if i < 92 then xs[i]? else if i < 96 then some 0 else if i < 100 then xs[i]? else none := by
  have hlen : (slice xs 0 92).length = 92 := length_slice (by omega)
  rw [headerForChecksum_take, List.getElem?_append, hlen]
  by_cases h92 : i < 92
  · rw [if_pos h92, if_pos h92, getElem?_slice, if_pos h92, Nat.zero_add]
  rw [if_neg h92, if_neg h92, List.getElem?_append, List.length_replicate]
  by_cases h96 : i < 96
  · rw [if_pos h96, if_pos (by omega), List.getElem?_replicate, if_pos (by omega)]
  rw [if_neg h96, if_neg (by omega), getElem?_slice]
  by_cases h100 : i < 100
  · rw [if_pos h100, if_pos (by omega)]
    congr 1
    omega
  · rw [if_neg h100, if_neg (by omega)]

/-- A change of the frame, seen in the header whose checksum is taken. -/
theorem DifferWithin.header {start : ℕ} (h : DifferWithin start xs ys) (hxs : 100 ≤ xs.length)
    (hys : 100 ≤ ys.length) :
    DifferWithin start (headerForChecksum (xs.take 100)) (headerForChecksum (ys.take 100)) := by
  intro i hne
  rw [getElem?_headerForChecksum hxs, getElem?_headerForChecksum hys] at hne
  refine h i ?_
  split_ifs at hne with h92 h96 h100
  · exact hne
  · exact absurd rfl hne
  · exact hne
  · exact absurd rfl hne

/-- A change of the frame, seen in the payload. -/
theorem DifferWithin.payload {start : ℕ} (h : DifferWithin start xs ys) :
    DifferWithin (start - 100) (xs.drop 100) (ys.drop 100) := by
  intro i hne
  rw [List.getElem?_drop, List.getElem?_drop] at hne
  have hi := h _ hne
  omega

/-- Where two lists of one length are not the same, some entry is not. -/
theorem exists_getElem?_ne {α : Type*} {xs ys : List α} (h : xs ≠ ys) :
    ∃ i : ℕ, xs[i]? ≠ ys[i]? := by
  by_contra hnone
  refine h (List.ext_getElem? fun i => ?_)
  by_contra hne
  exact hnone ⟨i, hne⟩

variable {codec : PacketCodec} {start : ℕ}

/-- The header's checksum fits two accepted frames, so if their headers are the same but for its
field they have the same checksum, and if its field is the same they have the same header. -/
theorem header_eq_iff (hflag : codec.options.validateHeaderCrc = true) (hx : Accepts codec xs)
    (hy : Accepts codec ys) (hwithin : DifferWithin start xs ys) :
    headerForChecksum (xs.take 100) = headerForChecksum (ys.take 100) ↔
      readU32 xs kOffsetHeaderCrc = readU32 ys kOffsetHeaderCrc := by
  rw [← hx.headerCrc hflag, ← hy.headerCrc hflag]
  have hlen : ∀ {zs : ByteBuffer}, 100 ≤ zs.length →
      (headerForChecksum (zs.take 100)).length = 100 := by
    intro zs hzs
    rw [headerForChecksum_take, List.length_append, List.length_append, List.length_replicate,
      length_slice (by omega), length_slice (by omega)]
  constructor
  · intro h
    rw [h]
  · intro h
    refine crc32_burst ?_ (hwithin.header hx.header_le hy.header_le) h
    rw [hlen hx.header_le, hlen hy.header_le]

/-- A change within four bytes that leaves the payload as it was leaves the frame as it was. -/
theorem eq_of_payload_eq (hheader : codec.options.validateHeaderCrc = true)
    (hpayload : codec.options.validatePayloadCrc = true) (hx : Accepts codec xs)
    (hy : Accepts codec ys) (hlen : xs.length = ys.length) (hwithin : DifferWithin start xs ys)
    (hsame : xs.drop 100 = ys.drop 100) : xs = ys := by
  have hlx := hx.header_le
  have hly := hy.header_le
  -- the payload's checksum and the length are the same
  have h96 : ∀ i, 96 ≤ i → i < 100 → xs[i]? = ys[i]? := by
    refine (readU32_eq_iff (by omega) (by omega)).mp ?_
    show readU32 xs kOffsetPayloadCrc = readU32 ys kOffsetPayloadCrc
    rw [← hx.payloadCrc hpayload, ← hy.payloadCrc hpayload, hsame]
  have h88 : ∀ i, 88 ≤ i → i < 92 → xs[i]? = ys[i]? := by
    refine (readU32_eq_iff (by omega) (by omega)).mp ?_
    show readU32 xs kOffsetPayloadLength = readU32 ys kOffsetPayloadLength
    have hxl := hx.length_eq
    have hyl := hy.length_eq
    exact UInt32.toNat_inj.mp (by omega)
  -- a change of the header would have to reach from before the length into its checksum
  have h92 : readU32 xs kOffsetHeaderCrc = readU32 ys kOffsetHeaderCrc := by
    by_contra hcrc
    have hhead : headerForChecksum (xs.take 100) ≠ headerForChecksum (ys.take 100) :=
      fun h => hcrc ((header_eq_iff hheader hx hy hwithin).mp h)
    obtain ⟨i, hi⟩ := exists_getElem?_ne hhead
    rw [getElem?_headerForChecksum hlx, getElem?_headerForChecksum hly] at hi
    refine hcrc ((readU32_eq_iff (by rw [kOffsetHeaderCrc]; omega)
      (by rw [kOffsetHeaderCrc]; omega)).mpr fun j hj hj' => ?_)
    rw [kOffsetHeaderCrc] at hj hj'
    by_contra hne
    have hrange := hwithin j hne
    split_ifs at hi with hi92 hi96 hi100
    · have hirange := hwithin i hi
      exact hi (h88 i (by omega) hi92)
    · exact hi rfl
    · exact hi (h96 i (by omega) hi100)
    · exact hi rfl
  have hhead := (header_eq_iff hheader hx hy hwithin).mpr h92
  have h92' : ∀ i, 92 ≤ i → i < 96 → xs[i]? = ys[i]? :=
    (readU32_eq_iff (by omega) (by omega)).mp h92
  refine List.ext_getElem? fun i => ?_
  by_cases hi92 : i < 92
  · have hget : (headerForChecksum (xs.take 100))[i]? = (headerForChecksum (ys.take 100))[i]? := by
      rw [hhead]
    rwa [getElem?_headerForChecksum hlx, getElem?_headerForChecksum hly, if_pos hi92,
      if_pos hi92] at hget
  by_cases hi96 : i < 96
  · exact h92' i (by omega) hi96
  by_cases hi100 : i < 100
  · exact h96 i (by omega) hi100
  · have hget : (xs.drop 100)[i - 100]? = (ys.drop 100)[i - 100]? := by
      rw [hsame]
    rwa [List.getElem?_drop, List.getElem?_drop, Nat.add_sub_cancel' (by omega)] at hget

/-- A change within four bytes leaves the payload as it was. -/
theorem payload_eq (hheader : codec.options.validateHeaderCrc = true)
    (hpayload : codec.options.validatePayloadCrc = true) (hx : Accepts codec xs)
    (hy : Accepts codec ys) (hlen : xs.length = ys.length) (hwithin : DifferWithin start xs ys) :
    xs.drop 100 = ys.drop 100 := by
  have hlx := hx.header_le
  have hly := hy.header_le
  by_contra hdiff
  obtain ⟨i, hi⟩ := exists_getElem?_ne hdiff
  rw [List.getElem?_drop, List.getElem?_drop] at hi
  have hirange := hwithin _ hi
  -- the payload's checksum changes with it
  have hcrc : readU32 xs kOffsetPayloadCrc ≠ readU32 ys kOffsetPayloadCrc := by
    rw [← hx.payloadCrc hpayload, ← hy.payloadCrc hpayload]
    refine fun h => hdiff (crc32_burst ?_ hwithin.payload h)
    rw [List.length_drop, List.length_drop, hlen]
  refine hcrc ((readU32_eq_iff (by rw [kOffsetPayloadCrc]; omega)
    (by rw [kOffsetPayloadCrc]; omega)).mpr fun j hj hj' => ?_)
  rw [kOffsetPayloadCrc] at hj hj'
  by_contra hne
  have hjrange := hwithin j hne
  -- so the change begins behind the header's checksum, which is then the same
  have h92 : readU32 xs kOffsetHeaderCrc = readU32 ys kOffsetHeaderCrc := by
    refine (readU32_eq_iff (by rw [kOffsetHeaderCrc]; omega)
      (by rw [kOffsetHeaderCrc]; omega)).mpr fun k hk hk' => ?_
    rw [kOffsetHeaderCrc] at hk hk'
    by_contra hkne
    have hkrange := hwithin k hkne
    omega
  have hhead := (header_eq_iff hheader hx hy hwithin).mpr h92
  have hget : (headerForChecksum (xs.take 100))[j]? = (headerForChecksum (ys.take 100))[j]? := by
    rw [hhead]
  rw [getElem?_headerForChecksum hlx, getElem?_headerForChecksum hly, if_neg (by omega),
    if_neg (by omega), if_pos (by omega), if_neg (by omega), if_neg (by omega),
    if_pos (by omega)] at hget
  exact hne hget

end Frames

/-- **A change of a frame within four consecutive bytes is noticed**, wherever it is. -/
theorem decode_corrupted {codec : PacketCodec} {packet : PacketEnvelope} {bytes : ByteBuffer}
    {start : ℕ} (hheader : codec.options.validateHeaderCrc = true)
    (hpayload : codec.options.validatePayloadCrc = true)
    (hok : (codec.decode (codec.encode packet)).ok = true)
    (hlen : bytes.length = (codec.encode packet).length) (hne : bytes ≠ codec.encode packet)
    (hwithin : DifferWithin start bytes (codec.encode packet)) :
    (codec.decode bytes).ok = false := by
  rw [← Bool.not_eq_true, decode_ok_iff]
  intro hbytes
  have hframe := (decode_ok_iff codec _).mp hok
  refine hne (eq_of_payload_eq hheader hpayload hbytes hframe hlen hwithin ?_)
  exact payload_eq hheader hpayload hbytes hframe hlen hwithin

/-- The heartbeat with its first payload byte and the last byte before it changed. -/
theorem decode_corrupted_heartbeat :
    (decode {} (((encode {} heartbeatPacket).set 99 0).set 100 0)).ok = false := by
  have hok : (decode {} (encode {} heartbeatPacket)).ok = true := by decide +kernel
  have hwithin : DifferWithin 98 (((encode {} heartbeatPacket).set 99 0).set 100 0)
      (encode {} heartbeatPacket) := by
    intro i hne
    by_cases hi : i < 98 ∨ 102 ≤ i
    · rw [List.getElem?_set_ne (by omega), List.getElem?_set_ne (by omega)] at hne
      exact absurd rfl hne
    · omega
  exact decode_corrupted rfl rfl hok (by decide +kernel) (by decide +kernel) hwithin

end PacketCodec
end Protocol
end FusionDesk
