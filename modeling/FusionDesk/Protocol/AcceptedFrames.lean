import FusionDesk.Protocol.PacketCodecRoundTrip

/-!
# Accepted frames

What `PacketCodec::decode` asks of a buffer, check by check (`Accepts`), and what it then knows of
it: every byte of the header belongs to a field that is decoded, to a field that is checked or to a
checksum, but for the three bytes the layout reserves.  They are covered by the header's checksum
like any other byte, so a sender can put anything there, and `decode` does not look.

* `decode_ok_iff`: a buffer decodes exactly if it passes the checks.
* `encode_decode_iff`: an accepted frame is the encoding of the packet it decodes to exactly if its
  reserved bytes are zero.
-/

namespace FusionDesk
namespace Protocol

open BigEndian

namespace PacketCodec

/-! ## What is accepted -/

/-- What `decode` demands of a buffer, check by check. -/
structure Accepts (codec : PacketCodec) (bytes : ByteBuffer) : Prop where
  header_le : 100 ≤ bytes.length
  magic : readU32 bytes kOffsetMagic = packetWireMagic
  headerLength : readU16 bytes kOffsetHeaderLength = packetWireHeaderLength
  protocolMajor : readU16 bytes kOffsetProtocolMajor = currentProtocolMajor
  payload_le : (readU32 bytes kOffsetPayloadLength).toNat ≤ codec.options.maxPayloadBytes
  length_eq : bytes.length = 100 + (readU32 bytes kOffsetPayloadLength).toNat
  headerCrc : codec.options.validateHeaderCrc = true →
    crc32 (headerForChecksum (bytes.take 100)) = readU32 bytes kOffsetHeaderCrc
  payloadCrc : codec.options.validatePayloadCrc = true →
    crc32 (bytes.drop 100) = readU32 bytes kOffsetPayloadCrc
  valid : (validate codec.validationOptions (decodeFields bytes (bytes.drop 100))).valid = true

/-- A check that fails ends the decoding. -/
theorem ok_check_iff {c : Prop} [Decidable c] {status : PacketDecodeStatus} {message : String}
    {rest : PacketDecodeResult} (hstatus : status ≠ .ok) :
    (if c then fail status message else rest).ok = true ↔ ¬ c ∧ rest.ok = true := by
  by_cases hc : c
  · rw [if_pos hc]
    simp [PacketDecodeResult.ok, fail, hstatus, hc]
  · rw [if_neg hc]
    simp [hc]

/-- The checksum field of the header is read from a copy of it. -/
theorem readU32_take_headerCrc {bytes : ByteBuffer} (h : 100 ≤ bytes.length) :
    readU32 (bytes.take 100) kOffsetHeaderCrc = readU32 bytes kOffsetHeaderCrc := by
  have htake : (bytes.take 100).length = 100 := by
    rw [List.length_take]
    omega
  refine readU32_of_take_eq (by decide) h (by rw [htake]) ?_
  rw [List.take_take, Nat.min_self]

/-- A buffer that passes the checks decodes to its fields. -/
theorem Accepts.decode_eq {codec : PacketCodec} {bytes : ByteBuffer} (h : Accepts codec bytes) :
    codec.decode bytes = { status := .ok, packet := decodeFields bytes (bytes.drop 100) } := by
  have h100 : packetWireHeaderLength.toNat = 100 := rfl
  have hheader : ¬ (codec.options.validateHeaderCrc = true ∧
      actualHeaderCrc bytes packetWireHeaderLength ≠
        readU32 (bytes.take 100) kOffsetHeaderCrc) := by
    rintro ⟨hflag, hne⟩
    rw [readU32_take_headerCrc h.header_le] at hne
    exact hne (h.headerCrc hflag)
  have hpayload : ¬ (codec.options.validatePayloadCrc = true ∧
      crc32 (bytes.drop 100) ≠ readU32 bytes kOffsetPayloadCrc) := by
    rintro ⟨hflag, hne⟩
    exact hne (h.payloadCrc hflag)
  simp only [decode]
  rw [h.headerLength, h100, if_neg (Nat.not_lt.mpr h.header_le), if_neg (not_not.mpr h.magic),
    if_neg (not_not.mpr rfl), if_neg (not_not.mpr h.protocolMajor),
    if_neg (Nat.not_lt.mpr h.payload_le), if_neg (not_not.mpr h.length_eq), if_neg hheader,
    if_neg hpayload, if_neg (not_not.mpr h.valid)]

/-- The packet of an accepted buffer. -/
theorem Accepts.decode_packet {codec : PacketCodec} {bytes : ByteBuffer}
    (h : Accepts codec bytes) :
    (codec.decode bytes).packet = decodeFields bytes (bytes.drop 100) := by
  rw [h.decode_eq]

/-- A buffer that decodes passes the checks. -/
theorem accepts_of_ok {codec : PacketCodec} {bytes : ByteBuffer}
    (h : (codec.decode bytes).ok = true) : Accepts codec bytes := by
  have h100 : packetWireHeaderLength.toNat = 100 := rfl
  simp only [decode] at h
  rw [ok_check_iff (by decide)] at h
  obtain ⟨hlen, h⟩ := h
  rw [ok_check_iff (by decide)] at h
  obtain ⟨hmagic, h⟩ := h
  rw [ok_check_iff (by decide)] at h
  obtain ⟨hheader, h⟩ := h
  rw [not_not] at hheader
  rw [hheader, h100] at h
  rw [ok_check_iff (by decide)] at h
  obtain ⟨hmajor, h⟩ := h
  rw [ok_check_iff (by decide)] at h
  obtain ⟨hpayload, h⟩ := h
  rw [ok_check_iff (by decide)] at h
  obtain ⟨htotal, h⟩ := h
  rw [ok_check_iff (by decide)] at h
  obtain ⟨hcrc, h⟩ := h
  rw [ok_check_iff (by decide)] at h
  obtain ⟨hcrc', h⟩ := h
  rw [ok_check_iff (by decide)] at h
  obtain ⟨hvalid, -⟩ := h
  rw [h100, Nat.not_lt] at hlen
  refine ⟨hlen, not_not.mp hmagic, hheader, not_not.mp hmajor, Nat.not_lt.mp hpayload,
    not_not.mp htotal, ?_, ?_, not_not.mp hvalid⟩
  · intro hflag
    rw [← readU32_take_headerCrc hlen]
    by_contra hne
    exact hcrc ⟨hflag, hne⟩
  · intro hflag
    by_contra hne
    exact hcrc' ⟨hflag, hne⟩

/-- **A buffer decodes exactly if it passes the checks.** -/
theorem decode_ok_iff (codec : PacketCodec) (bytes : ByteBuffer) :
    (codec.decode bytes).ok = true ↔ Accepts codec bytes := by
  refine ⟨accepts_of_ok, fun h => ?_⟩
  rw [h.decode_eq]
  rfl

/-! ## Writing back what was read -/

theorem beBytes_readU16 {bytes : ByteBuffer} {offset : ℕ} (h : offset + 2 ≤ bytes.length) :
    beBytes 2 (readU16 bytes offset).toNat = slice bytes offset 2 := by
  have hlen : (slice bytes offset 2).length = 2 := length_slice h
  have hlt : beNat (slice bytes offset 2) < 2 ^ 16 := by
    simpa [hlen] using beNat_lt (slice bytes offset 2)
  rw [readU16_eq h, UInt16.toNat_ofNat_of_lt' hlt]
  simpa [hlen] using beBytes_beNat (slice bytes offset 2)

theorem beBytes_readU32 {bytes : ByteBuffer} {offset : ℕ} (h : offset + 4 ≤ bytes.length) :
    beBytes 4 (readU32 bytes offset).toNat = slice bytes offset 4 := by
  have hlen : (slice bytes offset 4).length = 4 := length_slice h
  have hlt : beNat (slice bytes offset 4) < 2 ^ 32 := by
    simpa [hlen] using beNat_lt (slice bytes offset 4)
  rw [readU32_eq h, UInt32.toNat_ofNat_of_lt' hlt]
  simpa [hlen] using beBytes_beNat (slice bytes offset 4)

theorem beBytes_readU64 {bytes : ByteBuffer} {offset : ℕ} (h : offset + 8 ≤ bytes.length) :
    beBytes 8 (readU64 bytes offset).toNat = slice bytes offset 8 := by
  have hlen : (slice bytes offset 8).length = 8 := length_slice h
  have hlt : beNat (slice bytes offset 8) < 2 ^ 64 := by
    simpa [hlen] using beNat_lt (slice bytes offset 8)
  rw [readU64_eq h, UInt64.toNat_ofNat_of_lt' hlt]
  simpa [hlen] using beBytes_beNat (slice bytes offset 8)

theorem singleton_readU8 {bytes : ByteBuffer} {offset : ℕ} (h : offset + 1 ≤ bytes.length) :
    [readU8 bytes offset] = slice bytes offset 1 := by
  have hlen : (slice bytes offset 1).length = 1 := length_slice h
  obtain ⟨b, hb⟩ := List.length_eq_one_iff.mp hlen
  rw [readU8_eq h, hb, ofNat_beNat_u8]

/-! ## The bytes of a frame -/

/-- The widths of the fields of the header before the two checksums, reserved bytes included. -/
def headerWidths : List ℕ := [4, 2, 2, 2, 2, 2, 2, 2, 1, 1, 2, 2, 4, 8, 8, 8, 8, 8, 8, 8, 4, 4]

/-- The offsets of the header that belong to no field. -/
def reservedOffsets : List ℕ := [19, 22, 23]

/-- The reserved bytes are zero. -/
def ReservedZero (bytes : ByteBuffer) : Prop :=
  ∀ offset ∈ reservedOffsets, bytes[offset]? = some 0

instance (bytes : ByteBuffer) : Decidable (ReservedZero bytes) :=
  inferInstanceAs (Decidable (∀ offset ∈ reservedOffsets, bytes[offset]? = some 0))

theorem reservedZero_iff {bytes : ByteBuffer} (h : 100 ≤ bytes.length) :
    ReservedZero bytes ↔
      slice bytes 19 1 = List.replicate 1 0 ∧ slice bytes 22 2 = List.replicate 2 0 := by
  rw [slice_succ 0 (by omega), slice_zero, slice_succ 0 (by omega), slice_succ 0 (by omega),
    slice_zero]
  simp only [ReservedZero, reservedOffsets, List.forall_mem_cons, List.not_mem_nil,
    false_implies, implies_true, and_true, List.replicate_succ, List.replicate_zero,
    List.cons.injEq]
  rw [List.getElem?_eq_getElem (by omega : 19 < bytes.length),
    List.getElem?_eq_getElem (by omega : 22 < bytes.length),
    List.getElem?_eq_getElem (by omega : 23 < bytes.length), List.getD_eq_getElem _ _ (by omega),
    List.getD_eq_getElem _ _ (by omega), List.getD_eq_getElem _ _ (by omega), Option.some_inj,
    Option.some_inj, Option.some_inj]

/-- A buffer with a header, cut at the two checksums and the payload. -/
theorem eq_slices (bytes : ByteBuffer) :
    bytes = slice bytes 0 92 ++ (slice bytes 92 4 ++ slice bytes 96 4) ++ bytes.drop 100 := by
  have hheader : slice bytes 0 92 ++ (slice bytes 92 4 ++ slice bytes 96 4) = bytes.take 100 := by
    have hslices := flatten_slices bytes 0 [92, 4, 4]
    simpa [slices, slice] using hslices
  rw [hheader, List.take_append_drop]

/-- The header whose checksum is taken: the checksum's own field is blank. -/
theorem headerForChecksum_take (bytes : ByteBuffer) :
    headerForChecksum (bytes.take 100) =
      slice bytes 0 92 ++ (List.replicate 4 0 ++ slice bytes 96 4) := by
  rw [headerForChecksum, overwrite, kOffsetHeaderCrc, List.length_replicate, List.take_take,
    List.drop_take, List.append_assoc]
  rfl

/-- **The fields of the packet a buffer decodes to are the bytes of its header**, if the bytes that
belong to no field are zero. -/
theorem headerFields_decodeFields {bytes : ByteBuffer} (hlen : 100 ≤ bytes.length)
    (hmagic : readU32 bytes kOffsetMagic = packetWireMagic)
    (hheader : readU16 bytes kOffsetHeaderLength = packetWireHeaderLength)
    (hreserved : ReservedZero bytes) (payload : ByteBuffer) :
    headerFields (decodeFields bytes payload) (readU32 bytes kOffsetPayloadLength) =
      slices bytes 0 headerWidths := by
  have u8 : ∀ offset, offset + 1 ≤ 100 → [readU8 bytes offset] = slice bytes offset 1 :=
    fun offset h => singleton_readU8 (by omega)
  have u16 : ∀ offset, offset + 2 ≤ 100 →
      beBytes 2 (readU16 bytes offset).toNat = slice bytes offset 2 :=
    fun offset h => beBytes_readU16 (by omega)
  have u32 : ∀ offset, offset + 4 ≤ 100 →
      beBytes 4 (readU32 bytes offset).toNat = slice bytes offset 4 :=
    fun offset h => beBytes_readU32 (by omega)
  have u64 : ∀ offset, offset + 8 ≤ 100 →
      beBytes 8 (readU64 bytes offset).toNat = slice bytes offset 8 :=
    fun offset h => beBytes_readU64 (by omega)
  obtain ⟨h19, h22⟩ := (reservedZero_iff hlen).mp hreserved
  simp only [headerFields, decodeFields]
  rw [← hmagic, ← hheader, ← h19, ← h22, u32 kOffsetMagic (by decide),
    u16 kOffsetHeaderLength (by decide), u16 kOffsetProtocolMajor (by decide),
    u16 kOffsetProtocolMinor (by decide), u16 kOffsetChannelId (by decide),
    u16 kOffsetChannelType (by decide), u16 kOffsetPacketType (by decide),
    u16 kOffsetMessageKind (by decide), u8 kOffsetPriority (by decide),
    u16 kOffsetResponseStatus (by decide), u32 kOffsetFlags (by decide),
    u64 kOffsetSessionId (by decide), u64 kOffsetTraceId (by decide),
    u64 kOffsetMessageId (by decide), u64 kOffsetCorrelationId (by decide),
    u64 kOffsetResponseTo (by decide), u64 kOffsetSequence (by decide),
    u64 kOffsetTimestamp (by decide), u32 kOffsetTimeout (by decide),
    u32 kOffsetPayloadLength (by decide)]
  rfl

/-- The bytes of an encoded packet that belong to no field are zero. -/
theorem reservedZero_encode (codec : PacketCodec) (packet : PacketEnvelope) :
    ReservedZero (codec.encode packet) := by
  rw [reservedZero_iff (by rw [length_encode]; omega)]
  exact ⟨slice_encode codec packet 9 rfl rfl rfl, slice_encode codec packet 11 rfl rfl rfl⟩

/-- **An accepted frame is canonical exactly if its reserved bytes are zero.** -/
theorem encode_decode_iff {codec : PacketCodec} {bytes : ByteBuffer}
    (hheader : codec.options.validateHeaderCrc = true)
    (hpayload : codec.options.validatePayloadCrc = true)
    (hok : (codec.decode bytes).ok = true) :
    codec.encode (codec.decode bytes).packet = bytes ↔ ReservedZero bytes := by
  have h := (decode_ok_iff codec bytes).mp hok
  constructor
  · intro hsame
    rw [← hsame]
    exact reservedZero_encode codec _
  · intro hreserved
    have hlen := h.header_le
    have hpacket : (decodeFields bytes (bytes.drop 100)).payload = bytes.drop 100 := rfl
    have hlength : UInt32.ofNat (bytes.drop 100).length = readU32 bytes kOffsetPayloadLength := by
      rw [List.length_drop, h.length_eq, Nat.add_sub_cancel_left, UInt32.ofNat_toNat]
    have hfields : (slices bytes 0 headerWidths).flatten = slice bytes 0 92 :=
      flatten_slices bytes 0 headerWidths
    rw [h.decode_packet, encode_eq, header, headerCrc, hpacket, hlength,
      headerFields_decodeFields hlen h.magic h.headerLength hreserved, hfields,
      h.payloadCrc hpayload, beBytes_readU32 (by rw [kOffsetPayloadCrc]; omega), kOffsetPayloadCrc,
      ← headerForChecksum_take, h.headerCrc hheader,
      beBytes_readU32 (by rw [kOffsetHeaderCrc]; omega), kOffsetHeaderCrc]
    exact (eq_slices bytes).symm

/-- A heartbeat on the control channel, with a payload of two bytes. -/
def heartbeatPacket : PacketEnvelope :=
  { sessionId := 1, channelId := ChannelIdValue.userAuthMain, channelType := .control,
    payload := [7, 9] }

theorem encode_decode_iff_heartbeat :
    PacketCodec.encode {} (decode {} (encode {} heartbeatPacket)).packet =
      encode {} heartbeatPacket ↔ ReservedZero (encode {} heartbeatPacket) :=
  encode_decode_iff rfl rfl (by decide +kernel)

/-- The frame of the heartbeat with a one in the first reserved byte, and the checksum of the header
taken again. -/
def reservedFrame : ByteBuffer :=
  let bytes := (encode {} heartbeatPacket).set 19 1
  overwrite bytes kOffsetHeaderCrc (beBytes 4 (actualHeaderCrc bytes packetWireHeaderLength).toNat)

/-- The frame is accepted, and encoding what it decodes to gives another one. -/
theorem not_canonical_reservedFrame : ¬ ∀ (codec : PacketCodec) (bytes : ByteBuffer),
    codec.options.validateHeaderCrc = true → codec.options.validatePayloadCrc = true →
      (codec.decode bytes).ok = true →
        codec.encode (codec.decode bytes).packet = bytes ∧ ReservedZero bytes := by
  intro h
  have haccepted : (decode {} reservedFrame).ok = true := by decide +kernel
  have hreserved : ¬ ReservedZero reservedFrame := by decide +kernel
  exact hreserved (h {} reservedFrame rfl rfl haccepted).2

end PacketCodec
end Protocol
end FusionDesk
