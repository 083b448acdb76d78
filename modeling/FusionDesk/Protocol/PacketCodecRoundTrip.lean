import FusionDesk.Protocol.PacketCodec

/-!
# The packet codec round trip

`encode` fills a blank header in field by field, puts the payload behind it and writes the two
checksums last; `decode` reads the same offsets back.  The bridge between the two is the list of the
fields in the order of their offsets, `headerFields`, reserved bytes included.

* `writeHeader_eq`, `encode_eq`: an encoded packet is its fields one after the other, the two
  checksums and the payload.
* `slice_encode`: the bytes at the offset of a field are the field, so that each read of `decode` is
  one instance of `readU8_encode`, `readU16_encode`, `readU32_encode` or `readU64_encode`.
* `decode_encode`: a packet the validator accepts decodes to itself.
* `inspectFrame_of_take_eq`: the inspection of a frame depends on the hundred bytes of the header
  and on how much is there behind them; with `inspectFrame_append`, `inspectFrame_take` and
  `inspectFrame_encode` for the buffer of a stream.
-/

namespace FusionDesk
namespace Protocol

open BigEndian

namespace PacketCodec

/-! ## The layout of an encoded packet -/

/-- The fields of the header before the two checksums, in the order of their offsets, reserved
bytes included. -/
def headerFields (packet : PacketEnvelope) (payloadLength : UInt32) : List ByteBuffer :=
  [beBytes 4 packetWireMagic.toNat, beBytes 2 packetWireHeaderLength.toNat,
    beBytes 2 packet.protocolMajor.toNat, beBytes 2 packet.protocolMinor.toNat,
    beBytes 2 packet.channelId.toNat, beBytes 2 packet.channelType.raw.toNat,
    beBytes 2 packet.packetType.raw.toNat, beBytes 2 packet.messageKind.raw.toNat,
    [packet.priority.raw], List.replicate 1 0,
    beBytes 2 packet.responseStatus.raw.toNat, List.replicate 2 0,
    beBytes 4 packet.flags.toNat, beBytes 8 packet.sessionId.toNat,
    beBytes 8 packet.traceId.toNat, beBytes 8 packet.messageId.toNat,
    beBytes 8 packet.correlationId.toNat, beBytes 8 packet.responseTo.toNat,
    beBytes 8 packet.sequence.toNat, beBytes 8 packet.monotonicTimestampUsec.toNat,
    beBytes 4 packet.timeoutMs.toNat, beBytes 4 payloadLength.toNat]

theorem length_headerFields (packet : PacketEnvelope) (payloadLength : UInt32) :
    (headerFields packet payloadLength).flatten.length = 92 := by
  simp [headerFields]

/-- A buffer of `total` bytes whose first `offset` bytes are `written` and whose rest is blank. -/
structure Filled (buffer written : ByteBuffer) (offset total : ℕ) : Prop where
  buffer_eq : buffer = written ++ List.replicate (total - offset) 0
  length_written : written.length = offset
  le_total : offset ≤ total

namespace Filled

variable {buffer written : ByteBuffer} {offset total : ℕ}

theorem length_buffer (h : Filled buffer written offset total) : buffer.length = total := by
  have hle := h.le_total
  rw [h.buffer_eq, List.length_append, List.length_replicate, h.length_written]
  omega

/-- Writing at the end of the written part extends it. -/
theorem overwrite (h : Filled buffer written offset total) (new : ByteBuffer)
    (hle : offset + new.length ≤ total) :
    Filled (overwrite buffer offset new) (written ++ new) (offset + new.length) total where
  buffer_eq := by
    rw [h.buffer_eq, overwrite_frontier written new 0 h.length_written (by omega), Nat.sub_sub]
  length_written := by rw [List.length_append, h.length_written]
  le_total := hle

/-- Reserved bytes are already blank. -/
theorem reserved (h : Filled buffer written offset total) (gap : ℕ) (hle : offset + gap ≤ total) :
    Filled buffer (written ++ List.replicate gap 0) (offset + gap) total where
  buffer_eq := by
    rw [h.buffer_eq, append_replicate_gap written 0 (show gap ≤ total - offset by omega),
      Nat.sub_sub]
  length_written := by rw [List.length_append, h.length_written, List.length_replicate]
  le_total := hle

theorem writeU8 (h : Filled buffer written offset total) (value : UInt8)
    (hle : offset + 1 ≤ total) :
    Filled (writeU8At buffer offset value).2 (written ++ [value]) (offset + 1) total := by
  rw [writeU8At_eq _ (by rw [h.length_buffer]; exact hle)]
  exact h.overwrite [value] hle

theorem writeU16 (h : Filled buffer written offset total) (value : UInt16)
    (hle : offset + 2 ≤ total) :
    Filled (writeU16At buffer offset value).2 (written ++ beBytes 2 value.toNat) (offset + 2)
      total := by
  rw [writeU16At_eq _ (by rw [h.length_buffer]; exact hle)]
  simpa using h.overwrite (beBytes 2 value.toNat) (by simpa using hle)

theorem writeU32 (h : Filled buffer written offset total) (value : UInt32)
    (hle : offset + 4 ≤ total) :
    Filled (writeU32At buffer offset value).2 (written ++ beBytes 4 value.toNat) (offset + 4)
      total := by
  rw [writeU32At_eq _ (by rw [h.length_buffer]; exact hle)]
  simpa using h.overwrite (beBytes 4 value.toNat) (by simpa using hle)

theorem writeU64 (h : Filled buffer written offset total) (value : UInt64)
    (hle : offset + 8 ≤ total) :
    Filled (writeU64At buffer offset value).2 (written ++ beBytes 8 value.toNat) (offset + 8)
      total := by
  rw [writeU64At_eq _ (by rw [h.length_buffer]; exact hle)]
  simpa using h.overwrite (beBytes 8 value.toNat) (by simpa using hle)

end Filled

/-- The fields fill the blank header from the front, with a gap at each reserved place. -/
theorem writeHeader_eq (packet : PacketEnvelope) (payloadLength : UInt32) (n : ℕ) :
    writeHeader (List.replicate (100 + n) 0) packet payloadLength =
      (headerFields packet payloadLength).flatten ++ List.replicate (8 + n) 0 := by
  have h0 : Filled (List.replicate (100 + n) 0) [] 0 (100 + n) := ⟨rfl, rfl, Nat.zero_le _⟩
  have h18 := (((((((h0.writeU32 packetWireMagic (by omega)).writeU16 packetWireHeaderLength
    (by omega)).writeU16 packet.protocolMajor (by omega)).writeU16 packet.protocolMinor
    (by omega)).writeU16 packet.channelId (by omega)).writeU16 packet.channelType.raw
    (by omega)).writeU16 packet.packetType.raw (by omega)).writeU16 packet.messageKind.raw
    (by omega)
  have h28 := ((((h18.writeU8 packet.priority.raw (by omega)).reserved 1 (by omega)).writeU16
    packet.responseStatus.raw (by omega)).reserved 2 (by omega)).writeU32 packet.flags (by omega)
  have h84 := ((((((h28.writeU64 packet.sessionId (by omega)).writeU64 packet.traceId
    (by omega)).writeU64 packet.messageId (by omega)).writeU64 packet.correlationId
    (by omega)).writeU64 packet.responseTo (by omega)).writeU64 packet.sequence
    (by omega)).writeU64 packet.monotonicTimestampUsec (by omega)
  have h92 := (h84.writeU32 packet.timeoutMs (by omega)).writeU32 payloadLength (by omega)
  calc writeHeader (List.replicate (100 + n) 0) packet payloadLength
      = _ := h92.buffer_eq
    _ = (headerFields packet payloadLength).flatten ++ List.replicate (8 + n) 0 := by
        rw [show 100 + n - (0 + 4 + 2 + 2 + 2 + 2 + 2 + 2 + 2 + 1 + 1 + 2 + 2 + 4 + 8 + 8 + 8 + 8 +
          8 + 8 + 8 + 4 + 4) = 8 + n by omega]
        simp only [headerFields, List.flatten_cons, List.flatten_nil, List.append_assoc,
          List.nil_append, List.append_nil]

/-- The checksum `encode` puts in the header: over the header with that field blank. -/
def headerCrc (packet : PacketEnvelope) : UInt32 :=
  crc32 ((headerFields packet (UInt32.ofNat packet.payload.length)).flatten ++
    (List.replicate 4 0 ++ beBytes 4 (crc32 packet.payload).toNat))

/-- The first hundred bytes of an encoded packet. -/
def header (packet : PacketEnvelope) : ByteBuffer :=
  (headerFields packet (UInt32.ofNat packet.payload.length)).flatten ++
    (beBytes 4 (headerCrc packet).toNat ++ beBytes 4 (crc32 packet.payload).toNat)

theorem length_header (packet : PacketEnvelope) : (header packet).length = 100 := by
  rw [header, List.length_append, length_headerFields, List.length_append, length_beBytes,
    length_beBytes]

/-- **An encoded packet is its header followed by its payload.** -/
theorem encode_eq (codec : PacketCodec) (packet : PacketEnvelope) :
    codec.encode packet = header packet ++ packet.payload := by
  set fields := (headerFields packet (UInt32.ofNat packet.payload.length)).flatten with hfields
  have hlen : fields.length = 92 := length_headerFields _ _
  have hoff : fields.length = kOffsetHeaderCrc := hlen
  -- the payload behind the header
  have hcopy :
      overwrite (fields ++ List.replicate (8 + packet.payload.length) 0) 100 packet.payload =
        fields ++ (List.replicate 4 0 ++ (List.replicate 4 0 ++ packet.payload)) := by
    rw [append_replicate_gap fields 0 (show 8 ≤ 8 + packet.payload.length by omega),
      Nat.add_sub_cancel_left, overwrite_frontier _ packet.payload 0 (by simp [hlen])
        (Nat.le_refl _), Nat.sub_self, List.replicate_zero, List.append_nil, List.append_assoc,
      ← List.append_assoc (List.replicate 4 0), List.replicate_append_replicate]
  -- the payload's checksum
  have hpayload : (writeU32At (fields ++ (List.replicate 4 0 ++
      (List.replicate 4 0 ++ packet.payload))) kOffsetPayloadCrc (crc32 packet.payload)).2 =
      fields ++ (List.replicate 4 0 ++ (beBytes 4 (crc32 packet.payload).toNat ++
        packet.payload)) := by
    rw [writeU32At_eq _ (by simp [hlen, kOffsetPayloadCrc]; omega), ← List.append_assoc,
      overwrite_middle (fields ++ List.replicate 4 0) _ _ _ (by simp [hlen, kOffsetPayloadCrc])
        (by simp), List.append_assoc]
  -- the header whose checksum is taken, with its field blank
  have htake : (fields ++ (List.replicate 4 0 ++ (beBytes 4 (crc32 packet.payload).toNat ++
      packet.payload))).take 100 =
      fields ++ (List.replicate 4 0 ++ beBytes 4 (crc32 packet.payload).toNat) := by
    rw [← List.append_assoc (List.replicate 4 0), ← List.append_assoc fields]
    exact List.take_left' (by simp [hlen])
  have hblank : headerForChecksum (fields ++ (List.replicate 4 0 ++
      beBytes 4 (crc32 packet.payload).toNat)) =
      fields ++ (List.replicate 4 0 ++ beBytes 4 (crc32 packet.payload).toNat) :=
    overwrite_middle fields _ _ _ hlen rfl
  have hcrc : crc32 (fields ++ (List.replicate 4 0 ++ beBytes 4 (crc32 packet.payload).toNat)) =
      headerCrc packet := rfl
  rw [encode, show packetWireHeaderLength.toNat = 100 from rfl, writeHeader_eq, ← hfields, hcopy,
    hpayload, htake, hblank, hcrc, writeU32At_eq _ (by simp [hlen, kOffsetHeaderCrc]; omega),
    overwrite_middle fields _ _ _ hoff (by simp), header, ← hfields, List.append_assoc,
    List.append_assoc]

theorem length_encode (codec : PacketCodec) (packet : PacketEnvelope) :
    (codec.encode packet).length = 100 + packet.payload.length := by
  rw [encode_eq, List.length_append, length_header]

/-! ## Reading a field -/

theorem readU8_eq {bytes : ByteBuffer} {offset : ℕ} (h : offset + 1 ≤ bytes.length) :
    readU8 bytes offset = UInt8.ofNat (beNat (slice bytes offset 1)) := by
  rw [readU8, readU8At_eq h, Option.getD_some]

theorem readU16_eq {bytes : ByteBuffer} {offset : ℕ} (h : offset + 2 ≤ bytes.length) :
    readU16 bytes offset = UInt16.ofNat (beNat (slice bytes offset 2)) := by
  rw [readU16, readU16At_eq h, Option.getD_some]

theorem readU32_eq {bytes : ByteBuffer} {offset : ℕ} (h : offset + 4 ≤ bytes.length) :
    readU32 bytes offset = UInt32.ofNat (beNat (slice bytes offset 4)) := by
  rw [readU32, readU32At_eq h, Option.getD_some]

theorem readU64_eq {bytes : ByteBuffer} {offset : ℕ} (h : offset + 8 ≤ bytes.length) :
    readU64 bytes offset = UInt64.ofNat (beNat (slice bytes offset 8)) := by
  rw [readU64, readU64At_eq h, Option.getD_some]

theorem ofNat_beNat_u8 (v : UInt8) : UInt8.ofNat (beNat [v]) = v := by
  simp [beNat_cons]

theorem ofNat_beNat_u16 (v : UInt16) : UInt16.ofNat (beNat (beBytes 2 v.toNat)) = v := by
  rw [beNat_beBytes_of_lt v.toNat_lt, UInt16.ofNat_toNat]

theorem ofNat_beNat_u32 (v : UInt32) : UInt32.ofNat (beNat (beBytes 4 v.toNat)) = v := by
  rw [beNat_beBytes_of_lt v.toNat_lt, UInt32.ofNat_toNat]

theorem ofNat_beNat_u64 (v : UInt64) : UInt64.ofNat (beNat (beBytes 8 v.toNat)) = v := by
  rw [beNat_beBytes_of_lt v.toNat_lt, UInt64.ofNat_toNat]

section Fields

variable (codec : PacketCodec) (packet : PacketEnvelope)

/-- A field of an encoded packet, found by its place in the header. -/
theorem slice_encode (i : ℕ) {offset n : ℕ} {field : ByteBuffer}
    (hfield : (headerFields packet (UInt32.ofNat packet.payload.length))[i]? = some field)
    (hoff : ((headerFields packet (UInt32.ofNat packet.payload.length)).take i).flatten.length =
      offset) (hlen : field.length = n) :
    slice (codec.encode packet) offset n = field := by
  rw [encode_eq, header, List.append_assoc]
  exact slice_flatten _ hfield hoff hlen

theorem readU16_encode (i : ℕ) {offset : ℕ} {value : UInt16}
    (hfield : (headerFields packet (UInt32.ofNat packet.payload.length))[i]? =
      some (beBytes 2 value.toNat))
    (hoff : ((headerFields packet (UInt32.ofNat packet.payload.length)).take i).flatten.length =
      offset) (hle : offset + 2 ≤ 100) :
    readU16 (codec.encode packet) offset = value := by
  rw [readU16_eq (by rw [length_encode]; omega),
    slice_encode codec packet i hfield hoff (length_beBytes _ _), ofNat_beNat_u16]

theorem readU32_encode (i : ℕ) {offset : ℕ} {value : UInt32}
    (hfield : (headerFields packet (UInt32.ofNat packet.payload.length))[i]? =
      some (beBytes 4 value.toNat))
    (hoff : ((headerFields packet (UInt32.ofNat packet.payload.length)).take i).flatten.length =
      offset) (hle : offset + 4 ≤ 100) :
    readU32 (codec.encode packet) offset = value := by
  rw [readU32_eq (by rw [length_encode]; omega),
    slice_encode codec packet i hfield hoff (length_beBytes _ _), ofNat_beNat_u32]

theorem readU64_encode (i : ℕ) {offset : ℕ} {value : UInt64}
    (hfield : (headerFields packet (UInt32.ofNat packet.payload.length))[i]? =
      some (beBytes 8 value.toNat))
    (hoff : ((headerFields packet (UInt32.ofNat packet.payload.length)).take i).flatten.length =
      offset) (hle : offset + 8 ≤ 100) :
    readU64 (codec.encode packet) offset = value := by
  rw [readU64_eq (by rw [length_encode]; omega),
    slice_encode codec packet i hfield hoff (length_beBytes _ _), ofNat_beNat_u64]

theorem readU8_encode (i : ℕ) {offset : ℕ} {value : UInt8}
    (hfield : (headerFields packet (UInt32.ofNat packet.payload.length))[i]? = some [value])
    (hoff : ((headerFields packet (UInt32.ofNat packet.payload.length)).take i).flatten.length =
      offset) (hle : offset + 1 ≤ 100) :
    readU8 (codec.encode packet) offset = value := by
  rw [readU8_eq (by rw [length_encode]; omega),
    slice_encode codec packet i hfield hoff (List.length_singleton), ofNat_beNat_u8]

theorem readU32_magic : readU32 (codec.encode packet) kOffsetMagic = packetWireMagic :=
  readU32_encode codec packet 0 rfl rfl (by decide)

theorem readU16_headerLength :
    readU16 (codec.encode packet) kOffsetHeaderLength = packetWireHeaderLength :=
  readU16_encode codec packet 1 rfl rfl (by decide)

theorem readU16_protocolMajor :
    readU16 (codec.encode packet) kOffsetProtocolMajor = packet.protocolMajor :=
  readU16_encode codec packet 2 rfl rfl (by decide)

theorem readU32_payloadLength :
    readU32 (codec.encode packet) kOffsetPayloadLength = UInt32.ofNat packet.payload.length :=
  readU32_encode codec packet 21 rfl rfl (by decide)

/-- **Every field decodes to what was encoded.** -/
theorem decodeFields_encode :
    decodeFields (codec.encode packet) packet.payload = packet := by
  have hprotocolMinor : readU16 (codec.encode packet) kOffsetProtocolMinor = packet.protocolMinor :=
    readU16_encode codec packet 3 rfl rfl (by decide)
  have hchannelId : readU16 (codec.encode packet) kOffsetChannelId = packet.channelId :=
    readU16_encode codec packet 4 rfl rfl (by decide)
  have hchannelType : readU16 (codec.encode packet) kOffsetChannelType = packet.channelType.raw :=
    readU16_encode codec packet 5 rfl rfl (by decide)
  have hpacketType : readU16 (codec.encode packet) kOffsetPacketType = packet.packetType.raw :=
    readU16_encode codec packet 6 rfl rfl (by decide)
  have hmessageKind : readU16 (codec.encode packet) kOffsetMessageKind = packet.messageKind.raw :=
    readU16_encode codec packet 7 rfl rfl (by decide)
  have hpriority : readU8 (codec.encode packet) kOffsetPriority = packet.priority.raw :=
    readU8_encode codec packet 8 rfl rfl (by decide)
  have hresponseStatus :
      readU16 (codec.encode packet) kOffsetResponseStatus = packet.responseStatus.raw :=
    readU16_encode codec packet 10 rfl rfl (by decide)
  have hflags : readU32 (codec.encode packet) kOffsetFlags = packet.flags :=
    readU32_encode codec packet 12 rfl rfl (by decide)
  have hsessionId : readU64 (codec.encode packet) kOffsetSessionId = packet.sessionId :=
    readU64_encode codec packet 13 rfl rfl (by decide)
  have htraceId : readU64 (codec.encode packet) kOffsetTraceId = packet.traceId :=
    readU64_encode codec packet 14 rfl rfl (by decide)
  have hmessageId : readU64 (codec.encode packet) kOffsetMessageId = packet.messageId :=
    readU64_encode codec packet 15 rfl rfl (by decide)
  have hcorrelationId : readU64 (codec.encode packet) kOffsetCorrelationId = packet.correlationId :=
    readU64_encode codec packet 16 rfl rfl (by decide)
  have hresponseTo : readU64 (codec.encode packet) kOffsetResponseTo = packet.responseTo :=
    readU64_encode codec packet 17 rfl rfl (by decide)
  have hsequence : readU64 (codec.encode packet) kOffsetSequence = packet.sequence :=
    readU64_encode codec packet 18 rfl rfl (by decide)
  have htimestamp :
      readU64 (codec.encode packet) kOffsetTimestamp = packet.monotonicTimestampUsec :=
    readU64_encode codec packet 19 rfl rfl (by decide)
  have htimeout : readU32 (codec.encode packet) kOffsetTimeout = packet.timeoutMs :=
    readU32_encode codec packet 20 rfl rfl (by decide)
  rw [decodeFields, readU16_protocolMajor, hprotocolMinor, hchannelId, hchannelType, hpacketType,
    hmessageKind, hpriority, hresponseStatus, hflags, hsessionId, htraceId, hmessageId,
    hcorrelationId, hresponseTo, hsequence, htimestamp, htimeout]

/-- Both checksums of an encoded packet are right. -/
theorem readU32_headerCrc :
    readU32 ((codec.encode packet).take packetWireHeaderLength.toNat) kOffsetHeaderCrc =
      headerCrc packet := by
  have htake : (codec.encode packet).take packetWireHeaderLength.toNat = header packet := by
    rw [encode_eq]
    exact List.take_left' (length_header packet)
  have hlen := length_headerFields packet (UInt32.ofNat packet.payload.length)
  rw [htake, readU32_eq (by rw [length_header]; decide), header,
    slice_append_right (by rw [hlen]; decide), hlen, kOffsetHeaderCrc, Nat.sub_self,
    slice_append_left (length_beBytes _ _), ofNat_beNat_u32]

theorem actualHeaderCrc_encode :
    actualHeaderCrc (codec.encode packet) packetWireHeaderLength = headerCrc packet := by
  have htake : (codec.encode packet).take packetWireHeaderLength.toNat = header packet := by
    rw [encode_eq]
    exact List.take_left' (length_header packet)
  have hblank : headerForChecksum (header packet) =
      (headerFields packet (UInt32.ofNat packet.payload.length)).flatten ++
        (List.replicate 4 0 ++ beBytes 4 (crc32 packet.payload).toNat) :=
    overwrite_middle _ _ _ _ (length_headerFields _ _) (by simp)
  rw [actualHeaderCrc, htake, hblank, headerCrc]

theorem readU32_payloadCrc :
    readU32 (codec.encode packet) kOffsetPayloadCrc = crc32 packet.payload := by
  have hlen := length_headerFields packet (UInt32.ofNat packet.payload.length)
  rw [readU32_eq (by rw [length_encode, kOffsetPayloadCrc]; omega), encode_eq, header,
    List.append_assoc, List.append_assoc, slice_append_right (by rw [hlen]; decide), hlen,
    slice_append_right (by rw [length_beBytes]; decide), length_beBytes, kOffsetPayloadCrc,
    slice_append_left (length_beBytes _ _), ofNat_beNat_u32]

/-- **The codec round trip**: a valid packet whose length fits the header's length field decodes
to itself, whichever checksums the codec verifies. -/
theorem decode_encode (hvalid : (validate codec.validationOptions packet).valid = true)
    (hlen : packet.payload.length < 2 ^ 32) :
    codec.decode (codec.encode packet) = { status := .ok, packet := packet } := by
  have hacc := validate_valid_iff.mp hvalid
  have hmajor : packet.protocolMajor = currentProtocolMajor := hacc.protocolMajor
  have hpl : (UInt32.ofNat packet.payload.length).toNat = packet.payload.length :=
    UInt32.toNat_ofNat_of_lt' hlen
  have hmax : ¬ packet.payload.length > codec.options.maxPayloadBytes :=
    Nat.not_lt.mpr hacc.payload
  have hdrop : (codec.encode packet).drop packetWireHeaderLength.toNat = packet.payload := by
    rw [encode_eq]
    exact List.drop_left' (length_header packet)
  have h100 : packetWireHeaderLength.toNat = 100 := rfl
  simp only [decode]
  rw [if_neg (by rw [length_encode, h100]; omega), readU32_magic,
    if_neg (not_not.mpr rfl), readU16_headerLength, if_neg (not_not.mpr rfl),
    readU16_protocolMajor, if_neg (not_not.mpr hmajor), readU32_payloadLength, hpl, if_neg hmax,
    if_neg (not_not.mpr (by rw [length_encode, h100])), actualHeaderCrc_encode,
    readU32_headerCrc, if_neg (fun h => h.2 rfl), hdrop, readU32_payloadCrc,
    if_neg (fun h => h.2 rfl), decodeFields_encode, if_neg (not_not.mpr hvalid)]

end Fields

/-! ## Inspecting a buffer by its header -/

section Inspection

variable {bytes other : ByteBuffer}

theorem readU16_of_take_eq {offset : ℕ} (hoff : offset + 2 ≤ 100) (hbytes : 100 ≤ bytes.length)
    (hother : 100 ≤ other.length) (h : bytes.take 100 = other.take 100) :
    readU16 other offset = readU16 bytes offset := by
  have hslice : slice other offset 2 = slice bytes offset 2 := by
    rw [← slice_take_of_le hoff, ← h, slice_take_of_le hoff]
  rw [readU16_eq (by omega), readU16_eq (by omega), hslice]

theorem readU32_of_take_eq {offset : ℕ} (hoff : offset + 4 ≤ 100) (hbytes : 100 ≤ bytes.length)
    (hother : 100 ≤ other.length) (h : bytes.take 100 = other.take 100) :
    readU32 other offset = readU32 bytes offset := by
  have hslice : slice other offset 4 = slice bytes offset 4 := by
    rw [← slice_take_of_le hoff, ← h, slice_take_of_le hoff]
  rw [readU32_eq (by omega), readU32_eq (by omega), hslice]

variable {codec : PacketCodec}

/-- A buffer that is inspected at all holds a whole header. -/
theorem length_of_inspectFrame (h : (codec.inspectFrame bytes).status ≠ .incomplete) :
    100 ≤ bytes.length := by
  by_contra hlt
  have hshort : bytes.length < packetWireHeaderLength.toNat := by
    rw [show packetWireHeaderLength.toNat = 100 from rfl]
    omega
  exact h (by rw [inspectFrame, if_pos hshort])

/-- The size of a whole frame: a header and a payload, both in the buffer. -/
theorem frameSize_of_inspectFrame (h : (codec.inspectFrame bytes).status = .ok) :
    100 ≤ (codec.inspectFrame bytes).frameSize ∧
      (codec.inspectFrame bytes).frameSize ≤ bytes.length := by
  unfold inspectFrame at h ⊢
  simp only at h ⊢
  split_ifs at h ⊢ with h0 h1 h2 h3 h4 h5
  refine ⟨?_, of_decide_eq_true h5⟩
  rw [not_not.mp h2]
  exact Nat.le_add_right 100 _

/-- **The header decides the verdict**: once a buffer has one, any buffer with the same header, and
with the frame if there is one, has the same verdict. -/
theorem inspectFrame_of_take_eq (hverdict : (codec.inspectFrame bytes).status ≠ .incomplete)
    (hother : 100 ≤ other.length) (h : bytes.take 100 = other.take 100)
    (hfit : (codec.inspectFrame bytes).status = .ok →
      (codec.inspectFrame bytes).frameSize ≤ other.length) :
    codec.inspectFrame other = codec.inspectFrame bytes := by
  have hbytes := length_of_inspectFrame hverdict
  have hlong : ¬ bytes.length < packetWireHeaderLength.toNat := Nat.not_lt.mpr hbytes
  have hlong' : ¬ other.length < packetWireHeaderLength.toNat := Nat.not_lt.mpr hother
  have hmagic : readU32 other kOffsetMagic = readU32 bytes kOffsetMagic :=
    readU32_of_take_eq (by decide) hbytes hother h
  have hheader : readU16 other kOffsetHeaderLength = readU16 bytes kOffsetHeaderLength :=
    readU16_of_take_eq (by decide) hbytes hother h
  have hmajor : readU16 other kOffsetProtocolMajor = readU16 bytes kOffsetProtocolMajor :=
    readU16_of_take_eq (by decide) hbytes hother h
  have hpayload : readU32 other kOffsetPayloadLength = readU32 bytes kOffsetPayloadLength :=
    readU32_of_take_eq (by decide) hbytes hother h
  simp only [inspectFrame, if_neg hlong] at hverdict hfit
  simp only [inspectFrame, if_neg hlong, if_neg hlong', hmagic, hheader, hmajor, hpayload]
  by_cases h1 : readU32 bytes kOffsetMagic ≠ packetWireMagic
  · simp only [if_pos h1]
  simp only [if_neg h1] at hverdict hfit ⊢
  by_cases h2 : readU16 bytes kOffsetHeaderLength ≠ packetWireHeaderLength
  · simp only [if_pos h2]
  simp only [if_neg h2] at hverdict hfit ⊢
  by_cases h3 : readU16 bytes kOffsetProtocolMajor ≠ currentProtocolMajor
  · simp only [if_pos h3]
  simp only [if_neg h3] at hverdict hfit ⊢
  by_cases h4 : (readU32 bytes kOffsetPayloadLength).toNat > codec.options.maxPayloadBytes
  · simp only [if_pos h4]
  simp only [if_neg h4] at hverdict hfit ⊢
  -- the header is good, so a verdict means that the whole frame is there
  have hwhole : bytes.length ≥ (readU16 bytes kOffsetHeaderLength).toNat +
      (readU32 bytes kOffsetPayloadLength).toNat := by
    by_contra hnot
    exact hverdict (by simp only [hnot, decide_false, Bool.false_eq_true, if_false])
  have hwhole' : other.length ≥ (readU16 bytes kOffsetHeaderLength).toNat +
      (readU32 bytes kOffsetPayloadLength).toNat :=
    hfit (by simp only [hwhole, decide_true, if_true])
  simp only [hwhole, hwhole', decide_true]

/-- **An inspection that has reached a verdict keeps it when more bytes arrive.** -/
theorem inspectFrame_append (more : ByteBuffer)
    (h : (codec.inspectFrame bytes).status ≠ .incomplete) :
    codec.inspectFrame (bytes ++ more) = codec.inspectFrame bytes := by
  have hlen := length_of_inspectFrame h
  refine inspectFrame_of_take_eq h ?_ (List.take_append_of_le_length hlen).symm fun hok => ?_
  · rw [List.length_append]
    omega
  · have hsize := (frameSize_of_inspectFrame hok).2
    rw [List.length_append]
    omega

/-- A header that is refused is refused by its hundred bytes alone. -/
theorem inspectFrame_take (hok : (codec.inspectFrame bytes).status ≠ .ok)
    (hinc : (codec.inspectFrame bytes).status ≠ .incomplete) :
    codec.inspectFrame (bytes.take 100) = codec.inspectFrame bytes := by
  have hlen := length_of_inspectFrame hinc
  refine inspectFrame_of_take_eq hinc ?_ ?_ fun h => absurd h hok
  · rw [List.length_take]
    omega
  · rw [List.take_take, Nat.min_self]

/-- A whole frame is recognised from its own bytes. -/
theorem inspectFrame_take_frameSize (hok : (codec.inspectFrame bytes).status = .ok) :
    codec.inspectFrame (bytes.take (codec.inspectFrame bytes).frameSize) =
      codec.inspectFrame bytes := by
  have hsize := frameSize_of_inspectFrame hok
  have hlen : (bytes.take (codec.inspectFrame bytes).frameSize).length =
      (codec.inspectFrame bytes).frameSize := by
    rw [List.length_take]
    omega
  refine inspectFrame_of_take_eq (by rw [hok]; simp) (by rw [hlen]; exact hsize.1) ?_ fun _ => ?_
  · rw [List.take_take, Nat.min_eq_left hsize.1]
  · rw [hlen]

/-- An encoded packet at the front of the buffer is inspected as one whole frame. -/
theorem inspectFrame_encode (packet : PacketEnvelope)
    (hvalid : (validate codec.validationOptions packet).valid = true)
    (hlen : packet.payload.length < 2 ^ 32) :
    codec.inspectFrame (codec.encode packet) =
      { status := .ok, frameSize := 100 + packet.payload.length, complete := true } := by
  have hacc := validate_valid_iff.mp hvalid
  have hmajor : packet.protocolMajor = currentProtocolMajor := hacc.protocolMajor
  have hmax : ¬ packet.payload.length > codec.options.maxPayloadBytes :=
    Nat.not_lt.mpr hacc.payload
  have hpl : (UInt32.ofNat packet.payload.length).toNat = packet.payload.length :=
    UInt32.toNat_ofNat_of_lt' hlen
  have h100 : packetWireHeaderLength.toNat = 100 := rfl
  simp only [inspectFrame]
  rw [if_neg (by rw [length_encode, h100]; omega), readU32_magic, if_neg (not_not.mpr rfl),
    readU16_headerLength, if_neg (not_not.mpr rfl), readU16_protocolMajor,
    if_neg (not_not.mpr hmajor), readU32_payloadLength, hpl, if_neg hmax, length_encode, h100]
  simp

end Inspection

end PacketCodec
end Protocol
end FusionDesk
