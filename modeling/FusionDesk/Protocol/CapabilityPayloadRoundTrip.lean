import FusionDesk.Protocol.CapabilityPayloadCodec
import FusionDesk.Protocol.PacketCodecRoundTrip

/-!
# The capability payload round trip

`decode` reads without looking at the bounds, field after field, and trusts that the size it has
asked for at the start and the two questions before each list keep it inside the buffer.

* `readEnumList_spec`: reading a list stays within the buffer, and a list that is read is there,
  count and values.
* `decode_total`: no buffer makes `decode` read past its end, and the lists of a buffer it accepts
  fill it to the end.
* `decode_encode`: what `encode` writes decodes to what was encoded.
* `capability_payload_roundTrip`: the two together.
-/

namespace FusionDesk
namespace Protocol
namespace CapabilityPayload

open BigEndian

/-! ## Reads inside the buffer -/

theorem readU16_eq {bytes : ByteBuffer} {offset : ℕ} (h : offset + 2 ≤ bytes.length) :
    readU16 bytes offset = some (UInt16.ofNat (beNat (slice bytes offset 2))) := by
  rw [← readU16At_eq h, readU16At, if_neg (by omega), readU16,
    List.getElem?_eq_getElem (by omega : offset < bytes.length),
    List.getElem?_eq_getElem (by omega : offset + 1 < bytes.length), List.getD_eq_getElem _ _ _,
    List.getD_eq_getElem _ _ _]
  rfl

theorem isSome_readU16 (bytes : ByteBuffer) (offset : ℕ) (h : offset + 2 ≤ bytes.length) :
    (readU16 bytes offset).isSome :=
  Option.isSome_of_eq_some (readU16_eq h)

theorem readU32_eq {bytes : ByteBuffer} {offset : ℕ} (h : offset + 4 ≤ bytes.length) :
    readU32 bytes offset = some (UInt32.ofNat (beNat (slice bytes offset 4))) := by
  rw [← readU32At_eq h, readU32At, if_neg (by omega), readU32,
    List.getElem?_eq_getElem (by omega : offset < bytes.length),
    List.getElem?_eq_getElem (by omega : offset + 1 < bytes.length),
    List.getElem?_eq_getElem (by omega : offset + 2 < bytes.length),
    List.getElem?_eq_getElem (by omega : offset + 3 < bytes.length), List.getD_eq_getElem _ _ _,
    List.getD_eq_getElem _ _ _, List.getD_eq_getElem _ _ _, List.getD_eq_getElem _ _ _]
  rfl

theorem isSome_readU32 (bytes : ByteBuffer) (offset : ℕ) (h : offset + 4 ≤ bytes.length) :
    (readU32 bytes offset).isSome :=
  Option.isSome_of_eq_some (readU32_eq h)

theorem readU64_eq {bytes : ByteBuffer} {offset : ℕ} (h : offset + 8 ≤ bytes.length) :
    readU64 bytes offset = some (UInt64.ofNat (beNat (slice bytes offset 8))) := by
  have hbyte : ∀ i, i < 8 → bytes[offset + i]? = some (bytes.getD (offset + i) 0) := by
    intro i hi
    rw [List.getElem?_eq_getElem (by omega : offset + i < bytes.length),
      List.getD_eq_getElem _ _ _]
  have hrange : List.range 8 = [0, 1, 2, 3, 4, 5, 6, 7] := rfl
  rw [← readU64At_eq h, readU64At, if_neg (by omega), readU64, hrange]
  simp only [List.foldlM_cons, List.foldlM_nil, List.foldl_cons, List.foldl_nil]
  rw [hbyte 0 (by omega), hbyte 1 (by omega), hbyte 2 (by omega), hbyte 3 (by omega),
    hbyte 4 (by omega), hbyte 5 (by omega), hbyte 6 (by omega), hbyte 7 (by omega)]
  rfl

theorem isSome_readU64 (bytes : ByteBuffer) (offset : ℕ) (h : offset + 8 ≤ bytes.length) :
    (readU64 bytes offset).isSome :=
  Option.isSome_of_eq_some (readU64_eq h)

/-! ## Writes at the end -/

theorem writeU16_eq (bytes : ByteBuffer) (value : UInt16) :
    writeU16 bytes value = bytes ++ beBytes 2 value.toNat := by
  have h0 := shiftByte16 value 8 (by decide)
  have h1 : (value &&& 0xff).toUInt8 = UInt8.ofNat (value.toNat / 256 ^ 0) := by
    simpa using shiftByte16 value 0 (by decide)
  rw [writeU16, h0, h1]
  rfl

theorem writeU32_eq (bytes : ByteBuffer) (value : UInt32) :
    writeU32 bytes value = bytes ++ beBytes 4 value.toNat := by
  have h0 := shiftByte32 value 24 (by decide)
  have h1 := shiftByte32 value 16 (by decide)
  have h2 := shiftByte32 value 8 (by decide)
  have h3 : (value &&& 0xff).toUInt8 = UInt8.ofNat (value.toNat / 256 ^ 0) := by
    simpa using shiftByte32 value 0 (by decide)
  rw [writeU32, h0, h1, h2, h3]
  rfl

theorem writeU64_eq (bytes : ByteBuffer) (value : UInt64) :
    writeU64 bytes value = bytes ++ beBytes 8 value.toNat := by
  have hbyte : ∀ i, i < 8 → ((value >>> UInt64.ofNat ((7 - i) * 8)) &&& 0xff).toUInt8 =
      UInt8.ofNat (value.toNat / 256 ^ (7 - i)) := by
    intro i hi
    have hshift : (UInt64.ofNat ((7 - i) * 8)).toNat = (7 - i) * 8 := by
      rw [UInt64.toNat_ofNat', Nat.mod_eq_of_lt (by omega)]
    rw [shiftByte64 _ _ (by rw [hshift]; omega), hshift, Nat.mul_comm, pow_mul]
    rfl
  have hrange : List.range 8 = [0, 1, 2, 3, 4, 5, 6, 7] := rfl
  rw [writeU64, hrange]
  simp only [List.foldl_cons, List.foldl_nil, List.append_assoc, List.singleton_append]
  rw [hbyte 0 (by omega), hbyte 1 (by omega), hbyte 2 (by omega), hbyte 3 (by omega),
    hbyte 4 (by omega), hbyte 5 (by omega), hbyte 6 (by omega), hbyte 7 (by omega)]
  rfl

/-! ## Lists -/

section EnumLists

variable {α : Type}

/-- The bytes of a list: its count and its values. -/
def listBytes (raw : α → UInt16) (values : List α) : ByteBuffer :=
  beBytes 2 (UInt16.ofNat values.length).toNat ++ values.flatMap fun v => beBytes 2 (raw v).toNat

theorem length_values (raw : α → UInt16) (values : List α) :
    (values.flatMap fun v => beBytes 2 (raw v).toNat).length = 2 * values.length := by
  induction values with
  | nil => rfl
  | cons v values ih =>
    rw [List.flatMap_cons, List.length_append, length_beBytes, ih, List.length_cons]
    omega

theorem length_listBytes (raw : α → UInt16) (values : List α) :
    (listBytes raw values).length = 2 + 2 * values.length := by
  rw [listBytes, List.length_append, length_beBytes, length_values]

theorem writeEnumList_eq (raw : α → UInt16) (bytes : ByteBuffer) (values : List α) :
    writeEnumList raw bytes values = bytes ++ listBytes raw values := by
  have hloop : ∀ (written : ByteBuffer) (values : List α),
      values.foldl (fun bytes value => writeU16 bytes (raw value)) written =
        written ++ values.flatMap fun v => beBytes 2 (raw v).toNat := by
    intro written values
    induction values generalizing written with
    | nil => simp
    | cons v values ih =>
      rw [List.foldl_cons, ih, writeU16_eq, List.flatMap_cons, List.append_assoc]
  rw [writeEnumList, hloop, writeU16_eq, listBytes, List.append_assoc]

/-- A list of a payload: its count can be read, all its values are inside, and each of them is
where it belongs. -/
structure ListAt (cast : UInt16 → α) (bytes : ByteBuffer) (offset : ℕ) (values : List α) :
    Prop where
  count_le : offset + 2 ≤ bytes.length
  length_lt : values.length < 2 ^ 16
  count_eq : readU16 bytes offset = some (UInt16.ofNat values.length)
  end_le : offset + 2 + 2 * values.length ≤ bytes.length
  value_eq : ∀ i value, values[i]? = some value →
    (readU16 bytes (offset + 2 + 2 * i)).map cast = some value

/-- The loop reads as many values as it is asked for, if the buffer has them. -/
theorem readValues_spec (cast : UInt16 → α) (bytes : ByteBuffer) (count : ℕ) :
    ∀ offset, offset + 2 * count ≤ bytes.length →
      ∃ values, readValues cast bytes count offset = some (values, offset + 2 * count) ∧
        values.length = count ∧ ∀ i value, values[i]? = some value →
          (readU16 bytes (offset + 2 * i)).map cast = some value := by
  induction count with
  | zero =>
    intro offset _
    refine ⟨[], rfl, rfl, fun i value h => ?_⟩
    cases h
  | succ count ih =>
    intro offset hle
    obtain ⟨values, hread, hlen, hvalues⟩ := ih (offset + 2) (by omega)
    have hfirst := readU16_eq (show offset + 2 ≤ bytes.length by omega)
    refine ⟨cast (UInt16.ofNat (beNat (slice bytes offset 2))) :: values, ?_, ?_, ?_⟩
    · rw [readValues, hfirst]
      show (readValues cast bytes count (offset + 2)).bind _ = _
      rw [hread]
      show some (_, offset + 2 + 2 * count) = some (_, offset + 2 * (count + 1))
      rw [show offset + 2 + 2 * count = offset + 2 * (count + 1) by omega]
    · rw [List.length_cons, hlen]
    · intro i value h
      cases i with
      | zero =>
        rw [List.getElem?_cons_zero] at h
        rw [Nat.mul_zero, Nat.add_zero, hfirst]
        exact h
      | succ i =>
        rw [List.getElem?_cons_succ] at h
        rw [show offset + 2 * (i + 1) = offset + 2 + 2 * i by omega]
        exact hvalues i value h

/-- **Reading a list stays inside the buffer**, and a list that is read is there. -/
theorem readEnumList_spec (cast : UInt16 → α) (bytes : ByteBuffer) (maxListItems offset : ℕ) :
    (∃ error, readEnumList cast bytes maxListItems offset = some (.error error)) ∨
      ∃ values, readEnumList cast bytes maxListItems offset =
          some (.ok (values, offset + 2 + 2 * values.length)) ∧
        ListAt cast bytes offset values := by
  unfold readEnumList
  by_cases hmissing : offset > bytes.length ∨ bytes.length - offset < 2
  · rw [if_pos hmissing]
    exact Or.inl ⟨_, rfl⟩
  · rw [if_neg hmissing, readU16_eq (by omega)]
    set count := UInt16.ofNat (beNat (slice bytes offset 2)) with hcount
    by_cases hlimit : count.toNat > maxListItems
    · exact Or.inl ⟨_, if_pos hlimit⟩
    by_cases htruncated : (bytes.length - (offset + 2)) / 2 < count.toNat
    · exact Or.inl ⟨_, (if_neg hlimit).trans (if_pos htruncated)⟩
    obtain ⟨values, hread, hlen, hvalues⟩ :=
      readValues_spec cast bytes count.toNat (offset + 2) (by omega)
    refine Or.inr ⟨values, ?_, ?_⟩
    · refine (if_neg hlimit).trans ((if_neg htruncated).trans ?_)
      show (readValues cast bytes count.toNat (offset + 2)).bind _ = _
      rw [hread, hlen]
      rfl
    · refine ⟨by omega, hlen ▸ count.toNat_lt, ?_, by omega, hvalues⟩
      rw [readU16_eq (by omega), ← hcount, hlen, UInt16.ofNat_toNat]

/-- A value behind the bytes before it. -/
theorem readU16_frontier (front rest : ByteBuffer) (value : UInt16) {offset : ℕ}
    (hoff : front.length = offset) :
    readU16 (front ++ (beBytes 2 value.toNat ++ rest)) offset = some value := by
  have hlen : offset + 2 ≤ (front ++ (beBytes 2 value.toNat ++ rest)).length := by
    rw [List.length_append, List.length_append, length_beBytes]
    omega
  rw [readU16_eq hlen, slice_append_right hoff.le, hoff, Nat.sub_self,
    slice_append_left (length_beBytes _ _), PacketCodec.ofNat_beNat_u16]

/-- The loop reads back the values that were written. -/
theorem readValues_frontier {raw : α → UInt16} {cast : UInt16 → α}
    (hcast : ∀ v, cast (raw v) = v) (rest : ByteBuffer) (values : List α) :
    ∀ (front : ByteBuffer) {offset : ℕ}, front.length = offset →
      readValues cast (front ++ (values.flatMap (fun v => beBytes 2 (raw v).toNat) ++ rest))
        values.length offset = some (values, offset + 2 * values.length) := by
  induction values with
  | nil =>
    intro front offset _
    rfl
  | cons v values ih =>
    intro front offset hoff
    have hsplit : front ++ ((v :: values).flatMap (fun v => beBytes 2 (raw v).toNat) ++ rest) =
        (front ++ beBytes 2 (raw v).toNat) ++
          (values.flatMap (fun v => beBytes 2 (raw v).toNat) ++ rest) := by
      rw [List.flatMap_cons, List.append_assoc, List.append_assoc]
    have hfront : (front ++ beBytes 2 (raw v).toNat).length = offset + 2 := by
      rw [List.length_append, length_beBytes, hoff]
    have hnext := ih (front ++ beBytes 2 (raw v).toNat) hfront
    have hfirst := readU16_frontier front
      (values.flatMap (fun v => beBytes 2 (raw v).toNat) ++ rest) (raw v) hoff
    rw [← List.append_assoc] at hfirst
    rw [hsplit, List.length_cons, readValues, hfirst]
    show (readValues cast _ values.length (offset + 2)).bind _ = _
    rw [hnext]
    show some (cast (raw v) :: values, offset + 2 + 2 * values.length) = _
    rw [hcast, show offset + 2 + 2 * values.length = offset + 2 * (values.length + 1) by omega]

/-- **A list that was written reads back**, if its count fits and the limit allows it. -/
theorem readEnumList_frontier {raw : α → UInt16} {cast : UInt16 → α}
    (hcast : ∀ v, cast (raw v) = v) (front rest : ByteBuffer) (values : List α)
    {maxListItems offset : ℕ} (hoff : front.length = offset)
    (hlen : values.length ≤ min maxListItems 65535) :
    readEnumList cast (front ++ (listBytes raw values ++ rest)) maxListItems offset =
      some (.ok (values, offset + 2 + 2 * values.length)) := by
  set bytes := front ++ (listBytes raw values ++ rest) with hbytes
  have hlength : bytes.length = offset + (2 + 2 * values.length + rest.length) := by
    rw [hbytes, List.length_append, List.length_append, length_listBytes, hoff]
  have hcount : (UInt16.ofNat values.length).toNat = values.length :=
    UInt16.toNat_ofNat_of_lt' (by
      rw [show UInt16.size = 65536 from rfl]
      omega)
  have hfirst : readU16 bytes offset = some (UInt16.ofNat values.length) := by
    rw [hbytes, listBytes, List.append_assoc]
    exact readU16_frontier front _ _ hoff
  have hvalues : readValues cast bytes values.length (offset + 2) =
      some (values, offset + 2 + 2 * values.length) := by
    rw [hbytes, listBytes, List.append_assoc, ← List.append_assoc front]
    exact readValues_frontier hcast rest values _
      (by rw [List.length_append, length_beBytes, hoff])
  unfold readEnumList
  rw [if_neg (by omega), hfirst]
  show ite ((UInt16.ofNat values.length).toNat > maxListItems) _ _ = _
  rw [hcount, if_neg (by omega), if_neg (by omega), hvalues]
  rfl

end EnumLists

/-! ## The fixed part -/

/-- The flags of an encoded payload. -/
def flagsOf (capabilities : ProtocolCapabilities) : UInt16 :=
  if capabilities.directTunnelSupported then kCapabilityFlagDirectTunnel else 0

/-- The fields of the fixed part, in their order. -/
def fixedFields (capabilities : ProtocolCapabilities) : List ByteBuffer :=
  [beBytes 4 capabilityPayloadMagic.toNat, beBytes 2 capabilityPayloadVersion.toNat,
    beBytes 2 capabilities.protocolMajor.toNat, beBytes 2 capabilities.protocolMinor.toNat,
    beBytes 2 (flagsOf capabilities).toNat, beBytes 8 capabilities.features.bits.toNat,
    beBytes 4 capabilities.limits.maxPayloadBytes.toNat,
    beBytes 4 capabilities.limits.maxStreamChunkBytes.toNat,
    beBytes 4 capabilities.limits.minRequestTimeoutMs.toNat,
    beBytes 4 capabilities.limits.defaultRequestTimeoutMs.toNat,
    beBytes 4 capabilities.limits.maxRequestTimeoutMs.toNat,
    beBytes 2 capabilities.limits.maxChannels.toNat,
    beBytes 4 capabilities.limits.maxPendingRequests.toNat]

theorem length_fixedFields (capabilities : ProtocolCapabilities) :
    (fixedFields capabilities).flatten.length = 46 := by
  simp [fixedFields]

/-- **An encoded payload is its fixed part followed by the three lists.** -/
theorem encode_eq (codec : CapabilityPayloadCodec) (capabilities : ProtocolCapabilities) :
    encode codec capabilities = (fixedFields capabilities).flatten ++
      (listBytes ChannelType.raw capabilities.channelTypes ++
        (listBytes PacketType.raw capabilities.packetTypes ++
          listBytes MessageKind.raw capabilities.messageKinds)) := by
  simp only [encode, writeEnumList_eq, writeU16_eq, writeU32_eq, writeU64_eq, fixedFields, flagsOf,
    List.flatten_cons, List.flatten_nil, List.append_assoc, List.nil_append]

theorem length_encode (codec : CapabilityPayloadCodec) (capabilities : ProtocolCapabilities) :
    (encode codec capabilities).length = 52 + 2 * capabilities.channelTypes.length +
      2 * capabilities.packetTypes.length + 2 * capabilities.messageKinds.length := by
  rw [encode_eq, List.length_append, length_fixedFields, List.length_append, length_listBytes,
    List.length_append, length_listBytes, length_listBytes]
  omega

/-- The capabilities without their lists, as the bytes of the fixed part have them. -/
def fixedOf (payload : ByteBuffer) : ProtocolCapabilities where
  protocolMajor := UInt16.ofNat (beNat (slice payload 6 2))
  protocolMinor := UInt16.ofNat (beNat (slice payload 8 2))
  directTunnelSupported :=
    UInt16.ofNat (beNat (slice payload 10 2)) &&& kCapabilityFlagDirectTunnel ==
      kCapabilityFlagDirectTunnel
  features := ⟨UInt64.ofNat (beNat (slice payload 12 8))⟩
  limits := {
    maxPayloadBytes := UInt32.ofNat (beNat (slice payload 20 4))
    maxStreamChunkBytes := UInt32.ofNat (beNat (slice payload 24 4))
    minRequestTimeoutMs := UInt32.ofNat (beNat (slice payload 28 4))
    defaultRequestTimeoutMs := UInt32.ofNat (beNat (slice payload 32 4))
    maxRequestTimeoutMs := UInt32.ofNat (beNat (slice payload 36 4))
    maxChannels := UInt16.ofNat (beNat (slice payload 40 2))
    maxPendingRequests := UInt32.ofNat (beNat (slice payload 42 4)) }

/-- The fixed part is read from the first 46 bytes. -/
theorem decodeFixed_eq {payload : ByteBuffer} (h : 46 ≤ payload.length) :
    decodeFixed payload 6 = some (fixedOf payload, 46) := by
  simp only [decodeFixed]
  rw [readU16_eq (by omega), readU16_eq (by omega), readU16_eq (by omega), readU64_eq (by omega),
    readU32_eq (by omega), readU32_eq (by omega), readU32_eq (by omega), readU32_eq (by omega),
    readU32_eq (by omega), readU16_eq (by omega), readU32_eq (by omega)]
  rfl

/-- A field of an encoded payload, found by its place in the fixed part. -/
theorem slice_encode (codec : CapabilityPayloadCodec) (capabilities : ProtocolCapabilities)
    (i offset n : ℕ) {field : ByteBuffer} (hfield : (fixedFields capabilities)[i]? = some field)
    (hoff : ((fixedFields capabilities).take i).flatten.length = offset)
    (hlen : field.length = n) : slice (encode codec capabilities) offset n = field := by
  rw [encode_eq]
  exact slice_flatten _ hfield hoff hlen

/-- The flag of the direct tunnel, written and tested. -/
theorem flagsOf_test (capabilities : ProtocolCapabilities) :
    (flagsOf capabilities &&& kCapabilityFlagDirectTunnel == kCapabilityFlagDirectTunnel) =
      capabilities.directTunnelSupported := by
  unfold flagsOf
  cases capabilities.directTunnelSupported with
  | false => rfl
  | true => rfl

/-- The fixed part of an encoded payload is what was encoded, but for the lists. -/
theorem fixedOf_encode (codec : CapabilityPayloadCodec) (capabilities : ProtocolCapabilities) :
    fixedOf (encode codec capabilities) =
      { capabilities with channelTypes := [], packetTypes := [], messageKinds := [] } := by
  have field := slice_encode codec capabilities
  unfold fixedOf
  rw [field 2 6 2 rfl rfl (length_beBytes _ _), field 3 8 2 rfl rfl (length_beBytes _ _),
    field 4 10 2 rfl rfl (length_beBytes _ _), field 5 12 8 rfl rfl (length_beBytes _ _),
    field 6 20 4 rfl rfl (length_beBytes _ _), field 7 24 4 rfl rfl (length_beBytes _ _),
    field 8 28 4 rfl rfl (length_beBytes _ _), field 9 32 4 rfl rfl (length_beBytes _ _),
    field 10 36 4 rfl rfl (length_beBytes _ _), field 11 40 2 rfl rfl (length_beBytes _ _),
    field 12 42 4 rfl rfl (length_beBytes _ _)]
  simp only [PacketCodec.ofNat_beNat_u16, PacketCodec.ofNat_beNat_u32, PacketCodec.ofNat_beNat_u64,
    flagsOf_test]

/-! ## Decoding -/

/-- The three lists of a payload, one behind the other, and nothing behind the last. -/
structure ListsFill (payload : ByteBuffer) (capabilities : ProtocolCapabilities) : Prop where
  channelTypes : ListAt ChannelType.mk payload 46 capabilities.channelTypes
  packetTypes : ListAt PacketType.mk payload (48 + 2 * capabilities.channelTypes.length)
    capabilities.packetTypes
  messageKinds : ListAt MessageKind.mk payload (50 + 2 * capabilities.channelTypes.length +
    2 * capabilities.packetTypes.length) capabilities.messageKinds
  length_eq : payload.length = 52 + 2 * capabilities.channelTypes.length +
    2 * capabilities.packetTypes.length + 2 * capabilities.messageKinds.length

/-- The lists are read inside the buffer, and if they are accepted they fill it. -/
theorem decodeLists_total (codec : CapabilityPayloadCodec) (payload : ByteBuffer)
    (capabilities : ProtocolCapabilities) :
    ∃ result, decodeLists codec payload capabilities 46 = some result ∧
      (result.ok = true → ListsFill payload result.capabilities) := by
  unfold decodeLists
  rcases readEnumList_spec ChannelType.mk payload codec.options.maxListItems 46 with
    ⟨error, hchannels⟩ | ⟨channelTypes, hchannels, hlist⟩
  · rw [hchannels]
    exact ⟨_, rfl, fun hok => by cases hok⟩
  rcases readEnumList_spec PacketType.mk payload codec.options.maxListItems
    (46 + 2 + 2 * channelTypes.length) with ⟨error, hpackets⟩ | ⟨packetTypes, hpackets, hlist'⟩
  · rw [hchannels]
    simp only [Option.bind_eq_bind, Option.bind_some, hpackets]
    exact ⟨_, rfl, fun hok => by cases hok⟩
  rcases readEnumList_spec MessageKind.mk payload codec.options.maxListItems
    (46 + 2 + 2 * channelTypes.length + 2 + 2 * packetTypes.length) with
    ⟨error, hkinds⟩ | ⟨messageKinds, hkinds, hlist''⟩
  · rw [hchannels]
    simp only [Option.bind_eq_bind, Option.bind_some, hpackets, hkinds]
    exact ⟨_, rfl, fun hok => by cases hok⟩
  rw [hchannels]
  simp only [Option.bind_eq_bind, Option.bind_some, hpackets, hkinds]
  by_cases hend : 46 + 2 + 2 * channelTypes.length + 2 + 2 * packetTypes.length + 2 +
      2 * messageKinds.length ≠ payload.length
  · rw [if_pos hend]
    exact ⟨_, rfl, fun hok => by cases hok⟩
  · rw [if_neg hend]
    refine ⟨_, rfl, fun _ => ⟨hlist, ?_, ?_, ?_⟩⟩
    · show ListAt PacketType.mk payload (48 + 2 * channelTypes.length) packetTypes
      rw [show 48 + 2 * channelTypes.length = 46 + 2 + 2 * channelTypes.length by omega]
      exact hlist'
    · show ListAt MessageKind.mk payload
        (50 + 2 * channelTypes.length + 2 * packetTypes.length) messageKinds
      rw [show 50 + 2 * channelTypes.length + 2 * packetTypes.length =
        46 + 2 + 2 * channelTypes.length + 2 + 2 * packetTypes.length by omega]
      exact hlist''
    · show payload.length = 52 + 2 * channelTypes.length + 2 * packetTypes.length +
        2 * messageKinds.length
      omega

/-- **No buffer makes `decode` read past its end**, and the lists of a buffer it accepts fill it to
the end. -/
theorem decode_total (codec : CapabilityPayloadCodec) (payload : ByteBuffer) :
    ∃ result, decode codec payload = some result ∧
      (result.ok = true → ListsFill payload result.capabilities) := by
  unfold decode
  by_cases hlarge : payload.length > codec.options.maxPayloadBytes
  · rw [if_pos hlarge]
    exact ⟨_, rfl, fun hok => by cases hok⟩
  by_cases hshort : payload.length < kMinimumPayloadSize
  · rw [if_neg hlarge, if_pos hshort]
    exact ⟨_, rfl, fun hok => by cases hok⟩
  have hlen : 52 ≤ payload.length := Nat.not_lt.mp hshort
  rw [if_neg hlarge, if_neg hshort, readU32_eq (by omega), readU16_eq (by omega),
    decodeFixed_eq (by omega)]
  simp only [Option.bind_eq_bind, Option.bind_some]
  split_ifs with hmagic hversion
  · exact ⟨_, rfl, fun hok => by cases hok⟩
  · exact ⟨_, rfl, fun hok => by cases hok⟩
  · exact decodeLists_total codec payload (fixedOf payload)

/-- The lists of an encoded payload are read back. -/
theorem decodeLists_encode {codec : CapabilityPayloadCodec} {capabilities : ProtocolCapabilities}
    (hchannels : capabilities.channelTypes.length ≤ min codec.options.maxListItems 65535)
    (hpackets : capabilities.packetTypes.length ≤ min codec.options.maxListItems 65535)
    (hkinds : capabilities.messageKinds.length ≤ min codec.options.maxListItems 65535)
    (fixed : ProtocolCapabilities) :
    decodeLists codec (encode codec capabilities) fixed 46 = some {
      status := .ok
      capabilities := { fixed with
        channelTypes := capabilities.channelTypes
        packetTypes := capabilities.packetTypes
        messageKinds := capabilities.messageKinds } } := by
  have hfixed := length_fixedFields capabilities
  have hlen := length_encode codec capabilities
  have hfirst : readEnumList ChannelType.mk (encode codec capabilities)
      codec.options.maxListItems 46 =
        some (.ok (capabilities.channelTypes, 46 + 2 + 2 * capabilities.channelTypes.length)) := by
    rw [encode_eq]
    exact readEnumList_frontier (fun _ => rfl) _ _ _ hfixed hchannels
  have hsecond : readEnumList PacketType.mk (encode codec capabilities)
      codec.options.maxListItems (46 + 2 + 2 * capabilities.channelTypes.length) =
        some (.ok (capabilities.packetTypes, 46 + 2 + 2 * capabilities.channelTypes.length + 2 +
          2 * capabilities.packetTypes.length)) := by
    rw [encode_eq, ← List.append_assoc]
    refine readEnumList_frontier (fun _ => rfl) _ _ _ ?_ hpackets
    rw [List.length_append, hfixed, length_listBytes]
    omega
  have hthird : readEnumList MessageKind.mk (encode codec capabilities)
      codec.options.maxListItems (46 + 2 + 2 * capabilities.channelTypes.length + 2 +
        2 * capabilities.packetTypes.length) =
        some (.ok (capabilities.messageKinds, 46 + 2 + 2 * capabilities.channelTypes.length + 2 +
          2 * capabilities.packetTypes.length + 2 + 2 * capabilities.messageKinds.length)) := by
    rw [encode_eq, ← List.append_assoc, ← List.append_assoc,
      ← List.append_nil (listBytes MessageKind.raw _)]
    refine readEnumList_frontier (fun _ => rfl) _ _ _ ?_ hkinds
    rw [List.length_append, List.length_append, hfixed, length_listBytes, length_listBytes]
    omega
  unfold decodeLists
  simp only [hfirst, Option.bind_eq_bind, Option.bind_some, hsecond, hthird]
  rw [if_neg (by omega)]
  rfl

/-- **What was encoded is decoded**, if the lists and the whole are within the limits. -/
theorem decode_encode {codec : CapabilityPayloadCodec} {capabilities : ProtocolCapabilities}
    (hchannels : capabilities.channelTypes.length ≤ min codec.options.maxListItems 65535)
    (hpackets : capabilities.packetTypes.length ≤ min codec.options.maxListItems 65535)
    (hkinds : capabilities.messageKinds.length ≤ min codec.options.maxListItems 65535)
    (hsize : (encode codec capabilities).length ≤ codec.options.maxPayloadBytes) :
    decode codec (encode codec capabilities) =
      some { status := .ok, capabilities := capabilities } := by
  have hlen := length_encode codec capabilities
  have hmagic : slice (encode codec capabilities) 0 4 = beBytes 4 capabilityPayloadMagic.toNat :=
    slice_encode codec capabilities 0 0 4 rfl rfl (length_beBytes _ _)
  have hversion :
      slice (encode codec capabilities) 4 2 = beBytes 2 capabilityPayloadVersion.toNat :=
    slice_encode codec capabilities 1 4 2 rfl rfl (length_beBytes _ _)
  unfold decode
  rw [if_neg (by omega), if_neg (by rw [hlen, kMinimumPayloadSize]; omega),
    readU32_eq (by omega), readU16_eq (by omega), decodeFixed_eq (by omega), hmagic, hversion,
    PacketCodec.ofNat_beNat_u32, PacketCodec.ofNat_beNat_u16, fixedOf_encode]
  simp only [Option.bind_eq_bind, Option.bind_some]
  rw [if_neg (not_not.mpr rfl), if_neg (not_not.mpr rfl),
    decodeLists_encode hchannels hpackets hkinds]

/-- **The capability payload round trip**: within the limits, what was encoded is decoded; and on
any buffer at all no read passes the end, and what is accepted has each list behind a count that was
read in bounds, one behind the other up to the end. -/
theorem capability_payload_roundTrip (codec : CapabilityPayloadCodec) :
    (∀ capabilities : ProtocolCapabilities,
      capabilities.channelTypes.length ≤ min codec.options.maxListItems 65535 →
      capabilities.packetTypes.length ≤ min codec.options.maxListItems 65535 →
      capabilities.messageKinds.length ≤ min codec.options.maxListItems 65535 →
      (encode codec capabilities).length ≤ codec.options.maxPayloadBytes →
      decode codec (encode codec capabilities) =
        some { status := .ok, capabilities := capabilities }) ∧
      ∀ payload, ∃ result, decode codec payload = some result ∧
        (result.ok = true → ListsFill payload result.capabilities) :=
  ⟨fun _ => decode_encode, decode_total codec⟩

end CapabilityPayload
end Protocol
end FusionDesk
