import FusionDesk.Protocol.PayloadFields
import FusionDesk.Protocol.Validator
import FusionDesk.Runtime.TeardownAck

/-!
# A teardown request on the wire

`decodeReconnectTeardownCommandPacket` of `reconnect_teardown_ack.cpp`: what the peer makes of the
packet of a command.  The header of the payload has 16 bytes, and the reason is what is behind it.

* `decode_makeReconnectTeardownRequestPacket`: a command that can be sent comes back.
-/

namespace FusionDesk
namespace Runtime

open Protocol Network BigEndian ByteReader Reader

structure ReconnectTeardownWireDecodeResult where
  ok : Bool := false
  command : ReconnectTeardownCommand := {}
  message : String := ""
  deriving DecidableEq, Repr

/-! ## The decoder -/

/-- The header of the payload: the channel that is to be closed. -/
def readReconnectTeardownHeader : Reader String ChannelKey := do
  let (magic, version, headerSize, channelId, channelType, reasonLength) ←
    named (fun _ => "reconnect teardown payload is truncated") do
      let magic ← PayloadFields.readU32
      let version ← PayloadFields.readU16
      let headerSize ← PayloadFields.readU16
      let targetChannelId ← PayloadFields.readU16
      let targetChannelType ← PayloadFields.readU16
      let reasonLength ← PayloadFields.readU32
      return (magic, version, headerSize, targetChannelId, targetChannelType, reasonLength)
  refuseIf (magic ≠ reconnectTeardownPayloadMagic) "reconnect teardown payload magic is invalid"
  refuseIf (version ≠ reconnectTeardownPayloadVersion)
    "reconnect teardown payload version is unsupported"
  let payloadSize ← size
  refuseIf (headerSize ≠ reconnectTeardownPayloadHeaderSize ∨ headerSize.toNat > payloadSize)
    "reconnect teardown payload header size is invalid"
  refuseIf (headerSize.toNat + reasonLength.toNat ≠ payloadSize)
    "reconnect teardown payload reason length is invalid"
  refuseIf (channelId = 0 ∨ isKnownChannelType ⟨channelType⟩ = false)
    "reconnect teardown payload target channel is invalid"
  return ⟨channelId, ⟨channelType⟩⟩

def decodeReconnectTeardownCommandPacket (packet : PacketEnvelope) :
    ReconnectTeardownWireDecodeResult :=
  if packet.packetType ≠ .control then
    { message := "reconnect teardown request must use control packet type" }
  else if packet.messageKind ≠ .request then
    { message := "reconnect teardown request must use request message kind" }
  else if (⟨packet.channelId, packet.channelType⟩ : ChannelKey) ≠
      reconnectTeardownDefaultControlChannel then
    { message := "reconnect teardown request must use the reconnect teardown control route" }
  else if packet.flags &&& packetFlagResponseRequired = 0 then
    { message := "reconnect teardown request must require response" }
  else if packet.sessionId = 0 ∨ packet.messageId = 0 ∨ packet.correlationId = 0 ∨
      packet.timeoutMs = 0 then
    { message := "reconnect teardown request is missing correlation fields" }
  else if packet.payload.length < reconnectTeardownPayloadHeaderSize.toNat then
    { message := "reconnect teardown payload is smaller than header" }
  else
    match readReconnectTeardownHeader.outcome packet.payload with
    | .error message => { message := message }
    | .ok (targetChannel, _) =>
      { ok := true
        command := {
          sessionId := packet.sessionId
          targetChannel := targetChannel
          messageId := packet.messageId
          correlationId := packet.correlationId
          timeoutMs := packet.timeoutMs
          reason := payloadToString
            (packet.payload.drop reconnectTeardownPayloadHeaderSize.toNat) } }

/-! ## Strings and bytes -/

theorem toNat_ofNat_byte (byte : UInt8) : (Char.ofNat byte.toNat).toNat = byte.toNat := by
  have hvalid : byte.toNat.isValidChar := Or.inl (byte.toNat_lt.trans (by decide))
  rw [Char.ofNat, dif_pos hvalid]
  rfl

/-- **The bytes of a string are what it was made of.** -/
theorem stringToPayload_payloadToString (payload : ByteBuffer) :
    stringToPayload (payloadToString payload) = payload := by
  rw [stringToPayload, payloadToString, String.toList_ofList, List.map_map]
  refine (List.map_congr_left fun byte _ => ?_).trans (List.map_id payload)
  rw [Function.comp_apply, toNat_ofNat_byte, UInt8.ofNat_toNat, id]

/-! ## The round trip -/

def teardownHeaderFields (command : ReconnectTeardownCommand) (reason : ByteBuffer) :
    List ByteBuffer :=
  [PayloadFields.u32Bytes reconnectTeardownPayloadMagic,
    PayloadFields.u16Bytes reconnectTeardownPayloadVersion,
    PayloadFields.u16Bytes reconnectTeardownPayloadHeaderSize,
    PayloadFields.u16Bytes command.targetChannel.channelId,
    PayloadFields.u16Bytes command.targetChannel.channelType.raw,
    PayloadFields.u32Bytes (UInt32.ofNat reason.length)]

theorem length_teardownHeaderFields (command : ReconnectTeardownCommand) (reason : ByteBuffer) :
    (teardownHeaderFields command reason).flatten.length = 16 := by
  simp [teardownHeaderFields]

theorem encodeReconnectTeardownCommandPayload_eq {command : ReconnectTeardownCommand}
    {reason : ByteBuffer} (hreason : command.reason = payloadToString reason)
    (hlength : reason.length < 2 ^ 32) :
    encodeReconnectTeardownCommandPayload command =
      (teardownHeaderFields command reason).flatten ++ reason := by
  rw [encodeReconnectTeardownCommandPayload, hreason, stringToPayload_payloadToString]
  simp only
  rw [if_neg (by omega)]
  simp only [CapabilityPayload.writeU32_eq, CapabilityPayload.writeU16_eq, teardownHeaderFields,
    List.flatten_cons, List.flatten_nil, List.append_nil, List.append_assoc, List.nil_append]
  rfl

/-- **A command whose request is accepted.** -/
structure CommandFits (command : ReconnectTeardownCommand) (reason : ByteBuffer) : Prop where
  sessionId : command.sessionId ≠ 0
  channelId : command.targetChannel.channelId ≠ 0
  channelType : isKnownChannelType command.targetChannel.channelType = true
  messageId : command.messageId ≠ 0
  correlationId : command.correlationId ≠ 0
  timeoutMs : command.timeoutMs ≠ 0
  text : command.reason = payloadToString reason
  short : reason.length < 2 ^ 32

variable {command : ReconnectTeardownCommand} {reason : ByteBuffer}

theorem outcome_readReconnectTeardownHeader (h : CommandFits command reason) :
    readReconnectTeardownHeader.outcome ((teardownHeaderFields command reason).flatten ++ reason) =
      .ok (command.targetChannel, 16) := by
  have hgroup : Reads (do
      let magic ← PayloadFields.readU32
      let version ← PayloadFields.readU16
      let headerSize ← PayloadFields.readU16
      let targetChannelId ← PayloadFields.readU16
      let targetChannelType ← PayloadFields.readU16
      let reasonLength ← PayloadFields.readU32
      return (magic, version, headerSize, targetChannelId, targetChannelType, reasonLength) :
        Reader Unit _)
      (reconnectTeardownPayloadMagic, reconnectTeardownPayloadVersion,
        reconnectTeardownPayloadHeaderSize, command.targetChannel.channelId,
        command.targetChannel.channelType.raw, UInt32.ofNat reason.length)
      (teardownHeaderFields command reason).flatten reason :=
    (PayloadFields.reads_u32 _ _).bind <| (PayloadFields.reads_u16 _ _).bind <|
      (PayloadFields.reads_u16 _ _).bind <| (PayloadFields.reads_u16 _ _).bind <|
      (PayloadFields.reads_u16 _ _).bind <| (PayloadFields.reads_u32 _ _).bind <| Reads.pure _ _
  have hnamed := Reads.named (fun _ => "reconnect teardown payload is truncated") hgroup []
  rw [List.nil_append, List.length_nil, Nat.zero_add, length_teardownHeaderFields] at hnamed
  have hlength : (UInt32.ofNat reason.length).toNat = reason.length :=
    UInt32.toNat_ofNat_of_lt' h.short
  have hsize : ((teardownHeaderFields command reason).flatten ++ reason).length =
      16 + reason.length := by
    rw [List.length_append, length_teardownHeaderFields]
  have hheader : reconnectTeardownPayloadHeaderSize.toNat = 16 := rfl
  rw [outcome_eq_iff, readReconnectTeardownHeader, run_bind_of_ok hnamed]
  simp only
  rw [run_bind_refuseIf (by simp), run_bind_refuseIf (by simp), run_bind_size,
    run_bind_refuseIf (by rw [hsize, hheader]; simp),
    run_bind_refuseIf (by rw [hsize, hheader, hlength]; simp),
    run_bind_refuseIf (by simp [h.channelId, h.channelType])]
  rfl

/-- **A command comes back from its request.** -/
theorem decode_makeReconnectTeardownRequestPacket (h : CommandFits command reason)
    (options : ReconnectTeardownWireOptions) :
    decodeReconnectTeardownCommandPacket (makeReconnectTeardownRequestPacket command options) =
      { ok := true, command := command } := by
  have hpayload : (makeReconnectTeardownRequestPacket command options).payload =
      (teardownHeaderFields command reason).flatten ++ reason :=
    encodeReconnectTeardownCommandPayload_eq h.text h.short
  have hcorrelation : (makeReconnectTeardownRequestPacket command options).correlationId =
      command.correlationId := if_pos h.correlationId
  have hlength : ¬((teardownHeaderFields command reason).flatten ++ reason).length <
      reconnectTeardownPayloadHeaderSize.toNat := by
    rw [List.length_append, length_teardownHeaderFields]
    exact Nat.not_lt.mpr (Nat.le_add_right _ _)
  have hreason : ((teardownHeaderFields command reason).flatten ++ reason).drop
      reconnectTeardownPayloadHeaderSize.toNat = reason := by
    rw [show reconnectTeardownPayloadHeaderSize.toNat =
      (teardownHeaderFields command reason).flatten.length from
        (length_teardownHeaderFields command reason).symm, List.drop_left]
  have hfields : ¬((makeReconnectTeardownRequestPacket command options).sessionId = 0 ∨
      (makeReconnectTeardownRequestPacket command options).messageId = 0 ∨
      (makeReconnectTeardownRequestPacket command options).correlationId = 0 ∨
      (makeReconnectTeardownRequestPacket command options).timeoutMs = 0) := by
    rw [hcorrelation]
    rintro (hzero | hzero | hzero | hzero)
    · exact h.sessionId hzero
    · exact h.messageId hzero
    · exact h.correlationId hzero
    · exact h.timeoutMs hzero
  have htype : ¬(makeReconnectTeardownRequestPacket command options).packetType ≠ .control :=
    not_not.mpr rfl
  have hkind : ¬(makeReconnectTeardownRequestPacket command options).messageKind ≠ .request :=
    not_not.mpr rfl
  have hroute : ¬(⟨(makeReconnectTeardownRequestPacket command options).channelId,
      (makeReconnectTeardownRequestPacket command options).channelType⟩ : ChannelKey) ≠
        reconnectTeardownDefaultControlChannel := not_not.mpr rfl
  have hflags : ¬(makeReconnectTeardownRequestPacket command options).flags &&&
      packetFlagResponseRequired = 0 := by
    show ¬packetFlagResponseRequired &&& packetFlagResponseRequired = 0
    decide
  rw [decodeReconnectTeardownCommandPacket, if_neg htype, if_neg hkind, if_neg hroute,
    if_neg hflags, if_neg hfields, hpayload, if_neg hlength,
    outcome_readReconnectTeardownHeader h, hreason, hcorrelation, ← h.text]
  rfl

end Runtime
end FusionDesk
