import FusionDesk.Protocol.Types

/-!
# The protocol validator

`src/core/protocol/protocol_validator.cpp`: the checks every packet passes before it is routed, in
the order the source makes them.
-/

namespace FusionDesk
namespace Protocol

/-- `struct ProtocolValidationOptions`; `std::size_t` is unbounded here. -/
structure ProtocolValidationOptions where
  expectedMajor : UInt16 := currentProtocolMajor
  minimumMinor : UInt16 := 0
  maxPayloadBytes : ℕ := 16 * 1024 * 1024
  requireSessionId : Bool := true
  requireKnownChannel : Bool := true
  deriving DecidableEq, Repr

structure ProtocolValidationResult where
  valid : Bool := false
  status : ResponseStatus := .protocolError
  message : String := ""
  deriving DecidableEq, Repr

namespace ProtocolValidationResult

def ok : ProtocolValidationResult := ⟨true, .ok, ""⟩

def error (status : ResponseStatus) (message : String) : ProtocolValidationResult :=
  ⟨false, status, message⟩

end ProtocolValidationResult

/-! ## Known values -/

def isKnownChannelType (value : ChannelType) : Bool :=
  [ChannelType.standard, .video, .audio, .bulk, .control, .input].contains value

def isKnownPacketType (value : PacketType) : Bool :=
  [PacketType.channelInit, .heartbeat, .login, .mouse, .keyboard, .audio, .video,
    .clientDisconnect, .serverDisconnect, .control, .payloadAck, .cursorChange, .exchange,
    .clipboard, .microphone, .filesystem, .printer, .filesystemControl, .filesystemIrp, .udpInit,
    .checkLicense, .touchscreen, .gamepad, .watermark].contains value

def isKnownMessageKind (value : MessageKind) : Bool :=
  [MessageKind.event, .request, .response, .ack, .error, .progress, .streamStart, .streamChunk,
    .streamEnd, .cancel].contains value

def isKnownPriority (value : PacketPriority) : Bool :=
  [PacketPriority.critical, .realtime, .interactive, .normal, .bulk, .background].contains value

def isKnownStatus (value : ResponseStatus) : Bool :=
  [ResponseStatus.ok, .accepted, .progress, .invalidArgument, .unauthorized, .deniedByPolicy,
    .unsupported, .notFound, .conflict, .busy, .timeout, .cancelled, .tooLarge, .backPressure,
    .channelUnavailable, .failed, .internalError, .protocolError].contains value

def isKnownChannelId (value : ChannelId) : Bool :=
  [ChannelIdValue.userAuthMain, ChannelIdValue.smallData, ChannelIdValue.desktopAudio,
    ChannelIdValue.desktopScreen, ChannelIdValue.largeData, ChannelIdValue.microphone,
    ChannelIdValue.camera, ChannelIdValue.filesystem, ChannelIdValue.printer,
    ChannelIdValue.desktopSecondScreen, ChannelIdValue.gamepad].contains value

def hasFlag (flags flag : PacketFlags) : Bool :=
  (flags &&& flag) == flag

def isRequestLike (value : MessageKind) : Bool :=
  value == .request || value == .cancel

def isResponseLike (value : MessageKind) : Bool :=
  value == .response || value == .ack || value == .error || value == .progress

def isStreamMessage (value : MessageKind) : Bool :=
  value == .streamStart || value == .streamChunk || value == .streamEnd

/-! ## Validation -/

/-- `ProtocolValidator(options).validate(packet)`. -/
def validate (options : ProtocolValidationOptions) (packet : PacketEnvelope) :
    ProtocolValidationResult :=
  if packet.protocolMajor ≠ options.expectedMajor then
    .error .unsupported "unsupported protocol major version"
  else if packet.protocolMinor < options.minimumMinor then
    .error .unsupported "unsupported protocol minor version"
  else if options.requireSessionId ∧ packet.sessionId = 0 then
    .error .invalidArgument "session id is required"
  else if options.requireKnownChannel ∧ ¬ isKnownChannelId packet.channelId then
    .error .invalidArgument "unknown channel id"
  else if ¬ isKnownChannelType packet.channelType then
    .error .invalidArgument "unknown channel type"
  else if ¬ isKnownPacketType packet.packetType then
    .error .invalidArgument "unknown packet type"
  else if ¬ isKnownMessageKind packet.messageKind then
    .error .invalidArgument "unknown message kind"
  else if ¬ isKnownPriority packet.priority then
    .error .invalidArgument "unknown packet priority"
  else if ¬ isKnownStatus packet.responseStatus then
    .error .invalidArgument "unknown response status"
  else if packet.payload.length > options.maxPayloadBytes then
    .error .tooLarge "payload exceeds negotiated limit"
  else if isRequestLike packet.messageKind ∧ packet.messageId = 0 then
    .error .invalidArgument "request message id is required"
  else if isRequestLike packet.messageKind ∧ packet.correlationId = 0 then
    .error .invalidArgument "request correlation id is required"
  else if isRequestLike packet.messageKind ∧ packet.timeoutMs = 0 then
    .error .invalidArgument "request timeout is required"
  else if packet.messageKind = .event ∧ hasFlag packet.flags packetFlagResponseRequired ∧
      (packet.messageId = 0 ∨ packet.correlationId = 0 ∨ packet.timeoutMs = 0) then
    .error .invalidArgument
      "response-required event needs message id, correlation id, and timeout"
  else if isResponseLike packet.messageKind ∧ packet.responseTo = 0 then
    .error .invalidArgument "responseTo is required"
  else if isStreamMessage packet.messageKind ∧ packet.correlationId = 0 then
    .error .invalidArgument "stream correlation id is required"
  else if hasFlag packet.flags packetFlagResponseRequired ∧
      hasFlag packet.flags packetFlagNoResponseRequired then
    .error .invalidArgument "response flags are mutually exclusive"
  else if packet.messageKind = .event ∧ ¬ hasFlag packet.flags packetFlagNoResponseRequired ∧
      packet.responseStatus ≠ .ok then
    .error .invalidArgument "event status must be Ok unless it is a response"
  else .ok

/-! ## What passes -/

/-- A check that fails ends the validation, so a chain of checks passes when its first one does
not fire and the rest passes. -/
theorem valid_check_iff {c : Prop} [Decidable c] {status : ResponseStatus} {message : String}
    {rest : ProtocolValidationResult} :
    (if c then ProtocolValidationResult.error status message else rest).valid = true ↔
      ¬ c ∧ rest.valid = true := by
  by_cases hc : c
  · simp [hc, ProtocolValidationResult.error]
  · simp [hc]

/-- What the validator demands of a packet, check by check. -/
structure Acceptable (options : ProtocolValidationOptions) (packet : PacketEnvelope) : Prop where
  protocolMajor : packet.protocolMajor = options.expectedMajor
  protocolMinor : ¬ packet.protocolMinor < options.minimumMinor
  sessionId : ¬ (options.requireSessionId ∧ packet.sessionId = 0)
  channelId : ¬ (options.requireKnownChannel ∧ ¬ isKnownChannelId packet.channelId)
  channelType : isKnownChannelType packet.channelType
  packetType : isKnownPacketType packet.packetType
  messageKind : isKnownMessageKind packet.messageKind
  priority : isKnownPriority packet.priority
  responseStatus : isKnownStatus packet.responseStatus
  payload : packet.payload.length ≤ options.maxPayloadBytes
  requestMessageId : ¬ (isRequestLike packet.messageKind ∧ packet.messageId = 0)
  requestCorrelationId : ¬ (isRequestLike packet.messageKind ∧ packet.correlationId = 0)
  requestTimeout : ¬ (isRequestLike packet.messageKind ∧ packet.timeoutMs = 0)
  responseRequiredEvent : ¬ (packet.messageKind = .event ∧
    hasFlag packet.flags packetFlagResponseRequired ∧
      (packet.messageId = 0 ∨ packet.correlationId = 0 ∨ packet.timeoutMs = 0))
  responseTo : ¬ (isResponseLike packet.messageKind ∧ packet.responseTo = 0)
  streamCorrelationId : ¬ (isStreamMessage packet.messageKind ∧ packet.correlationId = 0)
  responseFlags : ¬ (hasFlag packet.flags packetFlagResponseRequired ∧
    hasFlag packet.flags packetFlagNoResponseRequired)
  eventStatus : ¬ (packet.messageKind = .event ∧
    ¬ hasFlag packet.flags packetFlagNoResponseRequired ∧ packet.responseStatus ≠ .ok)

/-- The validator passes exactly the acceptable packets. -/
theorem validate_valid_iff {options : ProtocolValidationOptions} {packet : PacketEnvelope} :
    (validate options packet).valid = true ↔ Acceptable options packet := by
  simp only [validate, valid_check_iff, ne_eq, not_not, gt_iff_lt, Nat.not_lt]
  constructor
  · rintro ⟨h1, h2, h3, h4, h5, h6, h7, h8, h9, h10, h11, h12, h13, h14, h15, h16, h17, h18, -⟩
    exact ⟨h1, h2, h3, h4, h5, h6, h7, h8, h9, h10, h11, h12, h13, h14, h15, h16, h17,
      h18⟩
  · rintro ⟨h1, h2, h3, h4, h5, h6, h7, h8, h9, h10, h11, h12, h13, h14, h15, h16, h17, h18⟩
    exact ⟨h1, h2, h3, h4, h5, h6, h7, h8, h9, h10, h11, h12, h13, h14, h15, h16, h17,
      h18, rfl⟩

end Protocol
end FusionDesk
