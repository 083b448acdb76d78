import FusionDesk.Protocol.PacketCodecRoundTrip

/-!
# The message lifecycle

`include/fusiondesk/core/protocol/message_lifecycle.h`: the packets that answer a request, built
from the request and the options of the answer.

The builder, the validator and the codec were written apart, and the builder checks nothing.

* `acceptable_response_iff`: the answer to a request that has an id, a session and a channel is
  acceptable exactly if its status and its priority are declared values.
* `decode_encode_response`: it then survives the codec.
-/

namespace FusionDesk
namespace Protocol

/-! ## The functions of the source -/

def responseCorrelationId (request : PacketEnvelope) : MessageId :=
  if request.correlationId ≠ 0 then request.correlationId else request.messageId

/-- The statuses after the first three, and the values that are no enumerator, are one case. -/
def responseMessageKindForStatus (status : ResponseStatus) : MessageKind :=
  if status = .ok then .response
  else if status = .accepted then .ack
  else if status = .progress then .progress
  else .error

structure ResponseEnvelopeOptions where
  messageId : MessageId := 0
  status : ResponseStatus := .ok
  priority : PacketPriority := .normal
  sequence : UInt64 := 0
  monotonicTimestampUsec : UInt64 := 0
  flags : PacketFlags := packetFlagNone
  payload : ByteBuffer := []
  deriving DecidableEq, Repr

def defaultResponseMessageId (request : PacketEnvelope) : MessageId :=
  if request.messageId ≠ 0 ∧ request.messageId ≠ 0xffffffffffffffff then request.messageId + 1
  else 1

def makeResponseEnvelope (request : PacketEnvelope) (options : ResponseEnvelopeOptions) :
    PacketEnvelope where
  sessionId := request.sessionId
  traceId := request.traceId
  messageId :=
    if options.messageId ≠ 0 then options.messageId else defaultResponseMessageId request
  correlationId := responseCorrelationId request
  responseTo := request.messageId
  channelId := request.channelId
  channelType := request.channelType
  packetType := request.packetType
  messageKind := responseMessageKindForStatus options.status
  priority := options.priority
  responseStatus := options.status
  sequence := options.sequence
  monotonicTimestampUsec := options.monotonicTimestampUsec
  flags := options.flags
  payload := options.payload

def makeAckEnvelope (request : PacketEnvelope) (options : ResponseEnvelopeOptions) :
    PacketEnvelope :=
  makeResponseEnvelope request { options with status := .accepted }

def makeErrorEnvelope (request : PacketEnvelope) (status : ResponseStatus)
    (options : ResponseEnvelopeOptions) : PacketEnvelope :=
  makeResponseEnvelope request
    { options with status := if status = .ok then .failed else status }

/-! ## The kind of an answer -/

theorem responseMessageKindForStatus_cases (status : ResponseStatus) :
    (status = .ok ∧ responseMessageKindForStatus status = .response) ∨
      (status = .accepted ∧ responseMessageKindForStatus status = .ack) ∨
      (status = .progress ∧ responseMessageKindForStatus status = .progress) ∨
      (status ≠ .ok ∧ status ≠ .accepted ∧ status ≠ .progress ∧
        responseMessageKindForStatus status = .error) := by
  unfold responseMessageKindForStatus
  split_ifs with hok haccepted hprogress
  · exact Or.inl ⟨hok, rfl⟩
  · exact Or.inr (Or.inl ⟨haccepted, rfl⟩)
  · exact Or.inr (Or.inr (Or.inl ⟨hprogress, rfl⟩))
  · exact Or.inr (Or.inr (Or.inr ⟨hok, haccepted, hprogress, rfl⟩))

/-- **An answer ends its request** unless its status is `Accepted` or `Progress`. -/
theorem responseMessageKind_final_iff (status : ResponseStatus) :
    (responseMessageKindForStatus status = .response ∨
        responseMessageKindForStatus status = .error) ↔
      status ≠ .accepted ∧ status ≠ .progress := by
  rcases responseMessageKindForStatus_cases status with
    ⟨rfl, hkind⟩ | ⟨rfl, hkind⟩ | ⟨rfl, hkind⟩ | ⟨-, haccepted, hprogress, hkind⟩
  · rw [hkind]
    decide
  · rw [hkind]
    decide
  · rw [hkind]
    decide
  · exact iff_of_true (Or.inr hkind) ⟨haccepted, hprogress⟩

/-- The kind of an answer, as the validator sees it. -/
theorem responseMessageKind_response (status : ResponseStatus) :
    isKnownMessageKind (responseMessageKindForStatus status) = true ∧
      isRequestLike (responseMessageKindForStatus status) = false ∧
      isStreamMessage (responseMessageKindForStatus status) = false ∧
      responseMessageKindForStatus status ≠ .event := by
  rcases responseMessageKindForStatus_cases status with
    ⟨-, hkind⟩ | ⟨-, hkind⟩ | ⟨-, hkind⟩ | ⟨-, -, -, hkind⟩
  all_goals
    rw [hkind]
    decide

/-! ## Answering an acceptable request -/

section Answers

variable {options : ProtocolValidationOptions} {request : PacketEnvelope}
  {response : ResponseEnvelopeOptions}

/-- What an answer takes from its request and the validator asks about, under any options. -/
structure Addressed (options : ProtocolValidationOptions) (request : PacketEnvelope) : Prop where
  messageId : request.messageId ≠ 0
  sessionId : ¬ (options.requireSessionId ∧ request.sessionId = 0)
  channelId : ¬ (options.requireKnownChannel ∧ ¬ isKnownChannelId request.channelId)
  channelType : isKnownChannelType request.channelType
  packetType : isKnownPacketType request.packetType

/-- An acceptable request can be answered. -/
theorem Acceptable.addressed (h : Acceptable options request)
    (hkind : request.messageKind = .request ∨ request.messageKind = .cancel) :
    Addressed options request where
  messageId hzero := by
    refine h.requestMessageId ⟨?_, hzero⟩
    rcases hkind with hkind | hkind
    · rw [hkind]
      rfl
    · rw [hkind]
      rfl
  sessionId := h.sessionId
  channelId := h.channelId
  channelType := h.channelType
  packetType := h.packetType

/-- What the options of an answer have to keep to: the limit of the payload, and flags that do not
contradict each other. -/
structure AnswerWithin (limit : ℕ) (response : ResponseEnvelopeOptions) : Prop where
  payload : response.payload.length ≤ limit
  flags : ¬ (hasFlag response.flags packetFlagResponseRequired = true ∧
    hasFlag response.flags packetFlagNoResponseRequired = true)

/-- **The answer to a request is acceptable** exactly if its status and its priority are declared
values. -/
theorem acceptable_response_iff (hrequest : Addressed options request)
    (hmajor : options.expectedMajor = currentProtocolMajor)
    (hminor : options.minimumMinor ≤ currentProtocolMinor)
    (hwithin : AnswerWithin options.maxPayloadBytes response) :
    Acceptable options (makeResponseEnvelope request response) ↔
      isKnownStatus response.status = true ∧ isKnownPriority response.priority = true := by
  obtain ⟨hknown, hrequestLike, hstream, hevent⟩ := responseMessageKind_response response.status
  have hnotRequest :
      ¬ isRequestLike (makeResponseEnvelope request response).messageKind = true := by
    show ¬ isRequestLike (responseMessageKindForStatus response.status) = true
    rw [hrequestLike]
    exact Bool.false_ne_true
  have hnotStream :
      ¬ isStreamMessage (makeResponseEnvelope request response).messageKind = true := by
    show ¬ isStreamMessage (responseMessageKindForStatus response.status) = true
    rw [hstream]
    exact Bool.false_ne_true
  constructor
  · intro haccept
    exact ⟨haccept.responseStatus, haccept.priority⟩
  · rintro ⟨hstatus, hpriority⟩
    exact
      { protocolMajor := hmajor.symm
        protocolMinor := UInt16.not_lt.mpr hminor
        sessionId := hrequest.sessionId
        channelId := hrequest.channelId
        channelType := hrequest.channelType
        packetType := hrequest.packetType
        messageKind := hknown
        priority := hpriority
        responseStatus := hstatus
        payload := hwithin.payload
        requestMessageId := fun h => hnotRequest h.1
        requestCorrelationId := fun h => hnotRequest h.1
        requestTimeout := fun h => hnotRequest h.1
        responseRequiredEvent := fun h => hevent h.1
        responseTo := fun h => hrequest.messageId h.2
        streamCorrelationId := fun h => hnotStream h.1
        responseFlags := hwithin.flags
        eventStatus := fun h => hevent h.1 }

/-- **An answer survives the codec** if the codec's own rules for a session, a channel and a payload
are met and its status and its priority are declared values. -/
theorem decode_encode_response {codec : PacketCodec}
    (hrequest : Addressed codec.validationOptions request)
    (hwithin : AnswerWithin codec.options.maxPayloadBytes response)
    (hlength : response.payload.length < 2 ^ 32) (hstatus : isKnownStatus response.status = true)
    (hpriority : isKnownPriority response.priority = true) :
    codec.decode (codec.encode (makeResponseEnvelope request response)) =
      { status := .ok, packet := makeResponseEnvelope request response } := by
  refine PacketCodec.decode_encode codec (makeResponseEnvelope request response) ?_ hlength
  rw [validate_valid_iff, acceptable_response_iff hrequest rfl UInt16.le_rfl hwithin]
  exact ⟨hstatus, hpriority⟩

end Answers

end Protocol
end FusionDesk
