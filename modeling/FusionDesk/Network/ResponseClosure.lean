import FusionDesk.Network.RequestTracker
import FusionDesk.Protocol.MessageLifecycle

/-!
# Answers find their request

The packets the message lifecycle builds to answer a request, seen by everything they pass on their
way back: the validator, the codec and the tracker of the peer that has sent the request.

* `complete_response`: the tracker gives an answer to the handler of its request, and the request is
  over exactly if the status of the answer says so.
* `response_closure`: that, with what the validator and the codec say about the answer.
-/

namespace FusionDesk
namespace Network

open Protocol

/-- The three ways to build an answer, each with the status it has. -/
inductive Answers (request : PacketEnvelope) (options : ResponseEnvelopeOptions) :
    ResponseStatus → PacketEnvelope → Prop
  | response : Answers request options options.status (makeResponseEnvelope request options)
  | ack : Answers request options .accepted (makeAckEnvelope request options)
  | error (status : ResponseStatus) : Answers request options
      (if status = .ok then .failed else status) (makeErrorEnvelope request status options)

/-- Whichever it is, it is the answer with this status. -/
theorem Answers.eq_makeResponse {request : PacketEnvelope} {options : ResponseEnvelopeOptions}
    {status : ResponseStatus} {packet : PacketEnvelope}
    (h : Answers request options status packet) :
    packet = makeResponseEnvelope request { options with status := status } := by
  cases h with
  | response => rfl
  | ack => rfl
  | error status => rfl

namespace RequestTracker

universe u

/-- What an answer has of its request. -/
structure Carries (request packet : PacketEnvelope) : Prop where
  channelId : packet.channelId = request.channelId
  channelType : packet.channelType = request.channelType
  packetType : packet.packetType = request.packetType
  sessionId : packet.sessionId = request.sessionId
  traceId : packet.traceId = request.traceId

/-- The tracker completes one request with the packet: its handler is called, and nobody else's,
and if `ended` it alone is gone. -/
structure Completes {H : Type u} (tracker : RequestTracker H) (handler : H)
    (request packet : PacketEnvelope) (ended : Prop) : Prop where
  found : (tracker.complete packet).1 = true
  calls : (tracker.complete packet).2.1 = [⟨handler, packet⟩]
  pending_self : (tracker.complete packet).2.2.pending[request.messageId]? = none ↔ ended
  pending_other : ∀ id, id ≠ request.messageId →
    (tracker.complete packet).2.2.pending[id]? = tracker.pending[id]?

/-- An answer ends its request unless its status is `Accepted` or `Progress`. -/
theorem isTerminalResponse_response_iff (status : ResponseStatus) :
    isTerminalResponse (responseMessageKindForStatus status) = true ↔
      status ≠ .accepted ∧ status ≠ .progress := by
  rw [← responseMessageKind_final_iff]
  rcases responseMessageKindForStatus_cases status with
    ⟨-, hkind⟩ | ⟨-, hkind⟩ | ⟨-, hkind⟩ | ⟨-, -, -, hkind⟩
  all_goals
    rw [hkind]
    decide

/-- **The tracker gives an answer to the handler of its request**, and ends the request exactly if
the status of the answer says so. -/
theorem complete_response {H : Type u} {tracker : RequestTracker H} {request : PacketEnvelope}
    {handler : H} {deadlineUsec : UInt64} (hid : request.messageId ≠ 0)
    (hpending : tracker.pending[request.messageId]? = some ⟨request, handler, deadlineUsec⟩)
    (response : ResponseEnvelopeOptions) :
    Completes tracker handler request (makeResponseEnvelope request response)
      (response.status ≠ .accepted ∧ response.status ≠ .progress) := by
  have hcomplete : tracker.complete (makeResponseEnvelope request response) =
      (true, [⟨handler, makeResponseEnvelope request response⟩],
        if isTerminalResponse (responseMessageKindForStatus response.status) then
          tracker.erase request.messageId
        else tracker) := by
    rcases tracker.complete_cases (makeResponseEnvelope request response) with
      ⟨-, hzero | hnone⟩ | ⟨pending, hfound, hresult⟩
    · exact absurd hzero hid
    · cases hnone.symm.trans hpending
    · obtain rfl := Option.some.inj (hfound.symm.trans hpending)
      exact hresult
  have hafter : (tracker.complete (makeResponseEnvelope request response)).2.2 =
      if isTerminalResponse (responseMessageKindForStatus response.status) then
        tracker.erase request.messageId
      else tracker := by rw [hcomplete]
  rw [← isTerminalResponse_response_iff]
  by_cases hterminal : isTerminalResponse (responseMessageKindForStatus response.status) = true
  · rw [if_pos hterminal] at hafter
    refine ⟨by rw [hcomplete], by rw [hcomplete], ?_, fun id hne => ?_⟩
    · rw [hafter, pending_erase, if_pos rfl]
      exact iff_of_true rfl hterminal
    · rw [hafter, pending_erase, if_neg (Ne.symm hne)]
  · rw [if_neg hterminal] at hafter
    refine ⟨by rw [hcomplete], by rw [hcomplete], ?_, fun id _ => ?_⟩
    · rw [hafter, hpending]
      exact iff_of_false (Option.some_ne_none _) hterminal
    · rw [hafter]

/-- **Answers find their request.**  The answer to a request the validator accepts is accepted
exactly if its status and its priority are declared values; it then survives every codec whose rules
for a payload, a session and a channel are met; it has the channel, the type, the session and the
trace of the request; and the tracker the request is pending in gives it to the handler of exactly
that request and ends it exactly if the answer is a `Response` or an `Error`. -/
theorem response_closure {options : ProtocolValidationOptions} {request packet : PacketEnvelope}
    {response : ResponseEnvelopeOptions} {status : ResponseStatus}
    (hvalid : (validate options request).valid = true)
    (hkind : request.messageKind = .request ∨ request.messageKind = .cancel)
    (hmajor : options.expectedMajor = currentProtocolMajor)
    (hminor : options.minimumMinor ≤ currentProtocolMinor)
    (hwithin : AnswerWithin options.maxPayloadBytes response)
    (hanswer : Answers request response status packet) :
    ((validate options packet).valid = true ↔
        isKnownStatus status = true ∧ isKnownPriority response.priority = true) ∧
      (∀ codec : PacketCodec, (validate options packet).valid = true →
        response.payload.length ≤ codec.options.maxPayloadBytes →
          response.payload.length < 2 ^ 32 → request.sessionId ≠ 0 →
            isKnownChannelId request.channelId = true →
              codec.decode (codec.encode packet) = { status := .ok, packet := packet }) ∧
      Carries request packet ∧
      (∀ (H : Type u) (tracker : RequestTracker H) (handler : H) (deadlineUsec : UInt64),
        tracker.pending[request.messageId]? = some ⟨request, handler, deadlineUsec⟩ →
          Completes tracker handler request packet
            (packet.messageKind = .response ∨ packet.messageKind = .error)) ∧
      ((packet.messageKind = .response ∨ packet.messageKind = .error) ↔
        status ≠ .accepted ∧ status ≠ .progress) := by
  obtain rfl := hanswer.eq_makeResponse
  have hrequest := (validate_valid_iff.mp hvalid).addressed hkind
  have hwithin' : AnswerWithin options.maxPayloadBytes { response with status := status } :=
    ⟨hwithin.payload, hwithin.flags⟩
  have haccept := acceptable_response_iff hrequest hmajor hminor hwithin'
  have hfinal := responseMessageKind_final_iff status
  rw [validate_valid_iff]
  refine ⟨haccept, ?_, ⟨rfl, rfl, rfl, rfl, rfl⟩, ?_, hfinal⟩
  · intro codec hacceptable hpayload hlength hsession hchannel
    obtain ⟨hstatus, hpriority⟩ := haccept.mp hacceptable
    refine decode_encode_response ?_ ⟨hpayload, hwithin.flags⟩ hlength hstatus hpriority
    exact ⟨hrequest.messageId, fun h => hsession h.2, fun h => h.2 hchannel,
      hrequest.channelType, hrequest.packetType⟩
  · intro H tracker handler deadlineUsec hpending
    obtain ⟨hfound, hcalls, hself, hother⟩ :=
      complete_response hrequest.messageId hpending { response with status := status }
    exact ⟨hfound, hcalls, hself.trans hfinal.symm, hother⟩

/-- A request on the control channel. -/
def askControl : PacketEnvelope :=
  { sessionId := 1, messageId := 7, correlationId := 7, channelId := ChannelIdValue.userAuthMain,
    channelType := .control, packetType := .control, messageKind := .request, timeoutMs := 1000,
    flags := packetFlagResponseRequired }

theorem response_closure_askControl :
    (validate {} (makeErrorEnvelope askControl .busy {})).valid = true :=
  (response_closure.{0} (by decide) (Or.inl rfl) rfl (by decide) ⟨by decide, by decide⟩
    (Answers.error .busy)).1.mpr ⟨by decide, by decide⟩

/-- The request is accepted and tracked, and the options of the answer are within their rules. -/
def Answerable (options : ProtocolValidationOptions) (request : PacketEnvelope)
    (response : ResponseEnvelopeOptions) : Prop :=
  (validate options request).valid = true ∧ request.messageKind = .request ∧
    (({} : RequestTracker Unit).track request (some ())).1.tracked = true ∧
      response.payload.length ≤ options.maxPayloadBytes ∧
        ¬ (hasFlag response.flags packetFlagResponseRequired = true ∧
          hasFlag response.flags packetFlagNoResponseRequired = true)

instance (options : ProtocolValidationOptions) (request : PacketEnvelope)
    (response : ResponseEnvelopeOptions) : Decidable (Answerable options request response) :=
  inferInstanceAs (Decidable (_ ∧ _ ∧ _ ∧ _ ∧ ¬ (_ ∧ _)))

/-- An answer with a status or a priority that is no enumerator is refused; so is the answer under
options for another protocol version; and an answer without a session does not survive the codec,
which asks for one whatever the options of the validator say. -/
theorem answers_refused :
    (Answerable {} askControl { status := ⟨999⟩ } ∧
        (validate {} (makeResponseEnvelope askControl { status := ⟨999⟩ })).valid = false) ∧
      (Answerable {} askControl { priority := ⟨99⟩ } ∧
        (validate {} (makeResponseEnvelope askControl { priority := ⟨99⟩ })).valid = false) ∧
      (Answerable { expectedMajor := 2 } { askControl with protocolMajor := 2 } {} ∧
        (validate { expectedMajor := 2 }
          (makeResponseEnvelope { askControl with protocolMajor := 2 } {})).valid = false) ∧
      (Answerable { requireSessionId := false } { askControl with sessionId := 0 } {} ∧
        (PacketCodec.decode {} (PacketCodec.encode {}
          (makeResponseEnvelope { askControl with sessionId := 0 } {}))).ok = false) := by
  decide +kernel

end RequestTracker
end Network
end FusionDesk
