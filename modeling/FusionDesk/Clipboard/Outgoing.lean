import FusionDesk.Clipboard.Received

/-!
# What a call sends

Every packet of the module is of one of five kinds (`SentBy`), and each comes with the rest of the
call that belongs to it: an event of an announcement or a drag, a tracked request, a cancel, an
answer to a request of the peer, the acknowledgement of a large response.  So who has sent a packet
of some kind, and what is suspended until the send returns, can be read off it.

* `kinds_received`: the kind of a packet that asks for something.
* `sentBy_perform`: the five kinds.
-/

namespace FusionDesk
namespace Clipboard

open Protocol Network
open FusionDesk.Module

namespace Call

variable {α : Type} {m : ClipboardModule} {P : Outgoing → Prop}

/-- **What the call sends has a property**, if it sends anything. -/
def SendsOnly (P : Outgoing → Prop) (call : Call α) : Prop :=
  ∀ outgoing ∈ call.outgoing, P outgoing

theorem sendsOnly_of_none {call : Call α} (h : call.outgoing = none) : call.SendsOnly P := by
  intro outgoing hout
  rw [h] at hout
  cases hout

theorem sendsOnly_of_some {call : Call α} {outgoing : Outgoing} (h : call.outgoing = some outgoing)
    (hP : P outgoing) : call.SendsOnly P := by
  intro outgoing' hout
  rw [h, Option.mem_some_iff] at hout
  exact hout ▸ hP

theorem sendsOnly_silent : (silent m).SendsOnly P := sendsOnly_of_none rfl

theorem sendsOnly_refused : (refused m).SendsOnly P := sendsOnly_of_none rfl

theorem sendsOnly_denied {status : ResponseStatus} {message : StdString} :
    (denied m status message).SendsOnly P := sendsOnly_of_none rfl

theorem sendsOnly_sending {packet : PacketEnvelope} (h : P { packet := packet }) :
    (sending m packet).SendsOnly P := sendsOnly_of_some rfl h

theorem sendsOnly_returning {packet : PacketEnvelope} {rest : AfterSend}
    (h : P { packet := packet, rest := rest }) : (returning m packet rest).SendsOnly P :=
  sendsOnly_of_some rfl h

theorem SendsOnly.discard {call : Call α} (h : call.SendsOnly P) : call.discard.SendsOnly P := h

theorem sendsOnly_ite {c : Prop} [Decidable c] {first second : Call α}
    (hfirst : c → first.SendsOnly P) (hsecond : ¬c → second.SendsOnly P) :
    (if c then first else second).SendsOnly P := by
  by_cases h : c
  · rw [if_pos h]
    exact hfirst h
  · rw [if_neg h]
    exact hsecond h

/-- A packet that has gone out is what the call sends. -/
theorem exists_outgoing_of_mem_sentPacket {call : Call α} {surroundings : Surroundings}
    {packet : PacketEnvelope} (h : packet ∈ (call.sentPacket surroundings).toList) :
    ∃ outgoing ∈ call.outgoing, outgoing.packet = packet := by
  rw [Option.mem_toList, sentPacket] at h
  split at h
  · exact Option.map_eq_some_iff.mp h
  · cases h

end Call

open Call

/-! ## Kinds -/

/-- A packet of the kind `Response` or `Error`. -/
def isAnswer (packet : PacketEnvelope) : Bool :=
  packet.messageKind == .response || packet.messageKind == .error

/-- The kinds of packet with which something is asked for. -/
def Received.kinds : Received → MessageKind → Bool
  | .ignored, _ => true
  | .ack, kind => kind == .ack
  | .answer, kind => kind == .response || kind == .error
  | .formatList _, kind => kind == .event
  | .dragStart _, kind => kind == .event
  | .dragMove _, kind => kind == .event
  | .dragDrop _, kind => kind == .event
  | .dragCancel _, kind => kind == .event
  | .cancel _, kind => kind == .cancel
  | .readRequest _, kind => kind == .request
  | .fileRangeRequest _, kind => kind == .request
  | .lockObject _, kind => kind == .request
  | .unlockObject _, kind => kind == .request
  | .badRequest _ _, kind => kind == .request

theorem kinds_ite {c : Prop} [Decidable c] {first second : Received} {kind : MessageKind}
    (hfirst : c → first.kinds kind = true) (hsecond : ¬c → second.kinds kind = true) :
    (if c then first else second).kinds kind = true := by
  by_cases h : c
  · rw [if_pos h]
    exact hfirst h
  · rw [if_neg h]
    exact hsecond h

theorem kinds_receivedDecoded (packet : PacketEnvelope) (decoded : FdclDecodeResult) :
    (receivedDecoded packet decoded).kinds packet.messageKind = true :=
  kinds_ite (fun h => beq_iff_eq.mpr h.1) fun _ => kinds_ite (fun h => beq_iff_eq.mpr h.1) fun _ =>
    kinds_ite (fun h => beq_iff_eq.mpr h.1) fun _ => kinds_ite (fun h => beq_iff_eq.mpr h.1) fun _ =>
    kinds_ite (fun h => beq_iff_eq.mpr h.1) fun _ => kinds_ite (fun h => beq_iff_eq.mpr h.1) fun _ =>
    kinds_ite (fun h => beq_iff_eq.mpr h.1) fun _ => kinds_ite (fun h => beq_iff_eq.mpr h.1) fun _ =>
    kinds_ite (fun h => beq_iff_eq.mpr h.1) fun _ => kinds_ite (fun h => beq_iff_eq.mpr h.1) fun _ =>
    kinds_ite (fun h => beq_iff_eq.mpr h) fun _ => rfl

/-- **What is asked for comes in a packet of its kind.** -/
theorem kinds_received (packet : PacketEnvelope) :
    (received packet).kinds packet.messageKind = true := by
  refine kinds_ite (fun _ => rfl) fun _ => kinds_ite (fun h => beq_iff_eq.mpr h) fun _ =>
    kinds_ite (fun h => ?_) fun _ => ?_
  · rcases h with h | h
    · rw [h]
      rfl
    · rw [h]
      rfl
  · exact kinds_ite (fun _ => kinds_ite (fun h => beq_iff_eq.mpr h) fun _ => rfl)
      fun _ => kinds_receivedDecoded packet _

theorem channel_of_usesLargeData (channels : Option ChannelRegistry) (response : PacketEnvelope)
    (payloadBytes : UInt64) (options : ClipboardLargeDataScheduleOptions) :
    let schedule := scheduleClipboardBulkResponse channels response payloadBytes options
    schedule.usesLargeData = true → schedule.channel = clipboardLargeDataChannelKey := by
  simp only [scheduleClipboardBulkResponse]
  split
  · exact nofun
  split
  · exact nofun
  split
  · split
    · exact nofun
    split
    · exact nofun
    · exact fun _ => rfl
  · generalize (if options.smallDataFallbackBytes = 0 then 1024 * 1024
      else options.smallDataFallbackBytes) = fallbackBytes
    split
    · exact nofun
    · exact nofun

/-- A response that is to use the large_data channel is on it. -/
theorem isLarge_of_usesLargeData {channels : Option ChannelRegistry} {response : PacketEnvelope}
    {payloadBytes : UInt64} {options : ClipboardLargeDataScheduleOptions}
    (htype : response.packetType = .clipboard) :
    let schedule := scheduleClipboardBulkResponse channels response payloadBytes options
    schedule.usesLargeData = true →
      isClipboardLargeDataPacket (applyClipboardLargeDataSchedule schedule response) = true := by
  intro schedule huses
  have hchannel := channel_of_usesLargeData channels response payloadBytes options huses
  simp [isClipboardLargeDataPacket, applyClipboardLargeDataSchedule, schedule, hchannel, htype]

/-! ## The five kinds -/

/-- The rest of a call that sends an event or a cancel, or an answer without a reservation. -/
def AfterSend.isPlain : AfterSend → Bool
  | .nothing => true
  | .announced _ => true
  | .dragStarted _ => true
  | .dragEnded => true
  | _ => false

/-- **What is sent by which call.** -/
inductive SentBy : ClipboardOp → Outgoing → Prop
  | event {op : ClipboardOp} {outgoing : Outgoing} (kind : outgoing.packet.messageKind = .event)
      (plain : outgoing.rest.isPlain = true) : SentBy op outgoing
  | cancel {op : ClipboardOp} {outgoing : Outgoing} (kind : outgoing.packet.messageKind = .cancel)
      (plain : outgoing.rest.isPlain = true) : SentBy op outgoing
  | request {op : ClipboardOp} {packet : PacketEnvelope} (kind : packet.messageKind = .request) :
      SentBy op { packet := packet, rest := .requested packet }
  | answer {request : PacketEnvelope} {outgoing : Outgoing} (asked : request.messageKind = .request)
      (kind : isAnswer outgoing.packet = true)
      (responseTo : outgoing.packet.responseTo = request.messageId)
      (plain : outgoing.rest.isPlain = true) : SentBy (.handlePacket request) outgoing
  | range {request packet : PacketEnvelope} (bytes : UInt64) (asked : request.messageKind = .request)
      (kind : packet.messageKind = .response) (large : isClipboardLargeDataPacket packet = true)
      (responseTo : packet.responseTo = request.messageId) :
      SentBy (.handlePacket request)
        { packet := packet, rest := .rangeSent packet.messageId bytes }
  | ack {response packet : PacketEnvelope} (terminal : Bool) (result : TransferFileRangeResult)
      (answer : received response = .answer) (kind : received packet = .ack)
      (responseTo : packet.responseTo = response.messageId) :
      SentBy (.handlePacket response)
        { packet := packet, rest := .acknowledged response.responseTo terminal result }

namespace ClipboardModule

variable (m : ClipboardModule) (surroundings : Surroundings) (packet : PacketEnvelope)

/-! ### Answers -/

section Answers

variable (hasked : packet.messageKind = .request)
include hasked

theorem sentBy_sendErrorResponse (status : ResponseStatus) (message : StdString) :
    (m.sendErrorResponse packet status message).SendsOnly (SentBy (.handlePacket packet)) :=
  sendsOnly_sending (.answer hasked rfl rfl rfl)

theorem sentBy_handleReadRequest (request : FdclReadFormatRequest) :
    (m.handleReadRequest surroundings packet request).SendsOnly (SentBy (.handlePacket packet)) :=
  sendsOnly_ite (fun _ => m.sentBy_sendErrorResponse packet hasked _ _) fun _ =>
    sendsOnly_ite (fun _ => m.sentBy_sendErrorResponse packet hasked _ _) fun _ =>
    sendsOnly_ite (fun _ => m.sentBy_sendErrorResponse packet hasked _ _) fun _ =>
    sendsOnly_sending (.answer hasked rfl rfl rfl)

theorem sentBy_sendObjectLockResponse (operation : FdclOperation) (request : FdclObjectLock)
    (result : TransferObjectLockResult) :
    (m.sendObjectLockResponse packet operation request result).SendsOnly
      (SentBy (.handlePacket packet)) :=
  sendsOnly_ite (fun _ => m.sentBy_sendErrorResponse packet hasked _ _) fun _ =>
    sendsOnly_sending (.answer hasked rfl rfl rfl)

theorem sentBy_sendScheduledRange {response : PacketEnvelope} {usesLargeData : Bool}
    (hkind : response.messageKind = .response) (hto : response.responseTo = packet.messageId)
    (hlarge : usesLargeData = true → isClipboardLargeDataPacket response = true) :
    (m.sendScheduledRange packet response usesLargeData).SendsOnly
      (SentBy (.handlePacket packet)) := by
  have hanswer : isAnswer response = true := by
    rw [isAnswer, hkind]
    rfl
  unfold sendScheduledRange
  split
  · exact sendsOnly_sending (.answer hasked hanswer hto rfl)
  next window hwindow =>
  have huses : usesLargeData = true := by
    by_contra hnone
    rw [if_neg hnone] at hwindow
    cases hwindow
  exact sendsOnly_ite (fun _ => m.sentBy_sendErrorResponse packet hasked _ _) fun _ =>
    sendsOnly_of_some rfl (.range _ hasked hkind (hlarge huses) hto)

theorem sentBy_sendFileRangeResponse (request : FdclFileRangeRequest)
    (result : TransferFileRangeResult) :
    (m.sendFileRangeResponse surroundings packet request result).SendsOnly
      (SentBy (.handlePacket packet)) :=
  sendsOnly_ite (fun _ => m.sentBy_sendErrorResponse packet hasked _ _) fun _ =>
    sendsOnly_ite (fun _ => m.sentBy_sendErrorResponse packet hasked _ _) fun _ =>
    sendsOnly_ite (fun _ => sentBy_sendErrorResponse _ packet hasked _ _) fun _ =>
    sentBy_sendScheduledRange _ packet hasked rfl rfl (isLarge_of_usesLargeData rfl)

theorem sentBy_handleFileRangeRequest (request : FdclFileRangeRequest) :
    (m.handleFileRangeRequest surroundings packet request).SendsOnly
      (SentBy (.handlePacket packet)) :=
  sendsOnly_ite (fun _ => m.sentBy_sendErrorResponse packet hasked _ _) fun _ =>
    sendsOnly_ite (fun _ => m.sentBy_sendErrorResponse packet hasked _ _) fun _ =>
    m.sentBy_sendFileRangeResponse surroundings packet hasked _ _

theorem sentBy_handleObjectLockRequest (request : FdclObjectLock) :
    (m.handleObjectLockRequest surroundings packet request).SendsOnly
      (SentBy (.handlePacket packet)) :=
  sendsOnly_ite (fun _ => m.sentBy_sendErrorResponse packet hasked _ _) fun _ =>
    sentBy_sendObjectLockResponse _ packet hasked _ _ _

theorem sentBy_handleObjectUnlockRequest (request : FdclObjectLock) :
    (m.handleObjectUnlockRequest packet request).SendsOnly (SentBy (.handlePacket packet)) :=
  sendsOnly_ite (fun _ => m.sentBy_sendErrorResponse packet hasked _ _) fun _ =>
    sentBy_sendObjectLockResponse _ packet hasked _ _ _

end Answers

/-! ### Handlers of responses -/

/-- What the completion of a request sends is the acknowledgement of a large response. -/
theorem outgoing_completeRead {outgoing : Outgoing}
    (h : (m.completeRead surroundings packet).outgoing = some outgoing) :
    isClipboardLargeDataPacket packet = true ∧ received outgoing.packet = .ack ∧
      outgoing.packet.responseTo = packet.messageId ∧ ∃ result,
        outgoing.rest = .acknowledged packet.responseTo
          (RequestTracker.isTerminalResponse packet.messageKind) result := by
  unfold completeRead at h
  split at h
  · cases h
  simp only at h
  split at h
  · cases h
  next ack hack =>
  cases h
  split at hack
  · unfold largeDataAck at hack
    split at hack
    · cases hack
    next hlarge =>
    cases hack
    exact ⟨Bool.eq_true_of_not_eq_false fun hsmall => hlarge (Or.inl hsmall), rfl, rfl, _, rfl⟩
  · cases hack

theorem sentBy_handleReadResponse (hanswer : received packet = .answer) :
    (m.handleReadResponse surroundings packet).SendsOnly (SentBy (.handlePacket packet)) := by
  rintro ⟨ack, rest⟩ hout
  obtain ⟨-, hkind, hto, result, rfl⟩ := outgoing_completeRead _ surroundings packet hout
  exact .ack _ result hanswer hkind hto

/-- A request that is cancelled is not acknowledged. -/
theorem outgoing_handleCancel (cancel : FdclCancel) :
    (m.handleCancel surroundings cancel).outgoing = none := by
  by_contra hsome
  obtain ⟨outgoing, hout⟩ := Option.ne_none_iff_exists'.mp hsome
  obtain ⟨hlarge, -⟩ := m.outgoing_completeRead surroundings _ hout
  cases hlarge

/-! ### Events, requests and cancels -/

theorem sendsOnly_askSink {P : Outgoing → Prop} {call : DragSinkCall}
    {accepted : ClipboardModule} : (m.askSink surroundings call accepted).SendsOnly P :=
  sendsOnly_ite (fun _ => sendsOnly_silent) fun _ => sendsOnly_of_none rfl

theorem sentBy_handle {asked : Received} (h : received packet = asked) :
    (m.handle surroundings packet asked).SendsOnly (SentBy (.handlePacket packet)) := by
  have hkind := kinds_received packet
  rw [h] at hkind
  have hrequest : ∀ {kind : MessageKind}, (packet.messageKind == kind) = true →
      packet.messageKind = kind := fun hkind => eq_of_beq hkind
  cases asked with
  | ignored => exact sendsOnly_silent
  | ack => exact sendsOnly_silent
  | answer => exact m.sentBy_handleReadResponse surroundings packet h
  | formatList list => exact sendsOnly_silent
  | dragStart start =>
    exact sendsOnly_ite (fun _ => sendsOnly_silent) fun _ =>
      sendsOnly_ite (fun _ => sendsOnly_silent) fun _ => m.sendsOnly_askSink surroundings
  | dragMove move =>
    exact sendsOnly_ite (fun _ => sendsOnly_silent) fun _ =>
      sendsOnly_ite (fun _ => sendsOnly_silent) fun _ => m.sendsOnly_askSink surroundings
  | dragDrop drop =>
    exact sendsOnly_ite (fun _ => sendsOnly_silent) fun _ =>
      sendsOnly_ite (fun _ => sendsOnly_silent) fun _ => m.sendsOnly_askSink surroundings
  | dragCancel cancel =>
    exact sendsOnly_ite (fun _ => sendsOnly_silent) fun _ =>
      sendsOnly_ite (fun _ => sendsOnly_silent) fun _ => m.sendsOnly_askSink surroundings
  | cancel cancel => exact sendsOnly_of_none (m.outgoing_handleCancel surroundings cancel)
  | readRequest request =>
    exact m.sentBy_handleReadRequest surroundings packet (hrequest hkind) request
  | fileRangeRequest request =>
    exact m.sentBy_handleFileRangeRequest surroundings packet (hrequest hkind) request
  | lockObject request =>
    exact m.sentBy_handleObjectLockRequest surroundings packet (hrequest hkind) request
  | unlockObject request =>
    exact m.sentBy_handleObjectUnlockRequest packet (hrequest hkind) request
  | badRequest status message =>
    exact m.sentBy_sendErrorResponse packet (hrequest hkind) status message

variable {op : ClipboardOp}

theorem sentBy_announceLocalBundle (bundle : TransferSourceBundle) :
    (m.announceLocalBundle surroundings bundle).SendsOnly (SentBy op) :=
  sendsOnly_ite (fun _ => sendsOnly_refused) fun _ => sendsOnly_ite (fun _ => sendsOnly_refused)
    fun _ => sendsOnly_ite (fun _ => sendsOnly_refused) fun _ =>
    sendsOnly_ite (fun _ => sendsOnly_refused) fun _ => sendsOnly_returning (.event rfl rfl)

theorem sentBy_dispatch (handler : ReadHandler) (payload : ByteBuffer) (timeoutMs : UInt32)
    (nowUsec : UInt64) (unavailable : StdString) :
    (m.dispatch surroundings handler payload timeoutMs nowUsec unavailable).SendsOnly (SentBy op) :=
  sendsOnly_ite (fun _ => sendsOnly_denied) fun _ => sendsOnly_of_some rfl (.request rfl)

theorem sentBy_sendDragEvent (payload : ByteBuffer) {rest : AfterSend} (h : rest.isPlain = true) :
    (m.sendDragEvent surroundings payload rest).SendsOnly (SentBy op) :=
  sendsOnly_returning (.event rfl h)

/-- **Every call sends a packet of one of the five kinds**, or none. -/
theorem sentBy_perform (op : ClipboardOp) :
    (m.perform surroundings op).SendsOnly (SentBy op) := by
  cases op with
  | attach runtime => exact sendsOnly_silent
  | start => exact sendsOnly_silent
  | stop => exact sendsOnly_silent
  | detach => exact sendsOnly_silent
  | pauseForReconnect options => exact sendsOnly_silent
  | resumeAfterReconnect options =>
    exact sendsOnly_ite (fun _ => (m.sentBy_announceLocalBundle surroundings _).discard)
      fun _ => sendsOnly_silent
  | handlePacket packet =>
    show (m.handlePacket surroundings packet).SendsOnly _
    by_cases hrunning : m.state = .running
    · rw [m.handlePacket_eq surroundings packet hrunning]
      exact m.sentBy_handle surroundings packet rfl
    · rw [m.handlePacket_of_not_running surroundings packet hrunning]
      exact sendsOnly_silent
  | announceLocalBundle bundle => exact (m.sentBy_announceLocalBundle surroundings bundle).discard
  | requestRemoteFormat request timeoutMs nowUsec =>
    exact SendsOnly.discard <| sendsOnly_ite (fun _ => sendsOnly_of_none rfl) fun _ =>
      sendsOnly_ite (fun _ => sendsOnly_denied) fun _ =>
      sendsOnly_ite (fun _ => sendsOnly_denied) fun _ => m.sentBy_dispatch surroundings _ _ _ _ _
  | requestRemoteFileRange request timeoutMs nowUsec =>
    exact SendsOnly.discard <| sendsOnly_ite (fun _ => sendsOnly_of_none rfl) fun _ =>
      sendsOnly_ite (fun _ => sendsOnly_denied) fun _ =>
      sendsOnly_ite (fun _ => sendsOnly_denied) fun _ =>
      sendsOnly_ite (fun _ => sendsOnly_denied) fun _ => m.sentBy_dispatch surroundings _ _ _ _ _
  | requestRemoteObjectLock request timeoutMs nowUsec =>
    exact SendsOnly.discard <| sendsOnly_ite (fun _ => sendsOnly_of_none rfl) fun _ =>
      sendsOnly_ite (fun _ => sendsOnly_denied) fun _ =>
      sendsOnly_ite (fun _ => sendsOnly_denied) fun _ => m.sentBy_dispatch surroundings _ _ _ _ _
  | requestRemoteObjectUnlock request timeoutMs nowUsec =>
    exact SendsOnly.discard <| sendsOnly_ite (fun _ => sendsOnly_of_none rfl) fun _ =>
      sendsOnly_ite (fun _ => sendsOnly_denied) fun _ =>
      sendsOnly_ite (fun _ => sendsOnly_denied) fun _ => m.sentBy_dispatch surroundings _ _ _ _ _
  | sendCancel cancel timeoutMs nowUsec =>
    exact SendsOnly.discard <| sendsOnly_ite (fun _ => sendsOnly_refused) fun _ =>
      sendsOnly_ite (fun _ => sendsOnly_refused) fun _ => sendsOnly_returning (.cancel rfl rfl)
  | sendRemoteDragStart start =>
    exact SendsOnly.discard <| sendsOnly_ite (fun _ => sendsOnly_refused) fun _ =>
      sendsOnly_ite (fun _ => sendsOnly_refused) fun _ =>
      sendsOnly_ite (fun _ => sendsOnly_refused) fun _ => m.sentBy_sendDragEvent surroundings _ rfl
  | sendRemoteDragMove move =>
    exact SendsOnly.discard <| sendsOnly_ite (fun _ => sendsOnly_refused) fun _ =>
      sendsOnly_ite (fun _ => sendsOnly_refused) fun _ =>
      sendsOnly_ite (fun _ => sendsOnly_refused) fun _ =>
      sendsOnly_ite (fun _ => sendsOnly_refused) fun _ => m.sentBy_sendDragEvent surroundings _ rfl
  | sendRemoteDragDrop drop =>
    exact SendsOnly.discard <| sendsOnly_ite (fun _ => sendsOnly_refused) fun _ =>
      sendsOnly_ite (fun _ => sendsOnly_refused) fun _ =>
      sendsOnly_ite (fun _ => sendsOnly_refused) fun _ =>
      sendsOnly_ite (fun _ => sendsOnly_refused) fun _ => m.sentBy_sendDragEvent surroundings _ rfl
  | sendRemoteDragCancel cancel =>
    exact SendsOnly.discard <| sendsOnly_ite (fun _ => sendsOnly_refused) fun _ =>
      sendsOnly_ite (fun _ => sendsOnly_refused) fun _ =>
      sendsOnly_ite (fun _ => sendsOnly_refused) fun _ =>
      sendsOnly_ite (fun _ => sendsOnly_refused) fun _ => m.sentBy_sendDragEvent surroundings _ rfl
  | expirePendingReads nowUsec => exact sendsOnly_silent

end ClipboardModule

end Clipboard
end FusionDesk
