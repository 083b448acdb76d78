import FusionDesk.Clipboard.FdclAccepted
import FusionDesk.Clipboard.Outgoing

/-!
# What a call does to the drags

The drag of this side is started and ended by what the module sends, that of the peer by what the
drag sink answers.  `DragMove` lists what a call can do to the two: with the call of the drag sink
that it makes, the event that it sends, and the drags before and after.

An event is told by its payload.  The payload of a message says which operation it is and, of a drag,
which session (`wrap_inj`, `dragSession_eq_of_encode_eq`), whether or not the peer accepts it.

* `eventless_perform`: the calls that ask the drag sink for nothing and send no event.
* `DragMove`: what a call can do to the drags.
-/

namespace FusionDesk
namespace Clipboard

open Protocol Network BigEndian Call
open FusionDesk.Module

/-! ## The payload of an event -/

theorem u16Bytes_inj {value other : UInt16} (h : u16Bytes value = u16Bytes other) :
    value = other := by
  have hnumbers := congrArg beNat h
  rw [u16Bytes, u16Bytes, beNat_beBytes_of_lt value.toNat_lt, beNat_beBytes_of_lt other.toNat_lt]
    at hnumbers
  exact UInt16.toNat_inj.mp hnumbers

theorem u64Bytes_inj {value other : UInt64} (h : u64Bytes value = u64Bytes other) :
    value = other := by
  have hnumbers := congrArg beNat h
  rw [u64Bytes, u64Bytes, beNat_beBytes_of_lt value.toNat_lt, beNat_beBytes_of_lt other.toNat_lt]
    at hnumbers
  exact UInt64.toNat_inj.mp hnumbers

/-- **A payload says its operation and its body.** -/
theorem wrap_inj {operation other : FdclOperation} {body otherBody : ByteBuffer}
    (h : wrap operation body = wrap other otherBody) : operation = other ∧ body = otherBody := by
  rw [wrap_eq, wrap_eq] at h
  obtain ⟨hheader, hbody⟩ := List.append_inj h (by simp only [length_headerFields])
  refine ⟨?_, hbody⟩
  have hoperation : u16Bytes operation.raw = u16Bytes other.raw := by
    have hfields : slice (headerFields operation body).flatten 8 2 =
        slice (headerFields other otherBody).flatten 8 2 := congrArg (slice · 8 2) hheader
    have hread : ∀ (operation : FdclOperation) (body : ByteBuffer),
        slice (headerFields operation body).flatten 8 2 = u16Bytes operation.raw := by
      intro operation body
      have hslice : slice ((headerFields operation body).flatten ++ []) 8 2 =
          u16Bytes operation.raw :=
        slice_flatten (i := 3) [] rfl rfl (length_u16Bytes operation.raw)
      rwa [List.append_nil] at hslice
    rwa [hread, hread] at hfields
  exact congrArg FdclOperation.mk (u16Bytes_inj hoperation)

namespace FdclMessage

def operation : FdclMessage → FdclOperation
  | capabilities _ => .capabilities
  | formatList _ => .formatList
  | readFormatRequest _ => .readFormatRequest
  | readFormatResponse _ => .readFormatResponse
  | cancel _ => .cancel
  | errorDetail _ => .errorDetail
  | fileRangeRequest _ => .fileRangeRequest
  | fileRangeResponse _ => .fileRangeResponse
  | dragStart _ => .dragStart
  | dragMove _ => .dragMove
  | dragDrop _ => .dragDrop
  | dragCancel _ => .dragCancel
  | lockObject _ => .lockObject
  | unlockObject _ => .unlockObject

/-- The drag session that a message is about. -/
def dragSession : FdclMessage → Option DragSessionId
  | dragStart payload => some payload.start.dragSessionId
  | dragMove payload => some payload.dragSessionId
  | dragDrop payload => some payload.dragSessionId
  | dragCancel payload => some payload.dragSessionId
  | _ => none

/-- A message about a drag begins with its session. -/
theorem exists_wrap (message : FdclMessage) :
    ∃ body, message.encode = wrap message.operation body ∧
      ∀ id ∈ message.dragSession, ∃ rest, body = u64Bytes id ++ rest := by
  cases message with
  | capabilities payload => exact ⟨_, rfl, nofun⟩
  | formatList payload => exact ⟨_, encodeFdclFormatList_eq payload, nofun⟩
  | readFormatRequest payload => exact ⟨_, encodeFdclReadFormatRequest_eq payload, nofun⟩
  | readFormatResponse payload => exact ⟨_, encodeFdclReadFormatResponse_eq payload, nofun⟩
  | cancel payload => exact ⟨_, encodeFdclCancel_eq payload, nofun⟩
  | errorDetail payload => exact ⟨_, encodeFdclErrorDetail_eq payload, nofun⟩
  | fileRangeRequest payload => exact ⟨_, encodeFdclFileRangeRequest_eq payload, nofun⟩
  | fileRangeResponse payload => exact ⟨_, encodeFdclFileRangeResponse_eq payload, nofun⟩
  | dragStart payload =>
    refine ⟨_, encodeFdclDragStart_eq payload, ?_⟩
    rintro id ⟨⟩
    exact ⟨_, List.append_assoc ..⟩
  | dragMove payload =>
    refine ⟨_, encodeFdclDragMove_eq payload, ?_⟩
    rintro id ⟨⟩
    exact ⟨_, List.append_assoc ..⟩
  | dragDrop payload =>
    refine ⟨_, encodeFdclDragDrop_eq payload, ?_⟩
    rintro id ⟨⟩
    exact ⟨_, List.append_assoc ..⟩
  | dragCancel payload =>
    refine ⟨_, encodeFdclDragCancel_eq payload, ?_⟩
    rintro id ⟨⟩
    exact ⟨_, rfl⟩
  | lockObject payload => exact ⟨_, encodeObjectLock_eq .lockObject payload, nofun⟩
  | unlockObject payload => exact ⟨_, encodeObjectLock_eq .unlockObject payload, nofun⟩

variable {message other : FdclMessage}

theorem operation_eq_of_encode_eq (h : message.encode = other.encode) :
    message.operation = other.operation := by
  obtain ⟨body, hbody, -⟩ := message.exists_wrap
  obtain ⟨otherBody, hother, -⟩ := other.exists_wrap
  exact (wrap_inj (hbody.symm.trans (h.trans hother))).1

/-- **Two payloads that are the same are about one drag session.** -/
theorem dragSession_eq_of_encode_eq (h : message.encode = other.encode) {id otherId : DragSessionId}
    (hid : id ∈ message.dragSession) (hother : otherId ∈ other.dragSession) : id = otherId := by
  obtain ⟨body, hbody, hfront⟩ := message.exists_wrap
  obtain ⟨otherBody, hotherBody, hotherFront⟩ := other.exists_wrap
  obtain ⟨rest, rfl⟩ := hfront id hid
  obtain ⟨otherRest, rfl⟩ := hotherFront otherId hother
  have hsame := (wrap_inj (hbody.symm.trans (h.trans hotherBody))).2
  exact u64Bytes_inj (List.append_inj hsame (by simp)).1

end FdclMessage

/-! ## Calls that are about no drag -/

/-- What is asked for is a drag or a format list. -/
def Received.aboutDrags : Received → Bool
  | .formatList _ => true
  | .dragStart _ => true
  | .dragMove _ => true
  | .dragDrop _ => true
  | .dragCancel _ => true
  | _ => false

/-- The calls that announce a bundle or drag, and the packets of the peer that do. -/
def ClipboardOp.aboutDrags : ClipboardOp → Bool
  | .resumeAfterReconnect _ => true
  | .handlePacket packet => (received packet).aboutDrags
  | .announceLocalBundle _ => true
  | .sendRemoteDragStart _ => true
  | .sendRemoteDragMove _ => true
  | .sendRemoteDragDrop _ => true
  | .sendRemoteDragCancel _ => true
  | _ => false

/-- A stop, a detach, or a reconnect pause of the clipboard channels. -/
def ClipboardOp.interruptsDrags : ClipboardOp → Bool
  | .stop => true
  | .detach => true
  | .pauseForReconnect options => affectsClipboardChannel options
  | _ => false

/-- **The call asks the drag sink for nothing and sends no event.** -/
structure Call.Eventless {α : Type} (call : Call α) : Prop where
  sink : call.sink = none
  kind : call.SendsOnly fun outgoing => outgoing.packet.messageKind ≠ .event

namespace Call

variable {α : Type} {m : ClipboardModule}

theorem eventless_silent : (silent m).Eventless := ⟨rfl, sendsOnly_silent⟩

theorem eventless_refused : (refused m).Eventless := ⟨rfl, sendsOnly_refused⟩

theorem eventless_denied {status : ResponseStatus} {message : StdString} :
    (denied m status message).Eventless := ⟨rfl, sendsOnly_denied⟩

theorem eventless_sending {packet : PacketEnvelope} (h : packet.messageKind ≠ .event) :
    (sending m packet).Eventless := ⟨rfl, sendsOnly_sending h⟩

theorem Eventless.discard {call : Call α} (h : call.Eventless) : call.discard.Eventless :=
  ⟨h.sink, h.kind⟩

theorem eventless_ite {c : Prop} [Decidable c] {first second : Call α} (hfirst : first.Eventless)
    (hsecond : second.Eventless) : (if c then first else second).Eventless := by
  by_cases h : c
  · rwa [if_pos h]
  · rwa [if_neg h]

end Call

namespace ClipboardModule

variable (m : ClipboardModule) (surroundings : Surroundings) (packet : PacketEnvelope)

theorem eventless_sendErrorResponse (status : ResponseStatus) (message : StdString) :
    (m.sendErrorResponse packet status message).Eventless := eventless_sending nofun

theorem eventless_handleReadRequest (request : FdclReadFormatRequest) :
    (m.handleReadRequest surroundings packet request).Eventless :=
  eventless_ite (m.eventless_sendErrorResponse packet _ _) <|
    eventless_ite (m.eventless_sendErrorResponse packet _ _) <|
    eventless_ite (m.eventless_sendErrorResponse packet _ _) (eventless_sending nofun)

theorem eventless_sendScheduledRange {response : PacketEnvelope} (usesLargeData : Bool)
    (h : response.messageKind ≠ .event) :
    (m.sendScheduledRange packet response usesLargeData).Eventless := by
  unfold sendScheduledRange
  split
  · exact eventless_sending h
  · exact eventless_ite (m.eventless_sendErrorResponse packet _ _) ⟨rfl, sendsOnly_of_some rfl h⟩

theorem eventless_handleFileRangeRequest (request : FdclFileRangeRequest) :
    (m.handleFileRangeRequest surroundings packet request).Eventless :=
  eventless_ite (m.eventless_sendErrorResponse packet _ _) <|
    eventless_ite (m.eventless_sendErrorResponse packet _ _) <|
    eventless_ite (m.eventless_sendErrorResponse packet _ _) <|
    eventless_ite (m.eventless_sendErrorResponse packet _ _) <|
    eventless_ite (eventless_sendErrorResponse _ packet _ _) <|
    eventless_sendScheduledRange _ packet _ nofun

theorem eventless_sendObjectLockResponse (operation : FdclOperation) (request : FdclObjectLock)
    (result : TransferObjectLockResult) :
    (m.sendObjectLockResponse packet operation request result).Eventless :=
  eventless_ite (m.eventless_sendErrorResponse packet _ _) (eventless_sending nofun)

theorem eventless_handleObjectLockRequest (request : FdclObjectLock) :
    (m.handleObjectLockRequest surroundings packet request).Eventless :=
  eventless_ite (m.eventless_sendErrorResponse packet _ _)
    (eventless_sendObjectLockResponse _ packet _ _ _)

theorem eventless_handleObjectUnlockRequest (request : FdclObjectLock) :
    (m.handleObjectUnlockRequest packet request).Eventless :=
  eventless_ite (m.eventless_sendErrorResponse packet _ _)
    (eventless_sendObjectLockResponse _ packet _ _ _)

/-- An acknowledgement is no event. -/
theorem eventless_completeRead : (m.completeRead surroundings packet).Eventless := by
  refine ⟨?_, fun outgoing hout => ?_⟩
  · unfold completeRead
    split
    · rfl
    · simp only
      split
      · rfl
      · rfl
  · obtain ⟨-, hack, -⟩ := m.outgoing_completeRead surroundings packet hout
    have hkind := kinds_received outgoing.packet
    rw [hack] at hkind
    rw [eq_of_beq hkind]
    exact nofun

theorem eventless_dispatch (handler : ReadHandler) (payload : ByteBuffer) (timeoutMs : UInt32)
    (nowUsec : UInt64) (unavailable : StdString) :
    (m.dispatch surroundings handler payload timeoutMs nowUsec unavailable).Eventless :=
  eventless_ite eventless_denied ⟨rfl, sendsOnly_of_some rfl nofun⟩

theorem eventless_handle {asked : Received} (h : asked.aboutDrags = false) :
    (m.handle surroundings packet asked).Eventless := by
  cases asked with
  | ignored => exact eventless_silent
  | ack => exact eventless_silent
  | answer => exact eventless_completeRead _ surroundings packet
  | formatList list => cases h
  | dragStart start => cases h
  | dragMove move => cases h
  | dragDrop drop => cases h
  | dragCancel cancel => cases h
  | cancel cancel => exact m.eventless_completeRead surroundings _
  | readRequest request => exact m.eventless_handleReadRequest surroundings packet request
  | fileRangeRequest request => exact m.eventless_handleFileRangeRequest surroundings packet request
  | lockObject request => exact m.eventless_handleObjectLockRequest surroundings packet request
  | unlockObject request => exact m.eventless_handleObjectUnlockRequest packet request
  | badRequest status message => exact m.eventless_sendErrorResponse packet status message

/-- **A call that is about no drag asks the sink for nothing and sends no event.** -/
theorem eventless_perform {op : ClipboardOp} (h : op.aboutDrags = false) :
    (m.perform surroundings op).Eventless := by
  cases op with
  | attach runtime => exact eventless_silent
  | start => exact eventless_silent
  | stop => exact eventless_silent
  | detach => exact eventless_silent
  | pauseForReconnect options => exact eventless_silent
  | resumeAfterReconnect options => cases h
  | handlePacket packet =>
    show (m.handlePacket surroundings packet).Eventless
    by_cases hrunning : m.state = .running
    · rw [m.handlePacket_eq surroundings packet hrunning]
      exact m.eventless_handle surroundings packet h
    · rw [m.handlePacket_of_not_running surroundings packet hrunning]
      exact eventless_silent
  | announceLocalBundle bundle => cases h
  | requestRemoteFormat request timeoutMs nowUsec =>
    exact Eventless.discard <| eventless_ite ⟨rfl, sendsOnly_of_none rfl⟩ <|
      eventless_ite eventless_denied <| eventless_ite eventless_denied <|
      m.eventless_dispatch surroundings _ _ _ _ _
  | requestRemoteFileRange request timeoutMs nowUsec =>
    exact Eventless.discard <| eventless_ite ⟨rfl, sendsOnly_of_none rfl⟩ <|
      eventless_ite eventless_denied <| eventless_ite eventless_denied <|
      eventless_ite eventless_denied <| m.eventless_dispatch surroundings _ _ _ _ _
  | requestRemoteObjectLock request timeoutMs nowUsec =>
    exact Eventless.discard <| eventless_ite ⟨rfl, sendsOnly_of_none rfl⟩ <|
      eventless_ite eventless_denied <| eventless_ite eventless_denied <|
      m.eventless_dispatch surroundings _ _ _ _ _
  | requestRemoteObjectUnlock request timeoutMs nowUsec =>
    exact Eventless.discard <| eventless_ite ⟨rfl, sendsOnly_of_none rfl⟩ <|
      eventless_ite eventless_denied <| eventless_ite eventless_denied <|
      m.eventless_dispatch surroundings _ _ _ _ _
  | sendCancel cancel timeoutMs nowUsec =>
    exact Eventless.discard <| eventless_ite eventless_refused <|
      eventless_ite eventless_refused ⟨rfl, sendsOnly_of_some rfl nofun⟩
  | sendRemoteDragStart start => cases h
  | sendRemoteDragMove move => cases h
  | sendRemoteDragDrop drop => cases h
  | sendRemoteDragCancel cancel => cases h
  | expirePendingReads nowUsec => exact eventless_silent

/-! ## What the module knows of the drags -/

/-- The drags of both sides, and the bundle that the drag of this side is of. -/
def drags : DragSessionId × DragSessionId × TransferSourceBundle :=
  (m.activeLocalDragSessionId, m.activeRemoteDragSessionId, m.localBundle)

theorem handle_leaves_drags {asked : Received} (h : asked.aboutDrags = false) :
    (m.handle surroundings packet asked).Leaves drags m := by
  cases asked with
  | ignored => exact leaves_silent rfl
  | ack => exact leaves_silent (m.handleLargeDataAck_eq packet fun _ _ _ => rfl)
  | answer =>
    exact m.leaves_handleReadResponse surroundings packet (fun _ _ _ => rfl)
      fun _ _ _ _ _ _ _ _ _ => rfl
  | formatList list => cases h
  | dragStart start => cases h
  | dragMove move => cases h
  | dragDrop drop => cases h
  | dragCancel cancel => cases h
  | cancel cancel =>
    exact m.leaves_handleCancel surroundings (fun _ _ _ => rfl)
      (fun _ _ _ _ _ _ _ _ _ => rfl) cancel
  | readRequest request =>
    exact m.leaves_handleReadRequest surroundings packet (fun _ _ => rfl) request
  | fileRangeRequest request =>
    exact m.leaves_handleFileRangeRequest surroundings packet (fun _ _ => rfl)
      (fun _ _ _ => rfl) request
  | lockObject request =>
    exact leaves_ite (m.leaves_sendErrorResponse packet (fun _ _ => rfl) _ _)
      ((leaves_sendObjectLockResponse _ packet (fun _ _ => rfl) _ _ _).of_eq rfl)
  | unlockObject request =>
    exact leaves_ite (m.leaves_sendErrorResponse packet (fun _ _ => rfl) _ _)
      ((leaves_sendObjectLockResponse _ packet (fun _ _ => rfl) _ _ _).of_eq rfl)
  | badRequest status message =>
    exact m.leaves_sendErrorResponse packet (fun _ _ => rfl) status message

/-- **A call that is about no drag and interrupts none leaves the drags alone.** -/
theorem leaves_drags {op : ClipboardOp} (h : op.aboutDrags = false)
    (hinterrupts : op.interruptsDrags = false) : (m.perform surroundings op).Leaves drags m := by
  cases op with
  | attach runtime => exact leaves_silent rfl
  | start =>
    refine leaves_silent ?_
    unfold ClipboardModule.start
    split
    · rfl
    · rfl
  | stop => cases hinterrupts
  | detach => cases hinterrupts
  | pauseForReconnect options =>
    refine leaves_silent ?_
    have hunaffected : affectsClipboardChannel options = false := hinterrupts
    rw [ClipboardModule.pauseForReconnect, if_pos hunaffected]
  | resumeAfterReconnect options => cases h
  | handlePacket packet =>
    show (m.handlePacket surroundings packet).Leaves drags m
    by_cases hrunning : m.state = .running
    · rw [m.handlePacket_eq surroundings packet hrunning]
      exact m.handle_leaves_drags surroundings packet h
    · rw [m.handlePacket_of_not_running surroundings packet hrunning]
      exact leaves_silent rfl
  | announceLocalBundle bundle => cases h
  | requestRemoteFormat request timeoutMs nowUsec =>
    exact (m.leaves_requestRemoteFormatTracked surroundings (fun _ _ _ => rfl)
      (fun _ _ _ _ _ _ _ _ _ => rfl) request timeoutMs nowUsec).discard
  | requestRemoteFileRange request timeoutMs nowUsec =>
    exact (m.leaves_requestRemoteFileRangeTracked surroundings (fun _ _ _ => rfl)
      (fun _ _ _ _ _ _ _ _ _ => rfl) request timeoutMs nowUsec).discard
  | requestRemoteObjectLock request timeoutMs nowUsec =>
    exact (m.leaves_requestRemoteObjectLockTracked surroundings (fun _ _ _ => rfl)
      (fun _ _ _ _ _ _ _ _ _ => rfl) request timeoutMs nowUsec).discard
  | requestRemoteObjectUnlock request timeoutMs nowUsec =>
    exact (m.leaves_requestRemoteObjectUnlockTracked surroundings (fun _ _ _ => rfl)
      (fun _ _ _ _ _ _ _ _ _ => rfl) request timeoutMs nowUsec).discard
  | sendCancel cancel timeoutMs nowUsec =>
    exact (m.leaves_sendCancel surroundings (fun _ _ => rfl) cancel timeoutMs nowUsec).discard
  | sendRemoteDragStart start => cases h
  | sendRemoteDragMove move => cases h
  | sendRemoteDragDrop drop => cases h
  | sendRemoteDragCancel cancel => cases h
  | expirePendingReads nowUsec =>
    exact leaves_silent (settleAll_eq m (fun _ _ _ _ _ _ _ _ _ => rfl) _)

/-- The drag of this side, and the bundle that it is of. -/
def localDrag : DragSessionId × TransferSourceBundle := (m.activeLocalDragSessionId, m.localBundle)

end ClipboardModule

/-! ## What a call does to the drags -/

/-- **What a call can do to the drags**: the module before and after, the answer of the drag sink if
it is asked, what it is asked, and the event that is sent. -/
inductive DragMove (m m' : ClipboardModule) (answer : ResponseStatus) :
    Option DragSinkCall → Option FdclMessage → Prop
  | kept (drags : m'.drags = m.drags) : DragMove m m' answer none none
  | interrupted (remote : m'.activeRemoteDragSessionId = 0)
      (here : m'.activeLocalDragSessionId = 0) : DragMove m m' answer none none
  | listTaken (remote : m'.activeRemoteDragSessionId = 0) (here : m'.localDrag = m.localDrag) :
      DragMove m m' answer none none
  | started (start : DragSessionStart) (may : m.mayTakeDrag = true)
      (ofBundle : dragStartMatchesBundle m.remoteBundle start = true)
      (remote : m'.activeRemoteDragSessionId =
        if answer = .ok then start.dragSessionId else m.activeRemoteDragSessionId)
      (here : m'.localDrag = m.localDrag) : DragMove m m' answer (some (.dragStart start)) none
  | moved (id : DragSessionId) (point : DragSurfaceCoordinate) (action : TransferAction)
      (may : m.mayTakeDrag = true) (nonzero : id ≠ 0) (active : m.activeRemoteDragSessionId = id)
      (drags : m'.drags = m.drags) : DragMove m m' answer (some (.dragMove id point action)) none
  | dropped (id : DragSessionId) (point : DragSurfaceCoordinate) (action : TransferAction)
      (may : m.mayTakeDrag = true) (nonzero : id ≠ 0) (active : m.activeRemoteDragSessionId = id)
      (remote : m'.activeRemoteDragSessionId =
        if answer = .ok then 0 else m.activeRemoteDragSessionId)
      (here : m'.localDrag = m.localDrag) :
      DragMove m m' answer (some (.dragDrop id point action)) none
  | cancelled (id : DragSessionId) (reason : DragCancelReason) (may : m.policy.allowDrag = true)
      (nonzero : id ≠ 0) (active : m.activeRemoteDragSessionId = id)
      (remote : m'.activeRemoteDragSessionId =
        if answer = .ok then 0 else m.activeRemoteDragSessionId)
      (here : m'.localDrag = m.localDrag) : DragMove m m' answer (some (.dragCancel id reason)) none
  | announced (list : FdclFormatList) (here : m'.activeLocalDragSessionId = 0)
      (remote : m'.activeRemoteDragSessionId = m.activeRemoteDragSessionId) :
      DragMove m m' answer none (some (.formatList list))
  | sentStart (start : FdclDragStart) (may : m.maySendDrag = true)
      (ofBundle : dragStartMatchesBundle m.localBundle start.start = true)
      (drags : m'.drags = (start.start.dragSessionId, m.drags.2)) :
      DragMove m m' answer none (some (.dragStart start))
  | sentMove (move : FdclDragMove) (may : m.maySendDrag = true) (nonzero : move.dragSessionId ≠ 0)
      (active : m.activeLocalDragSessionId = move.dragSessionId) (drags : m'.drags = m.drags) :
      DragMove m m' answer none (some (.dragMove move))
  | sentDrop (drop : FdclDragDrop) (may : m.maySendDrag = true) (nonzero : drop.dragSessionId ≠ 0)
      (active : m.activeLocalDragSessionId = drop.dragSessionId)
      (drags : m'.drags = (0, m.drags.2)) : DragMove m m' answer none (some (.dragDrop drop))
  | sentCancel (cancel : FdclDragCancel) (may : m.maySendDrag = true)
      (nonzero : cancel.dragSessionId ≠ 0)
      (active : m.activeLocalDragSessionId = cancel.dragSessionId)
      (drags : m'.drags = (0, m.drags.2)) : DragMove m m' answer none (some (.dragCancel cancel))

/-- The payload of the event that a call sends. -/
def Call.sentEvent {α : Type} (call : Call α) (surroundings : Surroundings) : Option ByteBuffer :=
  ((call.sentPacket surroundings).filter (·.messageKind = .event)).map (·.payload)

/-- The call is one of these. -/
def Call.Drags (m : ClipboardModule) (surroundings : Surroundings) (call : Call Unit) : Prop :=
  ∃ message, call.sentEvent surroundings = message.map FdclMessage.encode ∧
    DragMove m (call.finish surroundings) surroundings.dragSink call.sink message

namespace Call

variable {m m' : ClipboardModule} {surroundings : Surroundings}

theorem sentEvent_of_none {α : Type} {call : Call α} (h : call.outgoing = none) :
    call.sentEvent surroundings = none := by
  rw [Call.sentEvent, Call.sentPacket, h, Option.map_none, ite_self]
  rfl

theorem drags_of_eventless {call : Call Unit} (h : call.Eventless)
    (hmove : DragMove m (call.finish surroundings) surroundings.dragSink none none) :
    call.Drags m surroundings := by
  refine ⟨none, ?_, h.sink ▸ hmove⟩
  rw [Call.sentEvent, Option.map_none, Option.map_eq_none_iff, Option.filter_eq_none_iff]
  intro packet hsent
  obtain ⟨outgoing, hout, rfl⟩ :=
    exists_outgoing_of_mem_sentPacket (Option.mem_toList.mpr (Option.mem_def.mpr hsent))
  simpa using h.kind outgoing hout

theorem drags_silent (h : DragMove m m' surroundings.dragSink none none) :
    (silent m').Drags m surroundings := drags_of_eventless eventless_silent h

theorem drags_refused (h : m'.drags = m.drags) : (refused m').discard.Drags m surroundings :=
  drags_of_eventless eventless_refused.discard (.kept h)

theorem drags_ite {c : Prop} [Decidable c] {first second : Call Unit}
    (hfirst : c → first.Drags m surroundings) (hsecond : ¬c → second.Drags m surroundings) :
    (if c then first else second).Drags m surroundings := by
  by_cases h : c
  · rw [if_pos h]
    exact hfirst h
  · rw [if_neg h]
    exact hsecond h

theorem discard_ite {α : Type} {c : Prop} [Decidable c] {first second : Call α} :
    (if c then first else second).discard = if c then first.discard else second.discard :=
  apply_ite _ c first second

/-- **An event that goes out, or does not.** -/
theorem drags_returning (message : FdclMessage) {packet : PacketEnvelope} {rest : AfterSend}
    (hkind : packet.messageKind = .event) (hpayload : packet.payload = message.encode)
    (hsent : DragMove m (m'.afterSend true rest) surroundings.dragSink none (some message))
    (hlost : (m'.afterSend false rest).drags = m.drags) :
    (returning m' packet rest).discard.Drags m surroundings := by
  have hfinish : (returning m' packet rest).discard.finish surroundings =
      m'.afterSend ((returning m' packet rest).discard.sends surroundings) rest := rfl
  cases hsends : (returning m' packet rest).discard.sends surroundings with
  | true =>
    refine ⟨some message, ?_, ?_⟩
    · rw [Call.sentEvent, Call.sentPacket, if_pos hsends]
      show ((some packet).filter _).map _ = _
      rw [Option.filter_some, if_pos (by simpa using hkind), Option.map_some, hpayload,
        Option.map_some]
    · rw [hfinish, hsends]
      exact hsent
  | false =>
    refine ⟨none, ?_, ?_⟩
    · rw [Call.sentEvent, Call.sentPacket, if_neg (by simp [hsends])]
      rfl
    · rw [hfinish, hsends]
      exact .kept hlost

end Call

/-- The drag that is to go on, if there is one, has an id. -/
def Received.ContinuesSome : Received → Prop
  | .dragMove move => move.dragSessionId ≠ 0
  | .dragDrop drop => drop.dragSessionId ≠ 0
  | .dragCancel ended => ended.dragSessionId ≠ 0
  | _ => True

theorem continuesSome_ite {c : Prop} [Decidable c] {first second : Received}
    (hfirst : c → first.ContinuesSome) (hsecond : second.ContinuesSome) :
    (if c then first else second).ContinuesSome := by
  by_cases h : c
  · rw [if_pos h]
    exact hfirst h
  · rw [if_neg h]
    exact hsecond

theorem continuesSome_receivedDecoded (packet : PacketEnvelope) {decoded : FdclDecodeResult}
    (h : DragIdentities decoded) : (receivedDecoded packet decoded).ContinuesSome :=
  continuesSome_ite (fun _ => trivial) <| continuesSome_ite (fun _ => trivial) <|
    continuesSome_ite (fun hasked => h.dragMove hasked.2) <|
    continuesSome_ite (fun hasked => h.dragDrop hasked.2) <|
    continuesSome_ite (fun hasked => h.dragCancel hasked.2) <|
    continuesSome_ite (fun _ => trivial) <| continuesSome_ite (fun _ => trivial) <|
    continuesSome_ite (fun _ => trivial) <| continuesSome_ite (fun _ => trivial) <|
    continuesSome_ite (fun _ => trivial) <| continuesSome_ite (fun _ => trivial) trivial

theorem continuesSome_received (packet : PacketEnvelope) : (received packet).ContinuesSome := by
  refine continuesSome_ite (fun _ => trivial) (continuesSome_ite (fun _ => trivial)
    (continuesSome_ite (fun _ => trivial) ?_))
  cases hok : (decodeFdclPayload packet.payload).ok with
  | false =>
    simp only [hok, if_true]
    exact continuesSome_ite (fun _ => trivial) trivial
  | true =>
    simp only [hok, Bool.true_eq_false, if_false]
    exact continuesSome_receivedDecoded packet (resultIdentities_decodeFdclPayload hok).drag

namespace ClipboardModule

variable (m : ClipboardModule) (surroundings : Surroundings) (packet : PacketEnvelope)

theorem drags_handleFormatList (list : FdclFormatList) :
    (silent (m.handleFormatList surroundings list)).Drags m surroundings := by
  refine drags_silent ?_
  unfold handleFormatList
  split
  · exact .kept rfl
  split
  · exact .kept rfl
  split
  · exact .kept rfl
  simp only
  split
  · exact .kept rfl
  split
  · exact .listTaken rfl rfl
  · exact .listTaken rfl rfl

theorem drags_askSink {call : DragSinkCall} {accepted : ClipboardModule}
    (h : DragMove m (if surroundings.dragSink = .ok then accepted else m) surroundings.dragSink
      (some call) none) : (m.askSink surroundings call accepted).Drags m surroundings :=
  drags_ite (fun _ => drags_silent (.kept rfl)) fun _ => ⟨none, sentEvent_of_none rfl, h⟩

theorem drags_handleDragStart (start : FdclDragStart) :
    (m.handleDragStart surroundings start).Drags m surroundings := by
  refine drags_ite (fun _ => drags_silent (.kept rfl)) fun hmay =>
    drags_ite (fun _ => drags_silent (.kept rfl)) fun hbundle => m.drags_askSink surroundings ?_
  refine .started _ (Bool.eq_true_of_not_eq_false hmay) (Bool.eq_true_of_not_eq_false hbundle) ?_ ?_
  · split
    · rfl
    · rfl
  · split
    · rfl
    · rfl

theorem drags_handleDragMove {move : FdclDragMove} (h : move.dragSessionId ≠ 0) :
    (m.handleDragMove surroundings move).Drags m surroundings := by
  refine drags_ite (fun _ => drags_silent (.kept rfl)) fun hmay =>
    drags_ite (fun _ => drags_silent (.kept rfl)) fun hactive => m.drags_askSink surroundings ?_
  rw [ite_self]
  exact .moved _ _ _ (Bool.eq_true_of_not_eq_false hmay) h (not_not.mp hactive) rfl

theorem drags_handleDragDrop {drop : FdclDragDrop} (h : drop.dragSessionId ≠ 0) :
    (m.handleDragDrop surroundings drop).Drags m surroundings := by
  refine drags_ite (fun _ => drags_silent (.kept rfl)) fun hmay =>
    drags_ite (fun _ => drags_silent (.kept rfl)) fun hactive => m.drags_askSink surroundings ?_
  refine .dropped _ _ _ (Bool.eq_true_of_not_eq_false hmay) h (not_not.mp hactive) ?_ ?_
  · split
    · rfl
    · rfl
  · split
    · rfl
    · rfl

theorem drags_handleDragCancel {cancel : FdclDragCancel} (h : cancel.dragSessionId ≠ 0) :
    (m.handleDragCancel surroundings cancel).Drags m surroundings := by
  refine drags_ite (fun _ => drags_silent (.kept rfl)) fun hmay =>
    drags_ite (fun _ => drags_silent (.kept rfl)) fun hactive => m.drags_askSink surroundings ?_
  refine .cancelled _ _ (Bool.eq_true_of_not_eq_false hmay) h (not_not.mp hactive) ?_ ?_
  · split
    · rfl
    · rfl
  · split
    · rfl
    · rfl

theorem drags_handle {asked : Received} (hasked : asked.ContinuesSome)
    (h : asked.aboutDrags = true) : (m.handle surroundings packet asked).Drags m surroundings := by
  cases asked with
  | formatList list => exact m.drags_handleFormatList surroundings list
  | dragStart start => exact m.drags_handleDragStart surroundings start
  | dragMove move => exact m.drags_handleDragMove surroundings hasked
  | dragDrop drop => exact m.drags_handleDragDrop surroundings hasked
  | dragCancel cancel => exact m.drags_handleDragCancel surroundings hasked
  | _ => cases h

/-! ### Events -/

theorem drags_announceLocalBundle (bundle : TransferSourceBundle) :
    (m.announceLocalBundle surroundings bundle).discard.Drags m surroundings := by
  unfold announceLocalBundle
  rw [discard_ite]
  refine drags_ite (fun _ => drags_refused rfl) fun _ => ?_
  rw [discard_ite]
  refine drags_ite (fun _ => drags_refused rfl) fun _ => ?_
  simp only
  rw [discard_ite]
  refine drags_ite (fun _ => drags_refused rfl) fun _ => ?_
  rw [discard_ite]
  refine drags_ite (fun _ => drags_refused rfl) fun _ => ?_
  exact drags_returning (.formatList _) rfl rfl (.announced _ rfl rfl) rfl

theorem drags_sendRemoteDragStart (start : FdclDragStart) :
    (m.sendRemoteDragStart surroundings start).discard.Drags m surroundings := by
  unfold sendRemoteDragStart
  rw [discard_ite]
  refine drags_ite (fun _ => drags_refused rfl) fun _ => ?_
  rw [discard_ite]
  refine drags_ite (fun _ => drags_refused rfl) fun hmay => ?_
  rw [discard_ite]
  refine drags_ite (fun _ => drags_refused rfl) fun hvalid => ?_
  have hbundle := Bool.eq_true_of_not_eq_false fun h => hvalid (Or.inl h)
  exact drags_returning (.dragStart start) rfl rfl
    (.sentStart start (Bool.eq_true_of_not_eq_false hmay) hbundle rfl) rfl

theorem drags_sendRemoteDragMove (move : FdclDragMove) :
    (m.sendRemoteDragMove surroundings move).discard.Drags m surroundings := by
  unfold sendRemoteDragMove
  rw [discard_ite]
  refine drags_ite (fun _ => drags_refused rfl) fun _ => ?_
  rw [discard_ite]
  refine drags_ite (fun _ => drags_refused rfl) fun hmay => ?_
  rw [discard_ite]
  refine drags_ite (fun _ => drags_refused rfl) fun hvalid => ?_
  rw [discard_ite]
  refine drags_ite (fun _ => drags_refused rfl) fun hactive => ?_
  exact drags_returning (.dragMove move) rfl rfl
    (.sentMove move (Bool.eq_true_of_not_eq_false hmay) (fun h => hvalid (Or.inl h))
      (not_not.mp hactive) rfl) rfl

theorem drags_sendRemoteDragDrop (drop : FdclDragDrop) :
    (m.sendRemoteDragDrop surroundings drop).discard.Drags m surroundings := by
  unfold sendRemoteDragDrop
  rw [discard_ite]
  refine drags_ite (fun _ => drags_refused rfl) fun _ => ?_
  rw [discard_ite]
  refine drags_ite (fun _ => drags_refused rfl) fun hmay => ?_
  rw [discard_ite]
  refine drags_ite (fun _ => drags_refused rfl) fun hvalid => ?_
  rw [discard_ite]
  refine drags_ite (fun _ => drags_refused rfl) fun hactive => ?_
  exact drags_returning (.dragDrop drop) rfl rfl
    (.sentDrop drop (Bool.eq_true_of_not_eq_false hmay) (fun h => hvalid (Or.inl h))
      (not_not.mp hactive) rfl) rfl

theorem drags_sendRemoteDragCancel (cancel : FdclDragCancel) :
    (m.sendRemoteDragCancel surroundings cancel).discard.Drags m surroundings := by
  unfold sendRemoteDragCancel
  rw [discard_ite]
  refine drags_ite (fun _ => drags_refused rfl) fun _ => ?_
  rw [discard_ite]
  refine drags_ite (fun _ => drags_refused rfl) fun hmay => ?_
  rw [discard_ite]
  refine drags_ite (fun _ => drags_refused rfl) fun hvalid => ?_
  rw [discard_ite]
  refine drags_ite (fun _ => drags_refused rfl) fun hactive => ?_
  exact drags_returning (.dragCancel cancel) rfl rfl
    (.sentCancel cancel (Bool.eq_true_of_not_eq_false hmay) hvalid (not_not.mp hactive) rfl) rfl

/-- **What a call does to the drags.** -/
theorem drags_perform (op : ClipboardOp) : (m.perform surroundings op).Drags m surroundings := by
  by_cases hinterrupts : op.interruptsDrags = true
  · have hmove : ∀ m', m'.activeRemoteDragSessionId = 0 → m'.activeLocalDragSessionId = 0 →
        (silent m').Drags m surroundings := fun m' hremote hhere =>
      drags_silent (.interrupted hremote hhere)
    cases op with
    | stop => exact hmove _ rfl rfl
    | detach => exact hmove _ rfl rfl
    | pauseForReconnect options =>
      have haffected : ¬affectsClipboardChannel options = false := by
        rw [Bool.not_eq_false]
        exact hinterrupts
      show (silent (m.pauseForReconnect options)).Drags m surroundings
      rw [ClipboardModule.pauseForReconnect, if_neg haffected]
      exact hmove _ rfl rfl
    | _ => cases hinterrupts
  by_cases hdrags : op.aboutDrags = true
  · cases op with
    | resumeAfterReconnect options =>
      exact drags_ite (fun _ => m.drags_announceLocalBundle surroundings _)
        fun _ => drags_silent (.kept rfl)
    | handlePacket packet =>
      show (m.handlePacket surroundings packet).Drags m surroundings
      by_cases hrunning : m.state = .running
      · rw [m.handlePacket_eq surroundings packet hrunning]
        exact m.drags_handle surroundings packet (continuesSome_received packet) hdrags
      · rw [m.handlePacket_of_not_running surroundings packet hrunning]
        exact drags_silent (.kept rfl)
    | announceLocalBundle bundle => exact m.drags_announceLocalBundle surroundings bundle
    | sendRemoteDragStart start => exact m.drags_sendRemoteDragStart surroundings start
    | sendRemoteDragMove move => exact m.drags_sendRemoteDragMove surroundings move
    | sendRemoteDragDrop drop => exact m.drags_sendRemoteDragDrop surroundings drop
    | sendRemoteDragCancel cancel => exact m.drags_sendRemoteDragCancel surroundings cancel
    | _ => cases hdrags
  · rw [Bool.not_eq_true] at hinterrupts hdrags
    refine drags_of_eventless (m.eventless_perform surroundings hdrags) (.kept ?_)
    exact (m.leaves_drags surroundings hdrags hinterrupts).finish surroundings

end ClipboardModule

end Clipboard
end FusionDesk
