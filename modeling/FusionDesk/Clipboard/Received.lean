import FusionDesk.Clipboard.CallFrames

/-!
# What a packet asks of the module

`handlePacket` looks at the kind of a packet and at what its payload decodes to, and at nothing of
the module but its state.  So what a packet asks for is a value of `Received`, one for each handler,
and the module does what `handle` says to it; two modules that run are asked for the same.

* `handlePacket_eq`: `handlePacket` is `handle` on what is received.
* `leaves_perform`: what a call leaves alone that is about no offer.
-/

namespace FusionDesk
namespace Clipboard

open Protocol Network
open FusionDesk.Module

/-- What a packet asks for. -/
inductive Received
  | ignored
  | ack
  /-- A packet of the kind `Response` or `Error`. -/
  | answer
  | formatList (list : FdclFormatList)
  | dragStart (start : FdclDragStart)
  | dragMove (move : FdclDragMove)
  | dragDrop (drop : FdclDragDrop)
  | dragCancel (cancel : FdclDragCancel)
  | cancel (cancel : FdclCancel)
  | readRequest (request : FdclReadFormatRequest)
  | fileRangeRequest (request : FdclFileRangeRequest)
  | lockObject (request : FdclObjectLock)
  | unlockObject (request : FdclObjectLock)
  /-- A request that is answered with an error at once. -/
  | badRequest (status : ResponseStatus) (message : StdString)
  deriving DecidableEq

/-- A format list, and the requests about locks. -/
def Received.aboutOffers : Received → Bool
  | .formatList _ => true
  | .lockObject _ => true
  | .unlockObject _ => true
  | _ => false

/-- What a packet asks for whose payload is decoded. -/
def receivedDecoded (packet : PacketEnvelope) (decoded : FdclDecodeResult) : Received :=
  if packet.messageKind = .event ∧ decoded.operation = .formatList then
    .formatList decoded.formatList
  else if packet.messageKind = .event ∧ decoded.operation = .dragStart then
    .dragStart decoded.dragStart
  else if packet.messageKind = .event ∧ decoded.operation = .dragMove then
    .dragMove decoded.dragMove
  else if packet.messageKind = .event ∧ decoded.operation = .dragDrop then
    .dragDrop decoded.dragDrop
  else if packet.messageKind = .event ∧ decoded.operation = .dragCancel then
    .dragCancel decoded.dragCancel
  else if packet.messageKind = .cancel ∧ decoded.operation = .cancel then .cancel decoded.cancel
  else if packet.messageKind = .request ∧ decoded.operation = .readFormatRequest then
    .readRequest decoded.readRequest
  else if packet.messageKind = .request ∧ decoded.operation = .fileRangeRequest then
    .fileRangeRequest decoded.fileRangeRequest
  else if packet.messageKind = .request ∧ decoded.operation = .lockObject then
    .lockObject decoded.objectLock
  else if packet.messageKind = .request ∧ decoded.operation = .unlockObject then
    .unlockObject decoded.objectLock
  else if packet.messageKind = .request then
    .badRequest .unsupported (bytesOf "FDCL operation is unsupported")
  else .ignored

/-- What a packet asks a running module for. -/
def received (packet : PacketEnvelope) : Received :=
  if packet.packetType ≠ .clipboard then .ignored
  else if packet.messageKind = .ack then .ack
  else if packet.messageKind = .response ∨ packet.messageKind = .error then .answer
  else
    let decoded := decodeFdclPayload packet.payload
    if decoded.ok = false then
      if packet.messageKind = .request then .badRequest .protocolError (bytesOf decoded.error)
      else .ignored
    else receivedDecoded packet decoded

namespace ClipboardModule

variable (m : ClipboardModule) (surroundings : Surroundings) (packet : PacketEnvelope)

/-- What a running module does to a packet. -/
def handle : Received → Call Unit
  | .ignored => .silent m
  | .ack => .silent (m.handleLargeDataAck packet)
  | .answer => m.handleReadResponse surroundings packet
  | .formatList list => .silent (m.handleFormatList surroundings list)
  | .dragStart start => m.handleDragStart surroundings start
  | .dragMove move => m.handleDragMove surroundings move
  | .dragDrop drop => m.handleDragDrop surroundings drop
  | .dragCancel cancel => m.handleDragCancel surroundings cancel
  | .cancel cancel => m.handleCancel surroundings cancel
  | .readRequest request => m.handleReadRequest surroundings packet request
  | .fileRangeRequest request => m.handleFileRangeRequest surroundings packet request
  | .lockObject request => m.handleObjectLockRequest surroundings packet request
  | .unlockObject request => m.handleObjectUnlockRequest packet request
  | .badRequest status message => m.sendErrorResponse packet status message

theorem handleDecoded_eq (decoded : FdclDecodeResult) :
    m.handleDecoded surroundings packet decoded =
      m.handle surroundings packet (receivedDecoded packet decoded) := by
  unfold handleDecoded receivedDecoded
  simp only [apply_ite (m.handle surroundings packet)]
  rfl

/-- **A module that runs does what it is asked for.** -/
theorem handlePacket_eq (h : m.state = .running) :
    m.handlePacket surroundings packet = m.handle surroundings packet (received packet) := by
  have hstate : (m.state ≠ .running ∨ packet.packetType ≠ .clipboard) =
      (packet.packetType ≠ .clipboard) := by
    simp [h]
  unfold handlePacket received
  simp only [hstate, apply_ite (m.handle surroundings packet), handleDecoded_eq]
  rfl

/-- **A module that does not run does nothing.** -/
theorem handlePacket_of_not_running (h : m.state ≠ .running) :
    m.handlePacket surroundings packet = .silent m := by
  rw [handlePacket, if_pos (Or.inl h)]

/-- **A packet that is about no offer leaves the offers alone**, and all that no handler changes. -/
theorem leaves_handle {β : Type*} {f : ClipboardModule → β} (hcounter : IgnoresCounter f)
    (hdrags : IgnoresDrags f) (htracker : IgnoresTracker f) (hresults : IgnoresResults f)
    (hwindow : IgnoresWindow f) {asked : Received} (h : asked.aboutOffers = false) :
    (m.handle surroundings packet asked).Leaves f m := by
  cases asked with
  | ignored => exact Call.leaves_silent rfl
  | ack => exact Call.leaves_silent (m.handleLargeDataAck_eq packet hwindow)
  | answer => exact m.leaves_handleReadResponse surroundings packet htracker hresults
  | formatList list => cases h
  | dragStart start => exact m.leaves_handleDragStart surroundings hdrags start
  | dragMove move => exact m.leaves_handleDragMove surroundings move
  | dragDrop drop => exact m.leaves_handleDragDrop surroundings hdrags drop
  | dragCancel cancel => exact m.leaves_handleDragCancel surroundings hdrags cancel
  | cancel cancel => exact m.leaves_handleCancel surroundings htracker hresults cancel
  | readRequest request => exact m.leaves_handleReadRequest surroundings packet hcounter request
  | fileRangeRequest request =>
    exact m.leaves_handleFileRangeRequest surroundings packet hcounter hwindow request
  | lockObject request => cases h
  | unlockObject request => cases h
  | badRequest status message => exact m.leaves_sendErrorResponse packet hcounter status message

end ClipboardModule

/-! ## Calls -/

/-- The calls of the module's life, announcements, and the packets about offers. -/
def ClipboardOp.aboutOffers : ClipboardOp → Bool
  | .attach _ => true
  | .start => true
  | .stop => true
  | .detach => true
  | .pauseForReconnect _ => true
  | .resumeAfterReconnect _ => true
  | .handlePacket packet => (received packet).aboutOffers
  | .announceLocalBundle _ => true
  | _ => false

/-- **Every other call leaves the offers alone.** -/
theorem ClipboardModule.leaves_perform {β : Type*} {f : ClipboardModule → β}
    (hcounter : IgnoresCounter f) (hdrags : IgnoresDrags f) (htracker : IgnoresTracker f)
    (hresults : IgnoresResults f) (hwindow : IgnoresWindow f) (m : ClipboardModule)
    (surroundings : Surroundings) {op : ClipboardOp} (h : op.aboutOffers = false) :
    (m.perform surroundings op).Leaves f m := by
  cases op with
  | attach runtime => cases h
  | start => cases h
  | stop => cases h
  | detach => cases h
  | pauseForReconnect options => cases h
  | resumeAfterReconnect options => cases h
  | handlePacket packet =>
    by_cases hrunning : m.state = .running
    · show (m.handlePacket surroundings packet).Leaves f m
      rw [m.handlePacket_eq surroundings packet hrunning]
      exact m.leaves_handle surroundings packet hcounter hdrags htracker hresults hwindow h
    · show (m.handlePacket surroundings packet).Leaves f m
      rw [m.handlePacket_of_not_running surroundings packet hrunning]
      exact Call.leaves_silent rfl
  | announceLocalBundle bundle => cases h
  | requestRemoteFormat request timeoutMs nowUsec =>
    exact (m.leaves_requestRemoteFormatTracked surroundings htracker hresults request timeoutMs
      nowUsec).discard
  | requestRemoteFileRange request timeoutMs nowUsec =>
    exact (m.leaves_requestRemoteFileRangeTracked surroundings htracker hresults request timeoutMs
      nowUsec).discard
  | requestRemoteObjectLock request timeoutMs nowUsec =>
    exact (m.leaves_requestRemoteObjectLockTracked surroundings htracker hresults request timeoutMs
      nowUsec).discard
  | requestRemoteObjectUnlock request timeoutMs nowUsec =>
    exact (m.leaves_requestRemoteObjectUnlockTracked surroundings htracker hresults request
      timeoutMs nowUsec).discard
  | sendCancel cancel timeoutMs nowUsec =>
    exact (m.leaves_sendCancel surroundings hcounter cancel timeoutMs nowUsec).discard
  | sendRemoteDragStart start => exact (m.leaves_sendRemoteDragStart surroundings hdrags start).discard
  | sendRemoteDragMove move => exact (m.leaves_sendRemoteDragMove surroundings move).discard
  | sendRemoteDragDrop drop => exact (m.leaves_sendRemoteDragDrop surroundings hdrags drop).discard
  | sendRemoteDragCancel cancel =>
    exact (m.leaves_sendRemoteDragCancel surroundings hdrags cancel).discard
  | expirePendingReads nowUsec =>
    exact Call.leaves_silent ((settleAll_eq m hresults _).trans (htracker m _ _))

/-- **No call changes what is fixed once the module is built.** -/
theorem ClipboardModule.leaves_dependencies (m : ClipboardModule) (surroundings : Surroundings)
    (op : ClipboardOp) : (m.perform surroundings op).Leaves (·.dependencies) m := by
  by_cases h : op.aboutOffers = false
  · exact leaves_perform (fun _ _ => rfl) (fun _ _ _ => rfl) (fun _ _ _ => rfl)
      (fun _ _ _ _ _ _ _ _ _ => rfl) (fun _ _ _ => rfl) m surroundings h
  cases op with
  | attach runtime => exact Call.leaves_silent rfl
  | start =>
    refine Call.leaves_silent ?_
    unfold ClipboardModule.start
    split
    · rfl
    · rfl
  | stop => exact Call.leaves_silent rfl
  | detach => exact Call.leaves_silent rfl
  | pauseForReconnect options =>
    refine Call.leaves_silent ?_
    unfold pauseForReconnect
    split
    · rfl
    · exact m.releaseAllLargeDataReservations.settleAll_eq (f := (·.dependencies))
        (fun _ _ _ _ _ _ _ _ _ => rfl) _
  | resumeAfterReconnect options =>
    exact m.leaves_resumeAfterReconnect surroundings (fun _ _ _ _ => rfl) (fun _ _ _ => rfl) options
  | announceLocalBundle bundle =>
    exact (m.leaves_announceLocalBundle surroundings (fun _ _ _ _ => rfl) (fun _ _ _ => rfl)
      bundle).discard
  | handlePacket packet =>
    show (m.handlePacket surroundings packet).Leaves (·.dependencies) m
    by_cases hrunning : m.state = .running
    · have habout : (received packet).aboutOffers = true := Bool.eq_true_of_not_eq_false h
      rw [m.handlePacket_eq surroundings packet hrunning]
      cases hasked : received packet with
      | formatList list =>
        exact Call.leaves_silent (m.handleFormatList_eq surroundings (fun _ _ _ _ => rfl)
          (fun _ _ _ => rfl) list)
      | lockObject request =>
        exact m.leaves_handleObjectLockRequest surroundings packet (fun _ _ => rfl)
          (fun _ _ _ _ => rfl) request
      | unlockObject request =>
        exact m.leaves_handleObjectUnlockRequest packet (fun _ _ => rfl) (fun _ _ _ _ => rfl)
          request
      | _ =>
        rw [hasked] at habout
        cases habout
    · rw [m.handlePacket_of_not_running surroundings packet hrunning]
      exact Call.leaves_silent rfl
  | _ => exact absurd rfl h

end Clipboard
end FusionDesk
