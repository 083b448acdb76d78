import FusionDesk.Clipboard.RemoteRead
import FusionDesk.Module.Reconnect

/-!
# The calls of the clipboard module

The rest of `clipboard_modules.cpp`, `clipboard_module_drag.cpp` and the answering half of
`clipboard_module_remote_read.cpp` and `clipboard_module_object_lock.cpp`: announcements, the packets
of the peer, drags, and the life of the module.

`ClipboardOp` lists what can be called from outside, `perform` does a call up to its send, and `step`
does it to its end with nothing in between.
-/

namespace FusionDesk
namespace Clipboard

open Protocol Network
open FusionDesk.Module

def transferOriginRequiresDragPolicy (origin : TransferOrigin) : Bool :=
  origin == .drag || origin == .drop

def validTransferAction (value : TransferAction) : Bool :=
  value == .copy || value == .move || value == .link || value == .none

def dragStartMatchesBundle (bundle : TransferSourceBundle) (start : DragSessionStart) : Bool :=
  start.dragSessionId != 0 && bundle.bundleId == start.bundleId &&
    bundle.offerId == start.offerId && bundle.ownerEpoch == start.ownerEpoch

def affectsClipboardChannel (options : ModuleReconnectOptions) : Bool :=
  options.affectedChannels.isEmpty || options.affectedChannels.any fun key =>
    key == clipboardSmallDataChannelKey || key == clipboardLargeDataChannelKey

namespace ClipboardModule

/-! ## Announcements -/

/-- The bundle as `announceLocalBundle` sends and stores it. -/
def announcedForm (m : ClipboardModule) (bundle : TransferSourceBundle) : TransferSourceBundle :=
  { bundle with
    originSessionId :=
      if bundle.originSessionId = 0 then m.runtime.sessionId else bundle.originSessionId
    presentation := if m.policy.allowPresentationMetadata then bundle.presentation else none }

/-- The policy lets a bundle of this origin be announced. -/
def mayAnnounce (m : ClipboardModule) (bundle : TransferSourceBundle) : Bool :=
  m.policy.allowAnnounce &&
    !(transferOriginRequiresDragPolicy bundle.origin && !m.policy.allowDrag)

/-- The format list that announces a bundle. -/
def announcedList (m : ClipboardModule) (now : Moment) (bundle : TransferSourceBundle) :
    FdclFormatList :=
  filterFormatsByPolicy m.policy (makeFormatListFromBundle now (m.announcedForm bundle))

/-- `announceLocalBundle`.  A list without formats is refused before and after the filter, which
differ in a counter only. -/
def announceLocalBundle (m : ClipboardModule) (surroundings : Surroundings)
    (bundle : TransferSourceBundle) : Call Bool :=
  if m.state ≠ .running then .refused m
  else if m.mayAnnounce bundle = false then .refused m
  else
    let list := m.announcedList surroundings.moment bundle
    if list.formats = [] then .refused m
    else
      let bundle := m.announcedForm bundle
      let stored := m.sourceRegistry.store bundle
      if stored.1 ≠ .ok then .refused { m with sourceRegistry := stored.2 }
      else
        .returning { m with sourceRegistry := stored.2 }
          { m.makePacket .event with
            flags := packetFlagNoResponseRequired
            sequence := bundle.sequence
            monotonicTimestampUsec := surroundings.nowUsec
            payload := encodeFdclFormatList list }
          (.announced bundle)

/-- The policy lets an offer of this origin be taken. -/
def mayReceive (m : ClipboardModule) (list : FdclFormatList) : Bool :=
  m.policy.allowReceive && m.policy.allowWriteLocal &&
    !(transferOriginRequiresDragPolicy list.origin && !m.policy.allowDrag)

/-- The list comes from this session. -/
def loops (m : ClipboardModule) (list : FdclFormatList) : Bool :=
  list.originSessionId == m.runtime.sessionId && list.originSessionId != 0

/-- The bundle that `handleFormatList` makes of a list. -/
def offeredBundle (m : ClipboardModule) (list : FdclFormatList) : TransferSourceBundle :=
  let bundle := makeRemoteBundleFromFormatList (filterFormatsByPolicy m.policy list)
  { bundle with
    presentation := if m.policy.allowPresentationMetadata then bundle.presentation else none }

def handleFormatList (m : ClipboardModule) (surroundings : Surroundings) (list : FdclFormatList) :
    ClipboardModule :=
  if m.mayReceive list = false then m
  else if m.loops list then m
  else if (filterFormatsByPolicy m.policy list).formats = [] then m
  else
    let bundle := m.offeredBundle list
    let stored := m.sourceRegistry.store bundle
    if stored.1 ≠ .ok then { m with sourceRegistry := stored.2 }
    else
      let m := { m with
        sourceRegistry := stored.2
        remoteBundle := bundle
        activeRemoteDragSessionId := 0 }
      if m.dependencies.endpoint ∧ surroundings.published ≠ .ok then
        { m with
          sourceRegistry := (m.sourceRegistry.clearOffer bundle.offerId).2
          remoteBundle := {} }
      else m

/-! ## Requests of the peer -/

/-- `ClipboardModuleBase::readLocal`. -/
def readLocal (m : ClipboardModule) (surroundings : Surroundings)
    (request : FdclReadFormatRequest) : TransferReadResult :=
  Clipboard.readLocal m.policy m.dependencies.transcoder m.sourceRegistry m.localBundle
    surroundings.moment request

def handleReadRequest (m : ClipboardModule) (surroundings : Surroundings) (packet : PacketEnvelope)
    (request : FdclReadFormatRequest) : Call Unit :=
  if m.policy.allowSendContent = false then
    m.sendErrorResponse packet .deniedByPolicy (bytesOf "clipboard send denied by policy")
  else if policyAllowsReadRequest m.policy surroundings.moment m.localBundle request = false then
    m.sendErrorResponse packet .deniedByPolicy (bytesOf "clipboard format denied by policy")
  else m.sendReadResponse packet request (m.readLocal surroundings request)

/-- `ClipboardModuleBase::readLocalFileRange`. -/
def readLocalFileRange (m : ClipboardModule) (surroundings : Surroundings)
    (request : FdclFileRangeRequest) : TransferFileRangeResult :=
  Clipboard.readLocalFileRange m.policy m.localBundle surroundings.moment request

def handleFileRangeRequest (m : ClipboardModule) (surroundings : Surroundings)
    (packet : PacketEnvelope) (request : FdclFileRangeRequest) : Call Unit :=
  if m.policy.allowSendContent = false then
    m.sendErrorResponse packet .deniedByPolicy
      (bytesOf "clipboard file range send denied by policy")
  else if m.policy.allowFileContents = false then
    m.sendErrorResponse packet .deniedByPolicy
      (bytesOf "clipboard file contents denied by policy")
  else
    m.sendFileRangeResponse surroundings packet request
      (m.readLocalFileRange surroundings request)

def makeTransferObjectLockRequest (request : FdclObjectLock) : TransferObjectLockRequest where
  bundleId := request.bundleId
  offerId := request.offerId
  ownerEpoch := request.ownerEpoch
  sourceId := request.sourceId
  objectId := request.objectId
  fileIndex := request.fileIndex
  lockId := request.lockId
  leaseUsec := request.leaseUsec

def sendObjectLockResponse (m : ClipboardModule) (request : PacketEnvelope)
    (operation : FdclOperation) (lockRequest : FdclObjectLock)
    (lockResult : TransferObjectLockResult) : Call Unit :=
  if lockResult.ok = false then m.sendErrorResponse request lockResult.status lockResult.message
  else
    let payload := { lockRequest with
      lockId := lockResult.lockId
      leaseUsec := lockResult.leaseUsec }
    .sending m.countResponse (m.makeResponse .response request .ok
      (if operation = .unlockObject then encodeFdclUnlockObject payload
      else encodeFdclLockObject payload))

def handleObjectLockRequest (m : ClipboardModule) (surroundings : Surroundings)
    (packet : PacketEnvelope) (request : FdclObjectLock) : Call Unit :=
  if m.policy.allowSendContent = false ∨ m.policy.allowFileContents = false then
    m.sendErrorResponse packet .deniedByPolicy (bytesOf "clipboard object lock denied by policy")
  else
    let locked := m.sourceRegistry.lockObject surroundings.moment
      (makeTransferObjectLockRequest request)
    { m with sourceRegistry := locked.2 }.sendObjectLockResponse packet .lockObject request locked.1

def handleObjectUnlockRequest (m : ClipboardModule) (packet : PacketEnvelope)
    (request : FdclObjectLock) : Call Unit :=
  if m.policy.allowSendContent = false ∨ m.policy.allowFileContents = false then
    m.sendErrorResponse packet .deniedByPolicy (bytesOf "clipboard object unlock denied by policy")
  else
    let unlocked := m.sourceRegistry.unlockObject (makeTransferObjectLockRequest request)
    { m with sourceRegistry := unlocked.2 }.sendObjectLockResponse packet .unlockObject request
      unlocked.1

/-! ## Drags -/

def sendDragEvent (m : ClipboardModule) (surroundings : Surroundings) (payload : ByteBuffer)
    (rest : AfterSend) : Call Bool :=
  .returning m
    { m.makePacket .event with
      flags := packetFlagNoResponseRequired
      monotonicTimestampUsec := surroundings.nowUsec
      payload := payload }
    rest

/-- The policy lets this side drag. -/
def maySendDrag (m : ClipboardModule) : Bool := m.policy.allowAnnounce && m.policy.allowDrag

def sendRemoteDragStart (m : ClipboardModule) (surroundings : Surroundings)
    (start : FdclDragStart) : Call Bool :=
  if m.state ≠ .running then .refused m
  else if m.maySendDrag = false then .refused m
  else if dragStartMatchesBundle m.localBundle start.start = false ∨
      validTransferAction start.start.preferredAction = false then .refused m
  else
    m.sendDragEvent surroundings (encodeFdclDragStart start)
      (.dragStarted start.start.dragSessionId)

def sendRemoteDragMove (m : ClipboardModule) (surroundings : Surroundings) (move : FdclDragMove) :
    Call Bool :=
  if m.state ≠ .running then .refused m
  else if m.maySendDrag = false then .refused m
  else if move.dragSessionId = 0 ∨ validTransferAction move.proposedAction = false then .refused m
  else if m.activeLocalDragSessionId ≠ move.dragSessionId then .refused m
  else m.sendDragEvent surroundings (encodeFdclDragMove move) .nothing

def sendRemoteDragDrop (m : ClipboardModule) (surroundings : Surroundings) (drop : FdclDragDrop) :
    Call Bool :=
  if m.state ≠ .running then .refused m
  else if m.maySendDrag = false then .refused m
  else if drop.dragSessionId = 0 ∨ validTransferAction drop.proposedAction = false then .refused m
  else if m.activeLocalDragSessionId ≠ drop.dragSessionId then .refused m
  else m.sendDragEvent surroundings (encodeFdclDragDrop drop) .dragEnded

def sendRemoteDragCancel (m : ClipboardModule) (surroundings : Surroundings)
    (cancel : FdclDragCancel) : Call Bool :=
  if m.state ≠ .running then .refused m
  else if m.maySendDrag = false then .refused m
  else if cancel.dragSessionId = 0 then .refused m
  else if m.activeLocalDragSessionId ≠ cancel.dragSessionId then .refused m
  else m.sendDragEvent surroundings (encodeFdclDragCancel cancel) .dragEnded

/-- The policy lets the peer drag. -/
def mayTakeDrag (m : ClipboardModule) : Bool :=
  m.policy.allowReceive && m.policy.allowDrag && m.policy.allowWriteLocal

/-- A call of the drag sink, if there is one, and the module once the sink has answered `Ok`. -/
def askSink (m : ClipboardModule) (surroundings : Surroundings) (call : DragSinkCall)
    (accepted : ClipboardModule) : Call Unit :=
  if m.dependencies.dragSink = false then .silent m
  else
    { after := if surroundings.dragSink = .ok then accepted else m
      sink := some call
      result := fun _ => () }

def handleDragStart (m : ClipboardModule) (surroundings : Surroundings) (start : FdclDragStart) :
    Call Unit :=
  if m.mayTakeDrag = false then .silent m
  else if dragStartMatchesBundle m.remoteBundle start.start = false then .silent m
  else
    m.askSink surroundings (.dragStart start.start)
      { m with activeRemoteDragSessionId := start.start.dragSessionId }

def handleDragMove (m : ClipboardModule) (surroundings : Surroundings) (move : FdclDragMove) :
    Call Unit :=
  if m.mayTakeDrag = false then .silent m
  else if m.activeRemoteDragSessionId ≠ move.dragSessionId then .silent m
  else
    m.askSink surroundings (.dragMove move.dragSessionId move.point move.proposedAction) m

def handleDragDrop (m : ClipboardModule) (surroundings : Surroundings) (drop : FdclDragDrop) :
    Call Unit :=
  if m.mayTakeDrag = false then .silent m
  else if m.activeRemoteDragSessionId ≠ drop.dragSessionId then .silent m
  else
    m.askSink surroundings (.dragDrop drop.dragSessionId drop.point drop.proposedAction)
      { m with activeRemoteDragSessionId := 0 }

def handleDragCancel (m : ClipboardModule) (surroundings : Surroundings)
    (cancel : FdclDragCancel) : Call Unit :=
  if m.policy.allowDrag = false then .silent m
  else if m.activeRemoteDragSessionId ≠ cancel.dragSessionId then .silent m
  else
    m.askSink surroundings (.dragCancel cancel.dragSessionId cancel.reason)
      { m with activeRemoteDragSessionId := 0 }

/-! ## Packets -/

/-- A packet that `handlePacket` decodes, as what it carries. -/
def handleDecoded (m : ClipboardModule) (surroundings : Surroundings) (packet : PacketEnvelope)
    (decoded : FdclDecodeResult) : Call Unit :=
  if packet.messageKind = .event ∧ decoded.operation = .formatList then
    .silent (m.handleFormatList surroundings decoded.formatList)
  else if packet.messageKind = .event ∧ decoded.operation = .dragStart then
    m.handleDragStart surroundings decoded.dragStart
  else if packet.messageKind = .event ∧ decoded.operation = .dragMove then
    m.handleDragMove surroundings decoded.dragMove
  else if packet.messageKind = .event ∧ decoded.operation = .dragDrop then
    m.handleDragDrop surroundings decoded.dragDrop
  else if packet.messageKind = .event ∧ decoded.operation = .dragCancel then
    m.handleDragCancel surroundings decoded.dragCancel
  else if packet.messageKind = .cancel ∧ decoded.operation = .cancel then
    m.handleCancel surroundings decoded.cancel
  else if packet.messageKind = .request ∧ decoded.operation = .readFormatRequest then
    m.handleReadRequest surroundings packet decoded.readRequest
  else if packet.messageKind = .request ∧ decoded.operation = .fileRangeRequest then
    m.handleFileRangeRequest surroundings packet decoded.fileRangeRequest
  else if packet.messageKind = .request ∧ decoded.operation = .lockObject then
    m.handleObjectLockRequest surroundings packet decoded.objectLock
  else if packet.messageKind = .request ∧ decoded.operation = .unlockObject then
    m.handleObjectUnlockRequest packet decoded.objectLock
  else if packet.messageKind = .request then
    m.sendErrorResponse packet .unsupported (bytesOf "FDCL operation is unsupported")
  else .silent m

def handlePacket (m : ClipboardModule) (surroundings : Surroundings) (packet : PacketEnvelope) :
    Call Unit :=
  if m.state ≠ .running ∨ packet.packetType ≠ .clipboard then .silent m
  else if packet.messageKind = .ack then .silent (m.handleLargeDataAck packet)
  else if packet.messageKind = .response ∨ packet.messageKind = .error then
    m.handleReadResponse surroundings packet
  else
    let decoded := decodeFdclPayload packet.payload
    if decoded.ok = false then
      if packet.messageKind = .request then
        m.sendErrorResponse packet .protocolError (bytesOf decoded.error)
      else .silent m
    else m.handleDecoded surroundings packet decoded

/-! ## The life of the module -/

def attach (m : ClipboardModule) (runtime : ClipboardRuntime) : ClipboardModule :=
  { m with runtime := runtime, state := .attached }

def start (m : ClipboardModule) : ClipboardModule :=
  if m.runtime.network then { m with state := .running } else { m with state := .failed }

/-- What `stop`, `detach` and `pauseForReconnect` do to the registry. -/
def clearRegistry (m : ClipboardModule) : ClipboardModule :=
  { m with sourceRegistry := (m.sourceRegistry.releaseAllLocks.2.clearAll).2 }

def clearDrags (m : ClipboardModule) : ClipboardModule :=
  { m with activeLocalDragSessionId := 0, activeRemoteDragSessionId := 0 }

def stop (m : ClipboardModule) : ClipboardModule :=
  { m.releaseAllLargeDataReservations.clearRegistry.clearDrags with state := .stopped }

def detach (m : ClipboardModule) : ClipboardModule :=
  { m.releaseAllLargeDataReservations.clearRegistry.clearDrags with state := .detached }

def pauseForReconnect (m : ClipboardModule) (options : ModuleReconnectOptions) : ClipboardModule :=
  if affectsClipboardChannel options = false then m
  else
    let m := m.releaseAllLargeDataReservations
    (m.settleAll (m.readRequests.cancelByChannel clipboardSmallDataChannelKey.channelId
      clipboardSmallDataChannelKey.channelType .channelUnavailable)).clearRegistry.clearDrags

def resumeAfterReconnect (m : ClipboardModule) (surroundings : Surroundings)
    (options : ModuleReconnectOptions) : Call Unit :=
  if m.state = .running ∧ options.requestFreshState ∧ affectsClipboardChannel options ∧
      m.localBundle.offerId ≠ 0 then
    (m.announceLocalBundle surroundings m.localBundle).discard
  else .silent m

/-! ## The end of a call -/

/-- What a call does when its send has returned. -/
def afterSend (m : ClipboardModule) (sent : Bool) : AfterSend → ClipboardModule
  | .nothing => m
  | .announced bundle =>
    if sent then { m with localBundle := bundle, activeLocalDragSessionId := 0 }
    else { m with sourceRegistry := (m.sourceRegistry.clearOffer bundle.offerId).2 }
  | .requested packet => if sent then m else m.failRequest packet
  | .rangeSent messageId bytes =>
    if sent then m.trackLargeDataReservation messageId bytes else m.releaseWindow bytes
  | .acknowledged responseTo terminal result =>
    { m with
      lastFileRangeResult := some result
      readRequests := if terminal then m.readRequests.erase responseTo else m.readRequests }
  | .dragStarted dragSessionId =>
    if sent then { m with activeLocalDragSessionId := dragSessionId } else m
  | .dragEnded => if sent then { m with activeLocalDragSessionId := 0 } else m

end ClipboardModule

namespace Call

variable {α : Type}

/-- `sendPacket`: without a network nothing is sent. -/
def sends (call : Call α) (surroundings : Surroundings) : Bool :=
  call.after.runtime.network && surroundings.sent

/-- The module when the call has ended, if nothing comes in between. -/
def finish (call : Call α) (surroundings : Surroundings) : ClipboardModule :=
  match call.outgoing with
  | none => call.after
  | some outgoing => call.after.afterSend (call.sends surroundings) outgoing.rest

/-- What the call returns. -/
def value (call : Call α) (surroundings : Surroundings) : α :=
  call.result (call.sends surroundings)

/-- The packet that has gone out. -/
def sentPacket (call : Call α) (surroundings : Surroundings) : Option PacketEnvelope :=
  if call.sends surroundings then call.outgoing.map (·.packet) else none

end Call

/-! ## Runs -/

/-- What can be called from outside. -/
inductive ClipboardOp
  | attach (runtime : ClipboardRuntime)
  | start
  | stop
  | detach
  | pauseForReconnect (options : ModuleReconnectOptions)
  | resumeAfterReconnect (options : ModuleReconnectOptions)
  | handlePacket (packet : PacketEnvelope)
  | announceLocalBundle (bundle : TransferSourceBundle)
  | requestRemoteFormat (request : FdclReadFormatRequest) (timeoutMs : UInt32) (nowUsec : UInt64)
  | requestRemoteFileRange (request : FdclFileRangeRequest) (timeoutMs : UInt32) (nowUsec : UInt64)
  | requestRemoteObjectLock (request : FdclObjectLock) (timeoutMs : UInt32) (nowUsec : UInt64)
  | requestRemoteObjectUnlock (request : FdclObjectLock) (timeoutMs : UInt32) (nowUsec : UInt64)
  | sendCancel (cancel : FdclCancel) (timeoutMs : UInt32) (nowUsec : UInt64)
  | sendRemoteDragStart (start : FdclDragStart)
  | sendRemoteDragMove (move : FdclDragMove)
  | sendRemoteDragDrop (drop : FdclDragDrop)
  | sendRemoteDragCancel (cancel : FdclDragCancel)
  | expirePendingReads (nowUsec : UInt64)

namespace ClipboardModule

/-- A call up to its send. -/
def perform (m : ClipboardModule) (surroundings : Surroundings) : ClipboardOp → Call Unit
  | .attach runtime => .silent (m.attach runtime)
  | .start => .silent m.start
  | .stop => .silent m.stop
  | .detach => .silent m.detach
  | .pauseForReconnect options => .silent (m.pauseForReconnect options)
  | .resumeAfterReconnect options => m.resumeAfterReconnect surroundings options
  | .handlePacket packet => m.handlePacket surroundings packet
  | .announceLocalBundle bundle => (m.announceLocalBundle surroundings bundle).discard
  | .requestRemoteFormat request timeoutMs nowUsec =>
    (m.requestRemoteFormatTracked surroundings request timeoutMs nowUsec).discard
  | .requestRemoteFileRange request timeoutMs nowUsec =>
    (m.requestRemoteFileRangeTracked surroundings request timeoutMs nowUsec).discard
  | .requestRemoteObjectLock request timeoutMs nowUsec =>
    (m.requestRemoteObjectLockTracked surroundings request timeoutMs nowUsec).discard
  | .requestRemoteObjectUnlock request timeoutMs nowUsec =>
    (m.requestRemoteObjectUnlockTracked surroundings request timeoutMs nowUsec).discard
  | .sendCancel cancel timeoutMs nowUsec =>
    (m.sendCancel surroundings cancel timeoutMs nowUsec).discard
  | .sendRemoteDragStart start => (m.sendRemoteDragStart surroundings start).discard
  | .sendRemoteDragMove move => (m.sendRemoteDragMove surroundings move).discard
  | .sendRemoteDragDrop drop => (m.sendRemoteDragDrop surroundings drop).discard
  | .sendRemoteDragCancel cancel => (m.sendRemoteDragCancel surroundings cancel).discard
  | .expirePendingReads nowUsec => .silent (m.expirePendingReads nowUsec)

/-- A call to its end. -/
def step (m : ClipboardModule) (op : ClipboardOp × Surroundings) : ClipboardModule :=
  (m.perform op.2 op.1).finish op.2

/-- A run of the module from its construction. -/
def run (dependencies : ClipboardModuleDependencies)
    (largeDataWindow : Option ClipboardLargeDataWindow) (ops : List (ClipboardOp × Surroundings)) :
    ClipboardModule :=
  ops.foldl step (construct dependencies largeDataWindow)

end ClipboardModule

end Clipboard
end FusionDesk
