import FusionDesk.Clipboard.FdclCodec
import FusionDesk.Clipboard.LargeDataScheduler
import FusionDesk.Clipboard.LocalRead
import FusionDesk.Module.Host
import FusionDesk.Network.RequestTracker
import Mathlib.Data.List.AList

/-!
# The clipboard module: its state and what it sends

`class ClipboardModuleBase` of `clipboard_modules.h`, with the helpers of `clipboard_modules.cpp` that
send a packet or keep the reservations of the large data window.

A call of the module sends one packet at most.  What it does up to that packet and what it does once
the send has returned are kept apart: a `Call` is the module at the moment of the send, the packet,
and the rest of the call as a value of `AfterSend`.  So other calls can come in between, as they do
where a peer answers inside the send.

The endpoint, the drag sink, the clock and the network are what the `Surroundings` of a call say.  Of
the snapshot the module keeps what it reads again and the results of the last responses; the counters
are left out, since no function of the module reads them.
-/

namespace FusionDesk
namespace Clipboard

open Protocol Network
open FusionDesk.Module

/-- What is fixed once the module is built: whether it has an endpoint and a drag sink, its policy
and its transcoder. -/
structure ClipboardModuleDependencies where
  endpoint : Bool := false
  policy : ClipboardPolicy := {}
  transcoder : TransferTranscoder
  dragSink : Bool := false

/-- Of `struct ModuleRuntime`, what the module uses; `network` says if there is any. -/
structure ClipboardRuntime where
  sessionId : SessionId := 0
  traceId : TraceId := 0
  network : Bool := false
  deriving DecidableEq, Repr

/-- The handler of a tracked request. -/
inductive ReadHandler
  | readResponse
  | fileRangeResponse
  | objectLockResponse
  | objectUnlockResponse
  deriving DecidableEq, Repr

/-- `class ClipboardModuleBase`. -/
structure ClipboardModule where
  dependencies : ClipboardModuleDependencies
  runtime : ClipboardRuntime := {}
  state : ModuleState := .created
  sourceRegistry : InMemoryTransferSourceRegistry := {}
  largeDataWindow : Option ClipboardLargeDataWindow := none
  readRequests : RequestTracker ReadHandler := {}
  /-- `nextMessageId_` of `readRequests_`. -/
  nextReadMessageId : MessageId := 1
  largeDataReservations : AList fun _ : MessageId => UInt64 := ∅
  nextResponseMessageId : MessageId := 100000
  localBundle : TransferSourceBundle := {}
  remoteBundle : TransferSourceBundle := {}
  activeLocalDragSessionId : DragSessionId := 0
  activeRemoteDragSessionId : DragSessionId := 0
  lastReadResponseTo : MessageId := 0
  lastReadResult : Option TransferReadResult := none
  lastFileRangeResponseTo : MessageId := 0
  lastFileRangeResult : Option TransferFileRangeResult := none
  lastObjectLockResponseTo : MessageId := 0
  lastObjectLockResult : Option TransferObjectLockResult := none
  lastObjectUnlockResponseTo : MessageId := 0
  lastObjectUnlockResult : Option TransferObjectLockResult := none

/-- What a call is told from outside: the clock, the moment at which sources are asked, what the
endpoint and the drag sink answer, the channels as they are, and whether the network sends. -/
structure Surroundings where
  nowUsec : UInt64 := 0
  moment : Moment := 0
  published : ResponseStatus := .ok
  dragSink : ResponseStatus := .ok
  channels : Option ChannelRegistry := none
  sent : Bool := true

/-- What a call still does when its send has returned. -/
inductive AfterSend
  | nothing
  /-- `announceLocalBundle`, with the bundle it has stored. -/
  | announced (bundle : TransferSourceBundle)
  /-- A request that is tracked. -/
  | requested (packet : PacketEnvelope)
  /-- `sendFileRangeResponse`, with a reservation of the window. -/
  | rangeSent (messageId : MessageId) (bytes : UInt64)
  /-- `handleTrackedFileRangeResponse` behind its acknowledgement, and the `complete` it is called
  from. -/
  | acknowledged (responseTo : MessageId) (terminal : Bool) (result : TransferFileRangeResult)
  | dragStarted (dragSessionId : DragSessionId)
  | dragEnded

structure Outgoing where
  packet : PacketEnvelope
  rest : AfterSend := .nothing

/-- A call of `IRemoteDragCoordinateSink`. -/
inductive DragSinkCall
  | dragStart (start : DragSessionStart)
  | dragMove (dragSessionId : DragSessionId) (point : DragSurfaceCoordinate)
      (proposedAction : TransferAction)
  | dragDrop (dragSessionId : DragSessionId) (point : DragSurfaceCoordinate)
      (proposedAction : TransferAction)
  | dragCancel (dragSessionId : DragSessionId) (reason : DragCancelReason)
  deriving DecidableEq

/-- A call up to its send, or to its end if it sends nothing. -/
structure Call (α : Type) where
  after : ClipboardModule
  outgoing : Option Outgoing := none
  /-- What it asks of the drag sink. -/
  sink : Option DragSinkCall := none
  /-- What the call returns, where it hangs on what the send returns. -/
  result : Bool → α

namespace Call

variable {α : Type}

def silent (m : ClipboardModule) : Call Unit := { after := m, result := fun _ => () }

def sending (m : ClipboardModule) (packet : PacketEnvelope) : Call Unit where
  after := m
  outgoing := some { packet := packet }
  result _ := ()

/-- A call that returns false and sends nothing. -/
def refused (m : ClipboardModule) : Call Bool := { after := m, result := fun _ => false }

/-- A call that returns what its send returns. -/
def returning (m : ClipboardModule) (packet : PacketEnvelope) (rest : AfterSend) : Call Bool where
  after := m
  outgoing := some { packet := packet, rest := rest }
  result sent := sent

/-- The call for its effects. -/
def discard (call : Call α) : Call Unit :=
  { call with result := fun _ => () }

end Call

namespace ClipboardModule

/-- `ClipboardModuleBase::ClipboardModuleBase`, with a registry of its own. -/
def construct (dependencies : ClipboardModuleDependencies)
    (largeDataWindow : Option ClipboardLargeDataWindow) : ClipboardModule where
  dependencies := dependencies
  largeDataWindow := largeDataWindow

def policy (m : ClipboardModule) : ClipboardPolicy := m.dependencies.policy

def makePacket (m : ClipboardModule) (kind : MessageKind) : PacketEnvelope where
  sessionId := m.runtime.sessionId
  traceId := m.runtime.traceId
  channelId := clipboardSmallDataChannelKey.channelId
  channelType := clipboardSmallDataChannelKey.channelType
  packetType := .clipboard
  messageKind := kind
  priority := .normal

/-! ## Responses -/

/-- The packet that answers a request, under the next id for responses. -/
def makeResponse (m : ClipboardModule) (kind : MessageKind) (request : PacketEnvelope)
    (status : ResponseStatus) (payload : ByteBuffer) : PacketEnvelope :=
  { m.makePacket kind with
    messageId := m.nextResponseMessageId
    correlationId := if request.correlationId ≠ 0 then request.correlationId else request.messageId
    responseTo := request.messageId
    timeoutMs := request.timeoutMs
    responseStatus := status
    payload := payload }

/-- `nextResponseMessageId_++`. -/
def countResponse (m : ClipboardModule) : ClipboardModule :=
  { m with nextResponseMessageId := m.nextResponseMessageId + 1 }

def sendErrorResponse (m : ClipboardModule) (request : PacketEnvelope) (status : ResponseStatus)
    (message : StdString) : Call Unit :=
  .sending m.countResponse (m.makeResponse .error request status
    (encodeFdclErrorDetail { status := status, message := message }))

/-- The payload of a read response. -/
def readResponseOf (readRequest : FdclReadFormatRequest) (readResult : TransferReadResult) :
    FdclReadFormatResponse where
  bundleId := readRequest.bundleId
  offerId := readRequest.offerId
  ownerEpoch := readRequest.ownerEpoch
  sourceId := readRequest.sourceId
  itemIndex := readRequest.itemIndex
  formatId := readRequest.formatId
  encoding := readResult.encoding
  canonicalFormat := readResult.canonicalFormat
  bytes := readResult.bytes

def sendReadResponse (m : ClipboardModule) (request : PacketEnvelope)
    (readRequest : FdclReadFormatRequest) (readResult : TransferReadResult) : Call Unit :=
  if readResult.ok = false then m.sendErrorResponse request readResult.status readResult.message
  else
    .sending m.countResponse (m.makeResponse .response request .ok
      (encodeFdclReadFormatResponse (readResponseOf readRequest readResult)))

/-- The payload of a file range response. -/
def fileRangeResponseOf (rangeRequest : FdclFileRangeRequest)
    (rangeResult : TransferFileRangeResult) : FdclFileRangeResponse where
  bundleId := rangeRequest.bundleId
  offerId := rangeRequest.offerId
  ownerEpoch := rangeRequest.ownerEpoch
  sourceId := rangeRequest.sourceId
  objectId := rangeRequest.objectId
  fileIndex := rangeRequest.fileIndex
  offset := rangeRequest.offset
  endOfFile := rangeResult.endOfFile
  bytes := rangeResult.bytes

/-- The options with which `sendFileRangeResponse` asks for a channel. -/
def scheduleOptions (m : ClipboardModule) : ClipboardLargeDataScheduleOptions where
  smallDataFallbackBytes := m.policy.maxInlineBytes
  largeDataWindowBytes := m.largeDataWindow.elim 0 (·.maxInFlightBytes)
  largeDataInFlightBytes := m.largeDataWindow.elim 0 (·.inFlightBytes)

/-- `sendFileRangeResponse` from the point where the response has its channel. -/
def sendScheduledRange (m : ClipboardModule) (request response : PacketEnvelope)
    (usesLargeData : Bool) : Call Unit :=
  match (if usesLargeData then m.largeDataWindow else none) with
  | none => .sending m response
  | some window =>
    let bytes := UInt64.ofNat response.payload.length
    let reserved := window.reserve bytes
    if reserved.1.ok = false then m.sendErrorResponse request reserved.1.status reserved.1.message
    else
      { after := { m with largeDataWindow := some reserved.2 }
        outgoing := some { packet := response, rest := .rangeSent response.messageId bytes }
        result := fun _ => () }

def sendFileRangeResponse (m : ClipboardModule) (surroundings : Surroundings)
    (request : PacketEnvelope) (rangeRequest : FdclFileRangeRequest)
    (rangeResult : TransferFileRangeResult) : Call Unit :=
  if rangeResult.ok = false then
    m.sendErrorResponse request rangeResult.status rangeResult.message
  else if rangeResult.bytes.length > (effectiveMaxFileRangeBytes m.policy).toNat then
    m.sendErrorResponse request .tooLarge
      (bytesOf "clipboard file range exceeds policy max bytes")
  else
    let response := { m.makeResponse .response request .ok
        (encodeFdclFileRangeResponse (fileRangeResponseOf rangeRequest rangeResult)) with
      priority := .bulk }
    let m := m.countResponse
    let schedule := scheduleClipboardBulkResponse surroundings.channels response
      (UInt64.ofNat response.payload.length) m.scheduleOptions
    if schedule.ok = false then m.sendErrorResponse request schedule.status schedule.message
    else
      m.sendScheduledRange request (applyClipboardLargeDataSchedule schedule response)
        schedule.usesLargeData

/-! ## The reservations of the large data window -/

def trackLargeDataReservation (m : ClipboardModule) (messageId : MessageId) (bytes : UInt64) :
    ClipboardModule :=
  if messageId = 0 ∨ bytes = 0 then m
  else { m with largeDataReservations := m.largeDataReservations.insert messageId bytes }

/-- `largeDataWindow->release(bytes)`. -/
def releaseWindow (m : ClipboardModule) (bytes : UInt64) : ClipboardModule :=
  { m with largeDataWindow := m.largeDataWindow.map (·.release bytes) }

def releaseLargeDataReservation (m : ClipboardModule) (responseMessageId : MessageId) :
    ClipboardModule :=
  match m.largeDataReservations.lookup responseMessageId with
  | none => m
  | some bytes =>
    { m.releaseWindow bytes with
      largeDataReservations := m.largeDataReservations.erase responseMessageId }

def releaseAllLargeDataReservations (m : ClipboardModule) : ClipboardModule :=
  { m with
    largeDataWindow := m.largeDataWindow.map fun window =>
      m.largeDataReservations.entries.foldl (fun window item => window.release item.2) window
    largeDataReservations := ∅ }

def handleLargeDataAck (m : ClipboardModule) (ack : PacketEnvelope) : ClipboardModule :=
  if ack.responseTo = 0 then m else m.releaseLargeDataReservation ack.responseTo

/-- The packet that `sendLargeDataAck` sends, if it sends one. -/
def largeDataAck (m : ClipboardModule) (surroundings : Surroundings) (response : PacketEnvelope) :
    Option PacketEnvelope :=
  if isClipboardLargeDataPacket response = false ∨ response.messageId = 0 then none
  else some { m.makePacket .ack with
    priority := .interactive
    responseTo := response.messageId
    correlationId :=
      if response.correlationId ≠ 0 then response.correlationId else response.messageId
    responseStatus := .ok
    timeoutMs := response.timeoutMs
    monotonicTimestampUsec := surroundings.nowUsec }

end ClipboardModule

end Clipboard
end FusionDesk
