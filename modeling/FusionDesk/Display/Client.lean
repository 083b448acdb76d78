import FusionDesk.Display.ControlCodec
import FusionDesk.Display.Network
import FusionDesk.Network.RequestTracker

/-!
# The display client

`class DisplayClientModule` of `display_modules.h` and `display_modules.cpp`: it decodes and renders
what it gets on the screen channel, and asks for a key frame where the picture is broken.

The decoder and the renderer are of any type with their interfaces.  The counters of type `int` are
natural numbers, as a signed counter that overflows has no defined behaviour.  `requested` is not in
the source: it keeps the reasons of the calls of `requestKeyFrame`.  Diagnostics are left out.
-/

namespace FusionDesk
namespace Display

open Protocol Network
open FusionDesk.Module (ModuleState ModuleReconnectOptions affectsDisplayChannel)

/-- `class DisplayClientModule`.  Every handler in its tracker is `handleKeyframeResponse`. -/
structure DisplayClientModule (D R : Type) where
  decoder : D
  renderer : R
  runtime : DisplayRuntime := {}
  state : ModuleState := .created
  keyframeRequestsTracker : RequestTracker Unit := {}
  /-- `nextMessageId_` of the tracker. -/
  nextKeyframeMessageId : MessageId := 1
  lastKeyframeRequestId : MessageId := 0
  lastRenderedFrameId : UInt64 := 0
  receivedFrames : ℕ := 0
  decodedFrames : ℕ := 0
  renderedFrames : ℕ := 0
  receivedPayloadBytes : UInt64 := 0
  decodedPixelBytes : UInt64 := 0
  renderedPixelBytes : UInt64 := 0
  lastReceivedPayloadBytes : UInt64 := 0
  lastDecodedPixelBytes : UInt64 := 0
  lastRenderedPixelBytes : UInt64 := 0
  droppedFrames : ℕ := 0
  frameGaps : ℕ := 0
  decodeErrors : ℕ := 0
  renderErrors : ℕ := 0
  keyframeResponses : ℕ := 0
  keyframeRequestFailures : ℕ := 0
  keyframeRequestTimeouts : ℕ := 0
  decoderRecoveries : ℕ := 0
  decoderPendingFrames : ℕ := 0
  delayedDecodedFrames : ℕ := 0
  decoderHasPendingInput : Bool := false
  reconnectRenderedFramesBaseline : ℕ := 0
  reconnectPauses : ℕ := 0
  reconnectResumes : ℕ := 0
  requested : List DisplayKeyframeReason := []

namespace DisplayClientModule

variable {D R : Type}

/-! ## Requests for a key frame -/

/-- `keyframeRequestsTracker_.nextMessageId()`. -/
def keyframeMessageId (m : DisplayClientModule D R) : MessageId :=
  if m.nextKeyframeMessageId = 0 then 1 else m.nextKeyframeMessageId

def handleKeyframeResponse (m : DisplayClientModule D R) (packet : PacketEnvelope) :
    DisplayClientModule D R :=
  let decoded := decodeDisplayControlPayload packet.payload
  if packet.messageKind ≠ .response ∨ packet.responseStatus ≠ .ok then
    { m with keyframeRequestFailures := m.keyframeRequestFailures + 1 }
  else if decoded.ok = false ∨ decoded.payload.operation ≠ .keyframeScheduled then
    { m with keyframeRequestFailures := m.keyframeRequestFailures + 1 }
  else { m with keyframeResponses := m.keyframeResponses + 1 }

/-- `keyframeRequestsTracker_.complete(packet)`. -/
def completeKeyframeRequest (m : DisplayClientModule D R) (packet : PacketEnvelope) :
    DisplayClientModule D R :=
  let completed := m.keyframeRequestsTracker.complete packet
  let m := completed.2.1.foldl (fun m call => m.handleKeyframeResponse call.response) m
  { m with keyframeRequestsTracker := completed.2.2 }

/-- The packet of a request for a key frame. -/
def keyframeRequestPacket (m : DisplayClientModule D R) (nowUsec : UInt64)
    (reason : DisplayKeyframeReason) : PacketEnvelope :=
  { makeDisplayPacket m.runtime .payloadAck .request with
    priority := .interactive
    messageId := m.keyframeMessageId
    correlationId := m.keyframeMessageId
    timeoutMs := 1000
    flags := packetFlagResponseRequired
    monotonicTimestampUsec := nowUsec
    payload := encodeDisplayControlPayload { operation := .requestKeyframe, reason := reason } }

/-- `requestKeyFrame`, with a network. -/
def sendKeyframeRequest (m : DisplayClientModule D R) (nowUsec : UInt64)
    (reason : DisplayKeyframeReason) : Bool × DisplayClientModule D R :=
  let request := m.keyframeRequestPacket nowUsec reason
  let tracked := m.keyframeRequestsTracker.track request (some ())
  let m := { m with
    nextKeyframeMessageId := m.keyframeMessageId + 1
    lastKeyframeRequestId := request.messageId
    keyframeRequestsTracker := tracked.2 }
  if tracked.1.tracked = false then
    (false, { m with keyframeRequestFailures := m.keyframeRequestFailures + 1 })
  else
    let sent := m.runtime.sendPacket request
    let m := { m with runtime := sent.2 }
    if sent.1 = .sent then (true, m)
    else
      (false, m.completeKeyframeRequest { request with
        messageKind := .error
        responseStatus := sendStatusToResponseStatus sent.1
        responseTo := request.messageId })

def requestKeyFrame (m : DisplayClientModule D R) (nowUsec : UInt64)
    (reason : DisplayKeyframeReason) : Bool × DisplayClientModule D R :=
  let m := { m with requested := m.requested ++ [reason] }
  if m.runtime.network.isNone then (false, m) else m.sendKeyframeRequest nowUsec reason

def requestRecoveryKeyFrame (m : DisplayClientModule D R) (nowUsec : UInt64)
    (reason : DisplayKeyframeReason) : Bool × DisplayClientModule D R :=
  m.requestKeyFrame nowUsec reason

/-- `expireKeyframeRequests`: the number of the requests, and the module. -/
def expireKeyframeRequests (m : DisplayClientModule D R) (nowUsec : UInt64) :
    ℕ × DisplayClientModule D R :=
  let expired := m.keyframeRequestsTracker.expire nowUsec
  let m := expired.2.1.foldl (fun m call => m.handleKeyframeResponse call.response) m
  (expired.1, { m with
    keyframeRequestsTracker := expired.2.2
    keyframeRequestTimeouts := m.keyframeRequestTimeouts + expired.1 })

/-! ## Frames -/

/-- The frame that a packet carries. -/
def encodedFrameOf (packet : PacketEnvelope) : EncodedFrame where
  frameId := packet.sequence
  keyFrame := packet.flags &&& packetFlagKeyFrame != 0
  payload := packet.payload

/-- What `renderVideo` counts of every frame. -/
def countReceived (m : DisplayClientModule D R) (packet : PacketEnvelope) :
    DisplayClientModule D R :=
  { m with
    receivedFrames := m.receivedFrames + 1
    lastReceivedPayloadBytes := UInt64.ofNat packet.payload.length
    receivedPayloadBytes := m.receivedPayloadBytes + UInt64.ofNat packet.payload.length }

/-- The end of `renderVideo`: a decoded frame is rendered. -/
def renderDecoded [IDisplayRenderer R] (m : DisplayClientModule D R) (nowUsec : UInt64)
    (encoded : EncodedFrame) (decoded : DecodedFrame) : Bool × DisplayClientModule D R :=
  let rendered := IDisplayRenderer.render m.renderer decoded
  let m := { m with
    delayedDecodedFrames :=
      if decoded.frameId ≠ encoded.frameId then m.delayedDecodedFrames + 1
      else m.delayedDecodedFrames
    decoderHasPendingInput := decide (decoded.frameId < encoded.frameId)
    decodedFrames := m.decodedFrames + 1
    lastDecodedPixelBytes := UInt64.ofNat decoded.pixels.length
    decodedPixelBytes := m.decodedPixelBytes + UInt64.ofNat decoded.pixels.length
    renderer := rendered.2 }
  if rendered.1 = false then
    (false, ({ m with
      renderErrors := m.renderErrors + 1
      decoderRecoveries := m.decoderRecoveries + 1 }.requestRecoveryKeyFrame nowUsec
        .decoderReset).2)
  else
    (true, { m with
      lastRenderedPixelBytes := m.lastDecodedPixelBytes
      renderedPixelBytes := m.renderedPixelBytes + m.lastDecodedPixelBytes
      renderedFrames := m.renderedFrames + 1
      lastRenderedFrameId := decoded.frameId })

/-- The part of `renderVideo` behind the decoder. -/
def handleDecoded [IDisplayRenderer R] (m : DisplayClientModule D R) (nowUsec : UInt64)
    (encoded : EncodedFrame) (decoded : DecodedFrame) : Bool × DisplayClientModule D R :=
  if decoded.decodeStatus = .needsMoreInput then
    (true, { m with
      decoderPendingFrames := m.decoderPendingFrames + 1
      decoderHasPendingInput := true })
  else if decoded.decodeStatus ≠ .ok ∨ decoded.frameId = 0 ∨
      decoded.frameId > encoded.frameId then
    (false, ({ m with
      decoderHasPendingInput := false
      decodeErrors := m.decodeErrors + 1
      droppedFrames := m.droppedFrames + 1
      decoderRecoveries := m.decoderRecoveries + 1 }.requestRecoveryKeyFrame nowUsec
        .decoderReset).2)
  else if decoded.frameId ≤ m.lastRenderedFrameId then
    (false, { m with droppedFrames := m.droppedFrames + 1 })
  else if m.renderedFrames > 0 ∧ decoded.frameId > m.lastRenderedFrameId + 1 ∧
      decoded.keyFrame = false then
    (false, ({ m with
      droppedFrames := m.droppedFrames + 1
      frameGaps := m.frameGaps + 1
      decoderRecoveries := m.decoderRecoveries + 1 }.requestRecoveryKeyFrame nowUsec .frameGap).2)
  else m.renderDecoded nowUsec encoded decoded

def renderVideo [IVideoDecoder D] [IDisplayRenderer R] (m : DisplayClientModule D R)
    (nowUsec : UInt64) (packet : PacketEnvelope) : Bool × DisplayClientModule D R :=
  if packet.messageKind ≠ .event then (false, m)
  else
    let encoded := encodedFrameOf packet
    let m := m.countReceived packet
    if m.renderedFrames = 0 ∧ m.decoderHasPendingInput = false ∧ encoded.keyFrame = false then
      (false, ({ m with
        droppedFrames := m.droppedFrames + 1
        decoderRecoveries := m.decoderRecoveries + 1 }.requestRecoveryKeyFrame nowUsec
          .firstFrameTimeout).2)
    else if m.renderedFrames > 0 ∧ encoded.frameId ≤ m.lastRenderedFrameId then
      (false, { m with droppedFrames := m.droppedFrames + 1 })
    else
      let decoded := IVideoDecoder.decode m.decoder encoded
      { m with decoder := decoded.2 }.handleDecoded nowUsec encoded decoded.1

/-! ## The module -/

def attach (m : DisplayClientModule D R) (runtime : DisplayRuntime) : DisplayClientModule D R :=
  { m with runtime := runtime, state := .attached }

/-- `start`: whether it has started, and the module. -/
def start (m : DisplayClientModule D R) : Bool × DisplayClientModule D R :=
  if m.runtime.network.isNone then (false, m) else (true, { m with state := .running })

def stop (m : DisplayClientModule D R) : DisplayClientModule D R := { m with state := .stopped }

def detach (m : DisplayClientModule D R) : DisplayClientModule D R := { m with state := .detached }

def pauseForReconnect (m : DisplayClientModule D R) : DisplayClientModule D R :=
  { m with reconnectPauses := m.reconnectPauses + 1 }

def resumeAfterReconnect (m : DisplayClientModule D R) (nowUsec : UInt64)
    (options : ModuleReconnectOptions) : DisplayClientModule D R :=
  let m := { m with
    reconnectResumes := m.reconnectResumes + 1
    reconnectRenderedFramesBaseline := m.renderedFrames }
  if m.state = .running ∧ options.requestFreshState ∧ affectsDisplayChannel options then
    (m.requestKeyFrame nowUsec .reconnect).2
  else m

def handlePacket [IVideoDecoder D] [IDisplayRenderer R] (m : DisplayClientModule D R)
    (nowUsec : UInt64) (packet : PacketEnvelope) : DisplayClientModule D R :=
  if packet.packetType = .video then (m.renderVideo nowUsec packet).2
  else if packet.packetType = .payloadAck ∧
      (packet.messageKind = .response ∨ packet.messageKind = .error) then
    m.completeKeyframeRequest packet
  else m

end DisplayClientModule

/-- What can be called of the client from outside. -/
inductive ClientOp
  | attach (runtime : DisplayRuntime)
  | start
  | stop
  | detach
  | pauseForReconnect
  | resumeAfterReconnect (options : ModuleReconnectOptions)
  | handlePacket (packet : PacketEnvelope)
  | requestKeyFrame (reason : DisplayKeyframeReason)
  | expireKeyframeRequests

/-- A call at a time of the clock. -/
def DisplayClientModule.step {D R : Type} [IVideoDecoder D] [IDisplayRenderer R]
    (m : DisplayClientModule D R) (op : ClientOp × UInt64) : DisplayClientModule D R :=
  match op.1 with
  | .attach runtime => m.attach runtime
  | .start => m.start.2
  | .stop => m.stop
  | .detach => m.detach
  | .pauseForReconnect => m.pauseForReconnect
  | .resumeAfterReconnect options => m.resumeAfterReconnect op.2 options
  | .handlePacket packet => m.handlePacket op.2 packet
  | .requestKeyFrame reason => (m.requestKeyFrame op.2 reason).2
  | .expireKeyframeRequests => (m.expireKeyframeRequests op.2).2

end Display
end FusionDesk
