import FusionDesk.Display.ControlCodec
import FusionDesk.Display.Network

/-!
# The display agent

`class DisplayAgentModule` of `display_modules.h` and `display_modules.cpp`: it captures, encodes and
sends frames on the screen channel, and answers requests for a key frame.

The captures and the encoder are of any type with their interfaces; the module has both, as its
factory does not build it otherwise.  The counters of type `int` are natural numbers.  `pressure` is
the pressure of the screen channel at the call, if there is a channel registry.  Diagnostics are left
out.
-/

namespace FusionDesk
namespace Display

open Protocol Network
open FusionDesk.Module (ModuleState ModuleReconnectOptions affectsDisplayChannel)

/-- The fields `lastSent…` of the agent, but for the flag of their validity. -/
structure FrameShape where
  sourceId : UInt32
  width : UInt32
  height : UInt32
  strideBytes : UInt32
  pixelFormat : DisplayPixelFormat
  deriving DecidableEq, Repr

structure DisplayAgentModule (K E : Type) where
  capture : K
  encoder : E
  runtime : DisplayRuntime := {}
  state : ModuleState := .created
  captureOpened : Bool := false
  nextMessageId : MessageId := 1000
  capturedFrames : ℕ := 0
  encodedFrames : ℕ := 0
  sentFrames : ℕ := 0
  capturedPixelBytes : UInt64 := 0
  encodedPayloadBytes : UInt64 := 0
  sentPayloadBytes : UInt64 := 0
  lastCapturedPixelBytes : UInt64 := 0
  lastEncodedPayloadBytes : UInt64 := 0
  lastSentPayloadBytes : UInt64 := 0
  droppedFrames : ℕ := 0
  captureOpenFailures : ℕ := 0
  encodeFailures : ℕ := 0
  sendFailures : ℕ := 0
  invalidControlRequests : ℕ := 0
  keyframeRequests : ℕ := 0
  responsesSent : ℕ := 0
  captureGeometryOrFormatChanges : ℕ := 0
  reconnectPauses : ℕ := 0
  reconnectResumes : ℕ := 0
  lastSentFrameShape : Option FrameShape := none

def hasEncodedPayload (frame : EncodedFrame) : Bool := !frame.payload.isEmpty

def hasCapturedFrameShape (frame : CapturedFrame) : Bool :=
  frame.width != 0 && frame.height != 0 && frame.strideBytes != 0 && frame.pixelFormat != .unknown

def CapturedFrame.shape (frame : CapturedFrame) : FrameShape :=
  ⟨frame.sourceId, frame.width, frame.height, frame.strideBytes, frame.pixelFormat⟩

/-- The packet of an encoded frame. -/
def videoPacket (runtime : DisplayRuntime) (encoded : EncodedFrame) : PacketEnvelope :=
  { makeDisplayPacket runtime .video .event with
    priority := .realtime
    sequence := encoded.frameId
    monotonicTimestampUsec := encoded.monotonicTimestampUsec
    flags :=
      if encoded.keyFrame then packetFlagNoResponseRequired ||| packetFlagKeyFrame
      else packetFlagNoResponseRequired
    payload := encoded.payload }

namespace DisplayAgentModule

variable {K E : Type}

/-! ## Frames -/

def shouldDropFrame (pressure : Option PressureLevel) (keyFrame : Bool) : Bool :=
  !keyFrame && (pressure == some .congested || pressure == some .draining)

def frameShapeChanged (m : DisplayAgentModule K E) (frame : CapturedFrame) : Bool :=
  match m.lastSentFrameShape with
  | none => false
  | some shape => hasCapturedFrameShape frame && frame.shape != shape

def recordSentFrameShape (m : DisplayAgentModule K E) (frame : EncodedFrame) (sourceId : UInt32) :
    DisplayAgentModule K E :=
  if frame.width = 0 ∨ frame.height = 0 ∨ frame.strideBytes = 0 ∨ frame.pixelFormat = .unknown then
    m
  else
    { m with lastSentFrameShape := some ⟨sourceId, frame.width, frame.height, frame.strideBytes,
                                    frame.pixelFormat⟩ }

/-- The part of `sendFrame` that takes a frame from the capture. -/
def captureFrame [IDisplayCapture K] (m : DisplayAgentModule K E) (keyFrame : Bool) :
    CapturedFrame × DisplayAgentModule K E :=
  let taken := IDisplayCapture.captureNextFrame m.capture keyFrame
  let changed := !keyFrame && m.frameShapeChanged taken.1
  let captured := if changed then { taken.1 with keyFrame := true } else taken.1
  (captured, { m with
    capture := taken.2
    captureGeometryOrFormatChanges :=
      if changed then m.captureGeometryOrFormatChanges + 1 else m.captureGeometryOrFormatChanges
    capturedFrames := m.capturedFrames + 1
    lastCapturedPixelBytes := UInt64.ofNat captured.pixels.length
    capturedPixelBytes := m.capturedPixelBytes + UInt64.ofNat captured.pixels.length })

/-- The part of `sendFrame` behind the encoder. -/
def sendEncoded (m : DisplayAgentModule K E) (encoded : EncodedFrame) (sourceId : UInt32) :
    Bool × DisplayAgentModule K E :=
  if hasEncodedPayload encoded = false then
    (false, { m with encodeFailures := m.encodeFailures + 1 })
  else
    let bytes := UInt64.ofNat encoded.payload.length
    let sent := m.runtime.sendPacket (videoPacket m.runtime encoded)
    let m := { m with
      encodedFrames := m.encodedFrames + 1
      lastEncodedPayloadBytes := bytes
      encodedPayloadBytes := m.encodedPayloadBytes + bytes
      runtime := sent.2 }
    if sent.1 ≠ .sent then (false, { m with sendFailures := m.sendFailures + 1 })
    else
      (true, { m with
        sentFrames := m.sentFrames + 1
        lastSentPayloadBytes := m.lastEncodedPayloadBytes
        sentPayloadBytes := m.sentPayloadBytes + m.lastEncodedPayloadBytes
        }.recordSentFrameShape encoded sourceId)

def sendFrame [IDisplayCapture K] [IVideoEncoder E] (m : DisplayAgentModule K E)
    (pressure : Option PressureLevel) (keyFrame : Bool) : Bool × DisplayAgentModule K E :=
  if m.runtime.network.isNone then (false, m)
  else if shouldDropFrame pressure keyFrame then
    (false, { m with droppedFrames := m.droppedFrames + 1 })
  else
    let captured := m.captureFrame keyFrame
    let encoded := IVideoEncoder.encode captured.2.encoder captured.1
    { captured.2 with encoder := encoded.2 }.sendEncoded encoded.1 captured.1.sourceId

def sendKeyFrame [IDisplayCapture K] [IVideoEncoder E] (m : DisplayAgentModule K E)
    (pressure : Option PressureLevel) : Bool × DisplayAgentModule K E :=
  m.sendFrame pressure true

def sendDeltaFrame [IDisplayCapture K] [IVideoEncoder E] (m : DisplayAgentModule K E)
    (pressure : Option PressureLevel) : Bool × DisplayAgentModule K E :=
  m.sendFrame pressure false

/-! ## The capture -/

/-- The end of `reopenCapture` and of `replaceCapture`: the capture is opened, and a key frame goes
out if one is asked for. -/
def openForFrames [IDisplayCapture K] [IVideoEncoder E] (m : DisplayAgentModule K E)
    (pressure : Option PressureLevel) (sendFreshKeyFrame : Bool) : Bool × DisplayAgentModule K E :=
  let opened := IDisplayCapture.openCapture m.capture
  let m := { m with capture := opened.2 }
  if opened.1 = false then (false, { m with captureOpenFailures := m.captureOpenFailures + 1 })
  else
    let m := { m with captureOpened := true }
    if sendFreshKeyFrame = false then (true, m) else m.sendKeyFrame pressure

/-- The capture is closed, if it is open. -/
def closeCapture [IDisplayCapture K] (m : DisplayAgentModule K E) : DisplayAgentModule K E :=
  if m.captureOpened then
    { m with capture := IDisplayCapture.close m.capture, captureOpened := false }
  else m

def reopenCapture [IDisplayCapture K] [IVideoEncoder E] (m : DisplayAgentModule K E)
    (pressure : Option PressureLevel) (sendFreshKeyFrame : Bool) : Bool × DisplayAgentModule K E :=
  if m.runtime.network.isNone ∨ m.state ≠ .running then (false, m)
  else m.closeCapture.openForFrames pressure sendFreshKeyFrame

/-- `replaceCapture`; `none` is the null pointer. -/
def replaceCapture [IDisplayCapture K] [IVideoEncoder E] (m : DisplayAgentModule K E)
    (pressure : Option PressureLevel) (capture : Option K) (sendFreshKeyFrame : Bool) :
    Bool × DisplayAgentModule K E :=
  match capture with
  | none => (false, m)
  | some capture =>
    if m.runtime.network.isNone ∨ m.state ≠ .running then (false, m)
    else { m.closeCapture with capture := capture }.openForFrames pressure sendFreshKeyFrame

/-! ## The module -/

def attach (m : DisplayAgentModule K E) (runtime : DisplayRuntime) : DisplayAgentModule K E :=
  { m with runtime := runtime, state := .attached }

/-- `start`: whether it has started, and the module. -/
def start [IDisplayCapture K] [IVideoEncoder E] (m : DisplayAgentModule K E)
    (pressure : Option PressureLevel) : Bool × DisplayAgentModule K E :=
  if m.runtime.network.isNone then (false, m)
  else
    let opened := IDisplayCapture.openCapture m.capture
    let m := { m with state := .starting, capture := opened.2 }
    if opened.1 = false then
      (false, { m with captureOpenFailures := m.captureOpenFailures + 1, state := .failed })
    else
      let sent := { m with captureOpened := true, state := .running }.sendKeyFrame pressure
      if sent.1 then (true, sent.2)
      else
        (false, { sent.2 with
          capture := IDisplayCapture.close sent.2.capture
          captureOpened := false
          state := .failed })

def stop [IDisplayCapture K] (m : DisplayAgentModule K E) : DisplayAgentModule K E :=
  { m.closeCapture with state := .stopped }

def detach [IDisplayCapture K] (m : DisplayAgentModule K E) : DisplayAgentModule K E :=
  { m.closeCapture with state := .detached }

def pauseForReconnect (m : DisplayAgentModule K E) : DisplayAgentModule K E :=
  { m with reconnectPauses := m.reconnectPauses + 1 }

def resumeAfterReconnect [IDisplayCapture K] [IVideoEncoder E] (m : DisplayAgentModule K E)
    (pressure : Option PressureLevel) (options : ModuleReconnectOptions) :
    DisplayAgentModule K E :=
  let m := { m with reconnectResumes := m.reconnectResumes + 1 }
  if m.state = .running ∧ options.requestFreshState ∧ affectsDisplayChannel options then
    let sent := m.sendKeyFrame pressure
    if sent.1 then (sent.2.sendDeltaFrame pressure).2 else sent.2
  else m

def sendResponse (m : DisplayAgentModule K E) (request : PacketEnvelope) (status : ResponseStatus)
    (kind : MessageKind) (payload : ByteBuffer) : Bool × DisplayAgentModule K E :=
  let response := { makeDisplayPacket m.runtime .payloadAck kind with
    priority := .interactive
    messageId := m.nextMessageId
    correlationId := if request.correlationId ≠ 0 then request.correlationId else request.messageId
    responseTo := request.messageId
    timeoutMs := request.timeoutMs
    responseStatus := status
    payload := payload }
  let sent := m.runtime.sendPacket response
  let m := { m with nextMessageId := m.nextMessageId + 1, runtime := sent.2 }
  if sent.1 ≠ .sent then (false, { m with sendFailures := m.sendFailures + 1 })
  else (true, { m with responsesSent := m.responsesSent + 1 })

def handlePacket [IDisplayCapture K] [IVideoEncoder E] (m : DisplayAgentModule K E)
    (pressure : Option PressureLevel) (packet : PacketEnvelope) : DisplayAgentModule K E :=
  if packet.packetType ≠ .payloadAck ∨ packet.messageKind ≠ .request then m
  else
    let decoded := decodeDisplayControlPayload packet.payload
    if decoded.ok = false ∨ decoded.payload.operation ≠ .requestKeyframe then
      ({ m with invalidControlRequests := m.invalidControlRequests + 1 }.sendResponse packet
        (if decoded.ok then .unsupported else .protocolError) .error []).2
    else
      let sent := { m with keyframeRequests := m.keyframeRequests + 1 }.sendKeyFrame pressure
      (sent.2.sendResponse packet (if sent.1 then .ok else .failed)
        (if sent.1 then .response else .error)
        (encodeDisplayControlPayload {
          operation := .keyframeScheduled, reason := decoded.payload.reason, frameId := 0 })).2

end DisplayAgentModule

/-- What can be called of the agent from outside, beside the packets it gets. -/
inductive AgentOp (K : Type)
  | attach (runtime : DisplayRuntime)
  | start
  | stop
  | detach
  | pauseForReconnect
  | resumeAfterReconnect (options : ModuleReconnectOptions)
  | sendDeltaFrame
  | reopenCapture (sendFreshKeyFrame : Bool)
  | replaceCapture (capture : Option K) (sendFreshKeyFrame : Bool)

/-- A call: what it returns (`true`, if it returns nothing), and the module. -/
def DisplayAgentModule.perform {K E : Type} [IDisplayCapture K] [IVideoEncoder E]
    (m : DisplayAgentModule K E) (pressure : Option PressureLevel) :
    AgentOp K → Bool × DisplayAgentModule K E
  | .attach runtime => (true, m.attach runtime)
  | .start => m.start pressure
  | .stop => (true, m.stop)
  | .detach => (true, m.detach)
  | .pauseForReconnect => (true, m.pauseForReconnect)
  | .resumeAfterReconnect options => (true, m.resumeAfterReconnect pressure options)
  | .sendDeltaFrame => m.sendDeltaFrame pressure
  | .reopenCapture sendFreshKeyFrame => m.reopenCapture pressure sendFreshKeyFrame
  | .replaceCapture capture sendFreshKeyFrame => m.replaceCapture pressure capture sendFreshKeyFrame

end Display
end FusionDesk
