import FusionDesk.Display.Network
import FusionDesk.General.Runs
import FusionDesk.Input.PayloadCodec

/-!
# The input modules

`src/modules/input/input_modules.cpp`: the client module sends the events it is given, each in a
packet of its own, and the agent module hands the events it receives to an injector.

The capture and the injector are of any type with their interfaces, or there is none.  The counters
of type `int` are natural numbers; of the manifest there is the id.  Diagnostics are left out, and
with them what the agent does with its runtime.

* `InputClientModule`: what a client sends.
* `InputAgentModule.handlePacket`: what an agent makes of a packet.
-/

namespace FusionDesk
namespace Input

open Protocol Network Runs
open FusionDesk.Display (Wire)
open FusionDesk.Module (ModuleState)

/-- Of `struct ModuleRuntime`, what the input modules use. -/
structure InputRuntime where
  sessionId : SessionId := 0
  traceId : TraceId := 0
  network : Option Wire := none

def inputChannelKey : ChannelKey := ⟨ChannelIdValue.smallData, .standard⟩

def makeInputPacket (runtime : InputRuntime) (packetType : PacketType) : PacketEnvelope where
  sessionId := runtime.sessionId
  traceId := runtime.traceId
  channelId := inputChannelKey.channelId
  channelType := inputChannelKey.channelType
  packetType := packetType
  messageKind := .event
  priority := .interactive
  flags := packetFlagNoResponseRequired ||| packetFlagCoalescable

/-! ## The client module -/

/-- Of `class IInputCapture`, what the client module calls. -/
class IInputCapture (C : Type) where
  /-- `open`. -/
  openCapture : C → Bool × C
  close : C → C

structure InputClientModule (C : Type) where
  moduleId : String
  kind : InputModuleKind
  capture : Option C
  runtime : InputRuntime := {}
  state : ModuleState := .created
  eventsSent : ℕ := 0
  sendFailures : ℕ := 0
  captureOpenFailures : ℕ := 0

namespace InputClientModule

variable {C : Type} [IInputCapture C]

def attach (m : InputClientModule C) (runtime : InputRuntime) : Bool × InputClientModule C :=
  (m.moduleId ≠ "", { m with runtime := runtime, state := .attached })

def start (m : InputClientModule C) : Bool × InputClientModule C :=
  if m.runtime.network.isNone then (false, { m with state := .failed })
  else
    match m.capture.map IInputCapture.openCapture with
    | none => (true, { m with state := .running })
    | some (true, capture) => (true, { m with capture := some capture, state := .running })
    | some (false, capture) =>
      (false, { m with
        capture := some capture
        captureOpenFailures := m.captureOpenFailures + 1
        state := .failed })

def stop (m : InputClientModule C) : InputClientModule C :=
  { m with capture := m.capture.map IInputCapture.close, state := .stopped }

def detach (m : InputClientModule C) : InputClientModule C :=
  { m with state := .detached }

def sendPayload (m : InputClientModule C) (packetType : PacketType)
    (sequence timestampUsec : UInt64) (payload : ByteBuffer) : Bool × InputClientModule C :=
  match m.runtime.network with
  | none => (false, { m with sendFailures := m.sendFailures + 1 })
  | some network =>
    if m.state ≠ .running ∨ payload = [] then
      (false, { m with sendFailures := m.sendFailures + 1 })
    else
      let sent := network.send { makeInputPacket m.runtime packetType with
        sequence := sequence
        monotonicTimestampUsec := timestampUsec
        payload := payload }
      let m := { m with runtime := { m.runtime with network := some sent.2 } }
      if sent.1 ≠ .sent then (false, { m with sendFailures := m.sendFailures + 1 })
      else (true, { m with eventsSent := m.eventsSent + 1 })

def sendMouseEvent (m : InputClientModule C) (event : MouseInputEvent) :
    Bool × InputClientModule C :=
  if m.kind ≠ .mouse then (false, m)
  else m.sendPayload .mouse event.sequence event.monotonicTimestampUsec
    (encodeMouseInputPayload event)

def sendKeyboardEvent (m : InputClientModule C) (event : KeyboardInputEvent) :
    Bool × InputClientModule C :=
  if m.kind ≠ .keyboard then (false, m)
  else m.sendPayload .keyboard event.sequence event.monotonicTimestampUsec
    (encodeKeyboardInputPayload event)

end InputClientModule

/-! ## The agent module -/

/-- `class IInputInjector`. -/
class IInputInjector (J : Type) where
  injectMouse : J → MouseInputEvent → Bool × J
  injectKeyboard : J → KeyboardInputEvent → Bool × J

structure InputAgentModule (J : Type) where
  moduleId : String
  kind : InputModuleKind
  injector : Option J
  state : ModuleState := .created
  eventsReceived : ℕ := 0
  eventsInjected : ℕ := 0
  decodeFailures : ℕ := 0
  injectionFailures : ℕ := 0

namespace InputAgentModule

variable {J : Type} [IInputInjector J]

def attach (m : InputAgentModule J) : Bool × InputAgentModule J :=
  (m.moduleId ≠ "", { m with state := .attached })

def start (m : InputAgentModule J) : Bool × InputAgentModule J :=
  (true, { m with state := .running })

def stop (m : InputAgentModule J) : InputAgentModule J := { m with state := .stopped }

def detach (m : InputAgentModule J) : InputAgentModule J := { m with state := .detached }

/-- The end of `injectMouse` and of `injectKeyboard`: what the injector says, if there is one. -/
def finishInjection (m : InputAgentModule J) (injected : Option (Bool × J)) : InputAgentModule J :=
  match injected with
  | none => { m with injectionFailures := m.injectionFailures + 1 }
  | some (false, injector) =>
    { m with injector := some injector, injectionFailures := m.injectionFailures + 1 }
  | some (true, injector) =>
    { m with injector := some injector, eventsInjected := m.eventsInjected + 1 }

def injectMouse (m : InputAgentModule J) (packet : PacketEnvelope) : InputAgentModule J :=
  let m := { m with eventsReceived := m.eventsReceived + 1 }
  let decoded := decodeInputPayload packet.payload
  if decoded.ok = false ∨ decoded.kind ≠ .mouse then
    { m with decodeFailures := m.decodeFailures + 1 }
  else
    m.finishInjection
      (m.injector.map fun injector => IInputInjector.injectMouse injector decoded.mouse)

def injectKeyboard (m : InputAgentModule J) (packet : PacketEnvelope) : InputAgentModule J :=
  let m := { m with eventsReceived := m.eventsReceived + 1 }
  let decoded := decodeInputPayload packet.payload
  if decoded.ok = false ∨ decoded.kind ≠ .keyboard then
    { m with decodeFailures := m.decodeFailures + 1 }
  else
    m.finishInjection
      (m.injector.map fun injector => IInputInjector.injectKeyboard injector decoded.keyboard)

def handlePacket (m : InputAgentModule J) (packet : PacketEnvelope) : InputAgentModule J :=
  if m.state ≠ .running then m
  else if m.kind = .mouse ∧ packet.packetType = .mouse then m.injectMouse packet
  else if m.kind = .keyboard ∧ packet.packetType = .keyboard then m.injectKeyboard packet
  else m

end InputAgentModule

end Input
end FusionDesk
