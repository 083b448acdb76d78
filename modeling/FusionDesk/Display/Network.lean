import FusionDesk.Display.Types
import FusionDesk.Module.ScreenSender

/-!
# What the display modules send

The helpers at the top of `display_modules.cpp`.  A module sees of its network what its sends return;
what has gone out is kept with it, in order.
-/

namespace FusionDesk
namespace Display

open Protocol Network
open FusionDesk.Module (screenChannelKey displayControlChannelKey)

/-- A network as a module sees it: what the sends to come return, and the packets that have gone
out. -/
structure Wire where
  returns : ℕ → SendStatus := fun _ => .sent
  sent : List PacketEnvelope := []

def Wire.send (wire : Wire) (packet : PacketEnvelope) : SendStatus × Wire :=
  (wire.returns 0, {
    returns := fun n => wire.returns (n + 1)
    sent := if wire.returns 0 = .sent then wire.sent ++ [packet] else wire.sent })

/-- Of `struct ModuleRuntime`, what the display modules use; `network` stands for the network manager
or, without one, for the network. -/
structure DisplayRuntime where
  sessionId : SessionId := 0
  traceId : TraceId := 0
  network : Option Wire := none

/-- `sendPacket`. -/
def DisplayRuntime.sendPacket (runtime : DisplayRuntime) (packet : PacketEnvelope) :
    SendStatus × DisplayRuntime :=
  match runtime.network with
  | none => (.failed, runtime)
  | some wire => ((wire.send packet).1, { runtime with network := some (wire.send packet).2 })

def makeDisplayPacket (runtime : DisplayRuntime) (packetType : PacketType)
    (messageKind : MessageKind) : PacketEnvelope :=
  let channel := if packetType = .payloadAck then displayControlChannelKey else screenChannelKey
  { sessionId := runtime.sessionId
    traceId := runtime.traceId
    channelId := channel.channelId
    channelType := channel.channelType
    packetType := packetType
    messageKind := messageKind }

def sendStatusToResponseStatus : SendStatus → ResponseStatus
  | .sent => .ok
  | .channelClosed => .channelUnavailable
  | .channelNotFound => .channelUnavailable
  | .backPressure => .backPressure
  | .failed => .failed

end Display
end FusionDesk
