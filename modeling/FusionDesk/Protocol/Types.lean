import Mathlib.Data.Nat.Notation
import Mathlib.Tactic.Common

/-!
# Protocol types

`include/fusiondesk/core/protocol/protocol_types.h` and `packet_envelope.h`.

The enumerations that travel in a packet header have a fixed underlying type in the source, and
the decoder casts the bits on the wire to them without a check, so a value of such a type is any
value of the underlying type; the enumerators are named values of it.  `ProtocolValidator` is what
tells the named values from the rest.
-/

namespace FusionDesk
namespace Protocol

abbrev ByteBuffer := List UInt8
abbrev ChannelId := UInt16
abbrev SessionId := UInt64
abbrev TraceId := UInt64
abbrev MessageId := UInt64
abbrev PacketFlags := UInt32

def currentProtocolMajor : UInt16 := 1
def currentProtocolMinor : UInt16 := 0

def packetFlagNone : PacketFlags := 0x00000000
def packetFlagResponseRequired : PacketFlags := 0x00000001
def packetFlagNoResponseRequired : PacketFlags := 0x00000002
def packetFlagCoalescable : PacketFlags := 0x00000004
def packetFlagEndOfStream : PacketFlags := 0x00000008
def packetFlagKeyFrame : PacketFlags := 0x00000010

/-- `enum class ChannelType : std::uint16_t`. -/
structure ChannelType where
  raw : UInt16
  deriving DecidableEq, Repr

namespace ChannelType

def standard : ChannelType := ⟨0⟩
def video : ChannelType := ⟨1⟩
def audio : ChannelType := ⟨2⟩
def bulk : ChannelType := ⟨3⟩
def control : ChannelType := ⟨4⟩
def input : ChannelType := ⟨5⟩

end ChannelType

/-- `enum class MessageKind : std::uint16_t`. -/
structure MessageKind where
  raw : UInt16
  deriving DecidableEq, Repr

namespace MessageKind

def event : MessageKind := ⟨0⟩
def request : MessageKind := ⟨1⟩
def response : MessageKind := ⟨2⟩
def ack : MessageKind := ⟨3⟩
def error : MessageKind := ⟨4⟩
def progress : MessageKind := ⟨5⟩
def streamStart : MessageKind := ⟨6⟩
def streamChunk : MessageKind := ⟨7⟩
def streamEnd : MessageKind := ⟨8⟩
def cancel : MessageKind := ⟨9⟩

end MessageKind

/-- `enum class PacketPriority : std::uint8_t`. -/
structure PacketPriority where
  raw : UInt8
  deriving DecidableEq, Repr

namespace PacketPriority

def critical : PacketPriority := ⟨0⟩
def realtime : PacketPriority := ⟨1⟩
def interactive : PacketPriority := ⟨2⟩
def normal : PacketPriority := ⟨3⟩
def bulk : PacketPriority := ⟨4⟩
def background : PacketPriority := ⟨5⟩

end PacketPriority

/-- `enum class ResponseStatus : std::uint16_t`. -/
structure ResponseStatus where
  raw : UInt16
  deriving DecidableEq, Repr

namespace ResponseStatus

def ok : ResponseStatus := ⟨0⟩
def accepted : ResponseStatus := ⟨1⟩
def progress : ResponseStatus := ⟨2⟩
def invalidArgument : ResponseStatus := ⟨100⟩
def unauthorized : ResponseStatus := ⟨101⟩
def deniedByPolicy : ResponseStatus := ⟨102⟩
def unsupported : ResponseStatus := ⟨103⟩
def notFound : ResponseStatus := ⟨104⟩
def conflict : ResponseStatus := ⟨105⟩
def busy : ResponseStatus := ⟨106⟩
def timeout : ResponseStatus := ⟨107⟩
def cancelled : ResponseStatus := ⟨108⟩
def tooLarge : ResponseStatus := ⟨109⟩
def backPressure : ResponseStatus := ⟨110⟩
def channelUnavailable : ResponseStatus := ⟨111⟩
def failed : ResponseStatus := ⟨200⟩
def internalError : ResponseStatus := ⟨201⟩
def protocolError : ResponseStatus := ⟨202⟩

end ResponseStatus

namespace ChannelIdValue

def userAuthMain : ChannelId := 0x0001
def smallData : ChannelId := 0x1001
def desktopAudio : ChannelId := 0x1002
def desktopScreen : ChannelId := 0x1003
def largeData : ChannelId := 0x1004
def microphone : ChannelId := 0x1005
def camera : ChannelId := 0x1006
def filesystem : ChannelId := 0x1007
def printer : ChannelId := 0x1008
def desktopSecondScreen : ChannelId := 0x1009
def gamepad : ChannelId := 0x100a

end ChannelIdValue

/-- `enum class PacketType : std::uint16_t`. -/
structure PacketType where
  raw : UInt16
  deriving DecidableEq, Repr

namespace PacketType

def channelInit : PacketType := ⟨0x0001⟩
def heartbeat : PacketType := ⟨0x0002⟩
def login : PacketType := ⟨0x0010⟩
def mouse : PacketType := ⟨0x0011⟩
def keyboard : PacketType := ⟨0x0012⟩
def audio : PacketType := ⟨0x0013⟩
def video : PacketType := ⟨0x0014⟩
def clientDisconnect : PacketType := ⟨0x0015⟩
def serverDisconnect : PacketType := ⟨0x0016⟩
def control : PacketType := ⟨0x0017⟩
def payloadAck : PacketType := ⟨0x0018⟩
def cursorChange : PacketType := ⟨0x0019⟩
def exchange : PacketType := ⟨0x001a⟩
def clipboard : PacketType := ⟨0x001b⟩
def microphone : PacketType := ⟨0x001c⟩
def filesystem : PacketType := ⟨0x001d⟩
def printer : PacketType := ⟨0x001e⟩
def filesystemControl : PacketType := ⟨0x001f⟩
def filesystemIrp : PacketType := ⟨0x0020⟩
def udpInit : PacketType := ⟨0x0021⟩
def checkLicense : PacketType := ⟨0x0022⟩
def touchscreen : PacketType := ⟨0x0023⟩
def gamepad : PacketType := ⟨0x0024⟩
def watermark : PacketType := ⟨0x0025⟩

end PacketType

/-- `struct PacketEnvelope`. -/
structure PacketEnvelope where
  protocolMajor : UInt16 := currentProtocolMajor
  protocolMinor : UInt16 := currentProtocolMinor
  sessionId : SessionId := 0
  traceId : TraceId := 0
  messageId : MessageId := 0
  correlationId : MessageId := 0
  responseTo : MessageId := 0
  channelId : ChannelId := 0
  channelType : ChannelType := .standard
  packetType : PacketType := .heartbeat
  messageKind : MessageKind := .event
  priority : PacketPriority := .normal
  responseStatus : ResponseStatus := .ok
  sequence : UInt64 := 0
  monotonicTimestampUsec : UInt64 := 0
  timeoutMs : UInt32 := 0
  flags : PacketFlags := packetFlagNone
  payload : ByteBuffer := []
  deriving DecidableEq, Repr

end Protocol
end FusionDesk
