import FusionDesk.Protocol.Types
import Std.Data.ExtTreeMap

/-!
# Channels

`include/fusiondesk/core/network/channel.h`: the key of a channel, what its specification can ask
for, and the result of a send.

An `IChannel` is a virtual interface.  A value of it is an instance, told apart from other
instances of the same key by its number, and what the instance answers belongs to the transport:
`Transport` is the answer of every instance at one moment.
-/

namespace FusionDesk
namespace Network

open Protocol

/-- `struct ChannelKey`. -/
structure ChannelKey where
  channelId : ChannelId := 0
  channelType : ChannelType := .standard
  deriving DecidableEq, Repr

namespace ChannelKey

/-- `operator<`: by channel id, then by channel type. -/
instance : Ord ChannelKey where
  compare a b := (compare a.channelId b.channelId).then
    (compare a.channelType.raw b.channelType.raw)

theorem compare_def (a b : ChannelKey) :
    compare a b = (compare a.channelId b.channelId).then
      (compare a.channelType.raw b.channelType.raw) := rfl

instance : Std.TransOrd ChannelKey :=
  inferInstanceAs (Std.TransCmp (compareLex (compareOn ChannelKey.channelId)
    (compareOn fun key : ChannelKey => key.channelType.raw)))

instance : Std.LawfulEqOrd ChannelKey where
  eq_of_compare := by
    rintro ⟨id, type⟩ ⟨id', type'⟩ h
    rw [compare_def, Ordering.then_eq_eq] at h
    obtain ⟨hid, htype⟩ := h
    obtain rfl : id = id' := Std.LawfulEqOrd.eq_of_compare hid
    have hraw : type.raw = type'.raw := Std.LawfulEqOrd.eq_of_compare htype
    obtain rfl : type = type' := congrArg ChannelType.mk hraw
    rfl

end ChannelKey

inductive SocketClass
  | control
  | realtime
  | bulk
  | auxiliary
  deriving DecidableEq, Repr

inductive ReliabilityMode
  | reliable
  | bestEffort
  deriving DecidableEq, Repr

inductive OrderingMode
  | ordered
  | latestOnly
  | unordered
  deriving DecidableEq, Repr

inductive FlowControlMode
  | none
  | credit
  | pressure
  deriving DecidableEq, Repr

inductive QueuePolicy
  | bounded
  | dropNewest
  | dropOldest
  | keepLatest
  deriving DecidableEq, Repr

inductive ChannelLifecycleState
  | registered
  | bound
  | ready
  | degraded
  | closed
  | failed
  deriving DecidableEq, Repr

inductive PressureLevel
  | healthy
  | buildingQueue
  | congested
  | draining
  | closed
  | failed
  deriving DecidableEq, Repr

structure ChannelPressure where
  level : PressureLevel := .healthy
  queuedPackets : ℕ := 0
  queuedBytes : ℕ := 0
  deriving DecidableEq, Repr

inductive SendStatus
  | sent
  | channelClosed
  | channelNotFound
  | backPressure
  | failed
  deriving DecidableEq, Repr

structure SendResult where
  status : SendStatus := .failed
  message : String := ""
  deriving DecidableEq, Repr

/-- An instance behind `std::shared_ptr<IChannel>`: the number tells it from the other instances. -/
structure IChannel where
  number : ℕ
  id : ChannelId
  type : ChannelType
  deriving DecidableEq, Repr

def IChannel.key (channel : IChannel) : ChannelKey := ⟨channel.id, channel.type⟩

/-- What the channel instances answer at one moment. -/
structure Transport where
  isOpen : IChannel → Bool
  send : IChannel → PacketEnvelope → SendResult

/-- Every instance is open and sends what it is given. -/
def Transport.allOpen : Transport where
  isOpen _ := true
  send _ _ := ⟨.sent, ""⟩

/-- Every instance is closed. -/
def Transport.allClosed : Transport where
  isOpen _ := false
  send _ _ := ⟨.channelClosed, "channel is closed"⟩

/-- `keyOf(packet)`. -/
def keyOf (packet : PacketEnvelope) : ChannelKey := ⟨packet.channelId, packet.channelType⟩

end Network
end FusionDesk
