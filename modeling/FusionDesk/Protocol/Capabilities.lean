import FusionDesk.Protocol.Types

/-!
# Capabilities

`include/fusiondesk/core/protocol/feature_flags.h` and the records of `capability_negotiation.h`:
what a peer offers, and what two peers have agreed on.  The payload codec carries the first between
the peers, and the negotiation makes the second out of two of the first.
-/

namespace FusionDesk
namespace Protocol

abbrev FeatureMask := UInt64

structure FeatureSet where
  bits : FeatureMask := 0
  deriving DecidableEq, Repr

namespace FeatureSet

def has (set : FeatureSet) (feature : FeatureMask) : Bool := set.bits &&& feature = feature

def enable (set : FeatureSet) (feature : FeatureMask) : FeatureSet := ⟨set.bits ||| feature⟩

end FeatureSet

structure ProtocolLimits where
  maxPayloadBytes : UInt32 := 16 * 1024 * 1024
  maxStreamChunkBytes : UInt32 := 1024 * 1024
  minRequestTimeoutMs : UInt32 := 100
  defaultRequestTimeoutMs : UInt32 := 5000
  maxRequestTimeoutMs : UInt32 := 30000
  maxChannels : UInt16 := 16
  maxPendingRequests : UInt32 := 4096
  deriving DecidableEq, Repr

structure ProtocolCapabilities where
  protocolMajor : UInt16 := currentProtocolMajor
  protocolMinor : UInt16 := currentProtocolMinor
  features : FeatureSet := {}
  channelTypes : List ChannelType := []
  packetTypes : List PacketType := []
  messageKinds : List MessageKind := []
  limits : ProtocolLimits := {}
  directTunnelSupported : Bool := false
  deriving DecidableEq, Repr

structure NegotiatedCapabilities where
  protocolMajor : UInt16 := currentProtocolMajor
  protocolMinor : UInt16 := currentProtocolMinor
  features : FeatureSet := {}
  channelTypes : List ChannelType := []
  packetTypes : List PacketType := []
  messageKinds : List MessageKind := []
  limits : ProtocolLimits := {}
  directTunnelEnabled : Bool := false
  deriving DecidableEq, Repr

end Protocol
end FusionDesk
