import FusionDesk.Network.Channel
import FusionDesk.Protocol.Capabilities

/-!
# Module manifests

`include/fusiondesk/core/module/module_manifest.h` and `module_compatibility`: what a module says
about itself, and the check of a peer module's version against it.

The display name, the sale unit, the run modes, the optional modules and the names and produced
packets of a binding are left out: nothing here reads them.
-/

namespace FusionDesk
namespace Module

open Protocol Network

/-- `enum ModuleRole`. -/
def moduleRoleClient : UInt32 := 0x01
def moduleRoleAgent : UInt32 := 0x02
def moduleRoleAuth : UInt32 := 0x04
def moduleRoleBridge : UInt32 := 0x08
def moduleRoleTool : UInt32 := 0x10

structure ChannelBinding where
  channelId : ChannelId := 0
  channelType : ChannelType := .standard
  required : Bool := true
  consumes : List PacketType := []
  deriving DecidableEq, Repr

namespace ChannelBinding

/-- The channel a binding is about. -/
def key (binding : ChannelBinding) : ChannelKey := ⟨binding.channelId, binding.channelType⟩

end ChannelBinding

structure ModuleVersion where
  major : UInt16 := 1
  minor : UInt16 := 0
  patch : UInt16 := 0
  deriving DecidableEq, Repr

structure ModulePeerCompatibility where
  peerModuleId : String := ""
  minPeerVersion : ModuleVersion := {}
  maxPeerVersion : ModuleVersion := {}
  compatibilityMode : String := "native"
  deriving DecidableEq, Repr

structure ModulePeerVersion where
  moduleId : String := ""
  version : ModuleVersion := {}
  compatible : Bool := false
  compatibilityMode : String := ""
  deriving DecidableEq, Repr

structure ModuleManifest where
  moduleId : String := ""
  version : ModuleVersion := {}
  feature : FeatureMask := 0
  roleFlags : UInt32 := 0
  supportedPlatforms : List String := []
  requiredModules : List String := []
  compatiblePeers : List ModulePeerCompatibility := []
  channels : List ChannelBinding := []
  deriving DecidableEq, Repr

/-! ## Versions -/

structure ModuleCompatibilityCheck where
  compatible : Bool := false
  localModuleId : String := ""
  localVersion : ModuleVersion := {}
  peerModuleId : String := ""
  peerVersion : ModuleVersion := {}
  compatibilityMode : String := ""
  message : String := ""
  deriving DecidableEq, Repr

def compareModuleVersion (lhs rhs : ModuleVersion) : Int :=
  if lhs.major ≠ rhs.major then if lhs.major < rhs.major then -1 else 1
  else if lhs.minor ≠ rhs.minor then if lhs.minor < rhs.minor then -1 else 1
  else if lhs.patch ≠ rhs.patch then if lhs.patch < rhs.patch then -1 else 1
  else 0

def moduleVersionInRange (version minimum maximum : ModuleVersion) : Bool :=
  compareModuleVersion minimum version ≤ 0 ∧ compareModuleVersion version maximum ≤ 0

def checkModuleCompatibility (manifest : ModuleManifest) (peerModuleId : String)
    (peerVersion : ModuleVersion) : ModuleCompatibilityCheck :=
  let result : ModuleCompatibilityCheck :=
    { localModuleId := manifest.moduleId
      localVersion := manifest.version
      peerModuleId := peerModuleId
      peerVersion := peerVersion }
  if manifest.moduleId = "" then { result with message := "local module id is empty" }
  else if peerModuleId = "" then { result with message := "peer module id is empty" }
  else
    match manifest.compatiblePeers.find? fun peer => peer.peerModuleId == peerModuleId with
    | none => { result with message := "peer module is not declared as compatible" }
    | some compatibility =>
      let result := { result with compatibilityMode := compatibility.compatibilityMode }
      if ¬ moduleVersionInRange peerVersion compatibility.minPeerVersion
          compatibility.maxPeerVersion then
        { result with message := "peer module version is outside declared range" }
      else
        { result with compatible := true, message := "peer module version is compatible" }

/-! ## Bindings -/

def hasConsumedPackets (manifest : ModuleManifest) : Bool :=
  manifest.channels.any fun binding => ¬ binding.consumes.isEmpty

def channelMatches (binding : ChannelBinding) (key : ChannelKey) : Bool :=
  binding.channelId == key.channelId && binding.channelType == key.channelType

def affectedByReconnect (manifest : ModuleManifest) (channels : List ChannelKey) : Bool :=
  if channels.isEmpty then true
  else manifest.channels.any fun binding => channels.any fun key => channelMatches binding key

end Module
end FusionDesk
