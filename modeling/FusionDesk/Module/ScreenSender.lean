import FusionDesk.Module.FeatureModule
import FusionDesk.Module.Reconnect

/-!
# A module that sends when it resumes

`DisplayAgentModule` under `src/modules/display/display_modules.cpp` sends a key frame from its
resume callback, and a delta frame after it if the key frame went out.  `ScreenSender` does the same
on top of the feature module, with the manifest of the display agent: the frames go through the
network manager of the runtime, by `enqueue` and `flushPacket`.

Its callbacks keep the state of the module, and change the pressure of the screen channel.
-/

namespace FusionDesk
namespace Module

open Protocol Network Session

/-- `catalog::displayScreenAgent()`. -/
def displayScreenAgent : ModuleManifest where
  moduleId := "display.screen.agent"
  feature := 0x0000000000000200
  roleFlags := moduleRoleAgent
  supportedPlatforms := ["windows", "linux", "macos"]
  compatiblePeers := [{ peerModuleId := "display.screen.client"
                        maxPeerVersion := ⟨1, 99, 99⟩
                        compatibilityMode := "v1-family" }]
  channels := [
    { channelId := ChannelIdValue.desktopScreen, channelType := .video, consumes := [.watermark] },
    { channelId := ChannelIdValue.smallData, consumes := [.payloadAck] },
    { channelId := ChannelIdValue.desktopSecondScreen, channelType := .video, required := false
      consumes := [.watermark] }]

def screenChannelKey : ChannelKey := ⟨ChannelIdValue.desktopScreen, .video⟩

def displayControlChannelKey : ChannelKey := ⟨ChannelIdValue.smallData, .standard⟩

def affectsDisplayChannel (options : ModuleReconnectOptions) : Bool :=
  options.affectedChannels.isEmpty || options.affectedChannels.any fun key =>
    key == screenChannelKey || key == displayControlChannelKey

/-- `sendPacket`, with a network manager. -/
def sendPacket (transport : Transport) (network : NetworkManager) (packet : PacketEnvelope) :
    SendResult × NetworkManager :=
  let queued := network.enqueue packet
  if ¬ queued.1.queued then
    let status := if queued.1.status = .dropped ∨ queued.1.pressure.level = .congested then
      SendStatus.backPressure else .failed
    (⟨status, queued.1.message⟩, queued.2)
  else
    let flushed := queued.2.flushPacket transport packet
    (flushed.result, flushed.manager)

/-- A feature module on the screen channel. -/
structure ScreenSender where
  feature : FeatureModule
  /-- What the channel instances answer while its callbacks run. -/
  transport : Transport

namespace ScreenSender

/-- A frame as it comes from the encoder. -/
def frame (keyFrame : Bool) : PacketEnvelope :=
  { channelId := screenChannelKey.channelId
    channelType := screenChannelKey.channelType
    packetType := .video
    messageKind := .event
    priority := .realtime
    flags := if keyFrame then packetFlagNoResponseRequired ||| packetFlagKeyFrame
      else packetFlagNoResponseRequired
    payload := [0] }

def shouldDropFrame (network : NetworkManager) (keyFrame : Bool) : Bool :=
  !keyFrame && (network.registry.find screenChannelKey).any fun entry =>
    entry.snapshot.pressure.level == .congested || entry.snapshot.pressure.level == .draining

/-- `sendFrame`: whether the frame was sent. -/
def sendFrame (sender : ScreenSender) (network : NetworkManager) (keyFrame : Bool) :
    Bool × NetworkManager :=
  if shouldDropFrame network keyFrame then (false, network)
  else
    let result := sendPacket sender.transport network (frame keyFrame)
    (result.1.status == .sent, result.2)

/-- `resumeAfterReconnect`, what it does to the network. -/
def resumeAfterReconnect (sender : ScreenSender) (network : NetworkManager)
    (options : ModuleReconnectOptions) : NetworkManager :=
  if sender.feature.state = .running ∧ options.requestFreshState ∧ affectsDisplayChannel options
  then
    let keyFrame := sender.sendFrame network true
    if keyFrame.1 then (sender.sendFrame keyFrame.2 false).2 else keyFrame.2
  else network

instance : IModule ScreenSender where
  manifest sender := sender.feature.manifest
  state sender := sender.feature.state
  attach sender _ :=
    (sender.feature.attach.1, { sender with feature := sender.feature.attach.2 })
  start sender _ := (sender.feature.start.1, { sender with feature := sender.feature.start.2 })
  stop sender _ := { sender with feature := sender.feature.stop }
  diagnostics sender := sender.feature.diagnostics
  manifest_attach sender session := IModule.manifest_attach sender.feature session
  manifest_start sender options := IModule.manifest_start sender.feature options
  manifest_stop sender options := IModule.manifest_stop sender.feature options
  start_false sender options := IModule.start_false sender.feature options
  state_stop sender options := IModule.state_stop sender.feature options

instance : IReconnectAwareModule ScreenSender where
  reconnectAware _ := true
  pauseForReconnect :=
    { call := fun sender network _ => (sender, network)
      manifest_call := fun _ _ _ => rfl }
  resumeAfterReconnect :=
    { call := fun sender network options =>
        (sender, sender.resumeAfterReconnect network options)
      manifest_call := fun _ _ _ => rfl }
  aware_pause _ _ _ := rfl
  aware_resume _ _ _ := rfl

/-- Both callbacks keep the state of the module. -/
theorem keepsState_pause :
    (IReconnectAwareModule.pauseForReconnect : ReconnectCallback ScreenSender).KeepsState
      fun _ => True :=
  ⟨fun _ _ _ _ => rfl, fun _ _ _ _ => trivial⟩

theorem keepsState_resume :
    (IReconnectAwareModule.resumeAfterReconnect : ReconnectCallback ScreenSender).KeepsState
      fun _ => True :=
  ⟨fun _ _ _ _ => rfl, fun _ _ _ _ => trivial⟩

end ScreenSender

end Module
end FusionDesk
