import FusionDesk.Network.ChannelRegistry
import FusionDesk.Network.PriorityScheduler

/-!
# The network manager

`network_router`, `channel_defaults` and `network_manager` under
`include/fusiondesk/core/network/` and `src/core/network/`: the manager holds the registry of the
channels, the scheduler and the router, enqueues the packets the registry passes and flushes them to
the channel instances the router holds.

Of the router this is the sending half, and the socket group is left out.  An operation that asks a
channel instance something is given the `Transport` of the moment, and a flush says, next to the
result it returns, which packet it took and which instance it handed it to.
-/

namespace FusionDesk
namespace Network

open Protocol

/-! ## The router -/

/-- `class NetworkRouter`, its table of channels. -/
structure NetworkRouter where
  channels : Std.ExtTreeMap ChannelKey IChannel := ∅

namespace NetworkRouter

def registerChannel (router : NetworkRouter) (channel : Option IChannel) : Bool × NetworkRouter :=
  match channel with
  | none => (false, router)
  | some channel => (true, { router with channels := router.channels.insert channel.key channel })

def unregisterChannel (router : NetworkRouter) (channelId : ChannelId)
    (channelType : ChannelType) : NetworkRouter :=
  { router with channels := router.channels.erase ⟨channelId, channelType⟩ }

/-- `send`: the result, and the instance the packet was handed to. -/
def send (router : NetworkRouter) (transport : Transport) (packet : PacketEnvelope) :
    SendResult × Option IChannel :=
  match router.channels[keyOf packet]? with
  | none => (⟨.channelNotFound, "channel not found"⟩, none)
  | some channel =>
    if ¬ transport.isOpen channel then (⟨.channelClosed, "channel is closed"⟩, none)
    else (transport.send channel packet, some channel)

end NetworkRouter

/-! ## The defaults -/

def makeControlSpec : ChannelSpec where
  key := ⟨ChannelIdValue.userAuthMain, .control⟩
  name := "control"
  socketClass := .control
  defaultPriority := .critical
  reliability := .reliable
  ordering := .ordered
  flowControl := .pressure
  queuePolicy := .bounded
  allowlist := [.channelInit, .heartbeat, .login, .control, .exchange, .checkLicense]
  ownerModuleId := "network.control"
  required := true

def makeSmallDataSpec : ChannelSpec where
  key := ⟨ChannelIdValue.smallData, .standard⟩
  name := "small_data"
  socketClass := .auxiliary
  defaultPriority := .normal
  reliability := .reliable
  ordering := .ordered
  flowControl := .pressure
  queuePolicy := .bounded
  allowlist := [.payloadAck, .mouse, .keyboard, .touchscreen, .gamepad, .clipboard,
    .filesystemControl, .printer, .control]
  ownerModuleId := "network.small_data"
  required := true

def makeMainScreenSpec : ChannelSpec where
  key := ⟨ChannelIdValue.desktopScreen, .video⟩
  name := "main_screen"
  socketClass := .realtime
  defaultPriority := .realtime
  reliability := .bestEffort
  ordering := .latestOnly
  flowControl := .pressure
  queuePolicy := .keepLatest
  allowlist := [.video, .payloadAck, .cursorChange, .watermark]
  ownerModuleId := "display.screen"
  required := true

def defaultMvpChannelSpecs : List ChannelSpec :=
  [makeControlSpec, makeSmallDataSpec, makeMainScreenSpec]

def isBulkPacket (packetType : PacketType) : Bool :=
  packetType == .filesystem || packetType == .filesystemIrp || packetType == .printer

def defaultSendOptions (packet : PacketEnvelope) : SendOptions :=
  if packet.packetType = .heartbeat ∨ packet.packetType = .channelInit ∨
      packet.packetType = .exchange then
    { priority := .critical, dropPolicy := .none, maxQueueDepth := 256 }
  else if packet.packetType = .video then
    { priority := .realtime, dropPolicy := .keepLatestNonKeyFrame, maxQueueDepth := 2 }
  else if packet.packetType = .clipboard ∧ packet.priority = .bulk then
    { priority := .bulk, dropPolicy := .none, maxQueueDepth := 512 }
  else if packet.packetType = .payloadAck ∨ packet.packetType = .mouse ∨
      packet.packetType = .keyboard ∨ packet.packetType = .clipboard ∨
      packet.packetType = .touchscreen ∨ packet.packetType = .gamepad then
    { priority := .interactive, dropPolicy := .none, maxQueueDepth := 1024 }
  else if isBulkPacket packet.packetType then
    { priority := .bulk, dropPolicy := .none, maxQueueDepth := 512 }
  else
    { priority := .normal, dropPolicy := .none, maxQueueDepth := 1024 }

/-! ## The manager -/

/-- `class NetworkManager`. -/
structure NetworkManager where
  registry : ChannelRegistry
  scheduler : PriorityScheduler := {}
  router : NetworkRouter := {}

/-- What a flush returns and does. -/
structure Flush where
  result : SendResult
  /-- The packet taken from the scheduler and passed to the router. -/
  packet : Option PacketEnvelope
  /-- The channel instance whose `send` was called with it. -/
  sentTo : Option IChannel
  manager : NetworkManager

namespace NetworkManager

/-- The constructor. -/
def make (capabilities : NegotiatedCapabilities) : NetworkManager :=
  { registry := { capabilities := capabilities } }

def registerSpec (manager : NetworkManager) (spec : ChannelSpec) :
    ChannelRegistryResult × NetworkManager :=
  let result := manager.registry.registerSpec spec
  (result.1, { manager with registry := result.2 })

def registerDefaultMvpChannels (manager : NetworkManager) : NetworkManager :=
  defaultMvpChannelSpecs.foldl (fun manager spec => (manager.registerSpec spec).2) manager

def bindChannel (manager : NetworkManager) (channel : Option IChannel) :
    ChannelRegistryResult × NetworkManager :=
  match channel with
  | none => (.failed .invalidArgument .invalidArgument "channel instance is required", manager)
  | some channel =>
    let result := manager.registry.bind channel.key (some channel)
    if ¬ result.1.ok then (result.1, { manager with registry := result.2 })
    else
      (.success, { manager with
        registry := result.2
        router := (manager.router.registerChannel (some channel)).2 })

def markReady (manager : NetworkManager) (transport : Transport) (key : ChannelKey)
    (ready : ChannelReadyInfo) : ChannelRegistryResult × NetworkManager :=
  let result := manager.registry.markReady transport key ready
  (result.1, { manager with registry := result.2 })

def markDegraded (manager : NetworkManager) (key : ChannelKey) (reason : String) :
    ChannelRegistryResult × NetworkManager :=
  let result := manager.registry.markDegraded key reason
  (result.1, { manager with registry := result.2 })

def rebindChannel (manager : NetworkManager) (transport : Transport) (channel : Option IChannel)
    (ready : ChannelReadyInfo) : ChannelRegistryResult × NetworkManager :=
  match channel with
  | none => (.failed .invalidArgument .invalidArgument "channel instance is required", manager)
  | some channel =>
    let result := manager.registry.bind channel.key (some channel)
    if ¬ result.1.ok then (result.1, { manager with registry := result.2 })
    else
      let marked := result.2.markReady transport channel.key ready
      (marked.1, { manager with
        registry := marked.2
        router := (manager.router.registerChannel (some channel)).2 })

def enqueue (manager : NetworkManager) (packet : PacketEnvelope) :
    EnqueueResult × NetworkManager :=
  let validation := manager.registry.validatePacket packet
  if ¬ validation.ok then ({ status := .rejected, message := validation.message }, manager)
  else
    let result := manager.scheduler.enqueue packet (defaultSendOptions packet)
    (result.1, { manager with
      scheduler := result.2
      registry := (manager.registry.updatePressure (keyOf packet) result.1.pressure).2 })

/-- The end of a flush: the packet has left the scheduler and goes to the router. -/
def sendTaken (manager : NetworkManager) (transport : Transport) (packet : PacketEnvelope)
    (scheduler : PriorityScheduler) : Flush :=
  let key := keyOf packet
  let sent := manager.router.send transport packet
  { result := sent.1
    packet := some packet
    sentTo := sent.2
    manager := { manager with
      scheduler := scheduler
      registry := (manager.registry.updatePressure key (scheduler.pressure key)).2 } }

def flushNext (manager : NetworkManager) (transport : Transport) : Flush :=
  match manager.scheduler.nextPacket with
  | (none, scheduler) =>
    { result := ⟨.failed, "scheduler queue is empty"⟩
      packet := none
      sentTo := none
      manager := { manager with scheduler := scheduler } }
  | (some packet, scheduler) => manager.sendTaken transport packet scheduler

/-- The two lookups of `flushPacket`. -/
def takeQueued (scheduler : PriorityScheduler) (packet : PacketEnvelope) :
    Option PacketEnvelope × PriorityScheduler :=
  match scheduler.takePacket packet with
  | (some queued, after) => (some queued, after)
  | (none, after) =>
    after.takePacket { packet with priority := (defaultSendOptions packet).priority }

def flushPacket (manager : NetworkManager) (transport : Transport) (packet : PacketEnvelope) :
    Flush :=
  match takeQueued manager.scheduler packet with
  | (none, scheduler) =>
    { result := ⟨.failed, "packet is not queued"⟩
      packet := none
      sentTo := none
      manager := { manager with scheduler := scheduler } }
  | (some queued, scheduler) => manager.sendTaken transport queued scheduler

end NetworkManager
end Network
end FusionDesk
