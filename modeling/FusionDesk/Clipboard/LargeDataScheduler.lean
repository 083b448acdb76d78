import FusionDesk.Clipboard.Types
import FusionDesk.Network.ChannelRegistry

/-!
# The large data scheduler

`src/modules/clipboard/clipboard_large_data_scheduler.cpp`: the channel that a file range response
takes, and the window that bounds the bytes of such responses the peer has not acknowledged.
-/

namespace FusionDesk
namespace Clipboard

open Protocol Network

def clipboardSmallDataChannelKey : ChannelKey := ⟨ChannelIdValue.smallData, .standard⟩

def clipboardLargeDataChannelKey : ChannelKey := ⟨ChannelIdValue.largeData, .standard⟩

/-! ## The channel of a response -/

structure ClipboardLargeDataScheduleOptions where
  smallDataFallbackBytes : UInt64 := 1024 * 1024
  largeDataWindowBytes : UInt64 := 0
  largeDataInFlightBytes : UInt64 := 0
  deriving DecidableEq, Repr

structure ClipboardLargeDataScheduleResult where
  status : ResponseStatus := .ok
  channel : ChannelKey := clipboardSmallDataChannelKey
  usesLargeData : Bool := false
  message : StdString := []
  deriving DecidableEq, Repr

def ClipboardLargeDataScheduleResult.ok (result : ClipboardLargeDataScheduleResult) : Bool :=
  result.status == .ok

def pressureBlocksBulk (level : PressureLevel) : Bool :=
  level == .congested || level == .closed || level == .failed

def windowBlocksBulk (payloadBytes : UInt64) (options : ClipboardLargeDataScheduleOptions) : Bool :=
  if options.largeDataWindowBytes = 0 then false
  else if options.largeDataInFlightBytes ≥ options.largeDataWindowBytes then true
  else decide (payloadBytes > options.largeDataWindowBytes - options.largeDataInFlightBytes)

/-- `scheduleClipboardBulkResponse`; without a channel registry, `none`. -/
def scheduleClipboardBulkResponse (channels : Option ChannelRegistry) (packet : PacketEnvelope)
    (payloadBytes : UInt64) (options : ClipboardLargeDataScheduleOptions) :
    ClipboardLargeDataScheduleResult :=
  if packet.packetType ≠ .clipboard ∨ packet.priority ≠ .bulk then {}
  else
    match channels with
    | none => {}
    | some channels =>
      let validation := channels.validatePacket { packet with
        channelId := clipboardLargeDataChannelKey.channelId
        channelType := clipboardLargeDataChannelKey.channelType }
      if validation.ok then
        let snapshot :=
          ((channels.find clipboardLargeDataChannelKey).map (·.snapshot)).getD {}
        if pressureBlocksBulk snapshot.pressure.level then {
          status := .backPressure
          message :=
            if snapshot.message = "" then bytesOf "clipboard large_data channel is congested"
            else bytesOf snapshot.message }
        else if windowBlocksBulk payloadBytes options then {
          status := .backPressure
          message := bytesOf "clipboard large_data window is full" }
        else { channel := clipboardLargeDataChannelKey, usesLargeData := true }
      else
        let fallbackBytes :=
          if options.smallDataFallbackBytes = 0 then 1024 * 1024
          else options.smallDataFallbackBytes
        if payloadBytes ≤ fallbackBytes then {}
        else {
          status := validation.responseStatus
          message :=
            if validation.message = "" then
              bytesOf "clipboard large_data channel is unavailable for file content"
            else bytesOf validation.message }

def applyClipboardLargeDataSchedule (schedule : ClipboardLargeDataScheduleResult)
    (packet : PacketEnvelope) : PacketEnvelope :=
  { packet with
    channelId := schedule.channel.channelId
    channelType := schedule.channel.channelType }

def isClipboardLargeDataPacket (packet : PacketEnvelope) : Bool :=
  packet.packetType == .clipboard &&
    packet.channelId == clipboardLargeDataChannelKey.channelId &&
    packet.channelType == clipboardLargeDataChannelKey.channelType

/-! ## The window -/

structure ClipboardLargeDataWindowReserveResult where
  status : ResponseStatus := .failed
  inFlightBytes : UInt64 := 0
  message : StdString := []
  deriving DecidableEq, Repr

def ClipboardLargeDataWindowReserveResult.ok (result : ClipboardLargeDataWindowReserveResult) :
    Bool :=
  result.status == .ok

/-- `class ClipboardLargeDataWindow`. -/
structure ClipboardLargeDataWindow where
  maxInFlightBytes : UInt64 := 0
  inFlightBytes : UInt64 := 0
  reservations : UInt64 := 0
  releasedBytes : UInt64 := 0
  deriving DecidableEq, Repr

def backPressureWindowResult (inFlightBytes : UInt64) : ClipboardLargeDataWindowReserveResult where
  status := .backPressure
  inFlightBytes := inFlightBytes
  message := bytesOf "clipboard large_data window is full"

namespace ClipboardLargeDataWindow

def reserve (window : ClipboardLargeDataWindow) (bytes : UInt64) :
    ClipboardLargeDataWindowReserveResult × ClipboardLargeDataWindow :=
  if window.maxInFlightBytes ≠ 0 ∧ (window.inFlightBytes ≥ window.maxInFlightBytes ∨
      bytes > window.maxInFlightBytes - window.inFlightBytes) then
    (backPressureWindowResult window.inFlightBytes, window)
  else
    ({ status := .ok, inFlightBytes := window.inFlightBytes + bytes },
      { window with
        inFlightBytes := window.inFlightBytes + bytes
        reservations := window.reservations + 1 })

def release (window : ClipboardLargeDataWindow) (bytes : UInt64) : ClipboardLargeDataWindow :=
  let released := if bytes > window.inFlightBytes then window.inFlightBytes else bytes
  { window with
    inFlightBytes := window.inFlightBytes - released
    releasedBytes := window.releasedBytes + released }

end ClipboardLargeDataWindow

end Clipboard
end FusionDesk
