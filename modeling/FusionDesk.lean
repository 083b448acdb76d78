import FusionDesk.General.AttemptWindow
import FusionDesk.General.BigEndian
import FusionDesk.General.CheckedBuffer
import FusionDesk.General.DepthFirst
import FusionDesk.General.FileSystem
import FusionDesk.General.Lanes
import FusionDesk.General.Precedence
import FusionDesk.General.ReflectedCrc
import FusionDesk.General.Runs
import FusionDesk.General.Stages
import FusionDesk.General.StreamFraming
import FusionDesk.General.TokenTable
import FusionDesk.General.Utf8
import FusionDesk.Protocol.AcceptedFrames
import FusionDesk.Protocol.ByteIO
import FusionDesk.Protocol.Capabilities
import FusionDesk.Protocol.CapabilityNegotiation
import FusionDesk.Protocol.CapabilityPayloadCodec
import FusionDesk.Protocol.CapabilityPayloadRoundTrip
import FusionDesk.Protocol.FrameProtection
import FusionDesk.Protocol.MessageLifecycle
import FusionDesk.Protocol.PacketCodec
import FusionDesk.Protocol.PacketCodecRoundTrip
import FusionDesk.Protocol.PayloadFields
import FusionDesk.Protocol.Types
import FusionDesk.Protocol.Validator
import FusionDesk.Network.Channel
import FusionDesk.Network.ChannelRegistry
import FusionDesk.Network.EgressReadiness
import FusionDesk.Network.EnqueueThenFlush
import FusionDesk.Network.FlushAccounting
import FusionDesk.Network.NetworkManager
import FusionDesk.Network.NetworkManagerRuns
import FusionDesk.Network.PriorityScheduler
import FusionDesk.Network.Rebind
import FusionDesk.Network.RegistryRuns
import FusionDesk.Network.RequestTracker
import FusionDesk.Network.RequestTrackerReentrancy
import FusionDesk.Network.RequestTrackerRuns
import FusionDesk.Network.ResponseClosure
import FusionDesk.Network.SchedulerRuns
import FusionDesk.Network.Subscriptions
import FusionDesk.Network.VideoAdmission
import FusionDesk.Module.BatchStart
import FusionDesk.Module.Composer
import FusionDesk.Module.DependencyStart
import FusionDesk.Module.FeatureModule
import FusionDesk.Module.Host
import FusionDesk.Module.Ingress
import FusionDesk.Module.IngressRuns
import FusionDesk.Module.Manifest
import FusionDesk.Module.Reconnect
import FusionDesk.Module.ScreenSender
import FusionDesk.Session.BindingReport
import FusionDesk.Session.Context
import FusionDesk.Session.Reconnect
import FusionDesk.Session.Session
import FusionDesk.Session.Start
import FusionDesk.Qt.PacketChannel
import FusionDesk.Qt.PacketChannelFraming
import FusionDesk.Display.Agent
import FusionDesk.Display.CaptureSwitch
import FusionDesk.Display.Client
import FusionDesk.Display.ControlCodec
import FusionDesk.Display.EncodedVideo
import FusionDesk.Display.FrameCodec
import FusionDesk.Display.RenderOrder
import FusionDesk.Clipboard.CallFrames
import FusionDesk.Clipboard.CancelIds
import FusionDesk.Clipboard.ClipboardModule
import FusionDesk.Clipboard.ContentGate
import FusionDesk.Clipboard.DragEvents
import FusionDesk.Clipboard.DragSessions
import FusionDesk.Clipboard.FdclAccepted
import FusionDesk.Clipboard.FdclCodec
import FusionDesk.Clipboard.FdclRoundTrip
import FusionDesk.Clipboard.FileDrain
import FusionDesk.Clipboard.FileDrainCalls
import FusionDesk.Clipboard.FileList
import FusionDesk.Clipboard.FileListNames
import FusionDesk.Clipboard.FileListPaths
import FusionDesk.Clipboard.FileListRoundTrip
import FusionDesk.Clipboard.FileWindow
import FusionDesk.Clipboard.FormatGrouping
import FusionDesk.Clipboard.FormatMapper
import FusionDesk.Clipboard.HtmlTranscoder
import FusionDesk.Clipboard.LargeDataScheduler
import FusionDesk.Clipboard.LastResponses
import FusionDesk.Clipboard.Link
import FusionDesk.Clipboard.LinuxFileUris
import FusionDesk.Clipboard.LocalOffers
import FusionDesk.Clipboard.LocalRead
import FusionDesk.Clipboard.LocalReads
import FusionDesk.Clipboard.ModuleCalls
import FusionDesk.Clipboard.OfferRestriction
import FusionDesk.Clipboard.OwnErrors
import FusionDesk.Clipboard.PendingReads
import FusionDesk.Clipboard.ReadMoves
import FusionDesk.Clipboard.RemoteRead
import FusionDesk.Clipboard.ResponseIdentity
import FusionDesk.Clipboard.SentPayloads
import FusionDesk.Clipboard.StoreAtomicity
import FusionDesk.Clipboard.TextRoundTrip
import FusionDesk.Clipboard.TextTranscoder
import FusionDesk.Clipboard.TranscodedContent
import FusionDesk.Clipboard.Transcoder
import FusionDesk.Clipboard.TransferRegistry
import FusionDesk.Clipboard.TransferRegistryRuns
import FusionDesk.Clipboard.Utf16Reading
import FusionDesk.Clipboard.WindowConservation
import FusionDesk.Clipboard.WindowMoves
import FusionDesk.Input.EventDelivery
import FusionDesk.Input.Modules
import FusionDesk.Pc.ClipboardFileSave
import FusionDesk.Pc.SavedFiles
import FusionDesk.Runtime.CaptureFailover
import FusionDesk.Runtime.CaptureRecovery
import FusionDesk.Runtime.ClipboardRemoteReader
import FusionDesk.Runtime.ClipboardRuntimePolicy
import FusionDesk.Runtime.CodecNegotiation
import FusionDesk.Runtime.CodecProfile
import FusionDesk.Runtime.CodecProfileRoundTrip
import FusionDesk.Runtime.CodecScores
import FusionDesk.Runtime.CodecSelection
import FusionDesk.Runtime.ColorConversion
import FusionDesk.Runtime.ControlResponses
import FusionDesk.Runtime.ControlServices
import FusionDesk.Runtime.ModuleInventoryCodec
import FusionDesk.Runtime.PeerProfileCodec
import FusionDesk.Runtime.PeerProfileRoundTrip
import FusionDesk.Runtime.ReconnectCoordinator
import FusionDesk.Runtime.ReconnectPairing
import FusionDesk.Runtime.ReconnectPlan
import FusionDesk.Runtime.RecoveryRuns
import FusionDesk.Runtime.TeardownAck
import FusionDesk.Runtime.TeardownDispatches
import FusionDesk.Runtime.TeardownExact
import FusionDesk.Runtime.TeardownRuns
import FusionDesk.Runtime.TeardownService
import FusionDesk.Runtime.TunnelCandidates
