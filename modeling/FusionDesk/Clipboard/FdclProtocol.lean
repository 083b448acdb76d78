import FusionDesk.Clipboard.Types

/-!
# FDCL messages

`include/fusiondesk/modules/clipboard/protocol.h`: what two clipboard modules say to each other, and
`FdclDecodeResult` of `fdcl_codec.h`.
-/

namespace FusionDesk
namespace Clipboard

open Protocol

/-- `enum class FdclOperation : std::uint16_t`. -/
structure FdclOperation where
  raw : UInt16
  deriving DecidableEq, Repr

namespace FdclOperation

def unknown : FdclOperation := ⟨0⟩
def capabilities : FdclOperation := ⟨1⟩
def formatList : FdclOperation := ⟨2⟩
def readFormatRequest : FdclOperation := ⟨3⟩
def readFormatResponse : FdclOperation := ⟨4⟩
def cancel : FdclOperation := ⟨5⟩
def errorDetail : FdclOperation := ⟨6⟩
def fileRangeRequest : FdclOperation := ⟨7⟩
def fileRangeResponse : FdclOperation := ⟨8⟩
def dragStart : FdclOperation := ⟨9⟩
def dragMove : FdclOperation := ⟨10⟩
def dragDrop : FdclOperation := ⟨11⟩
def dragCancel : FdclOperation := ⟨12⟩
def lockObject : FdclOperation := ⟨13⟩
def unlockObject : FdclOperation := ⟨14⟩

end FdclOperation

/-- `enum class FdclCancelReason : std::uint16_t`. -/
structure FdclCancelReason where
  raw : UInt16
  deriving DecidableEq, Repr

namespace FdclCancelReason

def unknown : FdclCancelReason := ⟨0⟩
def userCancelled : FdclCancelReason := ⟨1⟩
def timeout : FdclCancelReason := ⟨2⟩
def staleOffer : FdclCancelReason := ⟨3⟩
def channelLost : FdclCancelReason := ⟨4⟩
def policyRevoked : FdclCancelReason := ⟨5⟩
def replacedByNewOffer : FdclCancelReason := ⟨6⟩

end FdclCancelReason

structure FdclCapabilities where
  protocolMajor : UInt16 := 1
  protocolMinor : UInt16 := 0
  maxInlineBytes : UInt64 := 0
  maxStreamBytes : UInt64 := 0
  supportedActions : TransferActionSet := transferActionCopy
  supportsStreams : Bool := false
  supportsNativePassthrough : Bool := true
  supportsPresentationMetadata : Bool := false
  supportsDrag : Bool := false
  canonicalFormats : List StdString := []
  deriving DecidableEq, Repr

structure FdclFormatRecord where
  sourceId : TransferSourceId := 0
  itemIndex : UInt32 := 0
  formatId : TransferFormatId := 0
  localFormatToken : UInt32 := 0
  estimatedBytes : UInt64 := 0
  canInline : Bool := true
  canStream : Bool := false
  preferredEncoding : TransferEncodingMode := .canonicalBytes
  canonicalFormat : StdString := []
  nativeFormatName : StdString := []
  deriving DecidableEq, Repr

structure FdclFormatList where
  bundleId : TransferBundleId := 0
  offerId : TransferOfferId := 0
  ownerEpoch : UInt64 := 0
  sequence : UInt64 := 0
  origin : TransferOrigin := .clipboard
  side : TransferSide := .localSide
  originSessionId : SessionId := 0
  policyVersion : PolicyVersion := 0
  formats : List FdclFormatRecord := []
  presentation : Option TransferPresentation := none
  deriving DecidableEq

structure FdclReadFormatRequest where
  bundleId : TransferBundleId := 0
  offerId : TransferOfferId := 0
  ownerEpoch : UInt64 := 0
  sourceId : TransferSourceId := 0
  itemIndex : UInt32 := 0
  formatId : TransferFormatId := 0
  localFormatToken : UInt32 := 0
  acceptedMaxBytes : UInt64 := 0
  streamAccepted : Bool := false
  requestedEncoding : TransferEncodingMode := .canonicalBytes
  canonicalFormat : StdString := []
  deriving DecidableEq, Repr

structure FdclReadFormatResponse where
  bundleId : TransferBundleId := 0
  offerId : TransferOfferId := 0
  ownerEpoch : UInt64 := 0
  sourceId : TransferSourceId := 0
  itemIndex : UInt32 := 0
  formatId : TransferFormatId := 0
  encoding : TransferEncodingMode := .canonicalBytes
  canonicalFormat : StdString := []
  bytes : ByteBuffer := []
  deriving DecidableEq, Repr

structure FdclErrorDetail where
  status : ResponseStatus := .failed
  message : StdString := []
  deriving DecidableEq, Repr

structure FdclFileRangeRequest where
  bundleId : TransferBundleId := 0
  offerId : TransferOfferId := 0
  ownerEpoch : UInt64 := 0
  sourceId : TransferSourceId := 0
  objectId : TransferObjectId := 0
  fileIndex : UInt32 := 0
  offset : UInt64 := 0
  requestedBytes : UInt64 := 0
  deriving DecidableEq, Repr

structure FdclFileRangeResponse where
  bundleId : TransferBundleId := 0
  offerId : TransferOfferId := 0
  ownerEpoch : UInt64 := 0
  sourceId : TransferSourceId := 0
  objectId : TransferObjectId := 0
  fileIndex : UInt32 := 0
  offset : UInt64 := 0
  endOfFile : Bool := false
  bytes : ByteBuffer := []
  deriving DecidableEq, Repr

structure FdclObjectLock where
  bundleId : TransferBundleId := 0
  offerId : TransferOfferId := 0
  ownerEpoch : UInt64 := 0
  sourceId : TransferSourceId := 0
  objectId : TransferObjectId := 0
  fileIndex : UInt32 := 0
  lockId : TransferObjectLockId := 0
  leaseUsec : UInt64 := 0
  deriving DecidableEq, Repr

structure FdclDragStart where
  start : DragSessionStart := {}
  deriving DecidableEq

structure FdclDragMove where
  dragSessionId : DragSessionId := 0
  point : DragSurfaceCoordinate := {}
  proposedAction : TransferAction := .copy
  deriving DecidableEq

structure FdclDragDrop where
  dragSessionId : DragSessionId := 0
  point : DragSurfaceCoordinate := {}
  proposedAction : TransferAction := .copy
  deriving DecidableEq

structure FdclDragCancel where
  dragSessionId : DragSessionId := 0
  reason : DragCancelReason := .unknown
  deriving DecidableEq, Repr

structure FdclCancel where
  correlationId : MessageId := 0
  bundleId : TransferBundleId := 0
  offerId : TransferOfferId := 0
  ownerEpoch : UInt64 := 0
  sourceId : TransferSourceId := 0
  formatId : TransferFormatId := 0
  reason : FdclCancelReason := .unknown
  message : StdString := []
  deriving DecidableEq, Repr

/-- `struct FdclDecodeResult`. -/
structure FdclDecodeResult where
  ok : Bool := false
  operation : FdclOperation := .unknown
  error : String := ""
  capabilities : FdclCapabilities := {}
  formatList : FdclFormatList := {}
  readRequest : FdclReadFormatRequest := {}
  readResponse : FdclReadFormatResponse := {}
  errorDetail : FdclErrorDetail := {}
  fileRangeRequest : FdclFileRangeRequest := {}
  fileRangeResponse : FdclFileRangeResponse := {}
  objectLock : FdclObjectLock := {}
  dragStart : FdclDragStart := {}
  dragMove : FdclDragMove := {}
  dragDrop : FdclDragDrop := {}
  dragCancel : FdclDragCancel := {}
  cancel : FdclCancel := {}
  deriving DecidableEq

end Clipboard
end FusionDesk
