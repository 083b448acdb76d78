import FusionDesk.Protocol.Types
import Mathlib.Data.Rat.Defs

/-!
# Clipboard types

`include/fusiondesk/modules/clipboard/clipboard_types.h` and the request and result records of
`clipboard_transfer.h`.

A `std::string` is a run of bytes here, since its size is what every limit of the module is about;
`bytesOf` is the run a literal of the source stands for.  The enumerations that travel in a payload
are any value of their underlying type, as in `Protocol.Types`.  A `double` that is a scale is the
rational number it stands for.

A source is an object behind an interface, and what it answers may change from call to call, so its
answers depend on the `Moment` of the call; a run of the module is any sequence of moments.  The
field `createdMonotonicUsec` of a bundle is left out, since nothing of the module reads it.
-/

namespace FusionDesk
namespace Clipboard

open Protocol

/-- `std::string`. -/
abbrev StdString := List UInt8

/-- The bytes of a literal. -/
def bytesOf (text : String) : StdString :=
  text.toList.map fun c => UInt8.ofNat c.toNat

abbrev TransferBundleId := UInt64
abbrev TransferOfferId := UInt64
abbrev TransferSourceId := UInt64
abbrev TransferFormatId := UInt64
abbrev TransferObjectId := UInt64
abbrev TransferObjectLockId := UInt64
abbrev DragSessionId := UInt64
abbrev PolicyVersion := UInt64

/-- When a source is asked. -/
abbrev Moment := ℕ

def textPlainUtf8Format : StdString := bytesOf "text/plain;charset=utf-8"
def textHtmlFormat : StdString := bytesOf "text/html"
def textRtfFormat : StdString := bytesOf "text/rtf"
def imagePngFormat : StdString := bytesOf "image/png"
def imageDibFormat : StdString := bytesOf "image/x-dib"
def fdclFileListFormat : StdString := bytesOf "application/x-fdcl-file-list"

/-! ## Enumerations -/

/-- `enum class TransferOrigin : std::uint16_t`. -/
structure TransferOrigin where
  raw : UInt16
  deriving DecidableEq, Repr

namespace TransferOrigin

def clipboard : TransferOrigin := ⟨1⟩
def drag : TransferOrigin := ⟨2⟩
def drop : TransferOrigin := ⟨3⟩
def remoteOffer : TransferOrigin := ⟨4⟩

end TransferOrigin

/-- `enum class TransferSide : std::uint16_t`. -/
structure TransferSide where
  raw : UInt16
  deriving DecidableEq, Repr

namespace TransferSide

def localSide : TransferSide := ⟨1⟩
def remote : TransferSide := ⟨2⟩

end TransferSide

/-- `enum class TransferEncodingMode : std::uint16_t`. -/
structure TransferEncodingMode where
  raw : UInt16
  deriving DecidableEq, Repr

namespace TransferEncodingMode

def canonicalBytes : TransferEncodingMode := ⟨1⟩
def nativePassthrough : TransferEncodingMode := ⟨2⟩
def transcoded : TransferEncodingMode := ⟨3⟩

end TransferEncodingMode

/-- `enum class TransferAction : std::uint16_t`. -/
structure TransferAction where
  raw : UInt16
  deriving DecidableEq, Repr

namespace TransferAction

def none : TransferAction := ⟨0⟩
def copy : TransferAction := ⟨1⟩
def move : TransferAction := ⟨2⟩
def link : TransferAction := ⟨3⟩

end TransferAction

abbrev TransferActionSet := UInt32

def transferActionCopy : TransferActionSet := 0x00000001

/-- `enum class TransferSourceKind : std::uint16_t`. -/
structure TransferSourceKind where
  raw : UInt16
  deriving DecidableEq, Repr

namespace TransferSourceKind

def unknown : TransferSourceKind := ⟨0⟩
def text : TransferSourceKind := ⟨1⟩
def image : TransferSourceKind := ⟨2⟩
def fileList : TransferSourceKind := ⟨3⟩
def custom : TransferSourceKind := ⟨4⟩
def mixed : TransferSourceKind := ⟨5⟩

end TransferSourceKind

/-- `enum class DragCoordinateSpace : std::uint16_t`. -/
structure DragCoordinateSpace where
  raw : UInt16
  deriving DecidableEq, Repr

namespace DragCoordinateSpace

def remoteLogical : DragCoordinateSpace := ⟨1⟩
def remotePhysical : DragCoordinateSpace := ⟨2⟩
def localLogical : DragCoordinateSpace := ⟨3⟩
def localPhysical : DragCoordinateSpace := ⟨4⟩

end DragCoordinateSpace

/-- `enum class DragCancelReason : std::uint16_t`. -/
structure DragCancelReason where
  raw : UInt16
  deriving DecidableEq, Repr

namespace DragCancelReason

def unknown : DragCancelReason := ⟨0⟩
def userCancelled : DragCancelReason := ⟨1⟩
def sourceLost : DragCancelReason := ⟨2⟩
def dropFailed : DragCancelReason := ⟨3⟩
def policyDenied : DragCancelReason := ⟨4⟩
def timeout : DragCancelReason := ⟨5⟩

end DragCancelReason

/-! ## Presentation and drag records -/

structure IconRepresentation where
  format : StdString := []
  width : UInt32 := 0
  height : UInt32 := 0
  bytes : UInt64 := 0
  sensitive : Bool := false
  deriving DecidableEq, Repr

structure DragImage where
  format : StdString := []
  width : UInt32 := 0
  height : UInt32 := 0
  scale : ℚ := 1
  hotspotX : Int32 := 0
  hotspotY : Int32 := 0
  generatedPreview : Bool := false
  sensitive : Bool := false
  deriving DecidableEq

structure DragSurfaceCoordinate where
  coordinateSpace : DragCoordinateSpace := .remoteLogical
  x : Int32 := 0
  y : Int32 := 0
  surfaceWidth : UInt32 := 0
  surfaceHeight : UInt32 := 0
  scale : ℚ := 1
  deriving DecidableEq

structure DragSessionStart where
  dragSessionId : DragSessionId := 0
  bundleId : TransferBundleId := 0
  offerId : TransferOfferId := 0
  ownerEpoch : UInt64 := 0
  allowedActions : TransferActionSet := transferActionCopy
  preferredAction : TransferAction := .copy
  start : DragSurfaceCoordinate := {}
  deriving DecidableEq

structure TransferPresentation where
  displayName : StdString := []
  itemCount : UInt32 := 0
  sourceKind : TransferSourceKind := .unknown
  icons : List IconRepresentation := []
  dragImage : Option DragImage := none
  allowedActions : TransferActionSet := transferActionCopy
  preferredAction : TransferAction := .copy
  previewAllowedByPolicy : Bool := false
  deriving DecidableEq

/-! ## Sources and bundles -/

structure TransferFormatDescriptor where
  canonicalFormat : StdString := []
  nativeFormatName : StdString := []
  localFormatToken : UInt32 := 0
  formatId : TransferFormatId := 0
  itemIndex : UInt32 := 0
  estimatedBytes : UInt64 := 0
  canInline : Bool := true
  canStream : Bool := false
  preferredEncoding : TransferEncodingMode := .canonicalBytes
  deriving DecidableEq, Repr

structure TransferReadRequest where
  bundleId : TransferBundleId := 0
  offerId : TransferOfferId := 0
  ownerEpoch : UInt64 := 0
  sourceId : TransferSourceId := 0
  itemIndex : UInt32 := 0
  formatId : TransferFormatId := 0
  localFormatToken : UInt32 := 0
  canonicalFormat : StdString := []
  acceptedMaxBytes : UInt64 := 0
  streamAccepted : Bool := false
  requestedEncoding : TransferEncodingMode := .canonicalBytes
  deriving DecidableEq, Repr

structure TransferReadResult where
  status : ResponseStatus := .failed
  canonicalFormat : StdString := []
  encoding : TransferEncodingMode := .canonicalBytes
  bytes : ByteBuffer := []
  message : StdString := []
  deriving DecidableEq, Repr

def TransferReadResult.ok (result : TransferReadResult) : Bool :=
  result.status == .ok

structure TransferFileRangeRequest where
  bundleId : TransferBundleId := 0
  offerId : TransferOfferId := 0
  ownerEpoch : UInt64 := 0
  sourceId : TransferSourceId := 0
  objectId : TransferObjectId := 0
  fileIndex : UInt32 := 0
  offset : UInt64 := 0
  requestedBytes : UInt64 := 0
  deriving DecidableEq, Repr

structure TransferFileRangeResult where
  status : ResponseStatus := .failed
  bytes : ByteBuffer := []
  endOfFile : Bool := false
  message : StdString := []
  deriving DecidableEq, Repr

def TransferFileRangeResult.ok (result : TransferFileRangeResult) : Bool :=
  result.status == .ok

/-- `class TransferSource`, by what it answers.  The last field is there if the source is an
`ITransferFileContentProvider` as well. -/
structure TransferSource where
  id : TransferSourceId
  formats : Moment → List TransferFormatDescriptor
  read : Moment → TransferReadRequest → TransferReadResult
  readFileRange : Option (Moment → TransferFileRangeRequest → TransferFileRangeResult) := none

/-- `struct TransferSourceBundle`; an entry of `sources` may be a null pointer. -/
structure TransferSourceBundle where
  bundleId : TransferBundleId := 0
  offerId : TransferOfferId := 0
  ownerEpoch : UInt64 := 0
  sequence : UInt64 := 0
  origin : TransferOrigin := .clipboard
  side : TransferSide := .localSide
  originSessionId : SessionId := 0
  policyVersion : PolicyVersion := 0
  sources : List (Option TransferSource) := []
  presentation : Option TransferPresentation := none

/-- `class RemoteFdclTransferSource`: it names the formats of a remote offer and reads nothing. -/
def remoteFdclTransferSource (sourceId : TransferSourceId)
    (formats : List TransferFormatDescriptor) : TransferSource where
  id := sourceId
  formats _ := formats
  read _ _ := {
    status := .unsupported
    message := bytesOf "remote FDCL source requires module-mediated read" }

/-! ## Object locks -/

structure TransferObjectLockRequest where
  bundleId : TransferBundleId := 0
  offerId : TransferOfferId := 0
  ownerEpoch : UInt64 := 0
  sourceId : TransferSourceId := 0
  objectId : TransferObjectId := 0
  fileIndex : UInt32 := 0
  lockId : TransferObjectLockId := 0
  leaseUsec : UInt64 := 0
  deriving DecidableEq, Repr

structure TransferObjectLockResult where
  status : ResponseStatus := .failed
  lockId : TransferObjectLockId := 0
  leaseUsec : UInt64 := 0
  message : StdString := []
  deriving DecidableEq, Repr

def TransferObjectLockResult.ok (result : TransferObjectLockResult) : Bool :=
  result.status == .ok

/-- `struct TransferSourceLookup`. -/
structure TransferSourceLookup where
  status : ResponseStatus := .notFound
  message : StdString := []
  bundle : TransferSourceBundle := {}
  source : Option TransferSource := none

def TransferSourceLookup.found (lookup : TransferSourceLookup) : Bool :=
  lookup.status == .ok && lookup.source.isSome

end Clipboard
end FusionDesk
