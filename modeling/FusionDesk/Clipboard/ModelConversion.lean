import FusionDesk.Clipboard.FdclProtocol
import Std.Data.ExtTreeMap

/-!
# Bundles and format lists

`src/modules/clipboard/fdcl_model_conversion.cpp`: the format list that announces a bundle, the
bundle that stands for a format list of the peer, and the read request behind a message.
-/

namespace FusionDesk
namespace Clipboard

open Protocol

/-- The record of one format of a source. -/
def formatRecordOf (source : TransferSource) (descriptor : TransferFormatDescriptor) :
    FdclFormatRecord where
  sourceId := source.id
  itemIndex := descriptor.itemIndex
  formatId := descriptor.formatId
  localFormatToken := descriptor.localFormatToken
  estimatedBytes := descriptor.estimatedBytes
  canInline := descriptor.canInline
  canStream := descriptor.canStream
  preferredEncoding := descriptor.preferredEncoding
  canonicalFormat := descriptor.canonicalFormat
  nativeFormatName := descriptor.nativeFormatName

def makeFormatListFromBundle (now : Moment) (bundle : TransferSourceBundle) :
    FdclFormatList where
  bundleId := bundle.bundleId
  offerId := bundle.offerId
  ownerEpoch := bundle.ownerEpoch
  sequence := bundle.sequence
  origin := bundle.origin
  side := bundle.side
  originSessionId := bundle.originSessionId
  policyVersion := bundle.policyVersion
  presentation := bundle.presentation
  formats := bundle.sources.reduceOption.flatMap fun source =>
    (source.formats now).map (formatRecordOf source)

/-- The format that a record stands for. -/
def descriptorOf (record : FdclFormatRecord) : TransferFormatDescriptor where
  canonicalFormat := record.canonicalFormat
  nativeFormatName := record.nativeFormatName
  localFormatToken := record.localFormatToken
  formatId := record.formatId
  itemIndex := record.itemIndex
  estimatedBytes := record.estimatedBytes
  canInline := record.canInline
  canStream := record.canStream
  preferredEncoding := record.preferredEncoding

/-- The map `bySource`: the formats of each source id, in the order of the records. -/
def formatsBySource (formats : List FdclFormatRecord) :
    Std.ExtTreeMap TransferSourceId (List TransferFormatDescriptor) :=
  formats.foldl
    (fun bySource record =>
      bySource.insert record.sourceId
        ((bySource[record.sourceId]?).getD [] ++ [descriptorOf record])) ∅

/-- `makeRemoteBundleFromFormatList`: one source for each source id, in the order of the map. -/
def makeRemoteBundleFromFormatList (list : FdclFormatList) : TransferSourceBundle where
  bundleId := list.bundleId
  offerId := list.offerId
  ownerEpoch := list.ownerEpoch
  sequence := list.sequence
  origin := .remoteOffer
  side := .remote
  originSessionId := list.originSessionId
  policyVersion := list.policyVersion
  presentation := list.presentation
  sources := (formatsBySource list.formats).toList.map fun item =>
    some (remoteFdclTransferSource item.1 item.2)

def makeTransferReadRequest (request : FdclReadFormatRequest) : TransferReadRequest where
  bundleId := request.bundleId
  offerId := request.offerId
  ownerEpoch := request.ownerEpoch
  sourceId := request.sourceId
  itemIndex := request.itemIndex
  formatId := request.formatId
  localFormatToken := request.localFormatToken
  canonicalFormat := request.canonicalFormat
  acceptedMaxBytes := request.acceptedMaxBytes
  streamAccepted := request.streamAccepted
  requestedEncoding := request.requestedEncoding

end Clipboard
end FusionDesk
