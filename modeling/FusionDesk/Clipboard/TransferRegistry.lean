import FusionDesk.Clipboard.FileList
import FusionDesk.General.FirstMatch

/-!
# The transfer source registry

`InMemoryTransferSourceRegistry` of `src/modules/clipboard/clipboard_transfer_registry.cpp`.

An entry is a bundle with the locks that a peer holds on its files.  A bundle that is replaced or
cleared while a file of it is locked stays as a retired entry until the last lock goes.  The id of a
lock comes from the request, or from a counter of the registry if the request has none; the counter
starts at one and skips zero when it wraps.

The loops that look for the entry of an offer stop at the first one, so they are `updateFirst`.
-/

namespace FusionDesk
namespace Clipboard

open Protocol FirstMatch

/-- `InMemoryTransferSourceRegistry::Entry`. -/
structure RegistryEntry where
  bundle : TransferSourceBundle
  locks : List TransferObjectLockRequest := []
  retired : Bool := false

/-- `class InMemoryTransferSourceRegistry`. -/
structure InMemoryTransferSourceRegistry where
  entries : List RegistryEntry := []
  nextLockId : TransferObjectLockId := 1

/-- The first source of a bundle with the id; null pointers are passed over. -/
def TransferSourceBundle.findSource (bundle : TransferSourceBundle) (sourceId : TransferSourceId) :
    Option TransferSource :=
  bundle.sources.findSome? fun source => source.filter fun source => source.id == sourceId

def objectLockError (status : ResponseStatus) (message : StdString) : TransferObjectLockResult where
  status := status
  message := message

/-- `validateFileObjectForLock`.  The loop over the formats returns at the first file list, so what
the source says behind the loop is said without one. -/
def validateFileObjectForLock (now : Moment) (source : TransferSource)
    (request : TransferObjectLockRequest) : TransferObjectLockResult :=
  match (source.formats now).find? fun d => d.canonicalFormat == fdclFileListFormat with
  | none => objectLockError .notFound (bytesOf "transfer file-list format is not found")
  | some descriptor =>
    if descriptor.canStream = false then
      objectLockError .unsupported (bytesOf "transfer file object does not allow streaming")
    else
      let read : TransferReadRequest := {
        bundleId := request.bundleId
        offerId := request.offerId
        ownerEpoch := request.ownerEpoch
        sourceId := request.sourceId
        itemIndex := descriptor.itemIndex
        formatId := descriptor.formatId
        localFormatToken := descriptor.localFormatToken
        canonicalFormat := fdclFileListFormat
        acceptedMaxBytes := 0xffffffffffffffff
        requestedEncoding := .canonicalBytes }
      let fileListBytes := source.read now read
      if fileListBytes.ok = false then
        objectLockError fileListBytes.status
          (if fileListBytes.message = [] then bytesOf "transfer file list is not readable"
          else fileListBytes.message)
      else
        let decoded :=
          decodeTransferFileList fileListBytes.bytes defaultMaxFiles defaultMaxNameBytes
        if decoded.ok = false then objectLockError decoded.status decoded.message
        else
          match decoded.fileList.files[request.fileIndex.toNat]? with
          | none => objectLockError .notFound (bytesOf "transfer file index is not found")
          | some file =>
            if file.objectId ≠ request.objectId then
              objectLockError .conflict (bytesOf "transfer file object identity is stale")
            else { status := .ok }

namespace InMemoryTransferSourceRegistry

def findBundle (registry : InMemoryTransferSourceRegistry) (offerId : TransferOfferId) :
    Option TransferSourceBundle :=
  (registry.entries.find? fun entry => entry.bundle.offerId == offerId).map (·.bundle)

def lookupSource (registry : InMemoryTransferSourceRegistry) (request : TransferReadRequest) :
    TransferSourceLookup :=
  if request.bundleId = 0 ∨ request.offerId = 0 ∨ request.ownerEpoch = 0 then {
    status := .invalidArgument
    message := bytesOf "transfer lookup identity is invalid" }
  else
    match registry.findBundle request.offerId with
    | none => { status := .notFound, message := bytesOf "transfer offer is not found" }
    | some bundle =>
      if bundle.bundleId ≠ request.bundleId ∨ bundle.ownerEpoch ≠ request.ownerEpoch then {
        status := .conflict
        message := bytesOf "transfer offer identity is stale" }
      else
        match bundle.findSource request.sourceId with
        | some source => { status := .ok, bundle := bundle, source := some source }
        | none => { status := .notFound, message := bytesOf "transfer source is not found" }

/-- The entry, retired if it is of the offer. -/
def retire (offerId : TransferOfferId) (entry : RegistryEntry) : RegistryEntry :=
  if entry.bundle.offerId = offerId then { entry with retired := true } else entry

def clearOffer (registry : InMemoryTransferSourceRegistry) (offerId : TransferOfferId) :
    Bool × InMemoryTransferSourceRegistry :=
  (registry.entries.any fun entry => entry.bundle.offerId == offerId,
    { registry with
      entries := (registry.entries.map (retire offerId)).filter fun entry =>
        !(entry.retired && entry.locks.isEmpty) })

def store (registry : InMemoryTransferSourceRegistry) (bundle : TransferSourceBundle) :
    ResponseStatus × InMemoryTransferSourceRegistry :=
  if bundle.bundleId = 0 ∨ bundle.offerId = 0 then (.invalidArgument, registry)
  else
    let registry := (registry.clearOffer bundle.offerId).2
    if registry.entries.any fun entry => entry.bundle.offerId == bundle.offerId then
      (.conflict, registry)
    else (.ok, { registry with entries := registry.entries ++ [{ bundle := bundle }] })

def clearAll (registry : InMemoryTransferSourceRegistry) : ℕ × InMemoryTransferSourceRegistry :=
  (registry.entries.length,
    { registry with
      entries := (registry.entries.map fun entry => { entry with retired := true }).filter
        fun entry => !entry.locks.isEmpty })

def lockCount (registry : InMemoryTransferSourceRegistry) : ℕ :=
  (registry.entries.map fun entry => entry.locks.length).sum

def releaseAllLocks (registry : InMemoryTransferSourceRegistry) :
    ℕ × InMemoryTransferSourceRegistry :=
  (registry.lockCount,
    { registry with
      entries := (registry.entries.map fun entry => { entry with locks := [] }).filter
        fun entry => !entry.retired })

/-- The id that `lockObject` gives to a lock without one. -/
def assignedLockId (registry : InMemoryTransferSourceRegistry) : TransferObjectLockId :=
  if registry.nextLockId = 0 then 1 else registry.nextLockId

/-- What `lockObject` does at the entry of the offer: the result and the counter, and the entry. -/
def lockEntry (registry : InMemoryTransferSourceRegistry) (now : Moment)
    (request : TransferObjectLockRequest) (entry : RegistryEntry) :
    (TransferObjectLockResult × TransferObjectLockId) × Option RegistryEntry :=
  let refuse := fun result : TransferObjectLockResult =>
    ((result, registry.nextLockId), some entry)
  if entry.retired then
    refuse (objectLockError .conflict (bytesOf "transfer object lock offer is retired"))
  else if
      entry.bundle.bundleId ≠ request.bundleId ∨ entry.bundle.ownerEpoch ≠ request.ownerEpoch then
    refuse (objectLockError .conflict (bytesOf "transfer object lock offer is stale"))
  else if entry.locks.any fun lock => request.lockId != 0 && lock.lockId == request.lockId then
    refuse (objectLockError .conflict (bytesOf "transfer object lock id is already active"))
  else
    match entry.bundle.findSource request.sourceId with
    | none =>
      refuse (objectLockError .notFound (bytesOf "transfer object lock source is not found"))
    | some source =>
      let validation := validateFileObjectForLock now source request
      if validation.ok = false then refuse validation
      else
        let lock :=
          if request.lockId = 0 then { request with lockId := registry.assignedLockId } else request
        let nextLockId :=
          if request.lockId = 0 then registry.assignedLockId + 1 else registry.nextLockId
        (({ validation with lockId := lock.lockId, leaseUsec := lock.leaseUsec }, nextLockId),
          some { entry with locks := entry.locks ++ [lock] })

def lockObject (registry : InMemoryTransferSourceRegistry) (now : Moment)
    (request : TransferObjectLockRequest) :
    TransferObjectLockResult × InMemoryTransferSourceRegistry :=
  if request.bundleId = 0 ∨ request.offerId = 0 ∨ request.ownerEpoch = 0 ∨ request.sourceId = 0 ∨
      request.objectId = 0 then
    (objectLockError .invalidArgument (bytesOf "transfer object lock identity is invalid"),
      registry)
  else
    match updateFirst (fun entry => entry.bundle.offerId == request.offerId)
        (registry.lockEntry now request) registry.entries with
    | (some answer, entries) => (answer.1, { entries := entries, nextLockId := answer.2 })
    | (none, _) =>
      (objectLockError .notFound (bytesOf "transfer object lock offer is not found"), registry)

/-- What `unlockObject` takes for the lock of the request. -/
def isLockOf (request active : TransferObjectLockRequest) : Bool :=
  active.lockId == request.lockId && active.sourceId == request.sourceId &&
    active.objectId == request.objectId && active.fileIndex == request.fileIndex

/-- What `unlockObject` does at the entry of the offer. -/
def unlockEntry (request : TransferObjectLockRequest) (entry : RegistryEntry) :
    TransferObjectLockResult × Option RegistryEntry :=
  if entry.bundle.bundleId ≠ request.bundleId ∨ entry.bundle.ownerEpoch ≠ request.ownerEpoch then
    (objectLockError .conflict (bytesOf "transfer object unlock offer is stale"), some entry)
  else
    match entry.locks.find? (isLockOf request) with
    | none => (objectLockError .notFound (bytesOf "transfer object lock is not found"), some entry)
    | some lock =>
      let locks := entry.locks.eraseP (isLockOf request)
      ({ status := .ok, lockId := lock.lockId, leaseUsec := lock.leaseUsec },
        if entry.retired && locks.isEmpty then none else some { entry with locks := locks })

def unlockObject (registry : InMemoryTransferSourceRegistry) (request : TransferObjectLockRequest) :
    TransferObjectLockResult × InMemoryTransferSourceRegistry :=
  if request.bundleId = 0 ∨ request.offerId = 0 ∨ request.ownerEpoch = 0 ∨ request.sourceId = 0 ∨
      request.objectId = 0 ∨ request.lockId = 0 then
    (objectLockError .invalidArgument (bytesOf "transfer object unlock identity is invalid"),
      registry)
  else
    match updateFirst (fun entry => entry.bundle.offerId == request.offerId)
        (unlockEntry request) registry.entries with
    | (some answer, entries) => (answer, { registry with entries := entries })
    | (none, _) =>
      (objectLockError .notFound (bytesOf "transfer object lock offer is not found"), registry)

end InMemoryTransferSourceRegistry

end Clipboard
end FusionDesk
