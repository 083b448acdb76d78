import FusionDesk.General.FileSystem
import FusionDesk.Clipboard.FileDrain
import FusionDesk.Clipboard.FileListPaths
import FusionDesk.Clipboard.Policy

/-!
# Saving remote files

`saveClipboardRemoteFiles` of `apps/pc/common/pc_clipboard_file_save.cpp`: the list of the remote
files is read, and one entry after the other is locked, drained to a file below the output
directory and unlocked.

* `remoteFileListView`: the list that is read.
* `buildOutputPath`: where an entry goes.
* `FileOutputSink.writeRange`: the sink of the drain.
* `saveEntry`, `saveClipboardRemoteFiles`: one entry, and all.

Paths are in the generic format, where a leading slash makes a root.  The file system is a
`FileSystem`, and a write is there when it returns.  What the peer does is a state `ρ` that the remote
reader and the locker go through.
-/

namespace FusionDesk
namespace Pc

open Protocol Clipboard

/-! ## What a save works with -/

/-- An absolute path. -/
abbrev Path := List StdString

/-- `std::filesystem::path::string`. -/
def Path.string (path : Path) : StdString := path.flatMap fun name => byteOf '/' :: name

/-- `IClipboardRemoteObjectLocker`. -/
structure RemoteObjectLocker (ρ : Type*) where
  lockRemoteObject : TransferObjectLockRequest → UInt32 → ρ → TransferObjectLockResult × ρ
  unlockRemoteObject : TransferObjectLockRequest → UInt32 → ρ → TransferObjectLockResult × ρ

/-- `IClipboardRemoteReader`, which may be an `IClipboardRemoteFileReader` and an
`IClipboardRemoteObjectLocker` as well. -/
structure RemoteReader (ρ : Type*) where
  readRemoteFormat : TransferReadRequest → UInt32 → ρ → TransferReadResult × ρ
  readRemoteFileRange :
    Option (TransferFileRangeRequest → UInt32 → ρ → TransferFileRangeResult × ρ) := none
  objectLocker : Option (RemoteObjectLocker ρ) := none

/-- What the function takes from the command line. -/
structure SaveOptions where
  outputDir : StdString
  timeoutMs : UInt32 := 3000
  chunkBytes : UInt64 := 0

/-- What the function finds: the remote bundle of the session's clipboard module, if it has one, the
reader, the directories and the files. -/
structure SaveEnvironment (ρ φ : Type*) where
  remoteBundle : Option TransferSourceBundle
  moment : Moment
  remoteReader : Option (RemoteReader ρ)
  absolute : StdString → Option Path
  fs : FileSystem φ Path UInt8

/-- What changes while files are saved. -/
structure SaveWorld (ρ φ : Type*) where
  remote : ρ
  files : φ

/-! ## The list -/

structure RemoteFileListView where
  bundle : TransferSourceBundle := {}
  sourceId : TransferSourceId := 0
  fileList : TransferFileList := {}

/-- The first source with a format for file lists, and the format. -/
def fileListFormat (moment : Moment) (bundle : TransferSourceBundle) :
    Option (TransferSource × TransferFormatDescriptor) :=
  (bundle.sources.filterMap id).findSome? fun source =>
    ((source.formats moment).find? fun descriptor =>
      descriptor.canonicalFormat == fdclFileListFormat).map fun descriptor => (source, descriptor)

def fileListRequest (bundle : TransferSourceBundle) (source : TransferSource)
    (descriptor : TransferFormatDescriptor) : TransferReadRequest where
  bundleId := bundle.bundleId
  offerId := bundle.offerId
  ownerEpoch := bundle.ownerEpoch
  sourceId := source.id
  itemIndex := descriptor.itemIndex
  formatId := descriptor.formatId
  localFormatToken := descriptor.localFormatToken
  canonicalFormat := fdclFileListFormat
  acceptedMaxBytes :=
    if descriptor.estimatedBytes = 0 then 1024 * 1024 else descriptor.estimatedBytes
  streamAccepted := false
  requestedEncoding := .canonicalBytes

section

variable {ρ φ : Type*}

def remoteFileListView (environment : SaveEnvironment ρ φ) (reader : RemoteReader ρ)
    (timeoutMs : UInt32) (remote : ρ) : Except StdString RemoteFileListView × ρ :=
  match environment.remoteBundle with
  | none => (.error (bytesOf "clipboard file save needs a running module"), remote)
  | some bundle =>
    if bundle.offerId = 0 ∨ bundle.sources = [] then
      (.error (bytesOf "clipboard remote file list is not available"), remote)
    else
    match fileListFormat environment.moment bundle with
    | none => (.error (bytesOf "clipboard remote file-list format is not available"), remote)
    | some (source, descriptor) =>
      let request := fileListRequest bundle source descriptor
      let result := source.read environment.moment request
      let read :=
        if result.ok = true then (result, remote)
        else reader.readRemoteFormat request timeoutMs remote
      if read.1.ok = false then
        (.error (bytesOf "clipboard remote file list read failed: " ++ read.1.message), read.2)
      else
      let decoded := decodeTransferFileList read.1.bytes defaultMaxFiles defaultMaxNameBytes
      if decoded.ok = false then
        (.error (bytesOf "clipboard remote file list decode failed: " ++ decoded.message), read.2)
      else
        (.ok { bundle := bundle, sourceId := source.id, fileList := decoded.fileList }, read.2)

end

/-! ## Paths -/

/-- The loop over the parts of a path. -/
def safeRelative (relative : StdString) : List StdString → Path → Except StdString Path
  | [], safe =>
    if safe = [] then .error (bytesOf "clipboard remote file path is empty") else .ok safe
  | part :: parts, safe =>
    if part = [] ∨ part = bytesOf "." then safeRelative relative parts safe
    else if part = bytesOf ".." then
      .error (bytesOf "clipboard remote file path escapes output root: " ++ relative)
    else safeRelative relative parts (safe ++ [part])

def buildOutputPath (root : Path) (file : TransferFileDescriptor) : Except StdString Path :=
  let relative := if file.relativePath ≠ [] then file.relativePath else file.displayName
  if relative = [] then .error (bytesOf "clipboard remote file has no relative path")
  else if relative.head? = some (byteOf '/') then
    .error (bytesOf "clipboard remote file path is absolute: " ++ relative)
  else (safeRelative relative (segmentsOf relative) []).map fun safe => root ++ safe

/-! ## The sink -/

/-- `opened_`, and whether `stream_` is open and has not failed. -/
structure FileOutputSink where
  path : Path
  opened : Bool := false
  isOpen : Bool := false
  good : Bool := true

/-- What changes while a file is drained. -/
structure SinkWorld (ρ φ : Type*) where
  remote : ρ
  files : φ
  sink : FileOutputSink

section

variable {ρ φ : Type*} (fs : FileSystem φ Path UInt8)

/-- The file is opened before the first write. -/
def SinkWorld.openOnce (world : SinkWorld ρ φ) : SinkWorld ρ φ :=
  if world.sink.opened = true then world
  else
    let opened := fs.openTruncated world.sink.path world.files
    { world with
      files := opened.2
      sink := { world.sink with opened := true, isOpen := opened.1, good := opened.1 } }

/-- A stream that has failed writes nothing. -/
def SinkWorld.streamWrite (world : SinkWorld ρ φ) (bytes : ByteBuffer) : SinkWorld ρ φ :=
  if bytes = [] ∨ world.sink.good = false then world
  else
    let written := fs.append world.sink.path bytes world.files
    { world with files := written.2, sink := { world.sink with good := written.1 } }

def FileOutputSink.writeRange (bytes : ByteBuffer) (world : SinkWorld ρ φ) :
    TransferFileDrainSinkResult × SinkWorld ρ φ :=
  let world := world.openOnce fs
  if world.sink.isOpen = false then
    ({ status := .failed
       message := bytesOf "clipboard save file cannot be opened: " ++ world.sink.path.string },
      world)
  else
  let world := world.streamWrite fs bytes
  if world.sink.good = false then
    ({ status := .failed
       message := bytesOf "clipboard save file write failed: " ++ world.sink.path.string },
      world)
  else ({}, world)

/-- The reader of the peer and the sink of the file. -/
def saveParties
    (readRemoteFileRange : TransferFileRangeRequest → UInt32 → ρ → TransferFileRangeResult × ρ) :
    DrainParties (SinkWorld ρ φ) where
  readRemoteFileRange request timeoutMs world :=
    let read := readRemoteFileRange request timeoutMs world.remote
    (read.1, { world with remote := read.2 })
  writeRange _ bytes _ world := FileOutputSink.writeRange fs bytes world

end

/-! ## The entries -/

/-- The counts that are printed. -/
structure SavedFiles where
  filesSaved : UInt64 := 0
  directoriesSaved : UInt64 := 0
  bytesSaved : UInt64 := 0
  chunksSaved : UInt64 := 0
  deriving DecidableEq, Repr

/-- What the loop over the entries works with. -/
structure SaveContext (ρ φ : Type*) where
  fs : FileSystem φ Path UInt8
  readRemoteFileRange : TransferFileRangeRequest → UInt32 → ρ → TransferFileRangeResult × ρ
  locker : RemoteObjectLocker ρ
  view : RemoteFileListView
  root : Path
  options : SaveOptions

section

variable {ρ φ : Type*} (context : SaveContext ρ φ)

def lockRequest (index : ℕ) (descriptor : TransferFileDescriptor) : TransferObjectLockRequest where
  bundleId := context.view.bundle.bundleId
  offerId := context.view.bundle.offerId
  ownerEpoch := context.view.bundle.ownerEpoch
  sourceId := context.view.sourceId
  objectId := descriptor.objectId
  fileIndex := UInt32.ofNat index

def rangeRequest (index : ℕ) (descriptor : TransferFileDescriptor) : TransferFileRangeRequest where
  bundleId := context.view.bundle.bundleId
  offerId := context.view.bundle.offerId
  ownerEpoch := context.view.bundle.ownerEpoch
  sourceId := context.view.sourceId
  objectId := descriptor.objectId
  fileIndex := UInt32.ofNat index
  offset := 0

def drainOptions (descriptor : TransferFileDescriptor) : TransferFileDrainOptions where
  chunkBytes :=
    if context.options.chunkBytes ≠ 0 then context.options.chunkBytes
    else defaultTransferFileRangeChunkBytes
  maxTotalBytes := descriptor.sizeBytes
  timeoutMs := context.options.timeoutMs

/-- A file, from its lock to its unlock.  Where the drain fails, the lock guard unlocks as it goes out
of scope. -/
def saveFile (index : ℕ) (descriptor : TransferFileDescriptor) (outputPath : Path)
    (world : SaveWorld ρ φ) : Except StdString TransferFileDrainResult × SaveWorld ρ φ :=
  let timeoutMs := context.options.timeoutMs
  let request := lockRequest context index descriptor
  let locked := context.locker.lockRemoteObject request timeoutMs world.remote
  if locked.1.ok = false then
    (.error (bytesOf "clipboard remote file object lock failed: " ++ locked.1.message),
      { world with remote := locked.2 })
  else if locked.1.lockId = 0 then
    (.error (bytesOf "clipboard remote file object lock returned empty lock id"),
      { world with remote := locked.2 })
  else
  let drained := drainRemoteFileRange (saveParties context.fs context.readRemoteFileRange)
    (rangeRequest context index descriptor) (drainOptions context descriptor)
    { remote := locked.2, files := world.files, sink := { path := outputPath } }
  let unlocked := context.locker.unlockRemoteObject
    { request with lockId := locked.1.lockId, leaseUsec := locked.1.leaseUsec } timeoutMs
    drained.2.remote
  let world := { remote := unlocked.2, files := drained.2.files }
  if drained.1.ok = false then
    (.error (bytesOf "clipboard remote file save failed for \"" ++ descriptor.relativePath ++
      bytesOf "\": " ++ drained.1.message), world)
  else if drained.1.endOfFile = false then
    (.error (bytesOf "clipboard remote file save did not reach eof for \"" ++
      descriptor.relativePath ++ bytesOf "\""), world)
  else if unlocked.1.ok = false then
    (.error (bytesOf "clipboard remote file object unlock failed: " ++ unlocked.1.message), world)
  else (.ok drained.1, world)

/-- One pass of the loop over the entries. -/
def saveEntry (index : ℕ) (descriptor : TransferFileDescriptor) (saved : SavedFiles)
    (world : SaveWorld ρ φ) : Except StdString SavedFiles × SaveWorld ρ φ :=
  match buildOutputPath context.root descriptor with
  | .error message => (.error message, world)
  | .ok outputPath =>
    if descriptor.directory = true then
      let created := context.fs.createDirectories outputPath world.files
      let world := { world with files := created.2 }
      if created.1 = false then
        (.error (bytesOf "clipboard save directory cannot be created: " ++ outputPath.string),
          world)
      else (.ok { saved with directoriesSaved := saved.directoriesSaved + 1 }, world)
    else
      let created := context.fs.createDirectories outputPath.dropLast world.files
      let world := { world with files := created.2 }
      if created.1 = false then
        (.error (bytesOf "clipboard save parent directory cannot be created: " ++
          Path.string outputPath.dropLast), world)
      else
      match saveFile context index descriptor outputPath world with
      | (.error message, world) => (.error message, world)
      | (.ok drained, world) =>
        (.ok { saved with
          filesSaved := saved.filesSaved + 1
          bytesSaved := saved.bytesSaved + drained.bytesWritten
          chunksSaved := saved.chunksSaved + drained.chunksWritten }, world)

def saveEntries : ℕ → List TransferFileDescriptor → SavedFiles → SaveWorld ρ φ →
    Except StdString SavedFiles × SaveWorld ρ φ
  | _, [], saved, world => (.ok saved, world)
  | index, descriptor :: rest, saved, world =>
    match saveEntry context index descriptor saved world with
    | (.error message, world) => (.error message, world)
    | (.ok saved, world) => saveEntries (index + 1) rest saved world

end

/-! ## The function -/

/-- It returns `true` where it is `ok`; an error is the message.  Without an output directory there is
nothing to save. -/
def saveClipboardRemoteFiles {ρ φ : Type*} (options : SaveOptions)
    (environment : SaveEnvironment ρ φ) (world : SaveWorld ρ φ) :
    Except StdString (Option SavedFiles) × SaveWorld ρ φ :=
  if options.outputDir = [] then (.ok none, world)
  else
  match environment.remoteReader with
  | none => (.error (bytesOf "clipboard file save needs a remote file reader"), world)
  | some reader =>
  match reader.readRemoteFileRange with
  | none => (.error (bytesOf "clipboard file save needs a remote file reader"), world)
  | some readRemoteFileRange =>
  match reader.objectLocker with
  | none => (.error (bytesOf "clipboard file save needs a remote object locker"), world)
  | some locker =>
  match remoteFileListView environment reader options.timeoutMs world.remote with
  | (.error message, remote) => (.error message, { world with remote := remote })
  | (.ok view, remote) =>
  match environment.absolute options.outputDir with
  | none =>
    (.error (bytesOf "clipboard save output path is invalid: " ++ options.outputDir),
      { world with remote := remote })
  | some root =>
    let created := environment.fs.createDirectories root world.files
    if created.1 = false then
      (.error (bytesOf "clipboard save output directory cannot be created: " ++ root.string),
        { remote := remote, files := created.2 })
    else
      let context := {
        fs := environment.fs
        readRemoteFileRange := readRemoteFileRange
        locker := locker
        view := view
        root := root
        options := options }
      match saveEntries context 0 view.fileList.files {} { remote := remote, files := created.2 } with
      | (.error message, world) => (.error message, world)
      | (.ok saved, world) => (.ok (some saved), world)

end Pc
end FusionDesk
