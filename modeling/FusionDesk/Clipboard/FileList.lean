import FusionDesk.General.ByteReader
import FusionDesk.Clipboard.Types
import Mathlib.Data.List.DropRight

/-!
# Transfer file lists

`encodeTransferFileList` and `decodeTransferFileList` of
`src/modules/clipboard/clipboard_transfer_file_list.cpp`, with the `BinaryReader` the second reads
through (little endian) and the two functions that make a name safe.

Where the decoder fails, the source leaves the entries it has read so far in the result; nothing
looks at them, and here the list of a failed result is empty.
-/

namespace FusionDesk
namespace Clipboard

open Protocol ByteReader

structure TransferFileDescriptor where
  objectId : TransferObjectId := 0
  displayName : StdString := []
  relativePath : StdString := []
  sizeBytes : UInt64 := 0
  lastModifiedUnixUsec : UInt64 := 0
  directory : Bool := false
  deriving DecidableEq, Repr

structure TransferFileList where
  files : List TransferFileDescriptor := []
  deriving DecidableEq, Repr

structure TransferFileListDecodeResult where
  ok : Bool := false
  status : ResponseStatus := .failed
  fileList : TransferFileList := {}
  message : StdString := []
  deriving DecidableEq, Repr

/-! ## Names -/

/-- The byte of a character literal. -/
def byteOf (c : Char) : UInt8 := UInt8.ofNat c.toNat

/-- A space or a dot, which a name may neither begin nor end with. -/
def isPadding (ch : UInt8) : Bool :=
  ch == byteOf ' ' || ch == byteOf '.'

/-- A separator of paths, or the end of a C string. -/
def isSeparator (ch : UInt8) : Bool :=
  ch == byteOf '/' || ch == 0x5c || ch == byteOf ':' || ch == 0

/-- The last loop of `sanitizeTransferFileDisplayName`. -/
def maskLeading : StdString → StdString
  | [] => []
  | ch :: rest => if isPadding ch then byteOf '_' :: maskLeading rest else ch :: rest

def sanitizeTransferFileDisplayName (value : StdString) : StdString :=
  let result := value.map fun ch => if isSeparator ch then byteOf '_' else ch
  let result := maskLeading (result.rdropWhile isPadding)
  if result = [] ∨ result = bytesOf "." ∨ result = bytesOf ".." then bytesOf "unnamed"
  else result

/-- `flushSegment`: the path and the blank segment. -/
def flushSegment (result segment : StdString) : StdString :=
  if segment = [] then result
  else
    let safe := sanitizeTransferFileDisplayName segment
    if safe = [] ∨ safe = bytesOf "unnamed" then result
    else if result = [] then safe
    else result ++ [byteOf '/'] ++ safe

def sanitizeTransferFileRelativePath (value : StdString) : StdString :=
  let last := value.foldl (fun (acc : StdString × StdString) ch =>
    if ch = byteOf '/' ∨ ch = 0x5c then (flushSegment acc.1 acc.2, [])
    else if ch = byteOf ':' ∨ ch = 0 then (acc.1, acc.2 ++ [byteOf '_'])
    else (acc.1, acc.2 ++ [ch])) ([], [])
  let result := flushSegment last.1 last.2
  if result = [] then sanitizeTransferFileDisplayName value else result

/-! ## The encoder -/

namespace BinaryWriter

def appendU8 (output : ByteBuffer) (value : UInt8) : ByteBuffer := output ++ [value]

def appendU16 (output : ByteBuffer) (value : UInt16) : ByteBuffer :=
  output ++ [(value &&& 0xff).toUInt8] ++ [((value >>> 8) &&& 0xff).toUInt8]

def appendU32 (output : ByteBuffer) (value : UInt32) : ByteBuffer :=
  (List.range 4).foldl (fun output i =>
    output ++ [((value >>> UInt32.ofNat (i * 8)) &&& 0xff).toUInt8]) output

def appendU64 (output : ByteBuffer) (value : UInt64) : ByteBuffer :=
  (List.range 8).foldl (fun output i =>
    output ++ [((value >>> UInt64.ofNat (i * 8)) &&& 0xff).toUInt8]) output

/-- A name behind its length; what does not fit into the length is cut off. -/
def appendName (output : ByteBuffer) (name : StdString) : ByteBuffer :=
  appendU16 output (UInt16.ofNat (min name.length 65535)) ++ name.take (min name.length 65535)

end BinaryWriter

/-- The two names of an entry as they are written. -/
def writtenNames (file : TransferFileDescriptor) : StdString × StdString :=
  let displayName := sanitizeTransferFileDisplayName file.displayName
  let relativePath := sanitizeTransferFileRelativePath file.relativePath
  (displayName,
    if relativePath = [] ∨ relativePath = bytesOf "unnamed" then displayName else relativePath)

/-- One pass of the loop of `encodeTransferFileList`. -/
def appendFile (output : ByteBuffer) (file : TransferFileDescriptor) : ByteBuffer :=
  let output := BinaryWriter.appendU64 output file.objectId
  let output := BinaryWriter.appendU64 output file.sizeBytes
  let output := BinaryWriter.appendU64 output file.lastModifiedUnixUsec
  let output := BinaryWriter.appendU8 output (if file.directory then 1 else 0)
  let output := BinaryWriter.appendName output (writtenNames file).1
  BinaryWriter.appendName output (writtenNames file).2

def encodeTransferFileList (fileList : TransferFileList) : ByteBuffer :=
  let output := bytesOf "FDFL"
  let output := BinaryWriter.appendU16 output 1
  let output := BinaryWriter.appendU16 output 1
  let output := BinaryWriter.appendU32 output (UInt32.ofNat fileList.files.length)
  fileList.files.foldl appendFile output

/-! ## `BinaryReader` -/

namespace BinaryReader

open Reader

def readU8 : Reader Unit UInt8 :=
  checked 1 () (fun bytes offset => bytes[offset]?) isSome_getElem?

/-- `n` bytes, the low one first. -/
def littleEndian (bytes : List UInt8) (offset n : ℕ) : Option ℕ :=
  (Reader.range bytes offset n).map fun field =>
    field.foldr (fun b value => b.toNat + 256 * value) 0

theorem isSome_littleEndian {bytes : List UInt8} {offset n : ℕ} (h : offset + n ≤ bytes.length) :
    (littleEndian bytes offset n).isSome := by
  rw [littleEndian, Reader.range, if_pos h]
  rfl

def readU16 : Reader Unit UInt16 :=
  checked 2 () (fun bytes offset => (littleEndian bytes offset 2).map UInt16.ofNat)
    fun _ _ h => by simpa using isSome_littleEndian h

def readU32 : Reader Unit UInt32 :=
  checked 4 () (fun bytes offset => (littleEndian bytes offset 4).map UInt32.ofNat)
    fun _ _ h => by simpa using isSome_littleEndian h

def readU64 : Reader Unit UInt64 :=
  checked 8 () (fun bytes offset => (littleEndian bytes offset 8).map UInt64.ofNat)
    fun _ _ h => by simpa using isSome_littleEndian h

def readString (maxBytes : ℕ) : Reader Unit StdString := do
  let length ← readU16
  refuseIf (length.toNat > maxBytes) ()
  bytes length.toNat ()

end BinaryReader

/-! ## The decoder -/

open Reader

/-- One pass of the loop of `decodeTransferFileList`. -/
def readFileEntry (minor : UInt16) (maxNameBytes : ℕ) :
    Reader (ResponseStatus × StdString) TransferFileDescriptor := do
  let file ← named (fun _ => (.protocolError, bytesOf "FDCL file list entry is truncated")) do
    let objectId ← BinaryReader.readU64
    let sizeBytes ← BinaryReader.readU64
    let lastModifiedUnixUsec ← BinaryReader.readU64
    let directory ← BinaryReader.readU8
    let displayName ← BinaryReader.readString maxNameBytes
    return ({
      objectId := objectId
      displayName := sanitizeTransferFileDisplayName displayName
      sizeBytes := sizeBytes
      lastModifiedUnixUsec := lastModifiedUnixUsec
      directory := directory != 0 } : TransferFileDescriptor)
  let relativePath ←
    if minor ≥ 1 then
      named (fun _ => (.protocolError, bytesOf "FDCL file list relative path is truncated")) do
        -- a product of `std::size_t`
        let relativePath ← BinaryReader.readString (maxNameBytes * 8 % 2 ^ 64)
        return sanitizeTransferFileRelativePath relativePath
    else pure []
  return { file with
    relativePath :=
      if relativePath = [] ∨ relativePath = bytesOf "unnamed" then file.displayName
      else relativePath }

/-- `decodeTransferFileList` behind its first question. -/
def readFileList (maxFiles maxNameBytes : ℕ) :
    Reader (ResponseStatus × StdString) TransferFileList := do
  let header ← named (fun _ => (.protocolError, bytesOf "FDCL file list header is truncated")) do
    let _magic ← BinaryReader.readU32
    let major ← BinaryReader.readU16
    let minor ← BinaryReader.readU16
    let count ← BinaryReader.readU32
    return (major, minor, count)
  refuseIf (header.1 ≠ 1 ∨ header.2.1 > 1)
    (.unsupported, bytesOf "FDCL file list version is unsupported")
  refuseIf (header.2.2.toNat > maxFiles)
    (.tooLarge, bytesOf "FDCL file list exceeds max file count")
  let files ← times (readFileEntry header.2.1 maxNameBytes) header.2.2.toNat
  expectEnd (.protocolError, bytesOf "FDCL file list has trailing bytes")
  return { files := files }

/-- `decodeTransferFileList`; the defaults of the last two parameters are 1024 and 255. -/
def decodeTransferFileList (bytes : ByteBuffer) (maxFiles maxNameBytes : ℕ) :
    TransferFileListDecodeResult :=
  if bytes.length < 12 ∨ bytes.take 4 ≠ bytesOf "FDFL" then {
    status := .protocolError
    message := bytesOf "FDCL file list magic is invalid" }
  else
    match (readFileList maxFiles maxNameBytes).outcome bytes with
    | .error e => { status := e.1, message := e.2 }
    | .ok (fileList, _) => { ok := true, status := .ok, fileList := fileList }

def defaultMaxFiles : ℕ := 1024
def defaultMaxNameBytes : ℕ := 255

end Clipboard
end FusionDesk
