import FusionDesk.Runtime.CodecSelection
import FusionDesk.Runtime.PeerProfileCodec

/-!
# The display codec profile

`display_codec_peer_profile.h` and `display_codec_peer_profile.cpp`: what an encoder and a decoder ask
of a codec, as a payload of the peer profile exchange.

A decoder is a reader (`General.ByteReader`).  The enumerations are cast and then checked; here the
two are one (`declared`).  Where the decoder fails, the source leaves what it has read so far in the
result; nothing looks at it, and here such a result has the message only.
-/

namespace FusionDesk
namespace Runtime
namespace DisplayCodec

open Display (DisplayPixelFormat)
open ByteReader Reader
open Protocol Protocol.PayloadFields
open PeerProfile (text declared withMessage readWhole)

/-! ## Types -/

structure DisplayCodecPeerProfilePayload where
  hasEncoderRequest : Bool := false
  encoderRequest : DisplayCodecSelectionRequest := {}
  hasDecoderRequest : Bool := false
  decoderRequest : DisplayCodecSelectionRequest := {}
  deriving DecidableEq, Repr

structure DisplayCodecPeerProfileDecodeResult where
  ok : Bool := false
  payload : DisplayCodecPeerProfilePayload := {}
  message : StdString := []
  deriving DecidableEq, Repr

def displayCodecPeerProfileMagic : UInt32 := 0x46444350
def displayCodecPeerProfileVersion : UInt16 := 1
def displayCodecPeerProfileExtensionKey : StdString := text "display.codec.v1"

/-! ## Enumerations -/

def platformRaw : DisplayPlatformFamily → UInt16
  | .unknown => 0
  | .windowsDesktop => 1
  | .linuxX11 => 2
  | .linuxWayland => 3
  | .linuxEmbedded => 4
  | .macOS => 5
  | .androidClient => 6
  | .androidAgent => 7
  | .harmonyOS => 8
  | .openHarmony => 9
  | .rockchipLinux => 10
  | .rockchipAndroid => 11

def memoryTypeRaw : DisplayCodecMemoryType → UInt16
  | .unknown => 0
  | .cpuBuffer => 1
  | .d3dTexture => 2
  | .dmaBuf => 3
  | .cvPixelBuffer => 4
  | .androidHardwareBuffer => 5

def architectureRaw : DisplayTargetArchitecture → UInt16
  | .unknown => 0
  | .x86 => 1
  | .x86_64 => 2
  | .arm32 => 3
  | .arm64 => 4
  | .loongArch64 => 5
  | .mips64El => 6

def socProfileRaw : DisplayTargetSocProfile → UInt16
  | .unknown => 0
  | .generic => 1
  | .rockchip3568 => 2
  | .rockchip3588 => 3

def codecIdRaw : DisplayCodecId → UInt16
  | .unknown => 0
  | .rawBgra => 1
  | .h264 => 2
  | .h265 => 3
  | .av1 => 4

def codecDirectionRaw : DisplayCodecDirection → UInt16
  | .unknown => 0
  | .encode => 1
  | .decode => 2

def codecBackendRaw : DisplayCodecBackendKind → UInt16
  | .unknown => 0
  | .rawFrame => 1
  | .software => 2
  | .ffmpegSoftware => 3
  | .windowsMediaFoundation => 4
  | .linuxVaapi => 5
  | .linuxV4L2M2M => 6
  | .macOSVideoToolbox => 7
  | .androidMediaCodec => 8
  | .harmonySystemCodec => 9
  | .rockchipMpp => 10

def knownPixelFormat (value : UInt16) : Option DisplayPixelFormat :=
  declared [.unknown, .bgra32, .rgba32, .rgb24, .gray8] DisplayPixelFormat.raw value

def knownPlatform (value : UInt16) : Option DisplayPlatformFamily :=
  declared [.unknown, .windowsDesktop, .linuxX11, .linuxWayland, .linuxEmbedded, .macOS,
    .androidClient, .androidAgent, .harmonyOS, .openHarmony, .rockchipLinux, .rockchipAndroid]
    platformRaw value

def knownMemoryType (value : UInt16) : Option DisplayCodecMemoryType :=
  declared [.unknown, .cpuBuffer, .d3dTexture, .dmaBuf, .cvPixelBuffer, .androidHardwareBuffer]
    memoryTypeRaw value

def knownArchitecture (value : UInt16) : Option DisplayTargetArchitecture :=
  declared [.unknown, .x86, .x86_64, .arm32, .arm64, .loongArch64, .mips64El] architectureRaw value

def knownSocProfile (value : UInt16) : Option DisplayTargetSocProfile :=
  declared [.unknown, .generic, .rockchip3568, .rockchip3588] socProfileRaw value

def knownCodecId (value : UInt16) : Option DisplayCodecId :=
  declared [.unknown, .rawBgra, .h264, .h265, .av1] codecIdRaw value

def knownCodecDirection (value : UInt16) : Option DisplayCodecDirection :=
  declared [.unknown, .encode, .decode] codecDirectionRaw value

def knownCodecBackend (value : UInt16) : Option DisplayCodecBackendKind :=
  declared [.unknown, .rawFrame, .software, .ffmpegSoftware, .windowsMediaFoundation, .linuxVaapi,
    .linuxV4L2M2M, .macOSVideoToolbox, .androidMediaCodec, .harmonySystemCodec, .rockchipMpp]
    codecBackendRaw value

/-! ## Writing -/

def appendEnumVector {α : Type} (raw : α → UInt16) (output : ByteBuffer) (values : List α) :
    Option ByteBuffer :=
  appendList (fun output value => some (appendU16 output (raw value))) output values

def appendCapability (output : ByteBuffer) (capability : DisplayCodecCapability) :
    Option ByteBuffer := do
  let output := appendU16 output (platformRaw capability.platform)
  let output := appendU16 output (codecBackendRaw capability.backend)
  let output := appendU16 output (codecIdRaw capability.codec)
  let output ← appendString output capability.adapterId
  let output ← appendEnumVector DisplayPixelFormat.raw output capability.pixelFormats
  let output ← appendEnumVector memoryTypeRaw output capability.inputMemoryTypes
  let output ← appendEnumVector memoryTypeRaw output capability.outputMemoryTypes
  let output ← appendEnumVector architectureRaw output capability.architectures
  let output ← appendEnumVector socProfileRaw output capability.socProfiles
  let output ← appendString output capability.unavailableReason
  let output := appendU8 output (flag capability.supportsEncode)
  let output := appendU8 output (flag capability.supportsDecode)
  let output := appendU8 output (flag capability.available)
  let output := appendU8 output (flag capability.fallback)
  let output := appendU8 output (flag capability.hardwareAccelerated)
  let output := appendU8 output (flag capability.zeroCopy)
  let output := appendU8 output (flag capability.lowLatency)
  let output := appendU8 output (flag capability.requiresHardwareDevice)
  let output := appendU32 output capability.maxWidth
  let output := appendU32 output capability.maxHeight
  return appendI32 output (Int32.ofInt capability.priority)

def appendCapabilities (output : ByteBuffer) (capabilities : List DisplayCodecCapability) :
    Option ByteBuffer :=
  appendList appendCapability output capabilities

def appendSelectionRequest (output : ByteBuffer) (request : DisplayCodecSelectionRequest) :
    Option ByteBuffer := do
  let output := appendU16 output (platformRaw request.platform)
  let output := appendU16 output (codecDirectionRaw request.direction)
  let output ← appendEnumVector codecIdRaw output request.codecPreference
  let output ← appendEnumVector DisplayPixelFormat.raw output request.acceptedPixelFormats
  let output ← appendEnumVector memoryTypeRaw output request.acceptedInputMemoryTypes
  let output ← appendEnumVector memoryTypeRaw output request.acceptedOutputMemoryTypes
  let output := appendU16 output (architectureRaw request.architecture)
  let output := appendU16 output (socProfileRaw request.socProfile)
  let output ← appendString output request.requestedAdapterId
  let output := appendU8 output (flag request.allowHardware)
  let output := appendU8 output (flag request.allowSoftware)
  let output := appendU8 output (flag request.preferHardware)
  let output := appendU8 output (flag request.preferZeroCopy)
  let output := appendU8 output (flag request.requireLowLatency)
  let output := appendU32 output request.width
  let output := appendU32 output request.height
  appendCapabilities output request.candidates

/-- A request that may be absent. -/
def appendRequestIf (present : Bool) (output : ByteBuffer)
    (request : DisplayCodecSelectionRequest) : Option ByteBuffer :=
  if present then appendSelectionRequest output request else some output

/-- A payload that could not be written is empty. -/
def encodeDisplayCodecPeerProfilePayload (payload : DisplayCodecPeerProfilePayload) : ByteBuffer :=
  Option.getD (do
    let output := appendU32 [] displayCodecPeerProfileMagic
    let output := appendU16 output displayCodecPeerProfileVersion
    let output := appendU8 output (flag payload.hasEncoderRequest)
    let output := appendU8 output (flag payload.hasDecoderRequest)
    let output ← appendRequestIf payload.hasEncoderRequest output payload.encoderRequest
    appendRequestIf payload.hasDecoderRequest output payload.decoderRequest) []

/-! ## Reading -/

/-- The body of the loop of `readEnumVector`. -/
def readEnum {α : Type} (known : UInt16 → Option α) : Reader Unit α := do
  let raw ← readU16
  ofOption (known raw) ()

def readEnumVector {α : Type} (known : UInt16 → Option α) : Reader Unit (List α) :=
  readList (readEnum known)

def readCapability : Reader Unit DisplayCodecCapability := do
  let platform ← readU16
  let backend ← readU16
  let codec ← readU16
  let adapterId ← readString
  let pixelFormats ← readEnumVector knownPixelFormat
  let inputMemoryTypes ← readEnumVector knownMemoryType
  let outputMemoryTypes ← readEnumVector knownMemoryType
  let architectures ← readEnumVector knownArchitecture
  let socProfiles ← readEnumVector knownSocProfile
  let unavailableReason ← readString
  let supportsEncode ← readU8
  let supportsDecode ← readU8
  let available ← readU8
  let fallback ← readU8
  let hardwareAccelerated ← readU8
  let zeroCopy ← readU8
  let lowLatency ← readU8
  let requiresHardwareDevice ← readU8
  let maxWidth ← readU32
  let maxHeight ← readU32
  let priority ← readI32
  let platform ← ofOption (knownPlatform platform) ()
  let backend ← ofOption (knownCodecBackend backend) ()
  let codec ← ofOption (knownCodecId codec) ()
  return {
    adapterId := adapterId
    platform := platform
    backend := backend
    codec := codec
    pixelFormats := pixelFormats
    inputMemoryTypes := inputMemoryTypes
    outputMemoryTypes := outputMemoryTypes
    architectures := architectures
    socProfiles := socProfiles
    supportsEncode := supportsEncode != 0
    supportsDecode := supportsDecode != 0
    available := available != 0
    unavailableReason := unavailableReason
    fallback := fallback != 0
    hardwareAccelerated := hardwareAccelerated != 0
    zeroCopy := zeroCopy != 0
    lowLatency := lowLatency != 0
    requiresHardwareDevice := requiresHardwareDevice != 0
    maxWidth := maxWidth
    maxHeight := maxHeight
    priority := priority.toInt }

def readCapabilities : Reader Unit (List DisplayCodecCapability) := readList readCapability

def readSelectionRequest : Reader Unit DisplayCodecSelectionRequest := do
  let platform ← readU16
  let direction ← readU16
  let codecPreference ← readEnumVector knownCodecId
  let acceptedPixelFormats ← readEnumVector knownPixelFormat
  let acceptedInputMemoryTypes ← readEnumVector knownMemoryType
  let acceptedOutputMemoryTypes ← readEnumVector knownMemoryType
  let architecture ← readU16
  let socProfile ← readU16
  let requestedAdapterId ← readString
  let allowHardware ← readU8
  let allowSoftware ← readU8
  let preferHardware ← readU8
  let preferZeroCopy ← readU8
  let requireLowLatency ← readU8
  let width ← readU32
  let height ← readU32
  let candidates ← readCapabilities
  let platform ← ofOption (knownPlatform platform) ()
  let direction ← ofOption (knownCodecDirection direction) ()
  let architecture ← ofOption (knownArchitecture architecture) ()
  let socProfile ← ofOption (knownSocProfile socProfile) ()
  return {
    platform := platform
    direction := direction
    codecPreference := codecPreference
    acceptedPixelFormats := acceptedPixelFormats
    acceptedInputMemoryTypes := acceptedInputMemoryTypes
    acceptedOutputMemoryTypes := acceptedOutputMemoryTypes
    architecture := architecture
    socProfile := socProfile
    requestedAdapterId := requestedAdapterId
    allowHardware := allowHardware != 0
    allowSoftware := allowSoftware != 0
    preferHardware := preferHardware != 0
    preferZeroCopy := preferZeroCopy != 0
    requireLowLatency := requireLowLatency != 0
    width := width
    height := height
    candidates := candidates }

/-- The magic, the version and whether the requests are there. -/
def readProfileHeader : Reader Unit (UInt32 × UInt16 × UInt8 × UInt8) := do
  let magic ← readU32
  let version ← readU16
  let hasEncoderRequest ← readU8
  let hasDecoderRequest ← readU8
  return (magic, version, hasEncoderRequest, hasDecoderRequest)

/-- A request that may be absent; an absent one is the default. -/
def readRequestIf (present : Bool) (message : String) :
    Reader StdString DisplayCodecSelectionRequest :=
  if present then withMessage message readSelectionRequest else return {}

/-- The payload, as far as its last field. -/
def readProfile : Reader StdString DisplayCodecPeerProfilePayload := do
  let (magic, version, hasEncoderRequest, hasDecoderRequest) ←
    withMessage "display codec peer profile payload is truncated" readProfileHeader
  refuseIf (magic ≠ displayCodecPeerProfileMagic)
    (text "display codec peer profile magic is invalid")
  refuseIf (version ≠ displayCodecPeerProfileVersion)
    (text "display codec peer profile version is unsupported")
  let encoderRequest ←
    readRequestIf (hasEncoderRequest != 0) "display codec encoder request is invalid"
  let decoderRequest ←
    readRequestIf (hasDecoderRequest != 0) "display codec decoder request is invalid"
  return ⟨hasEncoderRequest != 0, encoderRequest, hasDecoderRequest != 0, decoderRequest⟩

def decodeDisplayCodecPeerProfilePayload (payload : ByteBuffer) :
    DisplayCodecPeerProfileDecodeResult :=
  match (readWhole readProfile "display codec peer profile payload has trailing bytes").outcome
      payload with
  | .ok (profile, _) => { ok := true, payload := profile }
  | .error message => { message := message }

end DisplayCodec
end Runtime
end FusionDesk
