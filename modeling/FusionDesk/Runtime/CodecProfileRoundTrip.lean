import FusionDesk.Runtime.CodecProfile
import FusionDesk.Runtime.PeerProfileRoundTrip
import Mathlib.Data.List.Forall2

/-!
# The display codec profile round trip

What is written is read back, record by record; and what is accepted is a payload whose bytes are
those of its fields, one after the other, with a declared value in every field of an enumeration.

* `ProfileLimits`: what the format can say.
* `ProfileOn`: the bytes of a payload, field by field; only the bytes of a `bool` are not determined.
* `codecProfile_roundTrip`: both directions, for whole payloads.
-/

namespace FusionDesk
namespace Runtime
namespace DisplayCodec

open Display (DisplayPixelFormat)
open ByteReader Reader
open Protocol Protocol.PayloadFields
open PeerProfile (text declared withMessage readWhole outcome_readWhole run_of_outcome_readWhole)

/-! ## Enumerations -/

/-- A value that is cast to is a declared one, with that number. -/
theorem of_declared {α : Type} {all : List α} {raw : α → UInt16} {value : UInt16} {a : α}
    (h : declared all raw value = some a) : value = raw a ∧ declared all raw (raw a) = some a := by
  have hraw : raw a = value := by simpa using List.find?_some h
  rw [hraw]
  exact ⟨rfl, h⟩

@[simp] theorem knownPlatform_raw (value : DisplayPlatformFamily) :
    knownPlatform (platformRaw value) = some value := by
  cases value <;> rfl

@[simp] theorem knownMemoryType_raw (value : DisplayCodecMemoryType) :
    knownMemoryType (memoryTypeRaw value) = some value := by
  cases value <;> rfl

@[simp] theorem knownArchitecture_raw (value : DisplayTargetArchitecture) :
    knownArchitecture (architectureRaw value) = some value := by
  cases value <;> rfl

@[simp] theorem knownSocProfile_raw (value : DisplayTargetSocProfile) :
    knownSocProfile (socProfileRaw value) = some value := by
  cases value <;> rfl

@[simp] theorem knownCodecId_raw (value : DisplayCodecId) :
    knownCodecId (codecIdRaw value) = some value := by
  cases value <;> rfl

@[simp] theorem knownCodecDirection_raw (value : DisplayCodecDirection) :
    knownCodecDirection (codecDirectionRaw value) = some value := by
  cases value <;> rfl

@[simp] theorem knownCodecBackend_raw (value : DisplayCodecBackendKind) :
    knownCodecBackend (codecBackendRaw value) = some value := by
  cases value <;> rfl

/-- A pixel format is one of those the source declares. -/
def Declared (format : DisplayPixelFormat) : Prop :=
  knownPixelFormat format.raw = some format

instance : DecidablePred Declared := fun _ => inferInstanceAs (Decidable (_ = _))

/-! ## Lists of enumerations -/

def enumBytes {α : Type} (raw : α → UInt16) (values : List α) : ByteBuffer :=
  listBytes (fun value => u16Bytes (raw value)) values

section EnumVectors

variable {α : Type} {raw : α → UInt16} {values : List α}

theorem appendEnumVector_eq (hcount : values.length < 2 ^ 16) (output : ByteBuffer) :
    appendEnumVector raw output values = some (output ++ enumBytes raw values) := by
  refine appendList_eq output _ hcount fun value _ output => ?_
  rw [appendU16_eq]

variable {known : UInt16 → Option α}

theorem reads_enumVector (rest : ByteBuffer) (hcount : values.length < 2 ^ 16)
    (h : ∀ a ∈ values, known (raw a) = some a) :
    Reads (readEnumVector known) values (enumBytes raw values) rest :=
  reads_list rest hcount fun a hmem _ =>
    Reads.last (reads_u16 _ _) <| Reads.ofOption (h a hmem) () _

/-- The bytes are those of the values, which are declared. -/
structure EnumsOn (known : UInt16 → Option α) (raw : α → UInt16) (values : List α)
    (bytes : ByteBuffer) : Prop where
  bytes_eq : bytes = enumBytes raw values
  count : values.length < 2 ^ 16
  declared : ∀ a ∈ values, known (raw a) = some a

theorem takes_enumVector (h : ∀ value a, known value = some a →
      value = raw a ∧ known (raw a) = some a) :
    Takes (readEnumVector known) (EnumsOn known raw) := by
  refine Takes.mono ?_ fun values front (hvalues : front = enumBytes raw values ∧
    values.length < 2 ^ 16 ∧ ∀ a ∈ values, known (raw a) = some a) =>
      ⟨hvalues.1, hvalues.2.1, hvalues.2.2⟩
  refine takes_list_eq (takes_u16.bind fun value front hfront => ?_)
  refine Takes.ofOption fun a ha => ?_
  rw [List.append_nil, hfront, (h value a ha).1]
  exact ⟨rfl, (h value a ha).2⟩

end EnumVectors

theorem takes_pixelFormats :
    Takes (readEnumVector knownPixelFormat) (EnumsOn knownPixelFormat DisplayPixelFormat.raw) :=
  takes_enumVector fun _ _ => of_declared

theorem takes_memoryTypes :
    Takes (readEnumVector knownMemoryType) (EnumsOn knownMemoryType memoryTypeRaw) :=
  takes_enumVector fun _ _ => of_declared

theorem takes_architectures :
    Takes (readEnumVector knownArchitecture) (EnumsOn knownArchitecture architectureRaw) :=
  takes_enumVector fun _ _ => of_declared

theorem takes_socProfiles :
    Takes (readEnumVector knownSocProfile) (EnumsOn knownSocProfile socProfileRaw) :=
  takes_enumVector fun _ _ => of_declared

theorem takes_codecIds :
    Takes (readEnumVector knownCodecId) (EnumsOn knownCodecId codecIdRaw) :=
  takes_enumVector fun _ _ => of_declared

/-! ## Capabilities -/

structure CapabilityLimits (capability : DisplayCodecCapability) : Prop where
  adapterId : capability.adapterId.length < 2 ^ 32
  pixelFormatCount : capability.pixelFormats.length < 2 ^ 16
  pixelFormats : ∀ format ∈ capability.pixelFormats, Declared format
  inputMemoryCount : capability.inputMemoryTypes.length < 2 ^ 16
  outputMemoryCount : capability.outputMemoryTypes.length < 2 ^ 16
  architectureCount : capability.architectures.length < 2 ^ 16
  socProfileCount : capability.socProfiles.length < 2 ^ 16
  unavailableReason : capability.unavailableReason.length < 2 ^ 32
  priority : -2 ^ 31 ≤ capability.priority ∧ capability.priority < 2 ^ 31

/-- The fields in front of the flags. -/
def capabilityHead (capability : DisplayCodecCapability) : ByteBuffer :=
  u16Bytes (platformRaw capability.platform) ++ (u16Bytes (codecBackendRaw capability.backend) ++
    (u16Bytes (codecIdRaw capability.codec) ++ (stringBytes capability.adapterId ++
      (enumBytes DisplayPixelFormat.raw capability.pixelFormats ++
        (enumBytes memoryTypeRaw capability.inputMemoryTypes ++
          (enumBytes memoryTypeRaw capability.outputMemoryTypes ++
            (enumBytes architectureRaw capability.architectures ++
              (enumBytes socProfileRaw capability.socProfiles ++
                stringBytes capability.unavailableReason))))))))

def capabilityFlags (capability : DisplayCodecCapability) : List Bool :=
  [capability.supportsEncode, capability.supportsDecode, capability.available, capability.fallback,
    capability.hardwareAccelerated, capability.zeroCopy, capability.lowLatency,
    capability.requiresHardwareDevice]

/-- The fields behind the flags. -/
def capabilityTail (capability : DisplayCodecCapability) : ByteBuffer :=
  u32Bytes capability.maxWidth ++ (u32Bytes capability.maxHeight ++
    u32Bytes (Int32.ofInt capability.priority).toUInt32)

def capabilityBytes (capability : DisplayCodecCapability) : ByteBuffer :=
  capabilityHead capability ++ ((capabilityFlags capability).map flag ++ capabilityTail capability)

/-- The bytes are those of the capability, with any byte other than 0 for `true`. -/
def CapabilityOn (capability : DisplayCodecCapability) (bytes : ByteBuffer) : Prop :=
  ∃ flags : ByteBuffer, flags.map (· != 0) = capabilityFlags capability ∧
    bytes = capabilityHead capability ++ (flags ++ capabilityTail capability)

theorem appendCapability_eq {capability : DisplayCodecCapability}
    (h : CapabilityLimits capability) (output : ByteBuffer) :
    appendCapability output capability = some (output ++ capabilityBytes capability) := by
  simp [appendCapability, appendString_eq _ h.adapterId, appendEnumVector_eq h.pixelFormatCount,
    appendEnumVector_eq h.inputMemoryCount, appendEnumVector_eq h.outputMemoryCount,
    appendEnumVector_eq h.architectureCount, appendEnumVector_eq h.socProfileCount,
    appendString_eq _ h.unavailableReason, capabilityBytes, capabilityHead, capabilityFlags,
    capabilityTail]

theorem reads_capability (rest : ByteBuffer) {capability : DisplayCodecCapability}
    (h : CapabilityLimits capability) :
    Reads readCapability capability (capabilityBytes capability) rest := by
  have hpriority : (Int32.ofInt capability.priority).toInt = capability.priority :=
    Int32.toInt_ofInt_of_le h.priority.1 h.priority.2
  simp only [capabilityBytes, capabilityHead, capabilityFlags, capabilityTail, List.map_cons,
    List.map_nil, List.append_assoc]
  refine (reads_u16 _ _).bind <| (reads_u16 _ _).bind <| (reads_u16 _ _).bind <|
    (reads_string _ h.adapterId).bind <|
    (reads_enumVector _ h.pixelFormatCount h.pixelFormats).bind <|
    (reads_enumVector _ h.inputMemoryCount fun a _ => knownMemoryType_raw a).bind <|
    (reads_enumVector _ h.outputMemoryCount fun a _ => knownMemoryType_raw a).bind <|
    (reads_enumVector _ h.architectureCount fun a _ => knownArchitecture_raw a).bind <|
    (reads_enumVector _ h.socProfileCount fun a _ => knownSocProfile_raw a).bind <|
    (reads_string _ h.unavailableReason).bind <|
    (reads_u8 _ _).bind <| (reads_u8 _ _).bind <| (reads_u8 _ _).bind <| (reads_u8 _ _).bind <|
    (reads_u8 _ _).bind <| (reads_u8 _ _).bind <| (reads_u8 _ _).bind <| (reads_u8 _ _).bind <|
    (reads_u32 _ _).bind <| (reads_u32 _ _).bind <| Reads.last (reads_i32 _ _) ?_
  refine Reads.bind_ofOption (knownPlatform_raw _) <| Reads.bind_ofOption (knownCodecBackend_raw _) <|
    Reads.bind_ofOption (knownCodecId_raw _) ?_
  simp only [flag_ne_zero, hpriority]
  exact Reads.pure _ _

/-- **The bytes that a capability was read from** are its fields, with declared values. -/
theorem takes_capability :
    Takes readCapability fun capability front =>
      CapabilityLimits capability ∧ CapabilityOn capability front := by
  refine takes_u16.bind fun platform _ hplatform => ?_
  refine takes_u16.bind fun backend _ hbackend => ?_
  refine takes_u16.bind fun codec _ hcodec => ?_
  refine takes_string.bind fun adapterId _ hadapterId => ?_
  refine takes_pixelFormats.bind fun pixelFormats _ hpixelFormats => ?_
  refine takes_memoryTypes.bind fun inputMemoryTypes _ hinput => ?_
  refine takes_memoryTypes.bind fun outputMemoryTypes _ houtput => ?_
  refine takes_architectures.bind fun architectures _ harchitectures => ?_
  refine takes_socProfiles.bind fun socProfiles _ hsocProfiles => ?_
  refine takes_string.bind fun unavailableReason _ hreason => ?_
  refine takes_u8.bind fun supportsEncode _ hencode => ?_
  refine takes_u8.bind fun supportsDecode _ hdecode => ?_
  refine takes_u8.bind fun available _ havailable => ?_
  refine takes_u8.bind fun fallback _ hfallback => ?_
  refine takes_u8.bind fun hardwareAccelerated _ hhardware => ?_
  refine takes_u8.bind fun zeroCopy _ hzeroCopy => ?_
  refine takes_u8.bind fun lowLatency _ hlowLatency => ?_
  refine takes_u8.bind fun requiresHardwareDevice _ hdevice => ?_
  refine takes_u32.bind fun maxWidth _ hmaxWidth => ?_
  refine takes_u32.bind fun maxHeight _ hmaxHeight => ?_
  refine takes_i32.bind fun priority _ hpriority => ?_
  refine Takes.ofOption_bind fun platformValue hplatformValue => ?_
  refine Takes.ofOption_bind fun backendValue hbackendValue => ?_
  refine Takes.ofOption_bind fun codecValue hcodecValue => Takes.pure ?_
  refine ⟨⟨hadapterId.2, hpixelFormats.count, hpixelFormats.declared, hinput.count,
    houtput.count, harchitectures.count, hsocProfiles.count, hreason.2, priority.le_toInt, priority.toInt_lt⟩, ?_⟩
  refine ⟨[supportsEncode, supportsDecode, available, fallback, hardwareAccelerated, zeroCopy,
    lowLatency, requiresHardwareDevice], rfl, ?_⟩
  rw [(of_declared hplatformValue).1] at hplatform
  rw [(of_declared hbackendValue).1] at hbackend
  rw [(of_declared hcodecValue).1] at hcodec
  rw [hplatform, hbackend, hcodec, hadapterId.1, hpixelFormats.bytes_eq, hinput.bytes_eq,
    houtput.bytes_eq, harchitectures.bytes_eq, hsocProfiles.bytes_eq, hreason.1, hencode, hdecode, havailable, hfallback, hhardware,
    hzeroCopy, hlowLatency, hdevice, hmaxWidth, hmaxHeight, hpriority]
  simp only [capabilityHead, capabilityTail, List.append_assoc, Int32.ofInt_toInt,
    List.append_nil, List.cons_append, List.nil_append]

/-! ## Requests -/

structure SelectionRequestLimits (request : DisplayCodecSelectionRequest) : Prop where
  preferenceCount : request.codecPreference.length < 2 ^ 16
  pixelFormatCount : request.acceptedPixelFormats.length < 2 ^ 16
  pixelFormats : ∀ format ∈ request.acceptedPixelFormats, Declared format
  inputMemoryCount : request.acceptedInputMemoryTypes.length < 2 ^ 16
  outputMemoryCount : request.acceptedOutputMemoryTypes.length < 2 ^ 16
  requestedAdapterId : request.requestedAdapterId.length < 2 ^ 32
  candidateCount : request.candidates.length < 2 ^ 16
  candidates : ∀ capability ∈ request.candidates, CapabilityLimits capability

def selectionHead (request : DisplayCodecSelectionRequest) : ByteBuffer :=
  u16Bytes (platformRaw request.platform) ++ (u16Bytes (codecDirectionRaw request.direction) ++
    (enumBytes codecIdRaw request.codecPreference ++
      (enumBytes DisplayPixelFormat.raw request.acceptedPixelFormats ++
        (enumBytes memoryTypeRaw request.acceptedInputMemoryTypes ++
          (enumBytes memoryTypeRaw request.acceptedOutputMemoryTypes ++
            (u16Bytes (architectureRaw request.architecture) ++
              (u16Bytes (socProfileRaw request.socProfile) ++
                stringBytes request.requestedAdapterId)))))))

def selectionFlags (request : DisplayCodecSelectionRequest) : List Bool :=
  [request.allowHardware, request.allowSoftware, request.preferHardware, request.preferZeroCopy,
    request.requireLowLatency]

def selectionBytes (request : DisplayCodecSelectionRequest) : ByteBuffer :=
  selectionHead request ++ ((selectionFlags request).map flag ++ (u32Bytes request.width ++
    (u32Bytes request.height ++ listBytes capabilityBytes request.candidates)))

/-- The bytes are those of the request, with any byte other than 0 for `true`. -/
def SelectionOn (request : DisplayCodecSelectionRequest) (bytes : ByteBuffer) : Prop :=
  ∃ (flags : ByteBuffer) (candidates : List ByteBuffer),
    flags.map (· != 0) = selectionFlags request ∧
      List.Forall₂ CapabilityOn request.candidates candidates ∧
        bytes = selectionHead request ++ (flags ++ (u32Bytes request.width ++
          (u32Bytes request.height ++ (u16Bytes (UInt16.ofNat request.candidates.length) ++
            candidates.flatten))))

theorem appendSelectionRequest_eq {request : DisplayCodecSelectionRequest}
    (h : SelectionRequestLimits request) (output : ByteBuffer) :
    appendSelectionRequest output request = some (output ++ selectionBytes request) := by
  have hcandidates := fun output => appendList_eq output appendCapability h.candidateCount
    fun capability hmem output => appendCapability_eq (h.candidates capability hmem) output
  simp [appendSelectionRequest, appendEnumVector_eq h.preferenceCount,
    appendEnumVector_eq h.pixelFormatCount, appendEnumVector_eq h.inputMemoryCount,
    appendEnumVector_eq h.outputMemoryCount, appendString_eq _ h.requestedAdapterId,
    appendCapabilities, hcandidates, selectionBytes, selectionHead, selectionFlags]

theorem reads_selectionRequest (rest : ByteBuffer) {request : DisplayCodecSelectionRequest}
    (h : SelectionRequestLimits request) :
    Reads readSelectionRequest request (selectionBytes request) rest := by
  simp only [selectionBytes, selectionHead, selectionFlags, List.map_cons, List.map_nil,
    List.append_assoc]
  refine (reads_u16 _ _).bind <| (reads_u16 _ _).bind <|
    (reads_enumVector _ h.preferenceCount fun a _ => knownCodecId_raw a).bind <|
    (reads_enumVector _ h.pixelFormatCount h.pixelFormats).bind <|
    (reads_enumVector _ h.inputMemoryCount fun a _ => knownMemoryType_raw a).bind <|
    (reads_enumVector _ h.outputMemoryCount fun a _ => knownMemoryType_raw a).bind <|
    (reads_u16 _ _).bind <| (reads_u16 _ _).bind <| (reads_string _ h.requestedAdapterId).bind <|
    (reads_u8 _ _).bind <| (reads_u8 _ _).bind <| (reads_u8 _ _).bind <| (reads_u8 _ _).bind <|
    (reads_u8 _ _).bind <| (reads_u32 _ _).bind <| (reads_u32 _ _).bind <| Reads.last
      (reads_list _ h.candidateCount fun capability hmem rest =>
        reads_capability rest (h.candidates capability hmem)) ?_
  refine Reads.bind_ofOption (knownPlatform_raw _) <|
    Reads.bind_ofOption (knownCodecDirection_raw _) <|
    Reads.bind_ofOption (knownArchitecture_raw _) <|
    Reads.bind_ofOption (knownSocProfile_raw _) ?_
  simp only [flag_ne_zero]
  exact Reads.pure _ _

/-- **The bytes that a request was read from** are its fields, with declared values. -/
theorem takes_selectionRequest :
    Takes readSelectionRequest fun request front =>
      SelectionRequestLimits request ∧ SelectionOn request front := by
  refine takes_u16.bind fun platform _ hplatform => ?_
  refine takes_u16.bind fun direction _ hdirection => ?_
  refine takes_codecIds.bind fun codecPreference _ hpreference => ?_
  refine takes_pixelFormats.bind fun pixelFormats _ hpixelFormats => ?_
  refine takes_memoryTypes.bind fun inputMemoryTypes _ hinput => ?_
  refine takes_memoryTypes.bind fun outputMemoryTypes _ houtput => ?_
  refine takes_u16.bind fun architecture _ harchitecture => ?_
  refine takes_u16.bind fun socProfile _ hsocProfile => ?_
  refine takes_string.bind fun requestedAdapterId _ hadapterId => ?_
  refine takes_u8.bind fun allowHardware _ hhardware => ?_
  refine takes_u8.bind fun allowSoftware _ hsoftware => ?_
  refine takes_u8.bind fun preferHardware _ hprefer => ?_
  refine takes_u8.bind fun preferZeroCopy _ hzeroCopy => ?_
  refine takes_u8.bind fun requireLowLatency _ hlowLatency => ?_
  refine takes_u32.bind fun width _ hwidth => ?_
  refine takes_u32.bind fun height _ hheight => ?_
  refine (takes_list takes_capability).bind fun candidates _ hcandidates => ?_
  obtain ⟨hcount, parts, hparts, hitems⟩ := hcandidates
  refine Takes.ofOption_bind fun platformValue hplatformValue => ?_
  refine Takes.ofOption_bind fun directionValue hdirectionValue => ?_
  refine Takes.ofOption_bind fun architectureValue harchitectureValue => ?_
  refine Takes.ofOption_bind fun socProfileValue hsocProfileValue => Takes.pure ?_
  obtain ⟨hlimits, hitems⟩ := (List.forall₂_and_left _ _).mp hitems
  refine ⟨⟨hpreference.count, hpixelFormats.count, hpixelFormats.declared, hinput.count,
    houtput.count, hadapterId.2, hcount, hlimits⟩, ?_⟩
  refine ⟨[allowHardware, allowSoftware, preferHardware, preferZeroCopy, requireLowLatency], parts,
    rfl, hitems, ?_⟩
  rw [(of_declared hplatformValue).1] at hplatform
  rw [(of_declared hdirectionValue).1] at hdirection
  rw [(of_declared harchitectureValue).1] at harchitecture
  rw [(of_declared hsocProfileValue).1] at hsocProfile
  rw [hplatform, hdirection, hpreference.bytes_eq, hpixelFormats.bytes_eq, hinput.bytes_eq,
    houtput.bytes_eq, harchitecture, hsocProfile, hadapterId.1, hhardware, hsoftware, hprefer, hzeroCopy, hlowLatency, hwidth, hheight,
    hparts]
  simp only [selectionHead, List.append_assoc, List.append_nil, List.cons_append, List.nil_append]

/-! ## Payloads -/

structure ProfileLimits (payload : DisplayCodecPeerProfilePayload) : Prop where
  encoder : payload.hasEncoderRequest = true → SelectionRequestLimits payload.encoderRequest
  decoder : payload.hasDecoderRequest = true → SelectionRequestLimits payload.decoderRequest

/-- What of a payload travels: a request that is absent comes back as the default. -/
def DisplayCodecPeerProfilePayload.onWire (payload : DisplayCodecPeerProfilePayload) :
    DisplayCodecPeerProfilePayload where
  hasEncoderRequest := payload.hasEncoderRequest
  encoderRequest := if payload.hasEncoderRequest then payload.encoderRequest else {}
  hasDecoderRequest := payload.hasDecoderRequest
  decoderRequest := if payload.hasDecoderRequest then payload.decoderRequest else {}

def requestIfBytes (present : Bool) (request : DisplayCodecSelectionRequest) : ByteBuffer :=
  if present then selectionBytes request else []

def profileBytes (payload : DisplayCodecPeerProfilePayload) : ByteBuffer :=
  (u32Bytes displayCodecPeerProfileMagic ++ (u16Bytes displayCodecPeerProfileVersion ++
    ([flag payload.hasEncoderRequest] ++ [flag payload.hasDecoderRequest]))) ++
  (requestIfBytes payload.hasEncoderRequest payload.encoderRequest ++
    requestIfBytes payload.hasDecoderRequest payload.decoderRequest)

/-- The bytes of a request that may be absent; an absent one has no bytes and is the default. -/
def RequestIfOn (present : Bool) (request : DisplayCodecSelectionRequest) (bytes : ByteBuffer) :
    Prop :=
  if present then SelectionRequestLimits request ∧ SelectionOn request bytes
  else request = {} ∧ bytes = []

/-- The bytes are those of the payload, with any byte other than 0 for `true`. -/
def ProfileOn (payload : DisplayCodecPeerProfilePayload) (bytes : ByteBuffer) : Prop :=
  ∃ (hasEncoder hasDecoder : UInt8) (encoder decoder : ByteBuffer),
    (hasEncoder != 0) = payload.hasEncoderRequest ∧
      (hasDecoder != 0) = payload.hasDecoderRequest ∧
        RequestIfOn payload.hasEncoderRequest payload.encoderRequest encoder ∧
          RequestIfOn payload.hasDecoderRequest payload.decoderRequest decoder ∧
            bytes = (u32Bytes displayCodecPeerProfileMagic ++
              (u16Bytes displayCodecPeerProfileVersion ++ ([hasEncoder] ++ [hasDecoder]))) ++
                (encoder ++ decoder)

theorem appendRequestIf_eq {present : Bool} {request : DisplayCodecSelectionRequest}
    (h : present = true → SelectionRequestLimits request) (output : ByteBuffer) :
    appendRequestIf present output request = some (output ++ requestIfBytes present request) := by
  cases present with
  | false => simp [appendRequestIf, requestIfBytes]
  | true =>
    rw [appendRequestIf, if_pos rfl, appendSelectionRequest_eq (h rfl)]
    rfl

/-- **What the encoder writes.** -/
theorem encode_profile {payload : DisplayCodecPeerProfilePayload} (h : ProfileLimits payload) :
    encodeDisplayCodecPeerProfilePayload payload = profileBytes payload := by
  simp [encodeDisplayCodecPeerProfilePayload, appendRequestIf_eq h.encoder,
    appendRequestIf_eq h.decoder, profileBytes]

theorem reads_requestIf (rest : ByteBuffer) {present : Bool}
    {request : DisplayCodecSelectionRequest}
    (h : present = true → SelectionRequestLimits request) (message : String) :
    Reads (readRequestIf present message) (if present then request else {})
      (requestIfBytes present request) rest := by
  cases present with
  | false => exact Reads.pure _ _
  | true => exact Reads.named _ (reads_selectionRequest rest (h rfl))

theorem takes_requestIf (present : Bool) (message : String) :
    Takes (readRequestIf present message) (RequestIfOn present) := by
  cases present with
  | false => exact Takes.pure ⟨rfl, rfl⟩
  | true => exact takes_selectionRequest.named

theorem reads_profile {payload : DisplayCodecPeerProfilePayload} (h : ProfileLimits payload) :
    Reads readProfile payload.onWire (profileBytes payload) [] := by
  have hheader : ∀ rest, Reads readProfileHeader (displayCodecPeerProfileMagic,
      displayCodecPeerProfileVersion, flag payload.hasEncoderRequest,
        flag payload.hasDecoderRequest) (u32Bytes displayCodecPeerProfileMagic ++
          (u16Bytes displayCodecPeerProfileVersion ++ ([flag payload.hasEncoderRequest] ++
            [flag payload.hasDecoderRequest]))) rest := fun rest =>
    (reads_u32 _ _).bind <| (reads_u16 _ _).bind <| (reads_u8 _ _).bind <|
      Reads.last (reads_u8 _ _) <| Reads.pure _ _
  refine (Reads.named _ (hheader _)).bind ?_
  refine Reads.bind_refuseIf (not_not.mpr rfl) <| Reads.bind_refuseIf (not_not.mpr rfl) ?_
  simp only [flag_ne_zero]
  exact (reads_requestIf _ h.encoder _).bind <| Reads.last (reads_requestIf _ h.decoder _) <|
    Reads.pure _ _

theorem takes_profile : Takes readProfile ProfileOn := by
  have hheader : Takes readProfileHeader fun header front =>
      front = u32Bytes header.1 ++ (u16Bytes header.2.1 ++ ([header.2.2.1] ++ [header.2.2.2])) := by
    refine takes_u32.bind fun magic _ hmagic => ?_
    refine takes_u16.bind fun version _ hversion => ?_
    refine takes_u8.bind fun hasEncoder _ hencoder => ?_
    refine takes_u8.bind fun hasDecoder _ hdecoder => Takes.pure ?_
    rw [hmagic, hversion, hencoder, hdecoder, List.append_nil]
  refine (Takes.named hheader).bind ?_
  rintro ⟨magic, version, hasEncoder, hasDecoder⟩ header hfront
  refine Takes.refuseIf_bind fun hmagic => Takes.refuseIf_bind fun hversion => ?_
  refine (takes_requestIf _ _).bind fun encoderRequest encoder hencoder => ?_
  refine (takes_requestIf _ _).bind fun decoderRequest decoder hdecoder => Takes.pure ?_
  refine ⟨hasEncoder, hasDecoder, encoder, decoder, rfl, rfl, hencoder, hdecoder, ?_⟩
  rw [hfront, List.append_nil, not_not.mp hmagic, not_not.mp hversion]

theorem encode_ne_nil {payload : DisplayCodecPeerProfilePayload} (h : ProfileLimits payload) :
    encodeDisplayCodecPeerProfilePayload payload ≠ [] := by
  rw [encode_profile h]
  intro hempty
  have hlength := congrArg List.length hempty
  simp [profileBytes] at hlength

/-- **What the encoder writes is read back.** -/
theorem decode_encode {payload : DisplayCodecPeerProfilePayload} (h : ProfileLimits payload) :
    decodeDisplayCodecPeerProfilePayload (encodeDisplayCodecPeerProfilePayload payload) =
      { ok := true, payload := payload.onWire } := by
  rw [encode_profile h, decodeDisplayCodecPeerProfilePayload, outcome_readWhole (reads_profile h)]

/-- **What the decoder accepts** is the bytes of its fields. -/
theorem on_of_decode_ok {input : ByteBuffer}
    (h : (decodeDisplayCodecPeerProfilePayload input).ok = true) :
    ProfileOn (decodeDisplayCodecPeerProfilePayload input).payload input := by
  rw [decodeDisplayCodecPeerProfilePayload] at h ⊢
  split at h
  next profile next houtcome =>
    exact takes_profile.of_whole (run_of_outcome_readWhole houtcome)
  · cases h

/-- **Profiles are read back**: the encoder writes what the decoder accepts and reads back, both
requests with every candidate; and what the decoder accepts is the bytes of its fields, of declared
values only, with nothing behind the last one. -/
theorem codecProfile_roundTrip {payload : DisplayCodecPeerProfilePayload}
    (h : ProfileLimits payload) :
    (encodeDisplayCodecPeerProfilePayload payload ≠ [] ∧
      decodeDisplayCodecPeerProfilePayload (encodeDisplayCodecPeerProfilePayload payload) =
        { ok := true, payload := payload.onWire }) ∧
    ∀ input, (decodeDisplayCodecPeerProfilePayload input).ok = true →
      ProfileOn (decodeDisplayCodecPeerProfilePayload input).payload input :=
  ⟨⟨encode_ne_nil h, decode_encode h⟩, fun _ => on_of_decode_ok⟩

/-- What a Windows client asks of its decoder, with the defaults of the platform. -/
def windowsDecoderRequest : DisplayCodecSelectionRequest :=
  { platform := .windowsDesktop
    direction := .decode
    codecPreference := [.h264, .rawBgra]
    candidates := defaultDisplayCodecCapabilities .windowsDesktop }

theorem windowsDecoderRequest_limits : ProfileLimits
    { hasDecoderRequest := true, decoderRequest := windowsDecoderRequest } := by
  have hcandidates : ∀ capability ∈ windowsDecoderRequest.candidates,
      CapabilityLimits capability := by
    refine List.forall_mem_cons.mpr ⟨?_, List.forall_mem_cons.mpr ⟨?_,
      List.forall_mem_singleton.mpr ?_⟩⟩
    all_goals exact ⟨by decide, by decide, by decide, by decide, by decide,
      by decide, by decide, by decide, by decide⟩
  exact ⟨fun h => absurd h (by decide), fun _ => ⟨by decide, by decide, by decide, by decide,
    by decide, by decide, by decide, hcandidates⟩⟩

theorem codecProfile_roundTrip_windows :
    (decodeDisplayCodecPeerProfilePayload (encodeDisplayCodecPeerProfilePayload
      { hasDecoderRequest := true, decoderRequest := windowsDecoderRequest })).payload =
        { hasDecoderRequest := true, decoderRequest := windowsDecoderRequest } := by
  rw [(codecProfile_roundTrip windowsDecoderRequest_limits).1.2]
  rfl

end DisplayCodec
end Runtime
end FusionDesk
