import FusionDesk.Runtime.CaptureSelection
import FusionDesk.Runtime.PeerProfileCodec

/-!
# The selection of a display codec

`display_codec_selection.h` and `display_codec_selection.cpp`: of the candidates of a request, or of
the defaults of its platform if there are none, the first usable one with the greatest score.

The texts are bytes here (`StdString`): the identifiers of the adapters travel in a payload.  The
scores are integers; an `int` priority near the ends of its range, where the source overflows, has no
defined behaviour there.  `intersects` is the one of the capture backends, whose text is the same.

* `Fits`: every constraint that a request puts on a candidate.
* `selected_iff`: the selector gives `d` exactly if the request can be served and `d` is the
  `argmax` of the score over the candidates that fit.
-/

namespace FusionDesk
namespace Runtime
namespace DisplayCodec

open Display (DisplayPixelFormat)
open Protocol.PayloadFields (StdString)
open PeerProfile (text)
open BestScore

/-! ## Types -/

inductive DisplayCodecId
  | unknown
  | rawBgra
  | h264
  | h265
  | av1
  deriving DecidableEq, Repr

inductive DisplayCodecDirection
  | unknown
  | encode
  | decode
  deriving DecidableEq, Repr

inductive DisplayCodecBackendKind
  | unknown
  | rawFrame
  | software
  | ffmpegSoftware
  | windowsMediaFoundation
  | linuxVaapi
  | linuxV4L2M2M
  | macOSVideoToolbox
  | androidMediaCodec
  | harmonySystemCodec
  | rockchipMpp
  deriving DecidableEq, Repr

abbrev DisplayCodecMemoryType := DisplayCaptureMemoryType

structure DisplayCodecCapability where
  adapterId : StdString := []
  platform : DisplayPlatformFamily := .unknown
  backend : DisplayCodecBackendKind := .unknown
  codec : DisplayCodecId := .unknown
  pixelFormats : List DisplayPixelFormat := []
  inputMemoryTypes : List DisplayCodecMemoryType := []
  outputMemoryTypes : List DisplayCodecMemoryType := []
  architectures : List DisplayTargetArchitecture := []
  socProfiles : List DisplayTargetSocProfile := []
  supportsEncode : Bool := false
  supportsDecode : Bool := false
  available : Bool := true
  unavailableReason : StdString := []
  fallback : Bool := false
  hardwareAccelerated : Bool := false
  zeroCopy : Bool := false
  lowLatency : Bool := true
  requiresHardwareDevice : Bool := false
  maxWidth : UInt32 := 0
  maxHeight : UInt32 := 0
  priority : ℤ := 0
  deriving DecidableEq, Repr

structure DisplayCodecSelectionRequest where
  platform : DisplayPlatformFamily := .unknown
  direction : DisplayCodecDirection := .unknown
  codecPreference : List DisplayCodecId := [.rawBgra]
  acceptedPixelFormats : List DisplayPixelFormat := [.bgra32]
  acceptedInputMemoryTypes : List DisplayCodecMemoryType := [.cpuBuffer]
  acceptedOutputMemoryTypes : List DisplayCodecMemoryType := [.cpuBuffer]
  architecture : DisplayTargetArchitecture := .unknown
  socProfile : DisplayTargetSocProfile := .unknown
  requestedAdapterId : StdString := []
  allowHardware : Bool := true
  allowSoftware : Bool := true
  preferHardware : Bool := true
  preferZeroCopy : Bool := true
  requireLowLatency : Bool := true
  width : UInt32 := 0
  height : UInt32 := 0
  candidates : List DisplayCodecCapability := []
  deriving DecidableEq, Repr

structure DisplayCodecRejection where
  adapterId : StdString := []
  backend : DisplayCodecBackendKind := .unknown
  codec : DisplayCodecId := .unknown
  reason : StdString := []
  deriving DecidableEq, Repr

structure DisplayCodecSelectionResult where
  ok : Bool := false
  hasSelection : Bool := false
  selected : DisplayCodecCapability := {}
  fallbackSelected : Bool := false
  score : ℤ := 0
  rejected : List DisplayCodecRejection := []
  messages : List StdString := []
  deriving DecidableEq, Repr

def displayCodecIdName : DisplayCodecId → String
  | .unknown => "unknown"
  | .rawBgra => "raw_bgra"
  | .h264 => "h264"
  | .h265 => "h265"
  | .av1 => "av1"

/-! ## The defaults of a platform -/

def codecCapability (adapterId : String) (platform : DisplayPlatformFamily)
    (backend : DisplayCodecBackendKind) (codec : DisplayCodecId)
    (inputMemoryTypes outputMemoryTypes : List DisplayCodecMemoryType) (priority : ℤ) :
    DisplayCodecCapability where
  adapterId := text adapterId
  platform := platform
  backend := backend
  codec := codec
  pixelFormats := [.bgra32]
  inputMemoryTypes := inputMemoryTypes
  outputMemoryTypes := outputMemoryTypes
  supportsEncode := true
  supportsDecode := true
  priority := priority

def unavailableCodecCapability (adapterId : String) (platform : DisplayPlatformFamily)
    (backend : DisplayCodecBackendKind) (codec : DisplayCodecId)
    (inputMemoryTypes outputMemoryTypes : List DisplayCodecMemoryType) (priority : ℤ) :
    DisplayCodecCapability :=
  { codecCapability adapterId platform backend codec inputMemoryTypes outputMemoryTypes priority with
    available := false
    unavailableReason := text "codec adapter not linked" }

def rawFallback (platform : DisplayPlatformFamily) (adapterId : String) :
    DisplayCodecCapability :=
  { codecCapability adapterId platform .rawFrame .rawBgra [.cpuBuffer] [.cpuBuffer] 5 with
    fallback := true
    hardwareAccelerated := false
    zeroCopy := false
    lowLatency := true }

/-- What the defaults of the hardware adapters have in common. -/
def hardwareCapability (adapterId : String) (platform : DisplayPlatformFamily)
    (backend : DisplayCodecBackendKind) (codec : DisplayCodecId)
    (memoryTypes : List DisplayCodecMemoryType) (priority : ℤ) : DisplayCodecCapability :=
  { unavailableCodecCapability adapterId platform backend codec memoryTypes memoryTypes
      priority with
    hardwareAccelerated := true
    zeroCopy := true
    requiresHardwareDevice := true }

/-- The boards that a Rockchip adapter runs on. -/
def rockchipOnly (rockchip : Bool) (c : DisplayCodecCapability) : DisplayCodecCapability :=
  if rockchip then
    { c with architectures := [.arm64], socProfiles := [.rockchip3568, .rockchip3588] }
  else c

/-- A client of Android only decodes. -/
def decodeOnly (client : Bool) (c : DisplayCodecCapability) : DisplayCodecCapability :=
  if client then { c with supportsEncode := false } else c

def defaultDisplayCodecCapabilities (platform : DisplayPlatformFamily) :
    List DisplayCodecCapability :=
  let rockchip := platform == .rockchipAndroid
  let client := platform == .androidClient
  match platform with
  | .windowsDesktop =>
    [{ hardwareCapability "windows.media_foundation.h264" platform .windowsMediaFoundation .h264
         [.d3dTexture, .cpuBuffer] 90 with
       maxWidth := 8192
       maxHeight := 8192 },
     { hardwareCapability "windows.media_foundation.h265" platform .windowsMediaFoundation .h265
         [.d3dTexture, .cpuBuffer] 85 with
       maxWidth := 8192
       maxHeight := 8192 },
     rawFallback platform "windows.raw_frame"]
  | .linuxX11 | .linuxWayland | .linuxEmbedded =>
    [hardwareCapability "linux.vaapi.h264" platform .linuxVaapi .h264 [.dmaBuf, .cpuBuffer] 85,
     { unavailableCodecCapability "linux.ffmpeg.software.h264" platform .ffmpegSoftware .h264
         [.cpuBuffer] [.cpuBuffer] 40 with
       hardwareAccelerated := false },
     rawFallback platform "linux.raw_frame"]
  | .rockchipLinux =>
    [rockchipOnly true (hardwareCapability "linux.rockchip.mpp.h264" platform .rockchipMpp .h264
       [.dmaBuf, .cpuBuffer] 95),
     rockchipOnly true (hardwareCapability "linux.rockchip.mpp.h265" platform .rockchipMpp .h265
       [.dmaBuf, .cpuBuffer] 90),
     rockchipOnly true (rawFallback platform "linux.rockchip.raw_frame")]
  | .macOS =>
    [hardwareCapability "macos.video_toolbox.h264" platform .macOSVideoToolbox .h264
       [.cvPixelBuffer, .cpuBuffer] 90,
     hardwareCapability "macos.video_toolbox.h265" platform .macOSVideoToolbox .h265
       [.cvPixelBuffer, .cpuBuffer] 85,
     rawFallback platform "macos.raw_frame"]
  | .androidClient | .androidAgent | .rockchipAndroid =>
    [rockchipOnly rockchip (decodeOnly client (hardwareCapability
       (if rockchip then "android.rockchip.media_codec.h264" else "android.media_codec.h264")
       platform .androidMediaCodec .h264 [.androidHardwareBuffer, .cpuBuffer]
       (if rockchip then 95 else 85))),
     rockchipOnly rockchip (decodeOnly client (rawFallback platform
       (if rockchip then "android.rockchip.raw_frame" else "android.raw_frame")))]
  | .harmonyOS | .openHarmony =>
    [{ unavailableCodecCapability
         (if platform = .harmonyOS then "harmonyos.system_codec.h264"
          else "openharmony.system_codec.h264")
         platform .harmonySystemCodec .h264 [.cpuBuffer] [.cpuBuffer] 60 with
       hardwareAccelerated := true
       requiresHardwareDevice := true },
     rawFallback platform
       (if platform = .harmonyOS then "harmonyos.raw_frame" else "openharmony.raw_frame")]
  | .unknown => []

/-! ## The selector -/

def codecPreferenceScore (codec : DisplayCodecId) (preference : List DisplayCodecId) : ℤ :=
  match preference.findIdx? (· == codec) with
  | some index => (preference.length - index : ℕ) * 30
  | none => 0

def scoreCandidate (candidate : DisplayCodecCapability) (request : DisplayCodecSelectionRequest) :
    ℤ :=
  candidate.priority + codecPreferenceScore candidate.codec request.codecPreference +
    (if request.preferHardware && candidate.hardwareAccelerated then 20 else 0) +
    (if request.preferZeroCopy && candidate.zeroCopy then 10 else 0) +
    (if candidate.lowLatency then 5 else 0) +
    (if candidate.fallback then 0 else 2)

def supportsDirection (candidate : DisplayCodecCapability) : DisplayCodecDirection → Bool
  | .encode => candidate.supportsEncode
  | .decode => candidate.supportsDecode
  | .unknown => false

/-- The reason for which `candidateUsable` rejects a candidate, if it does. -/
def rejectionReason (candidate : DisplayCodecCapability)
    (request : DisplayCodecSelectionRequest) : Option StdString :=
  if request.requestedAdapterId ≠ [] ∧ candidate.adapterId ≠ request.requestedAdapterId then
    some (text "codec adapter does not match requested adapter id")
  else if candidate.available = false then
    some (text "codec adapter is unavailable" ++
      if candidate.unavailableReason = [] then [] else text ": " ++ candidate.unavailableReason)
  else if candidate.platform ≠ request.platform then
    some (text "codec adapter platform does not match request")
  else if supportsDirection candidate request.direction = false then
    some (text "codec adapter does not support requested direction")
  else if request.codecPreference.isEmpty = false ∧
      request.codecPreference.contains candidate.codec = false then
    some (text "codec adapter does not match requested codec preference")
  else if candidate.hardwareAccelerated = true ∧ request.allowHardware = false then
    some (text "hardware codec adapters are disabled")
  else if candidate.hardwareAccelerated = false ∧ request.allowSoftware = false then
    some (text "software codec adapters are disabled")
  else if request.requireLowLatency = true ∧ candidate.lowLatency = false then
    some (text "codec adapter does not support low-latency mode")
  else if intersects candidate.inputMemoryTypes request.acceptedInputMemoryTypes = false then
    some (text "codec adapter cannot consume an accepted input memory type")
  else if intersects candidate.outputMemoryTypes request.acceptedOutputMemoryTypes = false then
    some (text "codec adapter cannot produce an accepted output memory type")
  else if intersects candidate.pixelFormats request.acceptedPixelFormats = false then
    some (text "codec adapter cannot handle an accepted pixel format")
  else if candidate.architectures.isEmpty = false ∧ request.architecture ≠ .unknown ∧
      candidate.architectures.contains request.architecture = false then
    some (text "codec adapter does not support requested architecture")
  else if candidate.socProfiles.isEmpty = false ∧ request.socProfile ≠ .unknown ∧
      request.socProfile ≠ .generic ∧
      candidate.socProfiles.contains request.socProfile = false then
    some (text "codec adapter does not support requested SoC profile")
  else if request.width > 0 ∧ candidate.maxWidth > 0 ∧ request.width > candidate.maxWidth then
    some (text "codec adapter max width is smaller than request")
  else if request.height > 0 ∧ candidate.maxHeight > 0 ∧ request.height > candidate.maxHeight then
    some (text "codec adapter max height is smaller than request")
  else none

/-- `candidateUsable`, without what it writes into the result. -/
def candidateUsable (request : DisplayCodecSelectionRequest)
    (candidate : DisplayCodecCapability) : Bool :=
  (rejectionReason candidate request).isNone

/-- What the loop of the selector has found: the best score and its candidate. -/
structure SelectionState where
  rejected : List DisplayCodecRejection := []
  best : Option (ℤ × DisplayCodecCapability) := none

/-- One round of the loop. -/
def considerCandidate (request : DisplayCodecSelectionRequest) (state : SelectionState)
    (candidate : DisplayCodecCapability) : SelectionState :=
  match rejectionReason candidate request with
  | some reason =>
    { state with
      rejected := state.rejected ++
        [⟨candidate.adapterId, candidate.backend, candidate.codec, reason⟩] }
  | none =>
    let score := scoreCandidate candidate request
    match state.best with
    | none => { state with best := some (score, candidate) }
    | some best => if score > best.1 then { state with best := some (score, candidate) } else state

/-- The candidates of a request: its own, or the defaults of its platform if it has none. -/
def offeredCandidates (request : DisplayCodecSelectionRequest) : List DisplayCodecCapability :=
  if request.candidates.isEmpty then defaultDisplayCodecCapabilities request.platform
  else request.candidates

/-- The messages of the checks in front of the loop. -/
def requestMessages (request : DisplayCodecSelectionRequest) : List StdString :=
  (if request.platform = .unknown then
    [text "display codec selection requires a platform"] else []) ++
  (if request.direction = .unknown then
    [text "display codec selection requires a direction"] else []) ++
  (if request.codecPreference.isEmpty then
    [text "display codec selection requires at least one codec preference"] else []) ++
  (if request.allowHardware = false ∧ request.allowSoftware = false then
    [text "display codec selection disables both hardware and software codecs"] else []) ++
  (if (offeredCandidates request).isEmpty then
    [text "display codec selection has no candidates"] else [])

def selectDisplayCodec (request : DisplayCodecSelectionRequest) : DisplayCodecSelectionResult :=
  if (requestMessages request).isEmpty = false then { messages := requestMessages request }
  else
    let state := (offeredCandidates request).foldl (considerCandidate request) {}
    match state.best with
    | none =>
      { rejected := state.rejected
        messages := [text "display codec selection found no usable codec"] }
    | some best =>
      { ok := true
        hasSelection := true
        selected := best.2
        fallbackSelected := best.2.fallback
        score := best.1
        rejected := state.rejected }

/-! ## What fits a request -/

/-- What a request asks of a codec adapter. -/
structure Fits (request : DisplayCodecSelectionRequest) (candidate : DisplayCodecCapability) :
    Prop where
  adapter : request.requestedAdapterId = [] ∨ candidate.adapterId = request.requestedAdapterId
  available : candidate.available = true
  platform : candidate.platform = request.platform
  direction : supportsDirection candidate request.direction = true
  preference : request.codecPreference = [] ∨ candidate.codec ∈ request.codecPreference
  hardware : candidate.hardwareAccelerated = true → request.allowHardware = true
  software : candidate.hardwareAccelerated = false → request.allowSoftware = true
  latency : request.requireLowLatency = true → candidate.lowLatency = true
  inputMemory : intersects candidate.inputMemoryTypes request.acceptedInputMemoryTypes = true
  outputMemory : intersects candidate.outputMemoryTypes request.acceptedOutputMemoryTypes = true
  pixelFormat : intersects candidate.pixelFormats request.acceptedPixelFormats = true
  architecture : candidate.architectures = [] ∨ request.architecture = .unknown ∨
    request.architecture ∈ candidate.architectures
  socProfile : candidate.socProfiles = [] ∨ request.socProfile = .unknown ∨
    request.socProfile = .generic ∨ request.socProfile ∈ candidate.socProfiles
  width : request.width = 0 ∨ candidate.maxWidth = 0 ∨ request.width ≤ candidate.maxWidth
  height : request.height = 0 ∨ candidate.maxHeight = 0 ∨ request.height ≤ candidate.maxHeight

/-- A candidate passes a filter if its condition fails and it passes the others. -/
theorem isNone_filter {c : Prop} [Decidable c] {reason : StdString} {others : Option StdString} :
    (if c then some reason else others).isNone = true ↔ ¬c ∧ others.isNone = true := by
  by_cases h : c
  · simp [h]
  · simp [h]

theorem size_allowed_iff {size limit : UInt32} :
    (¬size > 0 ∨ ¬limit > 0 ∨ ¬size > limit) ↔ size = 0 ∨ limit = 0 ∨ size ≤ limit := by
  simp only [gt_iff_lt, UInt32.lt_iff_toNat_lt, UInt32.le_iff_toNat_le, ← UInt32.toNat_inj,
    UInt32.toNat_zero]
  omega

/-- **The filters of the selector reject exactly what does not fit.** -/
theorem candidateUsable_iff {request : DisplayCodecSelectionRequest}
    {candidate : DisplayCodecCapability} :
    candidateUsable request candidate = true ↔ Fits request candidate := by
  simp only [candidateUsable, rejectionReason, isNone_filter, Option.isNone_none, and_true,
    not_and_or, size_allowed_iff, not_not, Bool.not_eq_false, Bool.not_eq_true, ne_eq,
    List.contains_iff_mem, List.isEmpty_eq_false_iff]
  constructor
  · rintro ⟨hadapter, havailable, hplatform, hdirection, hpreference, hhardware, hsoftware, hlatency,
      hinput, houtput, hpixel, harchitecture, hsoc, hwidth, hheight⟩
    exact ⟨hadapter, havailable, hplatform, hdirection, hpreference, by grind, by grind, by grind,
      hinput, houtput, hpixel, harchitecture, hsoc, hwidth, hheight⟩
  · intro h
    refine ⟨h.adapter, h.available, h.platform, h.direction, h.preference, ?_, ?_, ?_,
      h.inputMemory, h.outputMemory, h.pixelFormat, h.architecture, h.socProfile, h.width, h.height⟩
    · have := h.hardware
      grind
    · have := h.software
      grind
    · have := h.latency
      grind

/-! ## What is selected -/

/-- What a request must have for its candidates to be looked at. -/
structure Servable (request : DisplayCodecSelectionRequest) : Prop where
  platform : request.platform ≠ .unknown
  direction : request.direction ≠ .unknown
  preference : request.codecPreference ≠ []
  allowed : request.allowHardware = true ∨ request.allowSoftware = true

/-- The first usable candidate with the greatest score. -/
def bestCandidate (request : DisplayCodecSelectionRequest)
    (candidates : List DisplayCodecCapability) : Option DisplayCodecCapability :=
  -- by the order of ℤ itself: the one that comes with its suprema does not compute
  @List.argmax _ ℤ Int.instLinearOrder.toPreorder Int.decLt (fun c => scoreCandidate c request)
    (candidates.filter (candidateUsable request))

/-- **The loop finds the best candidate**, with its score. -/
theorem best_foldl_considerCandidate (request : DisplayCodecSelectionRequest)
    (candidates : List DisplayCodecCapability) :
    (candidates.foldl (considerCandidate request) {}).best =
      (bestCandidate request candidates).map fun c => (scoreCandidate c request, c) := by
  have hround : ∀ (state : SelectionState) (candidate : DisplayCodecCapability),
      (considerCandidate request state candidate).best =
        if candidateUsable request candidate = true then
          improve (fun c => scoreCandidate c request) state.best candidate
        else state.best := by
    intro state candidate
    rw [considerCandidate, candidateUsable]
    cases rejectionReason candidate request with
    | some reason => rfl
    | none =>
      rw [Option.isNone_none, if_pos rfl]
      cases hbest : state.best with
      | none => rfl
      | some best =>
        show SelectionState.best (if _ then _ else _) = if _ then _ else _
        rw [apply_ite SelectionState.best, hbest]
  rw [foldl_considered (fun c => scoreCandidate c request) (candidateUsable request) hround]
  exact foldl_improve _ _

theorem requestMessages_eq_nil_iff {request : DisplayCodecSelectionRequest} :
    requestMessages request = [] ↔ Servable request ∧ offeredCandidates request ≠ [] := by
  simp only [requestMessages, List.append_eq_nil_iff, ite_eq_right_iff, List.cons_ne_nil,
    imp_false, not_and_or, Bool.not_eq_false, List.isEmpty_iff]
  constructor
  · rintro ⟨⟨⟨⟨hplatform, hdirection⟩, hpreference⟩, hallowed⟩, hoffered⟩
    exact ⟨⟨hplatform, hdirection, hpreference, hallowed⟩, hoffered⟩
  · rintro ⟨hservable, hoffered⟩
    exact ⟨⟨⟨⟨hservable.platform, hservable.direction⟩, hservable.preference⟩,
      hservable.allowed⟩, hoffered⟩

/-- **What the selector selects**: it succeeds with `d` exactly if the request can be served and `d`
is the best of the candidates. -/
theorem selected_iff {request : DisplayCodecSelectionRequest} {d : DisplayCodecCapability} :
    (selectDisplayCodec request).ok = true ∧ (selectDisplayCodec request).selected = d ↔
      Servable request ∧ bestCandidate request (offeredCandidates request) = some d := by
  by_cases hmessages : requestMessages request = []
  · have hservable := (requestMessages_eq_nil_iff.mp hmessages).1
    rw [selectDisplayCodec, hmessages, if_neg (by simp)]
    dsimp only
    rw [best_foldl_considerCandidate]
    cases bestCandidate request (offeredCandidates request) with
    | none => simp
    | some best => simp [hservable]
  · have hrefused : ¬(Servable request ∧
        bestCandidate request (offeredCandidates request) = some d) := by
      rintro ⟨hservable, hbest⟩
      refine hmessages (requestMessages_eq_nil_iff.mpr ⟨hservable, fun hempty => ?_⟩)
      rw [hempty] at hbest
      cases hbest
    rw [selectDisplayCodec, if_pos (by simpa using hmessages)]
    exact iff_of_false (fun h => Bool.false_ne_true h.1) hrefused

/-- The best candidate is one of the list that fits. -/
theorem fits_of_bestCandidate {request : DisplayCodecSelectionRequest}
    {candidates : List DisplayCodecCapability} {d : DisplayCodecCapability}
    (h : bestCandidate request candidates = some d) : d ∈ candidates ∧ Fits request d := by
  have hmem := List.mem_filter.mp (List.argmax_mem h)
  exact ⟨hmem.1, candidateUsable_iff.mp hmem.2⟩

/-- **The selector succeeds exactly if something fits.** -/
theorem ok_iff {request : DisplayCodecSelectionRequest} :
    (selectDisplayCodec request).ok = true ↔
      Servable request ∧ ∃ c ∈ offeredCandidates request, Fits request c := by
  constructor
  · intro hok
    obtain ⟨hservable, hbest⟩ := selected_iff.mp ⟨hok, rfl⟩
    exact ⟨hservable, _, fits_of_bestCandidate hbest⟩
  · rintro ⟨hservable, c, hmem, hfits⟩
    cases hbest : bestCandidate request (offeredCandidates request) with
    | some d => exact (selected_iff.mpr ⟨hservable, hbest⟩).1
    | none =>
      have hnone := List.argmax_eq_none.mp hbest
      exact absurd (List.mem_filter.mpr ⟨hmem, candidateUsable_iff.mpr hfits⟩)
        (by rw [hnone]; exact List.not_mem_nil)

/-- A success has a selection. -/
theorem hasSelection_eq_ok (request : DisplayCodecSelectionRequest) :
    (selectDisplayCodec request).hasSelection = (selectDisplayCodec request).ok := by
  rw [selectDisplayCodec]
  split
  · rfl
  · dsimp only
    split
    · rfl
    · rfl

end DisplayCodec
end Runtime
end FusionDesk
