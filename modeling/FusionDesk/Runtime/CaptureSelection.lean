import FusionDesk.Display.Types
import FusionDesk.General.BestScore

/-!
# The selection of a capture backend

`display_capture_backend_selection.h` and `display_capture_backend_selection.cpp`: of the candidates
of a request, or of the defaults of its platform if there are none, the first usable one with the
greatest score.

The scores are integers; an `int` priority near the ends of its range, where the source overflows,
has no defined behaviour there.

* `selected_iff`: the selector gives `d` exactly if the request can be served and `d` is the
  `argmax` of the score over the usable candidates.
-/

namespace FusionDesk
namespace Runtime

open Display (DisplayPixelFormat)
open BestScore

/-! ## Types -/

inductive DisplayPlatformFamily
  | unknown
  | windowsDesktop
  | linuxX11
  | linuxWayland
  | linuxEmbedded
  | macOS
  | androidClient
  | androidAgent
  | harmonyOS
  | openHarmony
  | rockchipLinux
  | rockchipAndroid
  deriving DecidableEq, Repr

inductive DisplayCaptureBackendKind
  | unknown
  | windowsGdi
  | windowsDxgiDesktopDuplication
  | windowsGraphicsCapture
  | linuxXDamageXShm
  | linuxPipeWirePortal
  | linuxDrmKmsGbm
  | macOSScreenCaptureKit
  | macOSQuartz
  | androidMediaProjection
  | harmonySystemCapture
  | softwareFallback
  deriving DecidableEq, Repr

inductive DisplayCaptureSourceType
  | unknown
  | monitor
  | window
  | virtualDisplay
  | mobileProjection
  deriving DecidableEq, Repr

inductive DisplayCaptureMemoryType
  | unknown
  | cpuBuffer
  | d3dTexture
  | dmaBuf
  | cvPixelBuffer
  | androidHardwareBuffer
  deriving DecidableEq, Repr

inductive DisplayTargetArchitecture
  | unknown
  | x86
  | x86_64
  | arm32
  | arm64
  | loongArch64
  | mips64El
  deriving DecidableEq, Repr

inductive DisplayTargetSocProfile
  | unknown
  | generic
  | rockchip3568
  | rockchip3588
  deriving DecidableEq, Repr

inductive DisplayCaptureDiagnosticKind
  | unknown
  | accessDenied
  | permissionRevoked
  | protectedContent
  | sourceNotFound
  | sourceHotplug
  | geometryOrFormatChanged
  | deviceLost
  | sessionModeUnsupported
  | frameTimeout
  | recoverableAdapterReset
  | unrecoverableAdapterFailure
  deriving DecidableEq, Repr

structure DisplayCaptureBackendCapability where
  adapterId : String := ""
  platform : DisplayPlatformFamily := .unknown
  backend : DisplayCaptureBackendKind := .unknown
  sourceTypes : List DisplayCaptureSourceType := []
  pixelFormats : List DisplayPixelFormat := []
  memoryTypes : List DisplayCaptureMemoryType := []
  architectures : List DisplayTargetArchitecture := []
  socProfiles : List DisplayTargetSocProfile := []
  diagnostics : List DisplayCaptureDiagnosticKind := []
  available : Bool := true
  unavailableReason : String := ""
  fallback : Bool := false
  zeroCopy : Bool := false
  requiresUserConsent : Bool := false
  supportsServiceSession : Bool := true
  agentCaptureSupported : Bool := true
  supportsDirtyRegions : Bool := false
  supportsCursorCapture : Bool := false
  supportsHotplugNotifications : Bool := false
  protectedContentAware : Bool := false
  priority : ℤ := 0
  deriving DecidableEq, Repr

structure DisplayCaptureBackendSelectionRequest where
  platform : DisplayPlatformFamily := .unknown
  sourceType : DisplayCaptureSourceType := .monitor
  acceptedMemoryTypes : List DisplayCaptureMemoryType := [.cpuBuffer]
  acceptedPixelFormats : List DisplayPixelFormat := [.bgra32]
  architecture : DisplayTargetArchitecture := .unknown
  socProfile : DisplayTargetSocProfile := .unknown
  requestedAdapterId : String := ""
  policyAllowsCapture : Bool := true
  permissionGranted : Bool := true
  serviceSession : Bool := false
  requireAgentCapture : Bool := true
  allowFallback : Bool := true
  preferZeroCopy : Bool := true
  candidates : List DisplayCaptureBackendCapability := []
  deriving DecidableEq, Repr

structure DisplayCaptureBackendRejection where
  adapterId : String := ""
  backend : DisplayCaptureBackendKind := .unknown
  reason : String := ""
  deriving DecidableEq, Repr

structure DisplayCaptureBackendSelectionResult where
  ok : Bool := false
  hasSelection : Bool := false
  selected : DisplayCaptureBackendCapability := {}
  fallbackSelected : Bool := false
  score : ℤ := 0
  rejected : List DisplayCaptureBackendRejection := []
  messages : List String := []
  deriving DecidableEq, Repr

def displayCaptureBackendKindName : DisplayCaptureBackendKind → String
  | .unknown => "unknown"
  | .windowsGdi => "windows.gdi"
  | .windowsDxgiDesktopDuplication => "windows.dxgi.desktop_duplication"
  | .windowsGraphicsCapture => "windows.graphics_capture"
  | .linuxXDamageXShm => "linux.xdamage_xshm"
  | .linuxPipeWirePortal => "linux.pipewire_portal"
  | .linuxDrmKmsGbm => "linux.drm_kms_gbm"
  | .macOSScreenCaptureKit => "macos.screen_capture_kit"
  | .macOSQuartz => "macos.quartz"
  | .androidMediaProjection => "android.media_projection"
  | .harmonySystemCapture => "harmony.system_capture"
  | .softwareFallback => "software.fallback"

/-! ## The defaults of a platform -/

def capability (adapterId : String) (platform : DisplayPlatformFamily)
    (backend : DisplayCaptureBackendKind) (sourceTypes : List DisplayCaptureSourceType)
    (memoryTypes : List DisplayCaptureMemoryType) (priority : ℤ) :
    DisplayCaptureBackendCapability where
  adapterId := adapterId
  platform := platform
  backend := backend
  sourceTypes := sourceTypes
  pixelFormats := [.bgra32]
  memoryTypes := memoryTypes
  priority := priority

/-- The boards that a Rockchip backend runs on. -/
def rockchipOnly (rockchip : Bool) (c : DisplayCaptureBackendCapability) :
    DisplayCaptureBackendCapability :=
  if rockchip then
    { c with architectures := [.arm64], socProfiles := [.rockchip3568, .rockchip3588] }
  else c

def defaultDisplayCaptureBackendCapabilities (platform : DisplayPlatformFamily) :
    List DisplayCaptureBackendCapability :=
  let rockchip := platform == .rockchipLinux || platform == .rockchipAndroid
  match platform with
  | .windowsDesktop =>
    [{ capability "windows.dxgi.desktop_duplication" platform .windowsDxgiDesktopDuplication
         [.monitor] [.d3dTexture, .cpuBuffer] 90 with
       zeroCopy := true
       supportsHotplugNotifications := true
       supportsCursorCapture := true
       protectedContentAware := true
       diagnostics := [.deviceLost, .sourceHotplug, .geometryOrFormatChanged, .protectedContent] },
     { capability "windows.graphics_capture" platform .windowsGraphicsCapture
         [.monitor, .window] [.d3dTexture, .cpuBuffer] 85 with
       zeroCopy := true
       supportsServiceSession := false
       supportsHotplugNotifications := true
       protectedContentAware := true
       diagnostics := [.accessDenied, .permissionRevoked, .protectedContent, .sourceHotplug] },
     { capability "windows.gdi" platform .windowsGdi [.monitor] [.cpuBuffer] 10 with
       fallback := true }]
  | .linuxX11 =>
    [{ capability "linux.xdamage_xshm" platform .linuxXDamageXShm [.monitor, .window]
         [.cpuBuffer] 80 with
       supportsDirtyRegions := true
       supportsHotplugNotifications := true },
     { capability "linux.x11.full_frame" platform .softwareFallback [.monitor] [.cpuBuffer] 5 with
       fallback := true }]
  | .linuxWayland =>
    [{ capability "linux.pipewire_portal" platform .linuxPipeWirePortal [.monitor, .window]
         [.dmaBuf, .cpuBuffer] 80 with
       zeroCopy := true
       requiresUserConsent := true
       supportsServiceSession := false
       supportsHotplugNotifications := true
       diagnostics := [.permissionRevoked, .sourceNotFound, .frameTimeout] }]
  | .linuxEmbedded | .rockchipLinux =>
    [rockchipOnly rockchip
       { capability (if rockchip then "linux.rockchip.drm_kms_gbm" else "linux.drm_kms_gbm")
           platform .linuxDrmKmsGbm [.monitor, .virtualDisplay] [.dmaBuf, .cpuBuffer]
           (if rockchip then 85 else 80) with
         zeroCopy := true
         supportsHotplugNotifications := true
         diagnostics := [.accessDenied, .deviceLost, .geometryOrFormatChanged] },
     rockchipOnly rockchip
       { capability (if rockchip then "linux.rockchip.cpu_fallback"
           else "linux.embedded.cpu_fallback") platform .softwareFallback [.monitor]
           [.cpuBuffer] 5 with
         fallback := true }]
  | .macOS =>
    [{ capability "macos.screen_capture_kit" platform .macOSScreenCaptureKit [.monitor, .window]
         [.cvPixelBuffer, .cpuBuffer] 90 with
       zeroCopy := true
       requiresUserConsent := true
       supportsServiceSession := false
       protectedContentAware := true },
     { capability "macos.quartz" platform .macOSQuartz [.monitor] [.cpuBuffer] 25 with
       fallback := true
       requiresUserConsent := true
       supportsServiceSession := false }]
  | .androidAgent | .rockchipAndroid =>
    [rockchipOnly rockchip
       { capability (if rockchip then "android.rockchip.media_projection"
           else "android.media_projection") platform .androidMediaProjection
           [.monitor, .mobileProjection] [.androidHardwareBuffer, .cpuBuffer]
           (if rockchip then 85 else 80) with
         zeroCopy := true
         requiresUserConsent := true
         supportsServiceSession := false
         diagnostics := [.permissionRevoked, .sourceNotFound, .frameTimeout] }]
  | .androidClient =>
    [{ capability "android.client.render_only" platform .unknown [] [] 0 with
       agentCaptureSupported := false }]
  | .harmonyOS | .openHarmony =>
    [{ capability (if platform = .harmonyOS then "harmonyos.system_capture"
         else "openharmony.system_capture") platform .harmonySystemCapture
         [.monitor, .mobileProjection] [.cpuBuffer] 50 with
       requiresUserConsent := true
       supportsServiceSession := false
       diagnostics := [.accessDenied, .permissionRevoked, .sessionModeUnsupported] }]
  | .unknown => []

/-! ## The selector -/

def intersects {α : Type} [BEq α] (lhs rhs : List α) : Bool :=
  lhs.isEmpty || rhs.isEmpty || lhs.any rhs.contains

def scoreCandidate (candidate : DisplayCaptureBackendCapability)
    (request : DisplayCaptureBackendSelectionRequest) : ℤ :=
  candidate.priority + (if request.preferZeroCopy && candidate.zeroCopy then 20 else 0) +
    (if candidate.fallback then 0 else 5) +
    (if candidate.supportsHotplugNotifications then 3 else 0) +
    (if candidate.supportsDirtyRegions then 2 else 0) +
    (if candidate.supportsCursorCapture then 1 else 0)

/-- The reason for which `candidateUsable` rejects a candidate, if it does. -/
def rejectionReason (candidate : DisplayCaptureBackendCapability)
    (request : DisplayCaptureBackendSelectionRequest) : Option String :=
  if request.requestedAdapterId ≠ "" ∧ candidate.adapterId ≠ request.requestedAdapterId then
    some "capture backend does not match requested adapter id"
  else if candidate.available = false then
    some ("capture backend is unavailable" ++
      if candidate.unavailableReason = "" then "" else ": " ++ candidate.unavailableReason)
  else if candidate.platform ≠ request.platform then
    some "capture backend platform does not match request"
  else if request.requireAgentCapture ∧ candidate.agentCaptureSupported = false then
    some "capture backend does not support agent capture"
  else if candidate.fallback ∧ request.allowFallback = false then
    some "capture fallback backends are disabled"
  else if candidate.sourceTypes.contains request.sourceType = false then
    some "capture backend does not support requested source type"
  else if candidate.requiresUserConsent ∧ request.permissionGranted = false then
    some "capture backend requires a granted user permission"
  else if request.serviceSession ∧ candidate.supportsServiceSession = false then
    some "capture backend does not support service session capture"
  else if intersects candidate.memoryTypes request.acceptedMemoryTypes = false then
    some "capture backend cannot produce an accepted memory type"
  else if intersects candidate.pixelFormats request.acceptedPixelFormats = false then
    some "capture backend cannot produce an accepted pixel format"
  else if candidate.architectures.isEmpty = false ∧ request.architecture ≠ .unknown ∧
      candidate.architectures.contains request.architecture = false then
    some "capture backend does not support requested architecture"
  else if candidate.socProfiles.isEmpty = false ∧ request.socProfile ≠ .unknown ∧
      request.socProfile ≠ .generic ∧
      candidate.socProfiles.contains request.socProfile = false then
    some "capture backend does not support requested SoC profile"
  else none

/-- `candidateUsable`, without what it writes into the result. -/
def candidateUsable (request : DisplayCaptureBackendSelectionRequest)
    (candidate : DisplayCaptureBackendCapability) : Bool :=
  (rejectionReason candidate request).isNone

/-- What the loop of the selector has found: the best score and its candidate. -/
structure SelectionState where
  rejected : List DisplayCaptureBackendRejection := []
  best : Option (ℤ × DisplayCaptureBackendCapability) := none

/-- One round of the loop. -/
def considerCandidate (request : DisplayCaptureBackendSelectionRequest) (state : SelectionState)
    (candidate : DisplayCaptureBackendCapability) : SelectionState :=
  match rejectionReason candidate request with
  | some reason =>
    { state with
      rejected := state.rejected ++ [⟨candidate.adapterId, candidate.backend, reason⟩] }
  | none =>
    let score := scoreCandidate candidate request
    match state.best with
    | none => { state with best := some (score, candidate) }
    | some best => if score > best.1 then { state with best := some (score, candidate) } else state

/-- The candidates of a request: its own, or the defaults of its platform if it has none. -/
def offeredCandidates (request : DisplayCaptureBackendSelectionRequest) :
    List DisplayCaptureBackendCapability :=
  if request.candidates.isEmpty then defaultDisplayCaptureBackendCapabilities request.platform
  else request.candidates

/-- The messages of the checks in front of the loop. -/
def requestMessages (request : DisplayCaptureBackendSelectionRequest) : List String :=
  (if request.platform = .unknown then
    ["display capture backend selection requires a platform"] else []) ++
  (if request.sourceType = .unknown then
    ["display capture backend selection requires a source type"] else []) ++
  (if request.policyAllowsCapture = false then
    ["display capture is blocked by policy"] else []) ++
  (if (offeredCandidates request).isEmpty then
    ["display capture backend selection has no candidates"] else [])

def selectDisplayCaptureBackend (request : DisplayCaptureBackendSelectionRequest) :
    DisplayCaptureBackendSelectionResult :=
  if (requestMessages request).isEmpty = false then { messages := requestMessages request }
  else
    let state := (offeredCandidates request).foldl (considerCandidate request) {}
    match state.best with
    | none =>
      { rejected := state.rejected
        messages := ["display capture backend selection found no usable backend"] }
    | some best =>
      { ok := true
        hasSelection := true
        selected := best.2
        fallbackSelected := best.2.fallback
        score := best.1
        rejected := state.rejected }

/-! ## What is selected -/

/-- The first usable candidate with the greatest score. -/
def bestCandidate (request : DisplayCaptureBackendSelectionRequest)
    (candidates : List DisplayCaptureBackendCapability) : Option DisplayCaptureBackendCapability :=
  -- by the order of ℤ itself: the one that comes with its suprema does not compute
  @List.argmax _ ℤ Int.instLinearOrder.toPreorder Int.decLt (fun c => scoreCandidate c request)
    (candidates.filter (candidateUsable request))

/-- What a request must have for its candidates to be looked at. -/
structure Servable (request : DisplayCaptureBackendSelectionRequest) : Prop where
  platform : request.platform ≠ .unknown
  sourceType : request.sourceType ≠ .unknown
  policy : request.policyAllowsCapture = true

/-- **The loop finds the best candidate**, with its score. -/
theorem best_foldl_considerCandidate (request : DisplayCaptureBackendSelectionRequest)
    (candidates : List DisplayCaptureBackendCapability) :
    (candidates.foldl (considerCandidate request) {}).best =
      (bestCandidate request candidates).map fun c => (scoreCandidate c request, c) := by
  have hround : ∀ (state : SelectionState) (candidate : DisplayCaptureBackendCapability),
      (considerCandidate request state candidate).best =
        if candidateUsable request candidate = true then
          improve (fun c => scoreCandidate c request) state.best candidate
        else state.best := by
    intro state candidate
    rw [considerCandidate, candidateUsable]
    cases rejectionReason candidate request with
    | some reason => rfl
    | none =>
      rw [Option.isNone_none, if_pos rfl]
      cases hbest : state.best with
      | none => rfl
      | some best =>
        show SelectionState.best (if _ then _ else _) = if _ then _ else _
        rw [apply_ite SelectionState.best, hbest]
  rw [foldl_considered (fun c => scoreCandidate c request) (candidateUsable request) hround]
  exact foldl_improve _ _

theorem requestMessages_eq_nil_iff {request : DisplayCaptureBackendSelectionRequest} :
    requestMessages request = [] ↔ Servable request ∧ offeredCandidates request ≠ [] := by
  simp only [requestMessages, List.append_eq_nil_iff, ite_eq_right_iff, List.cons_ne_nil,
    imp_false, Bool.not_eq_false, List.isEmpty_iff]
  constructor
  · rintro ⟨⟨⟨hplatform, hsource⟩, hpolicy⟩, hoffered⟩
    exact ⟨⟨hplatform, hsource, hpolicy⟩, hoffered⟩
  · rintro ⟨hservable, hoffered⟩
    exact ⟨⟨⟨hservable.platform, hservable.sourceType⟩, hservable.policy⟩, hoffered⟩

/-- **What the selector selects**: it succeeds with `d` exactly if the request can be served and `d`
is the best of the candidates. -/
theorem selected_iff {request : DisplayCaptureBackendSelectionRequest}
    {d : DisplayCaptureBackendCapability} :
    (selectDisplayCaptureBackend request).ok = true ∧
        (selectDisplayCaptureBackend request).selected = d ↔
      Servable request ∧ bestCandidate request (offeredCandidates request) = some d := by
  by_cases hmessages : requestMessages request = []
  · have hservable := (requestMessages_eq_nil_iff.mp hmessages).1
    rw [selectDisplayCaptureBackend, hmessages, if_neg (by simp)]
    dsimp only
    rw [best_foldl_considerCandidate]
    cases bestCandidate request (offeredCandidates request) with
    | none => simp
    | some best => simp [hservable]
  · have hrefused : ¬(Servable request ∧
        bestCandidate request (offeredCandidates request) = some d) := by
      rintro ⟨hservable, hbest⟩
      refine hmessages (requestMessages_eq_nil_iff.mpr ⟨hservable, fun hempty => ?_⟩)
      rw [hempty] at hbest
      cases hbest
    rw [selectDisplayCaptureBackend, if_pos (by simpa using hmessages)]
    exact iff_of_false (fun h => Bool.false_ne_true h.1) hrefused

/-- The best candidate is a usable one of the list. -/
theorem mem_of_bestCandidate {request : DisplayCaptureBackendSelectionRequest}
    {candidates : List DisplayCaptureBackendCapability} {d : DisplayCaptureBackendCapability}
    (h : bestCandidate request candidates = some d) :
    d ∈ candidates ∧ candidateUsable request d = true :=
  List.mem_filter.mp (List.argmax_mem h)

end Runtime
end FusionDesk
