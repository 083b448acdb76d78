import FusionDesk.Runtime.CodecProfileRoundTrip
import FusionDesk.Runtime.PeerProfileRuntimeService

/-!
# The negotiation of a display codec

`display_codec_negotiation.cpp`, and the functions of `PcProductSessionController` that carry its
outcome to the other side: the agent negotiates between its own encoders and the decoders that the
client has sent, answers with two requests that are pinned to what it has selected, and the client
negotiates between these two.

* `Selectable`: what a codec needs on one side.
* `negotiate_ok_iff`, `negotiate_selects`: the negotiation succeeds exactly with the first codec that
  both sides can select.
* `codecNegotiation_agrees`: and the two sides agree on it, and on the two adapters.
-/

namespace FusionDesk
namespace Runtime
namespace DisplayCodec

open Protocol.PayloadFields (StdString)
open PeerProfile (text PeerProfileExtension PeerProfileExchangeRequest PeerProfileExchangeResult
  PeerProfileRuntimeCompletion)

/-! ## Types -/

structure DisplayCodecNegotiationRequest where
  encoderRequest : DisplayCodecSelectionRequest := {}
  decoderRequest : DisplayCodecSelectionRequest := {}

structure DisplayCodecNegotiationAttempt where
  codec : DisplayCodecId := .unknown
  encoderSelection : DisplayCodecSelectionResult := {}
  decoderSelection : DisplayCodecSelectionResult := {}
  deriving DecidableEq, Repr

structure DisplayCodecNegotiationResult where
  ok : Bool := false
  hasSelection : Bool := false
  codec : DisplayCodecId := .unknown
  encoderSelection : DisplayCodecSelectionResult := {}
  decoderSelection : DisplayCodecSelectionResult := {}
  fallbackSelected : Bool := false
  attempts : List DisplayCodecNegotiationAttempt := []
  messages : List StdString := []
  deriving DecidableEq, Repr

/-! ## The negotiation -/

/-- The body of the loop of `commonCodecPreference`. -/
def addCommonCodec (secondary result : List DisplayCodecId) (codec : DisplayCodecId) :
    List DisplayCodecId :=
  if codec = .unknown then result
  else if secondary.isEmpty = false ∧ secondary.contains codec = false then result
  else if result.contains codec = false then result ++ [codec]
  else result

def commonCodecPreference (encoderRequest decoderRequest : DisplayCodecSelectionRequest) :
    List DisplayCodecId :=
  let primary := if encoderRequest.codecPreference.isEmpty then decoderRequest.codecPreference
    else encoderRequest.codecPreference
  let secondary := if encoderRequest.codecPreference.isEmpty then encoderRequest.codecPreference
    else decoderRequest.codecPreference
  primary.foldl (addCommonCodec secondary) []

/-- What `appendSelectionMessages` appends. -/
def selectionMessages (direction : String) (selection : DisplayCodecSelectionResult) :
    List StdString :=
  selection.messages.map (fun message => text direction ++ text ": " ++ message) ++
  selection.rejected.map fun rejection =>
    text direction ++ text ": rejected " ++
      (if rejection.adapterId = [] then text "<empty>" else rejection.adapterId) ++ text " for " ++
      text (displayCodecIdName rejection.codec) ++ text ": " ++ rejection.reason

/-- A request in an attempt: in its direction, for one codec. -/
def attemptRequest (request : DisplayCodecSelectionRequest) (direction : DisplayCodecDirection)
    (codec : DisplayCodecId) : DisplayCodecSelectionRequest :=
  { request with direction := direction, codecPreference := [codec] }

def attemptCodec (request : DisplayCodecNegotiationRequest) (codec : DisplayCodecId) :
    DisplayCodecNegotiationAttempt where
  codec := codec
  encoderSelection := selectDisplayCodec (attemptRequest request.encoderRequest .encode codec)
  decoderSelection := selectDisplayCodec (attemptRequest request.decoderRequest .decode codec)

def DisplayCodecNegotiationAttempt.succeeds (attempt : DisplayCodecNegotiationAttempt) : Bool :=
  attempt.encoderSelection.ok && attempt.decoderSelection.ok &&
    attempt.encoderSelection.selected.codec == attempt.codec &&
    attempt.decoderSelection.selected.codec == attempt.codec

/-- The loop over the common preference. -/
def tryCodecs (request : DisplayCodecNegotiationRequest) :
    List DisplayCodecId → DisplayCodecNegotiationResult → DisplayCodecNegotiationResult
  | [], result =>
    { result with
      messages := result.messages ++
        [text "display codec negotiation found no mutually selectable codec"] }
  | codec :: rest, result =>
    let attempt := attemptCodec request codec
    if attempt.succeeds then
      { result with
        ok := true
        hasSelection := true
        codec := codec
        encoderSelection := attempt.encoderSelection
        decoderSelection := attempt.decoderSelection
        fallbackSelected := attempt.encoderSelection.fallbackSelected ||
          attempt.decoderSelection.fallbackSelected
        attempts := result.attempts ++ [attempt] }
    else
      tryCodecs request rest
        { result with
          messages := result.messages ++ selectionMessages "encoder" attempt.encoderSelection ++
            selectionMessages "decoder" attempt.decoderSelection
          attempts := result.attempts ++ [attempt] }

def negotiateDisplayCodec (request : DisplayCodecNegotiationRequest) :
    DisplayCodecNegotiationResult :=
  if request.encoderRequest.direction ≠ .unknown ∧ request.encoderRequest.direction ≠ .encode then
    { messages :=
        [text "display codec negotiation encoder request must use encode direction"] }
  else if request.decoderRequest.direction ≠ .unknown ∧
      request.decoderRequest.direction ≠ .decode then
    { messages :=
        [text "display codec negotiation decoder request must use decode direction"] }
  else
    let preference := commonCodecPreference request.encoderRequest request.decoderRequest
    if preference.isEmpty then
      { messages := [text "display codec negotiation found no common codec preference"] }
    else tryCodecs request preference {}

/-! ## The controllers of the two sides -/

structure PcProductDisplayCodecPeerProfileResult where
  ok : Bool := false
  code : ℤ := 0
  attempted : Bool := false
  extensionAdded : Bool := false
  negotiation : DisplayCodecNegotiationResult := {}
  encoderRequest : DisplayCodecSelectionRequest := {}
  decoderRequest : DisplayCodecSelectionRequest := {}
  messages : List StdString := []
  deriving DecidableEq, Repr

def findDisplayCodecPeerExtension (extensions : List PeerProfileExtension) :
    Option PeerProfileExtension :=
  extensions.find? fun extension => extension.key == displayCodecPeerProfileExtensionKey

def makeDisplayCodecPeerExtension (payload : DisplayCodecPeerProfilePayload) :
    PeerProfileExtension :=
  ⟨displayCodecPeerProfileExtensionKey, encodeDisplayCodecPeerProfilePayload payload⟩

def pinnedDisplayCodecRequest (request : DisplayCodecSelectionRequest)
    (selection : DisplayCodecSelectionResult) : DisplayCodecSelectionRequest :=
  if selection.hasSelection = false then
    { request with
      codecPreference := [.unknown]
      requestedAdapterId := text "display.codec.negotiation.failed"
      candidates := [] }
  else
    { request with
      codecPreference := [selection.selected.codec]
      requestedAdapterId := selection.selected.adapterId
      candidates := [selection.selected] }

/-- The client puts what it can decode into its request. -/
def appendDisplayCodecPeerProfileDecoderRequest (request : PeerProfileExchangeRequest)
    (decoderRequest : DisplayCodecSelectionRequest) :
    PcProductDisplayCodecPeerProfileResult × PeerProfileExchangeRequest :=
  let result : PcProductDisplayCodecPeerProfileResult :=
    { attempted := true, decoderRequest := decoderRequest }
  let extension := makeDisplayCodecPeerExtension
    { hasDecoderRequest := true, decoderRequest := decoderRequest }
  if extension.payload.isEmpty then
    ({ result with
       code := 14
       messages := [text "display codec FDPP decoder request payload encode failed"] }, request)
  else
    ({ result with ok := true, extensionAdded := true },
      { request with extensions := request.extensions ++ [extension] })

/-- An exchange that the codec negotiation fails, with the messages of the result. -/
def failExchange (result : PcProductDisplayCodecPeerProfileResult)
    (exchange : PeerProfileExchangeResult) (messages : List StdString) :
    PcProductDisplayCodecPeerProfileResult × PeerProfileExchangeResult :=
  ({ result with code := 14, messages := messages },
    { exchange with ok := false, messages := exchange.messages ++ messages })

/-- The agent negotiates, and answers with its two selections. -/
def handleDisplayCodecPeerProfileRequest (request : PeerProfileExchangeRequest)
    (exchange : PeerProfileExchangeResult) (encoderRequest : DisplayCodecSelectionRequest) :
    PcProductDisplayCodecPeerProfileResult × PeerProfileExchangeResult :=
  if exchange.ok = false then
    ({ code := 14
       messages := if exchange.messages.isEmpty then
           [text "peer profile exchange failed before display codec negotiation"]
         else exchange.messages }, exchange)
  else
    let result : PcProductDisplayCodecPeerProfileResult := { attempted := true }
    match findDisplayCodecPeerExtension request.extensions with
    | none =>
      failExchange result exchange
        [text "display codec FDPP decoder request extension is missing"]
    | some extension =>
      let decoded := decodeDisplayCodecPeerProfilePayload extension.payload
      if decoded.ok = false ∨ decoded.payload.hasDecoderRequest = false then
        failExchange result exchange
          [if decoded.message = [] then text "display codec FDPP decoder request is missing"
            else decoded.message]
      else
        let decoderRequest := decoded.payload.decoderRequest
        let negotiation := negotiateDisplayCodec ⟨encoderRequest, decoderRequest⟩
        let result := { result with negotiation := negotiation }
        if negotiation.ok = false then
          failExchange result exchange
            (if negotiation.messages.isEmpty then [text "display codec FDPP negotiation failed"]
              else negotiation.messages)
        else
          let result := { result with
            encoderRequest := pinnedDisplayCodecRequest encoderRequest negotiation.encoderSelection
            decoderRequest :=
              pinnedDisplayCodecRequest decoderRequest negotiation.decoderSelection }
          let extension := makeDisplayCodecPeerExtension
            ⟨true, result.encoderRequest, true, result.decoderRequest⟩
          if extension.payload.isEmpty then
            failExchange result exchange
              [text "display codec FDPP response payload encode failed"]
          else
            ({ result with ok := true, extensionAdded := true },
              { exchange with extensions := exchange.extensions ++ [extension] })

/-- The client negotiates between the selections that the last good completion carries. -/
def readDisplayCodecPeerProfileCompletion (completions : List PeerProfileRuntimeCompletion) :
    PcProductDisplayCodecPeerProfileResult :=
  match completions.reverse.find? fun completion => completion.ok with
  | none => { code := 14, messages := [text "display codec FDPP completion is missing"] }
  | some completion =>
    let result : PcProductDisplayCodecPeerProfileResult := { attempted := true }
    match findDisplayCodecPeerExtension completion.exchange.extensions with
    | none =>
      { result with
        code := 14
        messages := [text "display codec FDPP response extension is missing"] }
    | some extension =>
      let decoded := decodeDisplayCodecPeerProfilePayload extension.payload
      if decoded.ok = false ∨ decoded.payload.hasEncoderRequest = false ∨
          decoded.payload.hasDecoderRequest = false then
        { result with
          code := 14
          messages := [if decoded.message = [] then text "display codec FDPP response is incomplete"
            else decoded.message] }
      else
        let negotiation :=
          negotiateDisplayCodec ⟨decoded.payload.encoderRequest, decoded.payload.decoderRequest⟩
        let result := { result with
          negotiation := negotiation
          encoderRequest := decoded.payload.encoderRequest
          decoderRequest := decoded.payload.decoderRequest }
        if negotiation.ok = false then
          { result with
            code := 14
            messages := if negotiation.messages.isEmpty then
                [text "display codec FDPP response negotiation failed"]
              else negotiation.messages }
        else { result with ok := true, extensionAdded := true }

/-! ## The common preference -/

theorem mem_foldl_addCommonCodec {secondary codecs result : List DisplayCodecId}
    {codec : DisplayCodecId} : codec ∈ codecs.foldl (addCommonCodec secondary) result ↔
      codec ∈ result ∨
        codec ∈ codecs ∧ codec ≠ .unknown ∧ (secondary = [] ∨ codec ∈ secondary) := by
  induction codecs generalizing result with
  | nil => simp
  | cons first codecs ih =>
    rw [List.foldl_cons, ih, addCommonCodec]
    by_cases hunknown : first = .unknown
    · rw [if_pos hunknown]
      grind
    by_cases hother : secondary.isEmpty = false ∧ secondary.contains first = false
    · rw [if_neg hunknown, if_pos hother]
      obtain ⟨hnonempty, habsent⟩ := hother
      rw [List.isEmpty_eq_false_iff] at hnonempty
      rw [← Bool.not_eq_true, List.contains_iff_mem] at habsent
      grind
    · rw [if_neg hunknown, if_neg hother]
      rw [not_and_or, Bool.not_eq_false, Bool.not_eq_false, List.isEmpty_iff,
        List.contains_iff_mem] at hother
      by_cases hnew : result.contains first = false
      · rw [if_pos hnew]
        grind
      · rw [if_neg hnew]
        rw [Bool.not_eq_false, List.contains_iff_mem] at hnew
        grind

/-- A common codec is known, and one of each preference that is not empty. -/
theorem of_mem_commonCodecPreference {encoder decoder : DisplayCodecSelectionRequest}
    {codec : DisplayCodecId} (h : codec ∈ commonCodecPreference encoder decoder) :
    codec ≠ .unknown ∧ (encoder.codecPreference = [] ∨ codec ∈ encoder.codecPreference) ∧
      (decoder.codecPreference = [] ∨ codec ∈ decoder.codecPreference) := by
  rw [commonCodecPreference] at h
  obtain hnil | ⟨hprimary, hknown, hsecondary⟩ := mem_foldl_addCommonCodec.mp h
  · cases hnil
  · by_cases hempty : encoder.codecPreference.isEmpty = true
    · rw [if_pos hempty] at hprimary
      exact ⟨hknown, Or.inl (List.isEmpty_iff.mp hempty), Or.inr hprimary⟩
    · rw [if_neg hempty] at hprimary hsecondary
      exact ⟨hknown, Or.inr hprimary, hsecondary⟩

/-- Two requests for one codec have it in common. -/
theorem commonCodecPreference_singleton {encoder decoder : DisplayCodecSelectionRequest}
    {codec : DisplayCodecId} (hknown : codec ≠ .unknown)
    (hencoder : encoder.codecPreference = [codec]) (hdecoder : decoder.codecPreference = [codec]) :
    commonCodecPreference encoder decoder = [codec] := by
  simp [commonCodecPreference, addCommonCodec, hencoder, hdecoder, hknown]

/-! ## What is negotiated -/

/-- What a codec needs to be selected by the request of one side. -/
structure Selectable (request : DisplayCodecSelectionRequest) (direction : DisplayCodecDirection)
    (codec : DisplayCodecId) : Prop where
  directed : request.direction = .unknown ∨ request.direction = direction
  platform : request.platform ≠ .unknown
  allowed : request.allowHardware = true ∨ request.allowSoftware = true
  candidate : ∃ c ∈ offeredCandidates request, Fits (attemptRequest request direction codec) c

/-- Both sides can select the codec. -/
def Mutual (request : DisplayCodecNegotiationRequest) (codec : DisplayCodecId) : Prop :=
  Selectable request.encoderRequest .encode codec ∧ Selectable request.decoderRequest .decode codec

/-- The requests are for the directions they are used in. -/
structure Directed (request : DisplayCodecNegotiationRequest) : Prop where
  encoder : request.encoderRequest.direction = .unknown ∨
    request.encoderRequest.direction = .encode
  decoder : request.decoderRequest.direction = .unknown ∨
    request.decoderRequest.direction = .decode

section Attempts

variable {request : DisplayCodecSelectionRequest} {direction : DisplayCodecDirection}
  {codec : DisplayCodecId}

/-- An attempt on one side succeeds if the codec can be selected there. -/
theorem attempt_ok_iff (hnamed : direction ≠ .unknown)
    (hdirection : request.direction = .unknown ∨ request.direction = direction) :
    (selectDisplayCodec (attemptRequest request direction codec)).ok = true ↔
      Selectable request direction codec := by
  rw [ok_iff]
  constructor
  · rintro ⟨hservable, hcandidate⟩
    exact ⟨hdirection, hservable.platform, hservable.allowed, hcandidate⟩
  · intro h
    exact ⟨⟨h.platform, hnamed, List.cons_ne_nil _ _, h.allowed⟩, h.candidate⟩

/-- What an attempt selects is an adapter for the codec that fits. -/
theorem attempt_selected
    (h : (selectDisplayCodec (attemptRequest request direction codec)).ok = true) :
    (selectDisplayCodec (attemptRequest request direction codec)).selected.codec = codec ∧
      Fits (attemptRequest request direction codec)
        (selectDisplayCodec (attemptRequest request direction codec)).selected := by
  obtain ⟨-, hbest⟩ := selected_iff.mp ⟨h, rfl⟩
  have hfits := (fits_of_bestCandidate hbest).2
  refine ⟨?_, hfits⟩
  rcases hfits.preference with hnil | hmem
  · cases hnil
  · exact List.mem_singleton.mp hmem

/-- An adapter that fits an attempt fits the request itself, if the codec is of its preference. -/
theorem Fits.of_attempt {c : DisplayCodecCapability} (h : Fits (attemptRequest request direction codec) c)
    (hcodec : c.codec = codec) (hpreference : request.codecPreference = [] ∨
      codec ∈ request.codecPreference) : Fits { request with direction := direction } c :=
  { h with preference := hcodec ▸ hpreference }

end Attempts

variable {request : DisplayCodecNegotiationRequest}

/-- An attempt succeeds exactly if both sides can select the codec. -/
theorem succeeds_iff (hdirected : Directed request) {codec : DisplayCodecId} :
    (attemptCodec request codec).succeeds = true ↔ Mutual request codec := by
  have hencoder : (selectDisplayCodec (attemptRequest request.encoderRequest .encode codec)).ok =
      true ↔ Selectable request.encoderRequest .encode codec :=
    attempt_ok_iff (by decide) hdirected.encoder
  have hdecoder : (selectDisplayCodec (attemptRequest request.decoderRequest .decode codec)).ok =
      true ↔ Selectable request.decoderRequest .decode codec :=
    attempt_ok_iff (by decide) hdirected.decoder
  simp only [DisplayCodecNegotiationAttempt.succeeds, attemptCodec, Bool.and_eq_true, beq_iff_eq]
  constructor
  · rintro ⟨⟨⟨hencoderOk, hdecoderOk⟩, -⟩, -⟩
    exact ⟨hencoder.mp hencoderOk, hdecoder.mp hdecoderOk⟩
  · rintro ⟨hencoderSide, hdecoderSide⟩
    have hencoderOk := hencoder.mpr hencoderSide
    have hdecoderOk := hdecoder.mpr hdecoderSide
    exact ⟨⟨⟨hencoderOk, hdecoderOk⟩, (attempt_selected hencoderOk).1⟩,
      (attempt_selected hdecoderOk).1⟩

/-- The loop goes on over codecs whose attempts fail. -/
theorem tryCodecs_ok_of_forall (request : DisplayCodecNegotiationRequest)
    {codecs : List DisplayCodecId}
    (h : ∀ codec ∈ codecs, (attemptCodec request codec).succeeds = false)
    (result : DisplayCodecNegotiationResult) :
    (tryCodecs request codecs result).ok = result.ok := by
  induction codecs generalizing result with
  | nil => rfl
  | cons codec codecs ih =>
    rw [tryCodecs, if_neg (by rw [h codec List.mem_cons_self]; exact Bool.false_ne_true),
      ih fun c hc => h c (List.mem_cons_of_mem _ hc)]

/-- **The loop ends with the first codec whose attempt succeeds.** -/
theorem tryCodecs_append (request : DisplayCodecNegotiationRequest)
    {before after : List DisplayCodecId} {codec : DisplayCodecId}
    (hbefore : ∀ c ∈ before, (attemptCodec request c).succeeds = false)
    (hcodec : (attemptCodec request codec).succeeds = true)
    (result : DisplayCodecNegotiationResult) :
    (tryCodecs request (before ++ codec :: after) result).ok = true ∧
      (tryCodecs request (before ++ codec :: after) result).codec = codec ∧
      (tryCodecs request (before ++ codec :: after) result).encoderSelection =
        (attemptCodec request codec).encoderSelection ∧
      (tryCodecs request (before ++ codec :: after) result).decoderSelection =
        (attemptCodec request codec).decoderSelection := by
  induction before generalizing result with
  | nil =>
    rw [List.nil_append, tryCodecs, if_pos hcodec]
    exact ⟨rfl, rfl, rfl, rfl⟩
  | cons first before ih =>
    rw [List.cons_append, tryCodecs,
      if_neg (by rw [hbefore first List.mem_cons_self]; exact Bool.false_ne_true)]
    exact ih (fun c hc => hbefore c (List.mem_cons_of_mem _ hc)) _

/-- The common preference of a negotiation. -/
def DisplayCodecNegotiationRequest.preference (request : DisplayCodecNegotiationRequest) :
    List DisplayCodecId :=
  commonCodecPreference request.encoderRequest request.decoderRequest

/-- The codec is the first of the common preference that both sides can select. -/
def FirstMutual (request : DisplayCodecNegotiationRequest) (codec : DisplayCodecId) : Prop :=
  Mutual request codec ∧ ∃ before after, request.preference = before ++ codec :: after ∧
    ∀ c ∈ before, ¬Mutual request c

theorem FirstMutual.mem {codec : DisplayCodecId} (h : FirstMutual request codec) :
    codec ∈ request.preference := by
  obtain ⟨-, before, after, heq, -⟩ := h
  rw [heq]
  exact List.mem_append_right _ List.mem_cons_self

/-- There is a first one if there is one. -/
theorem exists_firstMutual {codec : DisplayCodecId} (hmem : codec ∈ request.preference)
    (hmutual : Mutual request codec) : ∃ first, FirstMutual request first := by
  classical
  cases hfind : request.preference.find? fun c => Mutual request c with
  | none =>
    have hnone := List.find?_eq_none.mp hfind codec hmem
    exact absurd (decide_eq_true hmutual) hnone
  | some first =>
    obtain ⟨hfirst, before, after, heq, hbefore⟩ := List.find?_eq_some_iff_append.mp hfind
    refine ⟨first, of_decide_eq_true hfirst, before, after, heq, fun c hc => ?_⟩
    simpa using hbefore c hc

/-- A request for another direction is refused. -/
theorem negotiate_not_ok (h : ¬Directed request) : (negotiateDisplayCodec request).ok = false := by
  rw [negotiateDisplayCodec]
  split
  · rfl
  next hencoder =>
    split
    · rfl
    next hdecoder =>
      rw [not_and_or, not_not, not_not] at hencoder hdecoder
      exact absurd ⟨hencoder, hdecoder⟩ h

theorem negotiate_eq (h : Directed request) : negotiateDisplayCodec request =
    if request.preference.isEmpty then
      { messages := [text "display codec negotiation found no common codec preference"] }
    else tryCodecs request request.preference {} := by
  have hencoder : ¬(request.encoderRequest.direction ≠ .unknown ∧
      request.encoderRequest.direction ≠ .encode) := by
    rw [not_and_or, not_not, not_not]
    exact h.encoder
  have hdecoder : ¬(request.decoderRequest.direction ≠ .unknown ∧
      request.decoderRequest.direction ≠ .decode) := by
    rw [not_and_or, not_not, not_not]
    exact h.decoder
  rw [negotiateDisplayCodec, if_neg hencoder, if_neg hdecoder]
  rfl

/-- **The first codec that both sides can select is selected.** -/
theorem negotiate_of_firstMutual {codec : DisplayCodecId} (h : FirstMutual request codec) :
    (negotiateDisplayCodec request).ok = true ∧ (negotiateDisplayCodec request).codec = codec ∧
      (negotiateDisplayCodec request).encoderSelection =
        selectDisplayCodec (attemptRequest request.encoderRequest .encode codec) ∧
      (negotiateDisplayCodec request).decoderSelection =
        selectDisplayCodec (attemptRequest request.decoderRequest .decode codec) := by
  have hdirected : Directed request := ⟨h.1.1.directed, h.1.2.directed⟩
  obtain ⟨hmutual, before, after, heq, hbefore⟩ := h
  have hnonempty : ¬request.preference.isEmpty = true := by
    rw [heq]
    simp
  rw [negotiate_eq hdirected, if_neg hnonempty, heq]
  refine tryCodecs_append request (fun c hc => ?_) ((succeeds_iff hdirected).mpr hmutual) {}
  rw [← Bool.not_eq_true, succeeds_iff hdirected]
  exact hbefore c hc

/-- **A negotiation succeeds exactly if some common codec can be selected by both sides.** -/
theorem negotiate_ok_iff : (negotiateDisplayCodec request).ok = true ↔
    ∃ codec ∈ request.preference, Mutual request codec := by
  constructor
  · intro hok
    by_contra hnone
    rw [not_exists] at hnone
    have hfailed : (negotiateDisplayCodec request).ok = false := by
      by_cases hdirected : Directed request
      · rw [negotiate_eq hdirected]
        split
        · rfl
        · refine tryCodecs_ok_of_forall request (fun codec hmem => ?_) {}
          rw [← Bool.not_eq_true, succeeds_iff hdirected]
          exact fun hmutual => hnone codec ⟨hmem, hmutual⟩
      · exact negotiate_not_ok hdirected
    rw [hok] at hfailed
    cases hfailed
  · rintro ⟨codec, hmem, hmutual⟩
    obtain ⟨first, hfirst⟩ := exists_firstMutual hmem hmutual
    exact (negotiate_of_firstMutual hfirst).1

/-- And its codec is the first such one. -/
theorem negotiate_firstMutual (h : (negotiateDisplayCodec request).ok = true) :
    FirstMutual request (negotiateDisplayCodec request).codec := by
  obtain ⟨codec, hmem, hmutual⟩ := negotiate_ok_iff.mp h
  obtain ⟨first, hfirst⟩ := exists_firstMutual hmem hmutual
  rwa [(negotiate_of_firstMutual hfirst).2.1]

/-! ## One side of a success -/

/-- What a success says of one side: an adapter for the codec, which meets every constraint of the
request of that side. -/
structure Selected (request : DisplayCodecSelectionRequest) (direction : DisplayCodecDirection)
    (codec : DisplayCodecId) (selection : DisplayCodecSelectionResult) : Prop where
  hasSelection : selection.hasSelection = true
  codec_eq : selection.selected.codec = codec
  fits : Fits { request with direction := direction } selection.selected

theorem selected_of_selectable {request : DisplayCodecSelectionRequest}
    {direction : DisplayCodecDirection} {codec : DisplayCodecId} (hnamed : direction ≠ .unknown)
    (h : Selectable request direction codec)
    (hpreference : request.codecPreference = [] ∨ codec ∈ request.codecPreference) :
    Selected request direction codec
      (selectDisplayCodec (attemptRequest request direction codec)) := by
  have hok := (attempt_ok_iff hnamed h.directed).mpr h
  obtain ⟨hcodec, hfits⟩ := attempt_selected hok
  refine ⟨?_, hcodec, hfits.of_attempt hcodec hpreference⟩
  rw [hasSelection_eq_ok, hok]

/-- **Both adapters of a success** meet the constraints of their own requests. -/
theorem negotiate_selects (h : (negotiateDisplayCodec request).ok = true) :
    Selected request.encoderRequest .encode (negotiateDisplayCodec request).codec
        (negotiateDisplayCodec request).encoderSelection ∧
      Selected request.decoderRequest .decode (negotiateDisplayCodec request).codec
        (negotiateDisplayCodec request).decoderSelection := by
  have hfirst := negotiate_firstMutual h
  obtain ⟨-, -, hencoder, hdecoder⟩ := negotiate_of_firstMutual hfirst
  obtain ⟨-, hencoderPreference, hdecoderPreference⟩ := of_mem_commonCodecPreference hfirst.mem
  rw [hencoder, hdecoder]
  exact ⟨selected_of_selectable (by decide) hfirst.1.1 hencoderPreference,
    selected_of_selectable (by decide) hfirst.1.2 hdecoderPreference⟩

/-! ## The second negotiation -/

section Pinned

variable {request : DisplayCodecSelectionRequest} {direction : DisplayCodecDirection}
  {codec : DisplayCodecId} {selection : DisplayCodecSelectionResult}

theorem pinnedDisplayCodecRequest_eq (h : Selected request direction codec selection) :
    pinnedDisplayCodecRequest request selection =
      { request with
        codecPreference := [codec]
        requestedAdapterId := selection.selected.adapterId
        candidates := [selection.selected] } := by
  rw [pinnedDisplayCodecRequest, if_neg (by rw [h.hasSelection]; decide),
    h.codec_eq]

/-- The adapter that a request is pinned to fits it. -/
theorem fits_pinned (h : Selected request direction codec selection) :
    Fits (attemptRequest (pinnedDisplayCodecRequest request selection) direction codec)
      selection.selected := by
  rw [pinnedDisplayCodecRequest_eq h]
  exact { h.fits with
    adapter := Or.inr rfl
    preference := Or.inr (List.mem_singleton.mpr h.codec_eq) }

/-- And the codec can be selected by it. -/
theorem selectable_pinned (h : Selected request direction codec selection)
    (hselectable : Selectable request direction codec) :
    Selectable (pinnedDisplayCodecRequest request selection) direction codec := by
  have hfits := fits_pinned h
  rw [pinnedDisplayCodecRequest_eq h] at hfits ⊢
  exact ⟨hselectable.directed, hselectable.platform, hselectable.allowed, selection.selected,
    List.mem_singleton.mpr rfl, hfits⟩

/-- **A pinned request selects what it is pinned to.** -/
theorem selected_pinned (hnamed : direction ≠ .unknown)
    (h : Selected request direction codec selection)
    (hselectable : Selectable request direction codec) :
    (selectDisplayCodec (attemptRequest (pinnedDisplayCodecRequest request selection) direction
      codec)).selected = selection.selected := by
  have hpinned := selectable_pinned h hselectable
  have hok := (attempt_ok_iff hnamed hpinned.directed).mpr hpinned
  obtain ⟨-, hbest⟩ := selected_iff.mp ⟨hok, rfl⟩
  have hmem := (fits_of_bestCandidate hbest).1
  have hoffered : offeredCandidates (attemptRequest (pinnedDisplayCodecRequest request selection)
      direction codec) = [selection.selected] := by
    rw [pinnedDisplayCodecRequest_eq h]
    rfl
  rw [hoffered] at hmem
  exact List.mem_singleton.mp hmem

end Pinned

/-- The negotiation of the client: between the requests that are pinned to a negotiation. -/
def pinnedNegotiation (request : DisplayCodecNegotiationRequest) :
    DisplayCodecNegotiationRequest where
  encoderRequest :=
    pinnedDisplayCodecRequest request.encoderRequest (negotiateDisplayCodec request).encoderSelection
  decoderRequest :=
    pinnedDisplayCodecRequest request.decoderRequest (negotiateDisplayCodec request).decoderSelection

/-- **The second negotiation comes to what the first one has come to.** -/
theorem negotiate_pinnedNegotiation (h : (negotiateDisplayCodec request).ok = true) :
    (negotiateDisplayCodec (pinnedNegotiation request)).ok = true ∧
      (negotiateDisplayCodec (pinnedNegotiation request)).codec =
        (negotiateDisplayCodec request).codec ∧
      (negotiateDisplayCodec (pinnedNegotiation request)).encoderSelection.selected =
        (negotiateDisplayCodec request).encoderSelection.selected ∧
      (negotiateDisplayCodec (pinnedNegotiation request)).decoderSelection.selected =
        (negotiateDisplayCodec request).decoderSelection.selected := by
  obtain ⟨hencoder, hdecoder⟩ := negotiate_selects h
  have hfirst := negotiate_firstMutual h
  have hknown := (of_mem_commonCodecPreference hfirst.mem).1
  have hpreference : (pinnedNegotiation request).preference =
      [(negotiateDisplayCodec request).codec] := by
    refine commonCodecPreference_singleton hknown ?_ ?_
    · rw [pinnedNegotiation, pinnedDisplayCodecRequest_eq hencoder]
    · rw [pinnedNegotiation, pinnedDisplayCodecRequest_eq hdecoder]
  have hpinned : FirstMutual (pinnedNegotiation request) (negotiateDisplayCodec request).codec :=
    ⟨⟨selectable_pinned hencoder hfirst.1.1, selectable_pinned hdecoder hfirst.1.2⟩, [], [],
      hpreference, List.forall_mem_nil _⟩
  obtain ⟨hok, hcodec, hencoderEq, hdecoderEq⟩ := negotiate_of_firstMutual hpinned
  rw [hencoderEq, hdecoderEq]
  exact ⟨hok, hcodec, selected_pinned (by decide) hencoder hfirst.1.1,
    selected_pinned (by decide) hdecoder hfirst.1.2⟩

/-! ## Across the wire -/

/-- What the agent answers with. -/
def pinnedPayload (request : DisplayCodecNegotiationRequest) : DisplayCodecPeerProfilePayload :=
  ⟨true, (pinnedNegotiation request).encoderRequest, true,
    (pinnedNegotiation request).decoderRequest⟩

/-- An extension that is appended is found, if there was none. -/
theorem findDisplayCodecPeerExtension_append {extensions : List PeerProfileExtension}
    (h : findDisplayCodecPeerExtension extensions = none)
    (payload : DisplayCodecPeerProfilePayload) :
    findDisplayCodecPeerExtension (extensions ++ [makeDisplayCodecPeerExtension payload]) =
      some (makeDisplayCodecPeerExtension payload) := by
  rw [findDisplayCodecPeerExtension] at h ⊢
  rw [List.find?_append, h, Option.none_or, List.find?_singleton]
  exact if_pos (beq_self_eq_true _)

/-- The request of the client, with its decoders in it. -/
theorem appendDecoderRequest_eq {decoderRequest : DisplayCodecSelectionRequest}
    (hlimits : ProfileLimits { hasDecoderRequest := true, decoderRequest := decoderRequest })
    (sent : PeerProfileExchangeRequest) :
    (appendDisplayCodecPeerProfileDecoderRequest sent decoderRequest).2 =
      { sent with extensions := sent.extensions ++ [makeDisplayCodecPeerExtension
          { hasDecoderRequest := true, decoderRequest := decoderRequest }] } := by
  have hpayload := encode_ne_nil hlimits
  rw [appendDisplayCodecPeerProfileDecoderRequest]
  exact congrArg Prod.snd (if_neg (by simpa [makeDisplayCodecPeerExtension] using hpayload))

/-- **The agent** negotiates between its encoders and the decoders of the client, and answers with
the pinned requests. -/
theorem handle_eq {sent : PeerProfileExchangeRequest} {exchange : PeerProfileExchangeResult}
    (hlimits : ProfileLimits
      { hasDecoderRequest := true, decoderRequest := request.decoderRequest })
    (hfind : findDisplayCodecPeerExtension sent.extensions = some (makeDisplayCodecPeerExtension
      { hasDecoderRequest := true, decoderRequest := request.decoderRequest }))
    (hexchange : exchange.ok = true) (hok : (negotiateDisplayCodec request).ok = true)
    (hpinned : ProfileLimits (pinnedPayload request)) :
    handleDisplayCodecPeerProfileRequest sent exchange request.encoderRequest =
      ({ ok := true
         attempted := true
         extensionAdded := true
         negotiation := negotiateDisplayCodec request
         encoderRequest := (pinnedNegotiation request).encoderRequest
         decoderRequest := (pinnedNegotiation request).decoderRequest },
        { exchange with
          extensions := exchange.extensions ++
            [makeDisplayCodecPeerExtension (pinnedPayload request)] }) := by
  have hpayload : ¬(makeDisplayCodecPeerExtension (pinnedPayload request)).payload.isEmpty = true := by
    simpa [makeDisplayCodecPeerExtension] using encode_ne_nil hpinned
  have hdecoded : decodeDisplayCodecPeerProfilePayload (encodeDisplayCodecPeerProfilePayload
      { hasDecoderRequest := true, decoderRequest := request.decoderRequest }) =
        { ok := true
          payload := { hasDecoderRequest := true, decoderRequest := request.decoderRequest } } :=
    decode_encode hlimits
  rw [handleDisplayCodecPeerProfileRequest, if_neg (by rw [hexchange]; decide), hfind]
  dsimp only [makeDisplayCodecPeerExtension]
  rw [hdecoded]
  dsimp only
  have hcomplete : ¬(true = false ∨ true = false) := by decide
  have hagreed : ¬(negotiateDisplayCodec request).ok = false := by
    rw [hok]
    decide
  exact (if_neg hcomplete).trans ((if_neg hagreed).trans (if_neg hpayload))

/-- **The client** negotiates between what the agent has pinned. -/
theorem read_eq (before : List PeerProfileRuntimeCompletion)
    {after : List PeerProfileRuntimeCompletion} {completion : PeerProfileRuntimeCompletion}
    (hcompletion : completion.ok = true) (hafter : ∀ c ∈ after, c.ok = false)
    (hfind : findDisplayCodecPeerExtension completion.exchange.extensions =
      some (makeDisplayCodecPeerExtension (pinnedPayload request)))
    (hpinned : ProfileLimits (pinnedPayload request))
    (hok : (negotiateDisplayCodec request).ok = true) :
    readDisplayCodecPeerProfileCompletion (before ++ completion :: after) =
      { ok := true
        attempted := true
        extensionAdded := true
        negotiation := negotiateDisplayCodec (pinnedNegotiation request)
        encoderRequest := (pinnedNegotiation request).encoderRequest
        decoderRequest := (pinnedNegotiation request).decoderRequest } := by
  have hlast : (before ++ completion :: after).reverse.find? (fun c => c.ok) = some completion := by
    have hnone : after.reverse.find? (fun c => c.ok) = none := by
      rw [List.find?_eq_none]
      intro c hc
      rw [hafter c (List.mem_reverse.mp hc)]
      decide
    rw [List.reverse_append, List.reverse_cons, List.find?_append, List.find?_append, hnone,
      Option.none_or, List.find?_singleton, if_pos hcompletion, Option.some_or]
  have hdecoded : decodeDisplayCodecPeerProfilePayload
      (encodeDisplayCodecPeerProfilePayload (pinnedPayload request)) =
        { ok := true, payload := pinnedPayload request } := decode_encode hpinned
  rw [readDisplayCodecPeerProfileCompletion, hlast]
  dsimp only
  rw [hfind]
  dsimp only [makeDisplayCodecPeerExtension]
  rw [hdecoded]
  dsimp only [pinnedPayload]
  have hcomplete : ¬(true = false ∨ true = false ∨ true = false) := by decide
  have hagain : ¬(negotiateDisplayCodec (pinnedNegotiation request)).ok = false := by
    rw [(negotiate_pinnedNegotiation hok).1]
    decide
  exact (if_neg hcomplete).trans (if_neg hagain)

/-- **The two sides agree on a codec**: the negotiation succeeds exactly if some codec of the common
preference can be selected by both requests; it comes to the first such codec, with adapters that
meet every constraint of their own requests; and the client, which decodes what the agent has pinned
and negotiates again, comes to the same codec and the same two adapters. -/
theorem codecNegotiation_agrees (request : DisplayCodecNegotiationRequest) :
    ((negotiateDisplayCodec request).ok = true ↔
      ∃ codec ∈ commonCodecPreference request.encoderRequest request.decoderRequest,
        Mutual request codec) ∧
    ((negotiateDisplayCodec request).ok = true →
      FirstMutual request (negotiateDisplayCodec request).codec ∧
        Selected request.encoderRequest .encode (negotiateDisplayCodec request).codec
          (negotiateDisplayCodec request).encoderSelection ∧
        Selected request.decoderRequest .decode (negotiateDisplayCodec request).codec
          (negotiateDisplayCodec request).decoderSelection) ∧
    ((negotiateDisplayCodec request).ok = true → ProfileLimits (pinnedPayload request) →
      let decoded := decodeDisplayCodecPeerProfilePayload
        (encodeDisplayCodecPeerProfilePayload (pinnedPayload request))
      let again := negotiateDisplayCodec
        ⟨decoded.payload.encoderRequest, decoded.payload.decoderRequest⟩
      decoded.ok = true ∧ again.ok = true ∧ again.codec = (negotiateDisplayCodec request).codec ∧
        again.encoderSelection.selected =
          (negotiateDisplayCodec request).encoderSelection.selected ∧
        again.decoderSelection.selected =
          (negotiateDisplayCodec request).decoderSelection.selected) ∧
    ∀ (asked : PeerProfileExchangeRequest) (exchange : PeerProfileExchangeResult)
      (before after : List PeerProfileRuntimeCompletion)
      (completion : PeerProfileRuntimeCompletion),
      ProfileLimits { hasDecoderRequest := true, decoderRequest := request.decoderRequest } →
      findDisplayCodecPeerExtension asked.extensions = none →
      exchange.ok = true → findDisplayCodecPeerExtension exchange.extensions = none →
      (negotiateDisplayCodec request).ok = true → ProfileLimits (pinnedPayload request) →
      completion.ok = true → (∀ c ∈ after, c.ok = false) →
      let handled := handleDisplayCodecPeerProfileRequest
        (appendDisplayCodecPeerProfileDecoderRequest asked request.decoderRequest).2 exchange
        request.encoderRequest
      completion.exchange.extensions = handled.2.extensions →
      let read := readDisplayCodecPeerProfileCompletion (before ++ completion :: after)
      handled.1.ok = true ∧ handled.1.negotiation = negotiateDisplayCodec request ∧
        read.ok = true ∧ read.negotiation.codec = handled.1.negotiation.codec ∧
        read.negotiation.encoderSelection.selected =
          handled.1.negotiation.encoderSelection.selected ∧
        read.negotiation.decoderSelection.selected =
          handled.1.negotiation.decoderSelection.selected := by
  refine ⟨negotiate_ok_iff, fun hok => ⟨negotiate_firstMutual hok, negotiate_selects hok⟩, ?_, ?_⟩
  · intro hok hpinned decoded again
    have hdecoded : decoded = { ok := true, payload := pinnedPayload request } :=
      decode_encode hpinned
    have hagain : again = negotiateDisplayCodec (pinnedNegotiation request) := by
      rw [show again = negotiateDisplayCodec _ from rfl, hdecoded]
      rfl
    rw [hagain, hdecoded]
    exact ⟨rfl, negotiate_pinnedNegotiation hok⟩
  intro asked exchange before after completion hlimits hasked hexchange hfresh hok hpinned
    hcompletion hafter handled hextensions read
  have hsent : findDisplayCodecPeerExtension
      (appendDisplayCodecPeerProfileDecoderRequest asked request.decoderRequest).2.extensions =
        some (makeDisplayCodecPeerExtension
          { hasDecoderRequest := true, decoderRequest := request.decoderRequest }) := by
    rw [appendDecoderRequest_eq hlimits]
    exact findDisplayCodecPeerExtension_append hasked _
  have hhandled := handle_eq hlimits hsent hexchange hok hpinned
  have hfind : findDisplayCodecPeerExtension completion.exchange.extensions =
      some (makeDisplayCodecPeerExtension (pinnedPayload request)) := by
    rw [hextensions, show handled = _ from hhandled]
    exact findDisplayCodecPeerExtension_append hfresh _
  have hread := read_eq before hcompletion hafter hfind hpinned hok
  rw [show handled = _ from hhandled, show read = _ from hread]
  exact ⟨rfl, rfl, rfl, (negotiate_pinnedNegotiation hok).2⟩

/-- A Windows agent and a Windows client, with the defaults of the platform. -/
def windowsNegotiation : DisplayCodecNegotiationRequest where
  encoderRequest := { windowsDecoderRequest with direction := .encode }
  decoderRequest := windowsDecoderRequest

/-- The completion of the client's request. -/
def windowsCompletion : PeerProfileRuntimeCompletion where
  ok := true
  exchange := (handleDisplayCodecPeerProfileRequest
    (appendDisplayCodecPeerProfileDecoderRequest {} windowsNegotiation.decoderRequest).2
    { ok := true } windowsNegotiation.encoderRequest).2

theorem codecNegotiation_agrees_windows :
    (readDisplayCodecPeerProfileCompletion [windowsCompletion]).negotiation.codec =
      (negotiateDisplayCodec windowsNegotiation).codec := by
  have hok : (negotiateDisplayCodec windowsNegotiation).ok = true := by decide +kernel
  have hraw : ∀ request : DisplayCodecSelectionRequest,
      request.candidates = [rawFallback .windowsDesktop "windows.raw_frame"] →
      request.codecPreference.length < 2 ^ 16 ∧ request.acceptedPixelFormats = [.bgra32] ∧
        request.acceptedInputMemoryTypes.length < 2 ^ 16 ∧
        request.acceptedOutputMemoryTypes.length < 2 ^ 16 ∧
        request.requestedAdapterId.length < 2 ^ 32 → SelectionRequestLimits request := by
    rintro request hcandidates ⟨hpreference, hpixel, hinput, houtput, hadapter⟩
    refine ⟨hpreference, by rw [hpixel]; decide, by rw [hpixel]; decide, hinput, houtput, hadapter,
      by rw [hcandidates]; decide, ?_⟩
    rw [hcandidates]
    exact List.forall_mem_singleton.mpr ⟨by decide, by decide, by decide, by decide, by decide,
      by decide, by decide, by decide, by decide⟩
  have hpinned : ProfileLimits (pinnedPayload windowsNegotiation) :=
    ⟨fun _ => hraw _ (by decide +kernel) (by decide +kernel),
      fun _ => hraw _ (by decide +kernel) (by decide +kernel)⟩
  have hexchange : windowsCompletion.exchange = (handleDisplayCodecPeerProfileRequest
      (appendDisplayCodecPeerProfileDecoderRequest {} windowsNegotiation.decoderRequest).2
      { ok := true } windowsNegotiation.encoderRequest).2 := by
    rw [windowsCompletion]
  have h := (codecNegotiation_agrees windowsNegotiation).2.2.2 {} { ok := true } [] []
    windowsCompletion windowsDecoderRequest_limits rfl rfl rfl hok hpinned rfl
    (List.forall_mem_nil _) (congrArg PeerProfileExchangeResult.extensions hexchange)
  have hagreed := congrArg DisplayCodecNegotiationResult.codec h.2.1
  have hread := h.2.2.2.1
  rw [hagreed, List.nil_append] at hread
  exact hread

end DisplayCodec
end Runtime
end FusionDesk
