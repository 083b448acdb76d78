import FusionDesk.Runtime.CodecNegotiation

/-!
# The scores of the codec selector as `int`s

`scoreCandidate` adds up `int`s, of which the priority comes from the peer.  The selector over the
integers (`selectDisplayCodec`) stands for the code as long as no sum leaves the 32 bits; where one
does, the code has no defined behaviour.  Here the functions of the selection and of the negotiation
are repeated with sums that have no result there.

* `negotiateDisplayCodecInt_eq_some_iff`: the negotiation over `int`s is the one over the integers,
  where every score that it computes fits.
* `codecScores_exact`: so it always picks the first candidate with the greatest score, exactly if no
  candidate that is scored has a priority too close to the greatest `int`.
* `peerPriority_overflows`: the decoder accepts a priority for which it does not.
-/

namespace FusionDesk
namespace Runtime
namespace DisplayCodec

open Protocol (ByteBuffer)
open PeerProfile (text)
open BestScore

/-! ## Sums of `int`s -/

/-- The number is one of the 32 bits of an `int`. -/
def InInt (v : ℤ) : Prop := -2 ^ 31 ≤ v ∧ v < 2 ^ 31

instance (v : ℤ) : Decidable (InInt v) := inferInstanceAs (Decidable (_ ∧ _))

/-- An `int` with the value `v`, if there is one. -/
def int (v : ℤ) : Option ℤ := if InInt v then some v else none

/-- `if (c) score += n`. -/
def addIf (c : Bool) (score n : ℤ) : Option ℤ := if c then int (score + n) else some score

def scoreCandidateInt (candidate : DisplayCodecCapability)
    (request : DisplayCodecSelectionRequest) : Option ℤ := do
  let score ← int candidate.priority
  let preference ← int (codecPreferenceScore candidate.codec request.codecPreference)
  let score ← int (score + preference)
  let score ← addIf (request.preferHardware && candidate.hardwareAccelerated) score 20
  let score ← addIf (request.preferZeroCopy && candidate.zeroCopy) score 10
  let score ← addIf candidate.lowLatency score 5
  addIf (!candidate.fallback) score 2

/-! ## The selection and the negotiation -/

/-- One round of the loop of `selectDisplayCodec`. -/
def considerCandidateInt (request : DisplayCodecSelectionRequest) (state : SelectionState)
    (candidate : DisplayCodecCapability) : Option SelectionState :=
  match rejectionReason candidate request with
  | some reason =>
    some { state with
      rejected := state.rejected ++
        [⟨candidate.adapterId, candidate.backend, candidate.codec, reason⟩] }
  | none => do
    let score ← scoreCandidateInt candidate request
    match state.best with
    | none => some { state with best := some (score, candidate) }
    | some best =>
      some (if score > best.1 then { state with best := some (score, candidate) } else state)

def selectDisplayCodecInt (request : DisplayCodecSelectionRequest) :
    Option DisplayCodecSelectionResult :=
  if (requestMessages request).isEmpty = false then some { messages := requestMessages request }
  else do
    let state ← (offeredCandidates request).foldlM (considerCandidateInt request) {}
    match state.best with
    | none =>
      some { rejected := state.rejected
             messages := [text "display codec selection found no usable codec"] }
    | some best =>
      some { ok := true
             hasSelection := true
             selected := best.2
             fallbackSelected := best.2.fallback
             score := best.1
             rejected := state.rejected }

def attemptCodecInt (request : DisplayCodecNegotiationRequest) (codec : DisplayCodecId) :
    Option DisplayCodecNegotiationAttempt := do
  let encoderSelection ←
    selectDisplayCodecInt (attemptRequest request.encoderRequest .encode codec)
  let decoderSelection ←
    selectDisplayCodecInt (attemptRequest request.decoderRequest .decode codec)
  return ⟨codec, encoderSelection, decoderSelection⟩

/-- The loop over the common preference. -/
def tryCodecsInt (request : DisplayCodecNegotiationRequest) :
    List DisplayCodecId → DisplayCodecNegotiationResult → Option DisplayCodecNegotiationResult
  | [], result =>
    some { result with
      messages := result.messages ++
        [text "display codec negotiation found no mutually selectable codec"] }
  | codec :: rest, result => do
    let attempt ← attemptCodecInt request codec
    if attempt.succeeds then
      some { result with
        ok := true
        hasSelection := true
        codec := codec
        encoderSelection := attempt.encoderSelection
        decoderSelection := attempt.decoderSelection
        fallbackSelected := attempt.encoderSelection.fallbackSelected ||
          attempt.decoderSelection.fallbackSelected
        attempts := result.attempts ++ [attempt] }
    else
      tryCodecsInt request rest
        { result with
          messages := result.messages ++ selectionMessages "encoder" attempt.encoderSelection ++
            selectionMessages "decoder" attempt.decoderSelection
          attempts := result.attempts ++ [attempt] }

def negotiateDisplayCodecInt (request : DisplayCodecNegotiationRequest) :
    Option DisplayCodecNegotiationResult :=
  if request.encoderRequest.direction ≠ .unknown ∧ request.encoderRequest.direction ≠ .encode then
    some { messages :=
        [text "display codec negotiation encoder request must use encode direction"] }
  else if request.decoderRequest.direction ≠ .unknown ∧
      request.decoderRequest.direction ≠ .decode then
    some { messages :=
        [text "display codec negotiation decoder request must use decode direction"] }
  else
    let preference := commonCodecPreference request.encoderRequest request.decoderRequest
    if preference.isEmpty then
      some { messages := [text "display codec negotiation found no common codec preference"] }
    else tryCodecsInt request preference {}

/-! ## Where the sums fit -/

theorem int_eq_some_iff {v w : ℤ} : int v = some w ↔ InInt v ∧ w = v := by
  rw [int]
  split
  next h => rw [Option.some_inj, eq_comm, and_iff_right h]
  next h => exact iff_of_false nofun fun hv => h hv.1

theorem addIf_eq_some_iff {c : Bool} {score n w : ℤ} :
    addIf c score n = some w ↔
      (c = true → InInt (score + n)) ∧ w = score + if c = true then n else 0 := by
  cases c with
  | false => simp [addIf, eq_comm]
  | true => simp [addIf, int_eq_some_iff]

/-- What is added to the priority of a candidate for the one codec of an attempt. -/
def scoreAddends (request : DisplayCodecSelectionRequest) (candidate : DisplayCodecCapability) :
    ℤ :=
  30 + (if request.preferHardware && candidate.hardwareAccelerated then 20 else 0) +
    (if request.preferZeroCopy && candidate.zeroCopy then 10 else 0) +
    (if candidate.lowLatency then 5 else 0) + (if candidate.fallback then 0 else 2)

/-- The priority leaves room for what is added to it. -/
def ScoreFits (request : DisplayCodecSelectionRequest) (candidate : DisplayCodecCapability) : Prop :=
  candidate.priority ≤ 2 ^ 31 - 1 - scoreAddends request candidate

/-- A score over `int`s is the score. -/
theorem eq_scoreCandidate {candidate : DisplayCodecCapability}
    {request : DisplayCodecSelectionRequest} {score : ℤ}
    (h : scoreCandidateInt candidate request = some score) :
    score = scoreCandidate candidate request := by
  simp only [scoreCandidateInt, Option.bind_eq_bind, Option.bind_eq_some_iff, int_eq_some_iff,
    addIf_eq_some_iff] at h
  obtain ⟨_, ⟨-, rfl⟩, _, ⟨-, rfl⟩, _, ⟨-, rfl⟩, _, ⟨-, rfl⟩, _, ⟨-, rfl⟩, _, ⟨-, rfl⟩, -, rfl⟩ := h
  rw [scoreCandidate]
  cases candidate.fallback with
  | false => rfl
  | true => rfl

/-- **A candidate of an attempt has a score** exactly if its priority leaves room for it: the sums
only grow. -/
theorem isSome_scoreCandidateInt_iff {candidate : DisplayCodecCapability}
    {request : DisplayCodecSelectionRequest} (hpriority : InInt candidate.priority)
    (hpreference : codecPreferenceScore candidate.codec request.codecPreference = 30) :
    (scoreCandidateInt candidate request).isSome = true ↔ ScoreFits request candidate := by
  simp only [Option.isSome_iff_exists, scoreCandidateInt, Option.bind_eq_bind,
    Option.bind_eq_some_iff, int_eq_some_iff, addIf_eq_some_iff, hpreference, ScoreFits,
    scoreAddends, and_assoc, exists_and_left, exists_eq_left, exists_eq, and_true]
  unfold InInt at *
  cases candidate.fallback with
  | false => grind
  | true => grind

/-! ## The selection over `int`s -/

/-- Every candidate that is scored has a score. -/
def SelectionScored (request : DisplayCodecSelectionRequest) : Prop :=
  requestMessages request = [] → ∀ c ∈ offeredCandidates request,
    candidateUsable request c = true → (scoreCandidateInt c request).isSome = true

theorem considerCandidateInt_eq_some_iff {request : DisplayCodecSelectionRequest}
    {state next : SelectionState} {candidate : DisplayCodecCapability} :
    considerCandidateInt request state candidate = some next ↔
      (candidateUsable request candidate = true →
        (scoreCandidateInt candidate request).isSome = true) ∧
      next = considerCandidate request state candidate := by
  rw [considerCandidateInt, considerCandidate, candidateUsable]
  cases rejectionReason candidate request with
  | some reason =>
    rw [Option.some_inj, eq_comm]
    exact (and_iff_right fun h => absurd h Bool.false_ne_true).symm
  | none =>
    cases hscore : scoreCandidateInt candidate request with
    | none => exact iff_of_false (Option.some_ne_none next).symm fun h => Bool.false_ne_true (h.1 rfl)
    | some score =>
      obtain rfl := eq_scoreCandidate hscore
      cases state.best with
      | none =>
        refine Iff.trans ?_ (and_iff_right fun _ => rfl).symm
        exact Option.some_inj.trans eq_comm
      | some best =>
        refine Iff.trans ?_ (and_iff_right fun _ => rfl).symm
        exact Option.some_inj.trans eq_comm

theorem foldlM_considerCandidateInt {request : DisplayCodecSelectionRequest}
    {candidates : List DisplayCodecCapability} {state last : SelectionState} :
    candidates.foldlM (considerCandidateInt request) state = some last ↔
      (∀ c ∈ candidates, candidateUsable request c = true →
        (scoreCandidateInt c request).isSome = true) ∧
      last = candidates.foldl (considerCandidate request) state :=
  foldlM_eq_some_iff (f := considerCandidateInt request) (g := considerCandidate request)
    fun _ _ _ => considerCandidateInt_eq_some_iff

/-- **The selection over `int`s** is the one over the integers, where every score fits. -/
theorem selectDisplayCodecInt_eq_some_iff {request : DisplayCodecSelectionRequest}
    {result : DisplayCodecSelectionResult} :
    selectDisplayCodecInt request = some result ↔
      SelectionScored request ∧ result = selectDisplayCodec request := by
  rw [selectDisplayCodecInt, selectDisplayCodec, SelectionScored]
  by_cases hmessages : requestMessages request = []
  · have hempty : ¬(requestMessages request).isEmpty = false := by
      rw [hmessages]
      decide
    rw [if_neg hempty, if_neg hempty, Option.bind_eq_bind, Option.bind_eq_some_iff]
    dsimp only
    constructor
    · rintro ⟨state, hloop, hresult⟩
      obtain ⟨hscored, rfl⟩ := foldlM_considerCandidateInt.1 hloop
      refine ⟨fun _ => hscored, ?_⟩
      cases hbest : (List.foldl (considerCandidate request) {} (offeredCandidates request)).best with
      | none =>
        rw [hbest] at hresult
        exact (Option.some_inj.1 hresult).symm
      | some best =>
        rw [hbest] at hresult
        exact (Option.some_inj.1 hresult).symm
    · rintro ⟨hscored, rfl⟩
      refine ⟨_, foldlM_considerCandidateInt.2 ⟨hscored hmessages, rfl⟩, ?_⟩
      cases (List.foldl (considerCandidate request) {} (offeredCandidates request)).best with
      | none => rfl
      | some best => rfl
  · have hnonempty : (requestMessages request).isEmpty = false := List.isEmpty_eq_false_iff.2 hmessages
    rw [if_pos hnonempty, if_pos hnonempty, Option.some_inj, eq_comm]
    exact (and_iff_right fun h => absurd h hmessages).symm

/-! ## The negotiation over `int`s -/

/-- Every candidate that an attempt scores has a score. -/
def AttemptScored (request : DisplayCodecNegotiationRequest) (codec : DisplayCodecId) : Prop :=
  SelectionScored (attemptRequest request.encoderRequest .encode codec) ∧
    SelectionScored (attemptRequest request.decoderRequest .decode codec)

theorem attemptCodecInt_eq_some_iff {request : DisplayCodecNegotiationRequest}
    {codec : DisplayCodecId} {attempt : DisplayCodecNegotiationAttempt} :
    attemptCodecInt request codec = some attempt ↔
      AttemptScored request codec ∧ attempt = attemptCodec request codec := by
  simp only [attemptCodecInt, Option.bind_eq_bind, Option.bind_eq_some_iff,
    selectDisplayCodecInt_eq_some_iff, Option.pure_def, Option.some_inj]
  constructor
  · rintro ⟨encoder, ⟨hencoder, rfl⟩, decoder, ⟨hdecoder, rfl⟩, rfl⟩
    exact ⟨⟨hencoder, hdecoder⟩, rfl⟩
  · rintro ⟨⟨hencoder, hdecoder⟩, rfl⟩
    exact ⟨_, ⟨hencoder, rfl⟩, _, ⟨hdecoder, rfl⟩, rfl⟩

/-- The loop comes to the codec: no attempt in front of it succeeds. -/
def Comes (request : DisplayCodecNegotiationRequest) (codecs : List DisplayCodecId)
    (codec : DisplayCodecId) : Prop :=
  ∃ before after, codecs = before ++ codec :: after ∧
    ∀ c ∈ before, (attemptCodec request c).succeeds = false

theorem comes_cons_iff {request : DisplayCodecNegotiationRequest} {first codec : DisplayCodecId}
    {rest : List DisplayCodecId} : Comes request (first :: rest) codec ↔
      codec = first ∨ (attemptCodec request first).succeeds = false ∧ Comes request rest codec := by
  constructor
  · rintro ⟨before, after, heq, hbefore⟩
    cases before with
    | nil =>
      rw [List.nil_append, List.cons.injEq] at heq
      exact Or.inl heq.1.symm
    | cons c before =>
      rw [List.cons_append, List.cons.injEq] at heq
      obtain ⟨rfl, rfl⟩ := heq
      exact Or.inr ⟨hbefore first List.mem_cons_self, before, after, rfl,
        fun c hc => hbefore c (List.mem_cons_of_mem _ hc)⟩
  · rintro (rfl | ⟨hfirst, before, after, rfl, hbefore⟩)
    · exact ⟨[], rest, rfl, List.forall_mem_nil _⟩
    · exact ⟨first :: before, after, rfl, List.forall_mem_cons.2 ⟨hfirst, hbefore⟩⟩

/-- The loop over `int`s is the one over the integers, where every attempt it comes to has its
scores. -/
theorem tryCodecsInt_eq_some_iff {request : DisplayCodecNegotiationRequest}
    {codecs : List DisplayCodecId} {result last : DisplayCodecNegotiationResult} :
    tryCodecsInt request codecs result = some last ↔
      (∀ codec, Comes request codecs codec → AttemptScored request codec) ∧
        last = tryCodecs request codecs result := by
  induction codecs generalizing result with
  | nil =>
    rw [tryCodecsInt, tryCodecs, Option.some_inj, eq_comm]
    refine (and_iff_right ?_).symm
    rintro codec ⟨before, after, heq, -⟩
    exact absurd heq.symm (List.append_ne_nil_of_right_ne_nil _ (List.cons_ne_nil _ _))
  | cons first rest ih =>
    simp only [tryCodecsInt, tryCodecs, Option.bind_eq_bind, Option.bind_eq_some_iff,
      attemptCodecInt_eq_some_iff, and_assoc, exists_and_left, exists_eq_left, comes_cons_iff]
    by_cases hsucceeds : (attemptCodec request first).succeeds = true
    · rw [if_pos hsucceeds, if_pos hsucceeds, Option.some_inj, eq_comm]
      refine and_congr_left fun _ => ⟨?_, fun h => h first (Or.inl rfl)⟩
      rintro hfirst codec (rfl | ⟨hfails, -⟩)
      · exact hfirst
      · rw [hsucceeds] at hfails
        cases hfails
    · rw [if_neg hsucceeds, if_neg hsucceeds, ih, ← and_assoc]
      refine and_congr_left fun _ => ⟨?_, fun h => ⟨h first (Or.inl rfl), fun codec hcomes =>
        h codec (Or.inr ⟨Bool.not_eq_true _ ▸ hsucceeds, hcomes⟩)⟩⟩
      rintro ⟨hfirst, hrest⟩ codec (rfl | ⟨-, hcomes⟩)
      · exact hfirst
      · exact hrest codec hcomes

theorem negotiateDisplayCodecInt_of_directed {request : DisplayCodecNegotiationRequest}
    (h : Directed request) : negotiateDisplayCodecInt request =
      if request.preference.isEmpty then
        some { messages := [text "display codec negotiation found no common codec preference"] }
      else tryCodecsInt request request.preference {} := by
  have hencoder : ¬(request.encoderRequest.direction ≠ .unknown ∧
      request.encoderRequest.direction ≠ .encode) := by
    rw [not_and_or, not_not, not_not]
    exact h.encoder
  have hdecoder : ¬(request.decoderRequest.direction ≠ .unknown ∧
      request.decoderRequest.direction ≠ .decode) := by
    rw [not_and_or, not_not, not_not]
    exact h.decoder
  rw [negotiateDisplayCodecInt, if_neg hencoder, if_neg hdecoder]
  rfl

/-- A request for another direction is refused before anything is scored. -/
theorem negotiateDisplayCodecInt_of_not_directed {request : DisplayCodecNegotiationRequest}
    (h : ¬Directed request) :
    negotiateDisplayCodecInt request = some (negotiateDisplayCodec request) := by
  rw [negotiateDisplayCodecInt, negotiateDisplayCodec]
  split
  · rfl
  next hencoder =>
    split
    · rfl
    next hdecoder =>
      rw [not_and_or, not_not, not_not] at hencoder hdecoder
      exact absurd ⟨hencoder, hdecoder⟩ h

/-- **The negotiation over `int`s** is the one over the integers, where every attempt it comes to has
its scores. -/
theorem negotiateDisplayCodecInt_eq_some_iff {request : DisplayCodecNegotiationRequest}
    {result : DisplayCodecNegotiationResult} :
    negotiateDisplayCodecInt request = some result ↔
      (Directed request → ∀ codec, Comes request request.preference codec →
        AttemptScored request codec) ∧
      result = negotiateDisplayCodec request := by
  by_cases hdirected : Directed request
  · rw [negotiateDisplayCodecInt_of_directed hdirected, negotiate_eq hdirected,
      forall_prop_of_true hdirected]
    by_cases hempty : request.preference.isEmpty = true
    · rw [if_pos hempty, if_pos hempty, Option.some_inj, eq_comm]
      refine (and_iff_right ?_).symm
      rintro codec ⟨before, after, heq, -⟩
      rw [heq, List.isEmpty_iff] at hempty
      exact absurd hempty (List.append_ne_nil_of_right_ne_nil _ (List.cons_ne_nil _ _))
    · rw [if_neg hempty, if_neg hempty]
      exact tryCodecsInt_eq_some_iff
  · rw [negotiateDisplayCodecInt_of_not_directed hdirected, Option.some_inj, eq_comm]
    exact (and_iff_right fun h => absurd h hdirected).symm

/-! ## What the attempts select -/

/-- The selection succeeds with the first usable candidate that has the greatest score, if the
request can be served and there is one. -/
def PicksBest (request : DisplayCodecSelectionRequest) (selection : DisplayCodecSelectionResult) :
    Prop :=
  ∀ d, selection.ok = true ∧ selection.selected = d ↔
    Servable request ∧ bestCandidate request (offeredCandidates request) = some d

/-- Both selections of an attempt. -/
def AttemptPicksBest (request : DisplayCodecNegotiationRequest)
    (attempt : DisplayCodecNegotiationAttempt) : Prop :=
  PicksBest (attemptRequest request.encoderRequest .encode attempt.codec)
      attempt.encoderSelection ∧
    PicksBest (attemptRequest request.decoderRequest .decode attempt.codec)
      attempt.decoderSelection

theorem attemptPicksBest_attemptCodec (request : DisplayCodecNegotiationRequest)
    (codec : DisplayCodecId) : AttemptPicksBest request (attemptCodec request codec) :=
  ⟨fun _ => selected_iff, fun _ => selected_iff⟩

theorem attemptPicksBest_tryCodecs {request : DisplayCodecNegotiationRequest}
    {codecs : List DisplayCodecId} {result : DisplayCodecNegotiationResult}
    (h : ∀ attempt ∈ result.attempts, AttemptPicksBest request attempt) :
    ∀ attempt ∈ (tryCodecs request codecs result).attempts, AttemptPicksBest request attempt := by
  induction codecs generalizing result with
  | nil => exact h
  | cons codec codecs ih =>
    have hattempts : ∀ attempt ∈ result.attempts ++ [attemptCodec request codec],
        AttemptPicksBest request attempt := by
      rw [List.forall_mem_append, List.forall_mem_singleton]
      exact ⟨h, attemptPicksBest_attemptCodec request codec⟩
    rw [tryCodecs]
    split
    · exact hattempts
    · exact ih hattempts

theorem attemptPicksBest_negotiate {request : DisplayCodecNegotiationRequest} :
    ∀ attempt ∈ (negotiateDisplayCodec request).attempts, AttemptPicksBest request attempt := by
  rw [negotiateDisplayCodec]
  split
  · exact List.forall_mem_nil _
  split
  · exact List.forall_mem_nil _
  dsimp only
  split
  · exact List.forall_mem_nil _
  · exact attemptPicksBest_tryCodecs (List.forall_mem_nil _)

/-! ## Priorities that leave room -/

/-- A candidate whose score is computed for a codec. -/
structure Scored (request : DisplayCodecSelectionRequest) (direction : DisplayCodecDirection)
    (codec : DisplayCodecId) (candidate : DisplayCodecCapability) : Prop where
  servable : Servable (attemptRequest request direction codec)
  offered : candidate ∈ offeredCandidates request
  fits : Fits (attemptRequest request direction codec) candidate

/-- No codec of the common preference in front of this one can be selected by both sides. -/
def Reached (request : DisplayCodecNegotiationRequest) (codec : DisplayCodecId) : Prop :=
  ∃ before after, request.preference = before ++ codec :: after ∧
    ∀ c ∈ before, ¬Mutual request c

/-- The priorities of the candidates that are scored leave room for what is added to them. -/
def ScoresFit (request : DisplayCodecNegotiationRequest) : Prop :=
  Directed request → ∀ codec, Reached request codec →
    (∀ c, Scored request.encoderRequest .encode codec c → ScoreFits request.encoderRequest c) ∧
      ∀ c, Scored request.decoderRequest .decode codec c → ScoreFits request.decoderRequest c

/-- The priorities of the candidates of a request are `int`s. -/
def IntPriorities (request : DisplayCodecSelectionRequest) : Prop :=
  ∀ c ∈ request.candidates, InInt c.priority

theorem inInt_default (platform : DisplayPlatformFamily) :
    ∀ c ∈ defaultDisplayCodecCapabilities platform, InInt c.priority := by
  cases platform <;> decide

theorem IntPriorities.offered {request : DisplayCodecSelectionRequest}
    (h : IntPriorities request) : ∀ c ∈ offeredCandidates request, InInt c.priority := by
  rw [offeredCandidates]
  split
  · exact inInt_default _
  · exact h

/-- A candidate for the codec of an attempt has the score of the first preference. -/
theorem codecPreferenceScore_singleton (codec : DisplayCodecId) :
    codecPreferenceScore codec [codec] = 30 := by
  cases codec <;> rfl

theorem selectionScored_iff {request : DisplayCodecSelectionRequest}
    {direction : DisplayCodecDirection} {codec : DisplayCodecId} (hint : IntPriorities request) :
    SelectionScored (attemptRequest request direction codec) ↔
      ∀ c, Scored request direction codec c → ScoreFits request c := by
  have hscore : ∀ c, Scored request direction codec c →
      ((scoreCandidateInt c (attemptRequest request direction codec)).isSome = true ↔
        ScoreFits request c) := by
    intro c hc
    have hcodec : c.codec = codec := by
      rcases hc.fits.preference with hnil | hmem
      · cases hnil
      · exact List.mem_singleton.1 hmem
    have hpreference : codecPreferenceScore c.codec
        (attemptRequest request direction codec).codecPreference = 30 := by
      rw [hcodec]
      exact codecPreferenceScore_singleton codec
    exact isSome_scoreCandidateInt_iff (hint.offered c hc.offered) hpreference
  constructor
  · intro h c hc
    have hmessages := requestMessages_eq_nil_iff.2 ⟨hc.servable, List.ne_nil_of_mem hc.offered⟩
    exact (hscore c hc).1 (h hmessages c hc.offered (candidateUsable_iff.2 hc.fits))
  · intro h hmessages c hoffered husable
    have hc : Scored request direction codec c :=
      ⟨(requestMessages_eq_nil_iff.1 hmessages).1, hoffered, candidateUsable_iff.1 husable⟩
    exact (hscore c hc).2 (h c hc)

theorem comes_iff_reached {request : DisplayCodecNegotiationRequest} (hdirected : Directed request)
    {codec : DisplayCodecId} :
    Comes request request.preference codec ↔ Reached request codec := by
  simp only [Comes, Reached, ← succeeds_iff hdirected, Bool.not_eq_true]

/-- Every value that the scores take on the way is an `int`, and every attempt picks by them. -/
def DecidesByScore (request : DisplayCodecNegotiationRequest) : Prop :=
  ∃ result, negotiateDisplayCodecInt request = some result ∧
    ∀ attempt ∈ result.attempts, AttemptPicksBest request attempt

theorem decidesByScore_iff {request : DisplayCodecNegotiationRequest}
    (hencoder : IntPriorities request.encoderRequest)
    (hdecoder : IntPriorities request.decoderRequest) :
    DecidesByScore request ↔ ScoresFit request := by
  have hscored : (Directed request → ∀ codec, Comes request request.preference codec →
      AttemptScored request codec) ↔ ScoresFit request :=
    forall_congr' fun hdirected => forall_congr' fun codec =>
      imp_congr (comes_iff_reached hdirected)
        (and_congr (selectionScored_iff hencoder) (selectionScored_iff hdecoder))
  constructor
  · rintro ⟨result, hresult, -⟩
    exact hscored.1 (negotiateDisplayCodecInt_eq_some_iff.1 hresult).1
  · intro hfits
    exact ⟨negotiateDisplayCodec request,
      negotiateDisplayCodecInt_eq_some_iff.2 ⟨hscored.2 hfits, rfl⟩, attemptPicksBest_negotiate⟩

/-- What the decoder reads is an `int`. -/
theorem intPriorities_of_decode {payload : ByteBuffer}
    (hok : (decodeDisplayCodecPeerProfilePayload payload).ok = true)
    (hpresent : (decodeDisplayCodecPeerProfilePayload payload).payload.hasDecoderRequest = true) :
    IntPriorities (decodeDisplayCodecPeerProfilePayload payload).payload.decoderRequest := by
  obtain ⟨_, _, _, decoder, -, -, -, hdecoder, -⟩ := on_of_decode_ok hok
  rw [RequestIfOn, if_pos hpresent] at hdecoder
  exact fun c hc => (hdecoder.1.candidates c hc).priority

/-- **The scores of a negotiation on peer data**: with a decoder request from an accepted payload,
no sum of a score leaves the 32 bits, and every attempt picks the first usable candidate with the
greatest score, exactly if the priorities of the candidates that are scored leave room for what is
added to them. -/
theorem codecScores_exact {payload : ByteBuffer}
    (hok : (decodeDisplayCodecPeerProfilePayload payload).ok = true)
    (hpresent : (decodeDisplayCodecPeerProfilePayload payload).payload.hasDecoderRequest = true)
    {encoderRequest : DisplayCodecSelectionRequest} (hint : IntPriorities encoderRequest) :
    DecidesByScore ⟨encoderRequest,
        (decodeDisplayCodecPeerProfilePayload payload).payload.decoderRequest⟩ ↔
      ScoresFit ⟨encoderRequest,
        (decodeDisplayCodecPeerProfilePayload payload).payload.decoderRequest⟩ :=
  decidesByScore_iff hint (intPriorities_of_decode hok hpresent)

/-- A decoder of the priority, and the default one behind it. -/
def prioritizedProfile (priority : ℤ) : DisplayCodecPeerProfilePayload where
  hasDecoderRequest := true
  decoderRequest := { windowsDecoderRequest with
    candidates := [{ rawFallback .windowsDesktop "windows.raw_frame" with priority := priority },
      rawFallback .windowsDesktop "windows.raw_frame"] }

theorem prioritizedProfile_limits {priority : ℤ} (h : InInt priority) :
    ProfileLimits (prioritizedProfile priority) := by
  have hraw : CapabilityLimits (rawFallback .windowsDesktop "windows.raw_frame") :=
    ⟨by decide, by decide, by decide, by decide, by decide, by decide, by decide, by decide,
      by decide⟩
  have hcandidates : ∀ capability ∈ (prioritizedProfile priority).decoderRequest.candidates,
      CapabilityLimits capability :=
    List.forall_mem_cons.mpr ⟨⟨hraw.adapterId, hraw.pixelFormatCount, hraw.pixelFormats,
      hraw.inputMemoryCount, hraw.outputMemoryCount, hraw.architectureCount, hraw.socProfileCount,
      hraw.unavailableReason, h⟩, List.forall_mem_singleton.mpr hraw⟩
  have hwindows := windowsDecoderRequest_limits.decoder rfl
  refine ⟨nofun, fun _ => ⟨hwindows.preferenceCount, hwindows.pixelFormatCount,
    hwindows.pixelFormats, hwindows.inputMemoryCount, hwindows.outputMemoryCount,
    hwindows.requestedAdapterId, (by decide : 2 < 2 ^ 16), hcandidates⟩⟩

theorem decode_prioritizedProfile {priority : ℤ} (h : InInt priority) :
    decodeDisplayCodecPeerProfilePayload
        (encodeDisplayCodecPeerProfilePayload (prioritizedProfile priority)) =
      { ok := true, payload := prioritizedProfile priority } :=
  decode_encode (prioritizedProfile_limits h)

theorem codecScores_exact_windows :
    DecidesByScore ⟨windowsNegotiation.encoderRequest, (prioritizedProfile 100).decoderRequest⟩ ↔
      ScoresFit ⟨windowsNegotiation.encoderRequest, (prioritizedProfile 100).decoderRequest⟩ := by
  have hdecoded := decode_prioritizedProfile (show InInt 100 by decide)
  have hok : (decodeDisplayCodecPeerProfilePayload
      (encodeDisplayCodecPeerProfilePayload (prioritizedProfile 100))).ok = true := by rw [hdecoded]
  have h := codecScores_exact hok (by rw [hdecoded]; rfl)
    (show IntPriorities windowsNegotiation.encoderRequest from inInt_default .windowsDesktop)
  rwa [hdecoded] at h

/-- The decoder accepts the greatest priority, and its score has no value. -/
theorem peerPriority_overflows :
    let decoded := decodeDisplayCodecPeerProfilePayload
      (encodeDisplayCodecPeerProfilePayload (prioritizedProfile (2 ^ 31 - 1)))
    decoded.ok = true ∧ decoded.payload.hasDecoderRequest = true ∧
      ¬DecidesByScore ⟨windowsNegotiation.encoderRequest, decoded.payload.decoderRequest⟩ := by
  intro decoded
  have hdecoded : decoded = { ok := true, payload := prioritizedProfile (2 ^ 31 - 1) } :=
    decode_prioritizedProfile (by decide)
  rw [hdecoded]
  refine ⟨rfl, rfl, ?_⟩
  rintro ⟨result, hresult, -⟩
  have hnone : negotiateDisplayCodecInt ⟨windowsNegotiation.encoderRequest,
      (prioritizedProfile (2 ^ 31 - 1)).decoderRequest⟩ = none := by decide +kernel
  rw [hnone] at hresult
  cases hresult

end DisplayCodec
end Runtime
end FusionDesk
