import FusionDesk.Runtime.CaptureSelection

/-!
# Another capture backend in the place of a failed one

`display_capture_backend_failover.cpp`: the failed backend is taken out of the candidates, and the
selector selects among the rest.  To the selector no candidates at all mean the defaults of the
platform, so what it does when nothing is left is not what is meant.

* `plans_iff`: what the failover selects.
* `failover_selects_offered_iff`: exactly when it is an offered backend that has not failed.
-/

namespace FusionDesk
namespace Runtime

structure DisplayCaptureBackendFailoverRequest where
  selectionRequest : DisplayCaptureBackendSelectionRequest := {}
  failedAdapterId : String := ""
  failedBackend : DisplayCaptureBackendKind := .unknown
  honorRequestedAdapter : Bool := true
  deriving DecidableEq, Repr

structure DisplayCaptureBackendFailoverResult where
  ok : Bool := false
  blockedByRequestedAdapter : Bool := false
  selection : DisplayCaptureBackendSelectionResult := {}
  messages : List String := []
  deriving DecidableEq, Repr

def isFailedBackend (capability : DisplayCaptureBackendCapability)
    (request : DisplayCaptureBackendFailoverRequest) : Bool :=
  if request.failedAdapterId ≠ "" then capability.adapterId == request.failedAdapterId
  else if request.failedBackend ≠ .unknown then capability.backend == request.failedBackend
  else false

/-- The message of `addSelectionFailureMessages` for a rejection. -/
def rejectionMessage (rejection : DisplayCaptureBackendRejection) : String :=
  "display capture failover backend rejected: " ++
    (if rejection.adapterId = "" then displayCaptureBackendKindName rejection.backend
      else rejection.adapterId) ++
    if rejection.reason = "" then "" else ": " ++ rejection.reason

/-- The failed backend is the one that the request pins. -/
def isPinned (request : DisplayCaptureBackendFailoverRequest)
    (candidate : DisplayCaptureBackendCapability) : Bool :=
  request.honorRequestedAdapter && request.selectionRequest.requestedAdapterId != "" &&
    candidate.adapterId == request.selectionRequest.requestedAdapterId &&
    isFailedBackend candidate request

/-- The loop over the candidates: what remains and whether something has been removed, or nothing
when it stops at the pinned adapter. -/
def removeFailedBackend (request : DisplayCaptureBackendFailoverRequest)
    (remaining : List DisplayCaptureBackendCapability) (removedFailedBackend : Bool) :
    List DisplayCaptureBackendCapability → Option (List DisplayCaptureBackendCapability × Bool)
  | [] => some (remaining, removedFailedBackend)
  | candidate :: candidates =>
    if isPinned request candidate then none
    else if isFailedBackend candidate request then
      removeFailedBackend request remaining true candidates
    else removeFailedBackend request (remaining ++ [candidate]) removedFailedBackend candidates

/-- The request that the failover hands to the selector. -/
def DisplayCaptureBackendFailoverRequest.narrowed (request : DisplayCaptureBackendFailoverRequest)
    (remaining : List DisplayCaptureBackendCapability) : DisplayCaptureBackendSelectionRequest :=
  { request.selectionRequest with
    requestedAdapterId :=
      if request.honorRequestedAdapter then request.selectionRequest.requestedAdapterId else ""
    candidates := remaining }

/-- The end of `selectDisplayCaptureBackendFailover`. -/
def failoverResult (selection : DisplayCaptureBackendSelectionResult) :
    DisplayCaptureBackendFailoverResult :=
  if selection.ok then { ok := true, selection := selection }
  else
    let messages := selection.messages ++ selection.rejected.map rejectionMessage
    { selection := selection
      messages :=
        if messages.isEmpty then ["display capture failover found no usable backend"]
        else messages }

def selectDisplayCaptureBackendFailover (request : DisplayCaptureBackendFailoverRequest) :
    DisplayCaptureBackendFailoverResult :=
  if request.failedAdapterId = "" ∧ request.failedBackend = .unknown then
    { messages := ["display capture failover requires a failed backend identity"] }
  else
    match removeFailedBackend request [] false (offeredCandidates request.selectionRequest) with
    | none =>
      { blockedByRequestedAdapter := true
        messages := ["display capture failover blocked by explicit requested adapter"] }
    | some (_, false) =>
      { messages := ["display capture failover did not find the failed backend"] }
    | some (remaining, true) =>
      failoverResult (selectDisplayCaptureBackend (request.narrowed remaining))

/-! ## A factory -/

/-- `class IDisplayCaptureBackendFactory`, with captures of type `K`.  Its functions are `const`. -/
structure DisplayCaptureBackendFactory (K : Type) where
  capabilities : List DisplayCaptureBackendCapability
  createCapture : DisplayCaptureBackendCapability → Option K

structure DisplayCaptureBackendCreateResult (K : Type) where
  ok : Bool := false
  selection : DisplayCaptureBackendSelectionResult := {}
  capture : Option K := none
  messages : List String := []

/-- The request with the capabilities of the factory, if it has no candidates of its own. -/
def planRequest {K : Type} (factory : DisplayCaptureBackendFactory K)
    (request : DisplayCaptureBackendFailoverRequest) : DisplayCaptureBackendFailoverRequest :=
  if request.selectionRequest.candidates.isEmpty then
    { request with
      selectionRequest := { request.selectionRequest with candidates := factory.capabilities } }
  else request

def createFailoverDisplayCapture {K : Type} (factory : DisplayCaptureBackendFactory K)
    (request : DisplayCaptureBackendFailoverRequest) : DisplayCaptureBackendCreateResult K :=
  let plan := selectDisplayCaptureBackendFailover (planRequest factory request)
  if plan.ok = false then { selection := plan.selection, messages := plan.messages }
  else
    match factory.createCapture plan.selection.selected with
    | none =>
      { selection := plan.selection
        messages := plan.messages ++
          ["display capture failover factory could not create selected backend"] }
    | some capture =>
      { ok := true
        selection := plan.selection
        capture := some capture
        messages := plan.messages }

/-! ## What the failover selects -/

/-- The candidates that have not failed. -/
def DisplayCaptureBackendFailoverRequest.remaining
    (request : DisplayCaptureBackendFailoverRequest) : List DisplayCaptureBackendCapability :=
  (offeredCandidates request.selectionRequest).filter fun c => !isFailedBackend c request

/-- What the failover needs to select `d`. -/
structure Plans (request : DisplayCaptureBackendFailoverRequest)
    (d : DisplayCaptureBackendCapability) : Prop where
  identified : request.failedAdapterId ≠ "" ∨ request.failedBackend ≠ .unknown
  unpinned : ∀ c ∈ offeredCandidates request.selectionRequest, isPinned request c = false
  found : ∃ c ∈ offeredCandidates request.selectionRequest, isFailedBackend c request = true
  servable : Servable request.selectionRequest
  best : bestCandidate (request.narrowed request.remaining)
    (offeredCandidates (request.narrowed request.remaining)) = some d

section Loop

variable {request : DisplayCaptureBackendFailoverRequest}
  {candidates : List DisplayCaptureBackendCapability}

/-- Without the pinned adapter the loop is a filter. -/
theorem removeFailedBackend_eq_some (hunpinned : ∀ c ∈ candidates, isPinned request c = false)
    (remaining : List DisplayCaptureBackendCapability) (removed : Bool) :
    removeFailedBackend request remaining removed candidates =
      some (remaining ++ candidates.filter (fun c => !isFailedBackend c request),
        removed || candidates.any fun c => isFailedBackend c request) := by
  induction candidates generalizing remaining removed with
  | nil => simp [removeFailedBackend]
  | cons candidate candidates ih =>
    have hfirst := hunpinned candidate List.mem_cons_self
    have hrest := ih fun c hc => hunpinned c (List.mem_cons_of_mem _ hc)
    rw [removeFailedBackend, hfirst, if_neg Bool.false_ne_true]
    cases hfailed : isFailedBackend candidate request with
    | true => simp [hrest, hfailed]
    | false => simp [hrest, hfailed]

/-- At the pinned adapter the loop stops. -/
theorem removeFailedBackend_eq_none (hpinned : ∃ c ∈ candidates, isPinned request c = true)
    (remaining : List DisplayCaptureBackendCapability) (removed : Bool) :
    removeFailedBackend request remaining removed candidates = none := by
  induction candidates generalizing remaining removed with
  | nil =>
    obtain ⟨c, hc, -⟩ := hpinned
    cases hc
  | cons candidate candidates ih =>
    rw [removeFailedBackend]
    by_cases hfirst : isPinned request candidate = true
    · rw [if_pos hfirst]
    · obtain ⟨c, hc, hcpinned⟩ := hpinned
      have hrest : ∃ c ∈ candidates, isPinned request c = true := by
        rcases List.mem_cons.mp hc with rfl | hc
        · exact absurd hcpinned hfirst
        · exact ⟨c, hc, hcpinned⟩
      rw [if_neg hfirst]
      split
      · exact ih hrest _ _
      · exact ih hrest _ _

end Loop

theorem ok_failoverResult (selection : DisplayCaptureBackendSelectionResult) :
    (failoverResult selection).ok = selection.ok ∧
      (failoverResult selection).selection = selection := by
  unfold failoverResult
  split
  next hok => exact ⟨hok.symm, rfl⟩
  next hfailed => exact ⟨(eq_false_of_ne_true hfailed).symm, rfl⟩

section Selects

variable {request : DisplayCaptureBackendFailoverRequest} {d : DisplayCaptureBackendCapability}

theorem servable_narrowed (remaining : List DisplayCaptureBackendCapability) :
    Servable (request.narrowed remaining) ↔ Servable request.selectionRequest :=
  ⟨fun h => ⟨h.platform, h.sourceType, h.policy⟩, fun h => ⟨h.platform, h.sourceType, h.policy⟩⟩

/-- **What the failover selects.** -/
theorem plans_iff :
    (selectDisplayCaptureBackendFailover request).ok = true ∧
        (selectDisplayCaptureBackendFailover request).selection.selected = d ↔
      Plans request d := by
  by_cases hidentified : request.failedAdapterId = "" ∧ request.failedBackend = .unknown
  · rw [selectDisplayCaptureBackendFailover, if_pos hidentified]
    refine iff_of_false (fun h => Bool.false_ne_true h.1) fun h => ?_
    exact h.identified.elim (absurd hidentified.1) (absurd hidentified.2)
  by_cases hunpinned : ∀ c ∈ offeredCandidates request.selectionRequest, isPinned request c = false
  · rw [selectDisplayCaptureBackendFailover, if_neg hidentified,
      removeFailedBackend_eq_some hunpinned, List.nil_append, Bool.false_or]
    cases hfound : (offeredCandidates request.selectionRequest).any fun c =>
        isFailedBackend c request with
    | false =>
      refine iff_of_false (fun h => Bool.false_ne_true h.1) fun h => ?_
      rw [List.any_eq_true.mpr h.found] at hfound
      cases hfound
    | true =>
      obtain ⟨hok, hselection⟩ := ok_failoverResult
        (selectDisplayCaptureBackend (request.narrowed request.remaining))
      have hidentity := not_and_or.mp hidentified
      show (failoverResult _).ok = true ∧ (failoverResult _).selection.selected = d ↔ _
      rw [← DisplayCaptureBackendFailoverRequest.remaining, hok, hselection, selected_iff,
        servable_narrowed]
      constructor
      · rintro ⟨hservable, hbest⟩
        exact ⟨hidentity, hunpinned, List.any_eq_true.mp hfound, hservable, hbest⟩
      · exact fun h => ⟨h.servable, h.best⟩
  · have hpinned : ∃ c ∈ offeredCandidates request.selectionRequest, isPinned request c = true := by
      simpa using hunpinned
    rw [selectDisplayCaptureBackendFailover, if_neg hidentified,
      removeFailedBackend_eq_none hpinned]
    exact iff_of_false (fun h => Bool.false_ne_true h.1) fun h => hunpinned h.unpinned

/-! ## Where the failed backend is all there is -/

/-- Nothing that is offered remains, and `d` is the best default of the platform. -/
structure FallsBack (request : DisplayCaptureBackendFailoverRequest)
    (d : DisplayCaptureBackendCapability) : Prop where
  identified : request.failedAdapterId ≠ "" ∨ request.failedBackend ≠ .unknown
  unpinned : ∀ c ∈ offeredCandidates request.selectionRequest, isPinned request c = false
  offered : offeredCandidates request.selectionRequest ≠ []
  failed : ∀ c ∈ offeredCandidates request.selectionRequest, isFailedBackend c request = true
  servable : Servable request.selectionRequest
  best : bestCandidate (request.narrowed [])
    (defaultDisplayCaptureBackendCapabilities request.selectionRequest.platform) = some d

theorem remaining_eq_nil_iff : request.remaining = [] ↔
    ∀ c ∈ offeredCandidates request.selectionRequest, isFailedBackend c request = true := by
  simp [DisplayCaptureBackendFailoverRequest.remaining, List.filter_eq_nil_iff]

/-- Falling back is selecting when nothing remains. -/
theorem fallsBack_iff : FallsBack request d ↔ Plans request d ∧ request.remaining = [] := by
  constructor
  · intro h
    have hremaining := remaining_eq_nil_iff.mpr h.failed
    obtain ⟨c, hc⟩ := List.exists_mem_of_ne_nil _ h.offered
    refine ⟨⟨h.identified, h.unpinned, ⟨c, hc, h.failed c hc⟩, h.servable, ?_⟩, hremaining⟩
    rw [hremaining]
    exact h.best
  · rintro ⟨h, hremaining⟩
    obtain ⟨c, hc, -⟩ := h.found
    have hbest := h.best
    rw [hremaining] at hbest
    exact ⟨h.identified, h.unpinned, List.ne_nil_of_mem hc, remaining_eq_nil_iff.mp hremaining,
      h.servable, hbest⟩

/-- `d` is one of the candidates, and has not failed. -/
def Replaces (candidates : List DisplayCaptureBackendCapability)
    (request : DisplayCaptureBackendFailoverRequest) (d : DisplayCaptureBackendCapability) : Prop :=
  d ∈ candidates ∧ isFailedBackend d request = false

/-- **What is selected is an offered backend that has not failed, if one of these remains**, and only
then. -/
theorem replaces_iff_of_plans (h : Plans request d) :
    Replaces (offeredCandidates request.selectionRequest) request d ↔ request.remaining ≠ [] := by
  constructor
  · rintro ⟨hd, hnotFailed⟩ hremaining
    rw [remaining_eq_nil_iff.mp hremaining d hd] at hnotFailed
    cases hnotFailed
  · intro hremaining
    have hbest := h.best
    have hoffered : offeredCandidates (request.narrowed request.remaining) = request.remaining :=
      if_neg (mt List.isEmpty_iff.mp hremaining)
    rw [hoffered] at hbest
    have hd := List.mem_filter.mp (mem_of_bestCandidate hbest).1
    exact ⟨hd.1, by simpa using hd.2⟩

theorem replaces_iff_not_fallsBack (h : Plans request d) :
    Replaces (offeredCandidates request.selectionRequest) request d ↔ ¬FallsBack request d := by
  rw [replaces_iff_of_plans h, fallsBack_iff]
  exact ⟨fun hremaining hfalls => hremaining hfalls.2, fun hfalls hremaining =>
    hfalls ⟨h, hremaining⟩⟩

end Selects

section Factory

variable {K : Type} {factory : DisplayCaptureBackendFactory K}
  {request : DisplayCaptureBackendFailoverRequest} {d : DisplayCaptureBackendCapability}

theorem isFailedBackend_planRequest :
    isFailedBackend d (planRequest factory request) = isFailedBackend d request := by
  unfold planRequest
  split
  · rfl
  · rfl

/-- What is created is what the failover selects, if the factory can create it. -/
theorem created_iff :
    (createFailoverDisplayCapture factory request).ok = true ∧
        (createFailoverDisplayCapture factory request).selection.selected = d ↔
      Plans (planRequest factory request) d ∧ (factory.createCapture d).isSome = true := by
  rw [← plans_iff, createFailoverDisplayCapture]
  cases hok : (selectDisplayCaptureBackendFailover (planRequest factory request)).ok with
  | false => simp
  | true =>
    rw [if_neg (by simp)]
    cases hcreated : factory.createCapture (selectDisplayCaptureBackendFailover
        (planRequest factory request)).selection.selected with
    | none =>
      refine iff_of_false (fun h => Bool.false_ne_true h.1) ?_
      rintro ⟨⟨-, rfl⟩, hcreates⟩
      rw [hcreated] at hcreates
      cases hcreates
    | some capture =>
      constructor
      · rintro ⟨-, rfl⟩
        exact ⟨⟨rfl, rfl⟩, by rw [hcreated]; rfl⟩
      · rintro ⟨⟨-, hselected⟩, -⟩
        exact ⟨rfl, hselected⟩

end Factory

/-- If the failover succeeds, it has selected a backend that the request offers and that has not
failed. -/
def SelectsOffered (request : DisplayCaptureBackendFailoverRequest) : Prop :=
  (selectDisplayCaptureBackendFailover request).ok = true →
    Replaces (offeredCandidates request.selectionRequest) request
      (selectDisplayCaptureBackendFailover request).selection.selected

/-- If a capture is created, its backend is one of the candidates and has not failed. -/
def CreatesFrom {K : Type} (candidates : List DisplayCaptureBackendCapability)
    (factory : DisplayCaptureBackendFactory K) (request : DisplayCaptureBackendFailoverRequest) :
    Prop :=
  (createFailoverDisplayCapture factory request).ok = true →
    Replaces candidates request (createFailoverDisplayCapture factory request).selection.selected

instance (request : DisplayCaptureBackendFailoverRequest) : Decidable (SelectsOffered request) :=
  inferInstanceAs (Decidable (_ → _ ∧ _))

instance {K : Type} (candidates : List DisplayCaptureBackendCapability)
    (factory : DisplayCaptureBackendFactory K) (request : DisplayCaptureBackendFailoverRequest) :
    Decidable (CreatesFrom candidates factory request) :=
  inferInstanceAs (Decidable (_ → _ ∧ _))

/-- **The failover selects what is offered and has not failed, unless nothing of this kind is left**
and the platform has a default in its place.  So does a factory, with what it offers for the
candidates of a request that has none; if it offers nothing either, the defaults of the platform are
not among what it offers, but are selected. -/
theorem failover_selects_offered_iff {K : Type} (factory : DisplayCaptureBackendFactory K)
    (request : DisplayCaptureBackendFailoverRequest) :
    (SelectsOffered request ↔ ¬∃ d, FallsBack request d) ∧
    (CreatesFrom (offeredCandidates (planRequest factory request).selectionRequest) factory
        request ↔
      ¬∃ d, FallsBack (planRequest factory request) d ∧
        (factory.createCapture d).isSome = true) ∧
    (CreatesFrom (planRequest factory request).selectionRequest.candidates factory request ↔
      ¬∃ d, (FallsBack (planRequest factory request) d ∨
          (planRequest factory request).selectionRequest.candidates = [] ∧
            Plans (planRequest factory request) d) ∧
        (factory.createCapture d).isSome = true) := by
  have hsame : ∀ {candidates d}, Replaces candidates request d ↔
      Replaces candidates (planRequest factory request) d := by
    intro candidates d
    rw [Replaces, Replaces, isFailedBackend_planRequest]
  refine ⟨⟨?_, ?_⟩, ⟨?_, ?_⟩, ⟨?_, ?_⟩⟩
  · rintro h ⟨d, hfalls⟩
    have hplans := (fallsBack_iff.mp hfalls).1
    obtain ⟨hok, rfl⟩ := plans_iff.mpr hplans
    exact (replaces_iff_not_fallsBack hplans).mp (h hok) hfalls
  · intro h hok
    have hplans := plans_iff.mp ⟨hok, rfl⟩
    exact (replaces_iff_not_fallsBack hplans).mpr fun hfalls => h ⟨_, hfalls⟩
  · rintro h ⟨d, hfalls, hcreates⟩
    have hplans := (fallsBack_iff.mp hfalls).1
    obtain ⟨hok, rfl⟩ := created_iff.mpr ⟨hplans, hcreates⟩
    exact (replaces_iff_not_fallsBack hplans).mp (hsame.mp (h hok)) hfalls
  · intro h hok
    obtain ⟨hplans, hcreates⟩ := created_iff.mp ⟨hok, rfl⟩
    refine hsame.mpr ((replaces_iff_not_fallsBack hplans).mpr fun hfalls => ?_)
    exact h ⟨_, hfalls, hcreates⟩
  · rintro h ⟨d, hfalls | ⟨hnone, hplans⟩, hcreates⟩
    · have hplans := (fallsBack_iff.mp hfalls).1
      obtain ⟨hok, rfl⟩ := created_iff.mpr ⟨hplans, hcreates⟩
      have hreplaces := h hok
      refine (replaces_iff_not_fallsBack hplans).mp (hsame.mp ⟨?_, hreplaces.2⟩) hfalls
      rw [offeredCandidates, if_neg]
      · exact hreplaces.1
      · rw [List.isEmpty_iff]
        exact List.ne_nil_of_mem hreplaces.1
    · obtain ⟨hok, rfl⟩ := created_iff.mpr ⟨hplans, hcreates⟩
      have hmem := (h hok).1
      rw [hnone] at hmem
      cases hmem
  · intro h hok
    obtain ⟨hplans, hcreates⟩ := created_iff.mp ⟨hok, rfl⟩
    have hreplaces := (replaces_iff_not_fallsBack hplans).mpr fun hfalls =>
      h ⟨_, Or.inl hfalls, hcreates⟩
    by_cases hnone : (planRequest factory request).selectionRequest.candidates = []
    · exact absurd ⟨_, Or.inr ⟨hnone, hplans⟩, hcreates⟩ h
    · rw [offeredCandidates, if_neg (by simpa using hnone)] at hreplaces
      exact hsame.mpr hreplaces

/-- On Wayland the only default has failed. -/
def waylandFailover : DisplayCaptureBackendFailoverRequest where
  selectionRequest := { platform := .linuxWayland }
  failedAdapterId := "linux.pipewire_portal"

/-- A factory with the default of Wayland. -/
def pipewireFactory : DisplayCaptureBackendFactory Unit where
  capabilities := defaultDisplayCaptureBackendCapabilities .linuxWayland
  createCapture _ := some ()

/-- **The failed backend is selected again**, and created again. -/
theorem failed_backend_selected_again :
    ¬SelectsOffered waylandFailover ∧
      isFailedBackend (selectDisplayCaptureBackendFailover waylandFailover).selection.selected
        waylandFailover = true ∧
      ¬CreatesFrom pipewireFactory.capabilities pipewireFactory waylandFailover := by
  decide +kernel

end Runtime
end FusionDesk
