import Mathlib.Data.List.MinMax

/-!
# A loop that keeps the best score

A selector walks over candidates, leaves out what it cannot use, and keeps the best score so far
with what has it; a later candidate takes its place only with a greater score.

* `foldl_improve`: what is kept in the end is the `argmax` of the score.
* `foldl_considered`: the same for a loop that keeps other things next to it and skips candidates.
* `foldlM_eq_some_iff`: a loop whose rounds can have no result comes to its end exactly if none of
  them is without one.
-/

namespace BestScore

variable {α β σ : Type} [LinearOrder β]

/-- One round: the candidate is kept if there is none yet, or its score is greater. -/
def improve (score : α → β) (best : Option (β × α)) (candidate : α) : Option (β × α) :=
  match best with
  | none => some (score candidate, candidate)
  | some found => if score candidate > found.1 then some (score candidate, candidate) else best

/-- **What the loop keeps is the first candidate with the greatest score**, with its score. -/
theorem foldl_improve (score : α → β) (candidates : List α) :
    candidates.foldl (improve score) none =
      (candidates.argmax score).map fun c => (score c, c) := by
  induction candidates using List.reverseRecOn with
  | nil => rfl
  | append_singleton candidates candidate ih =>
    rw [List.foldl_append, List.foldl_cons, List.foldl_nil, ih, List.argmax_concat]
    cases candidates.argmax score with
    | none => rfl
    | some best =>
      simp only [Option.map_some, improve, gt_iff_lt]
      split
      · rfl
      · rfl

/-- What a loop keeps as its best, if a round improves it with the usable candidates only. -/
theorem foldl_considered (score : α → β) (usable : α → Bool) {consider : σ → α → σ}
    {best : σ → Option (β × α)}
    (h : ∀ state candidate, best (consider state candidate) =
      if usable candidate then improve score (best state) candidate else best state)
    (state : σ) (candidates : List α) :
    best (candidates.foldl consider state) =
      (candidates.filter usable).foldl (improve score) (best state) := by
  induction candidates generalizing state with
  | nil => rfl
  | cons candidate candidates ih =>
    rw [List.foldl_cons, ih, h]
    by_cases husable : usable candidate = true
    · rw [if_pos husable, List.filter_cons_of_pos husable, List.foldl_cons]
    · rw [if_neg husable, List.filter_cons_of_neg husable]

/-- A loop whose rounds have a result on the candidates with `P` only, next to one that always has. -/
theorem foldlM_eq_some_iff {f : σ → α → Option σ} {g : σ → α → σ} {P : α → Prop}
    (h : ∀ state candidate next, f state candidate = some next ↔
      P candidate ∧ next = g state candidate)
    {candidates : List α} {state last : σ} :
    candidates.foldlM f state = some last ↔
      (∀ c ∈ candidates, P c) ∧ last = candidates.foldl g state := by
  induction candidates generalizing state with
  | nil =>
    rw [List.foldlM_nil, Option.pure_def, Option.some_inj, List.foldl_nil, eq_comm]
    exact (and_iff_right (List.forall_mem_nil _)).symm
  | cons candidate candidates ih =>
    rw [List.foldlM_cons, Option.bind_eq_bind, Option.bind_eq_some_iff, List.forall_mem_cons,
      List.foldl_cons]
    constructor
    · rintro ⟨next, hround, hrest⟩
      obtain ⟨hcandidate, rfl⟩ := (h state candidate next).1 hround
      obtain ⟨hcandidates, hlast⟩ := ih.1 hrest
      exact ⟨⟨hcandidate, hcandidates⟩, hlast⟩
    · rintro ⟨⟨hcandidate, hcandidates⟩, hlast⟩
      exact ⟨g state candidate, (h _ _ _).2 ⟨hcandidate, rfl⟩, ih.2 ⟨hcandidates, hlast⟩⟩

end BestScore
