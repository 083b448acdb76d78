import Mathlib.Data.Nat.Basic

/-!
# Loops with a variant

A loop goes on from state to state until its body gives a result, and a number goes down with every
pass that goes on.  So it ends (`exists_after_eq_run`); what every pass keeps, and what follows from
it where the body ends, holds of the result (`run_rule`); and two loops whose bodies go along with
each other have results that do (`run_related`).
-/

/-- A loop: the body ends with a result or goes on, and the variant goes down where it goes on. -/
structure BoundedLoop (σ β : Type*) where
  body : σ → β ⊕ σ
  variant : σ → ℕ
  decreases : ∀ {s next}, body s = .inr next → variant next < variant s

namespace BoundedLoop

variable {σ β : Type*} (loop : BoundedLoop σ β)

/-- The result of the loop. -/
def run (s : σ) : β :=
  match _h : loop.body s with
  | .inl result => result
  | .inr next => run next
termination_by loop.variant s
decreasing_by exact loop.decreases _h

theorem run_of_inl {s : σ} {result : β} (h : loop.body s = .inl result) :
    loop.run s = result := by
  rw [run]
  split
  next result' h' => exact Sum.inl.inj (h'.symm.trans h)
  next next h' => cases h'.symm.trans h

theorem run_of_inr {s next : σ} (h : loop.body s = .inr next) : loop.run s = loop.run next := by
  rw [run]
  split
  next result h' => cases h'.symm.trans h
  next next' h' => rw [Sum.inr.inj (h'.symm.trans h)]

/-- The induction along the passes of the loop. -/
theorem induct {P : σ → Prop} (hends : ∀ s result, loop.body s = .inl result → P s)
    (hgoesOn : ∀ s next, loop.body s = .inr next → P next → P s) (s : σ) : P s := by
  induction hn : loop.variant s using Nat.strongRecOn generalizing s with
  | ind n ih =>
    cases hbody : loop.body s with
    | inl result => exact hends s result hbody
    | inr next =>
      exact hgoesOn s next hbody (ih _ (hn ▸ loop.decreases hbody) next rfl)

/-- **The rule of the loop**: an invariant that every pass keeps, and what it gives at the end. -/
theorem run_rule {I : σ → Prop} {Q : β → Prop}
    (hends : ∀ s result, I s → loop.body s = .inl result → Q result)
    (hkeeps : ∀ s next, I s → loop.body s = .inr next → I next) {s : σ} (hs : I s) :
    Q (loop.run s) := by
  induction s using loop.induct with
  | hends s result hbody =>
    rw [loop.run_of_inl hbody]
    exact hends s result hs hbody
  | hgoesOn s next hbody ih =>
    rw [loop.run_of_inr hbody]
    exact ih (hkeeps s next hs hbody)

/-! ### The end -/

/-- What a number of passes comes to: the result, or a state to go on from. -/
def after : ℕ → σ → β ⊕ σ
  | 0, s => .inr s
  | passes + 1, s =>
    match loop.body s with
    | .inl result => .inl result
    | .inr next => after passes next

/-- **The loop ends**, after no more passes than its variant and one. -/
theorem exists_after_eq_run (s : σ) :
    ∃ passes ≤ loop.variant s + 1, loop.after passes s = .inl (loop.run s) := by
  induction s using loop.induct with
  | hends s result hbody =>
    refine ⟨1, Nat.le_add_left 1 _, ?_⟩
    simp only [after, hbody, loop.run_of_inl hbody]
  | hgoesOn s next hbody ih =>
    obtain ⟨passes, hpasses, hafter⟩ := ih
    refine ⟨passes + 1, ?_, ?_⟩
    · exact Nat.add_le_add_right (Nat.le_trans hpasses (loop.decreases hbody)) 1
    · simp only [after, hbody, loop.run_of_inr hbody, hafter]

/-! ### Two loops -/

/-- **Loops whose bodies go along with each other have results that do.** -/
theorem run_related {τ γ : Type*} (other : BoundedLoop τ γ) {R : σ → τ → Prop}
    {S : β → γ → Prop}
    (hbody : ∀ s t, R s t → Sum.LiftRel S R (loop.body s) (other.body t)) {s : σ} {t : τ}
    (h : R s t) : S (loop.run s) (other.run t) := by
  induction s using loop.induct generalizing t with
  | hends s result hs =>
    have hboth := hbody s t h
    rw [hs] at hboth
    cases ht : other.body t with
    | inl result' =>
      rw [ht] at hboth
      rw [loop.run_of_inl hs, other.run_of_inl ht]
      exact Sum.liftRel_inl_inl.mp hboth
    | inr next' =>
      rw [ht] at hboth
      cases hboth
  | hgoesOn s next hs ih =>
    have hboth := hbody s t h
    rw [hs] at hboth
    cases ht : other.body t with
    | inl result' =>
      rw [ht] at hboth
      cases hboth
    | inr next' =>
      rw [ht] at hboth
      rw [loop.run_of_inr hs, other.run_of_inr ht]
      exact ih (Sum.liftRel_inr_inr.mp hboth)

end BoundedLoop
