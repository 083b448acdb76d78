import Mathlib.Data.List.Basic
import Mathlib.Data.List.Induction

/-!
# Runs of a step function

A component with a state and operations goes from state to state; a run is a list of operations.
The two inductions over runs are here once: a predicate that one step keeps holds after every run
(`run_invariant`), and where a step keeps it only under a condition on the state and the operation,
it holds after the runs whose steps all meet the condition (`run_invariant_of_everyStep`).

A history that grows is split at one of its members by `split_of_append` and `split_of_concat`: the
member is an old one, or what has come new.

What holds at the end of a run and not at its start was brought about by a step, and no later step has
put an end to it: `Since` says so, and `since_of_run` finds the step.
-/

namespace Runs

variable {σ ι : Type*} (step : σ → ι → σ)

/-- The state after the operations. -/
def run (s : σ) (ops : List ι) : σ := ops.foldl step s

/-- Every step of the run meets the condition, each at the state it starts from. -/
def EveryStep (P : σ → ι → Prop) : σ → List ι → Prop
  | _, [] => True
  | s, op :: ops => P s op ∧ EveryStep P (step s op) ops

instance decidableEveryStep (P : σ → ι → Prop) [∀ s op, Decidable (P s op)] :
    ∀ (s : σ) (ops : List ι), Decidable (EveryStep step P s ops)
  | _, [] => isTrue trivial
  | s, op :: ops => @instDecidableAnd _ _ _ (decidableEveryStep P (step s op) ops)

variable {step}

/-- The steps of a run and one more. -/
theorem everyStep_concat {P : σ → ι → Prop} {s : σ} {ops : List ι} {op : ι} :
    EveryStep step P s (ops ++ [op]) ↔ EveryStep step P s ops ∧ P (run step s ops) op := by
  induction ops generalizing s with
  | nil => exact ⟨fun h => ⟨trivial, h.1⟩, fun h => ⟨h.2, trivial⟩⟩
  | cons first ops ih => exact (and_congr Iff.rfl ih).trans and_assoc.symm

@[simp] theorem run_nil (s : σ) : run step s [] = s := rfl

@[simp] theorem run_cons (s : σ) (op : ι) (ops : List ι) :
    run step s (op :: ops) = run step (step s op) ops := rfl

/-- **What one step keeps holds after every run.** -/
theorem run_invariant {I : σ → Prop} {s : σ} (hs : I s) (hstep : ∀ s op, I s → I (step s op))
    (ops : List ι) : I (run step s ops) := by
  induction ops generalizing s with
  | nil => exact hs
  | cons op ops ih => exact ih (hstep s op hs)

/-- **What is said of a run and of the operations so far holds of the whole run**, if it holds of
none and every step extends it. -/
theorem foldl_of_append {P : List ι → σ → Prop} {s : σ} (hs : P [] s)
    (hstep : ∀ done s op, P done s → P (done ++ [op]) (step s op)) (ops : List ι) :
    P ops (ops.foldl step s) := by
  suffices h : ∀ (done : List ι) (s : σ), P done s → P (done ++ ops) (ops.foldl step s) from
    h [] s hs
  induction ops with
  | nil =>
    intro done s hdone
    rwa [List.append_nil]
  | cons op ops ih =>
    intro done s hdone
    have hnext := ih (done ++ [op]) (step s op) (hstep done s op hdone)
    rwa [List.append_assoc] at hnext

/-- What a step keeps under a condition on the operation holds after the runs of such operations. -/
theorem run_invariant_of_mem {I : σ → Prop} {C : ι → Prop} {s : σ} (hs : I s)
    (hstep : ∀ s op, I s → C op → I (step s op)) {ops : List ι} (hops : ∀ op ∈ ops, C op) :
    I (run step s ops) := by
  induction ops generalizing s with
  | nil => exact hs
  | cons op ops ih =>
    refine ih (hstep s op hs (hops op List.mem_cons_self)) fun op' hop' => ?_
    exact hops op' (List.mem_cons_of_mem _ hop')

/-- **What a step keeps under a condition holds after the runs whose steps all meet it.** -/
theorem run_invariant_of_everyStep {I : σ → Prop} {P : σ → ι → Prop} {s : σ} (hs : I s)
    (hstep : ∀ s op, I s → P s op → I (step s op)) {ops : List ι} (h : EveryStep step P s ops) :
    I (run step s ops) := by
  induction ops generalizing s with
  | nil => exact hs
  | cons op ops ih => exact ih (hstep s op hs h.1) h.2

/-- **Along an invariant, one condition on the steps follows from another**, in the runs of
operations that meet a third. -/
theorem everyStep_of_invariant {I : σ → Prop} {C : ι → Prop} {P Q : σ → ι → Prop} {s : σ}
    (hs : I s) (hstep : ∀ s op, I s → C op → P s op → I (step s op))
    (himp : ∀ s op, I s → C op → P s op → Q s op) {ops : List ι} (hops : ∀ op ∈ ops, C op)
    (h : EveryStep step P s ops) : EveryStep step Q s ops := by
  induction ops generalizing s with
  | nil => trivial
  | cons op ops ih =>
    have hop := hops op List.mem_cons_self
    refine ⟨himp s op hs hop h.1, ih (hstep s op hs hop h.1) ?_ h.2⟩
    exact fun op' hop' => hops op' (List.mem_cons_of_mem _ hop')

/-- What an invariant gives at a state is met by every step. -/
theorem everyStep_of_forall {I : σ → Prop} {C : ι → Prop} {Q : σ → ι → Prop} {s : σ} (hs : I s)
    (hstep : ∀ s op, I s → C op → I (step s op)) (himp : ∀ s op, I s → C op → Q s op)
    {ops : List ι} (hops : ∀ op ∈ ops, C op) : EveryStep step Q s ops := by
  induction ops generalizing s with
  | nil => trivial
  | cons op ops ih =>
    have hop := hops op List.mem_cons_self
    refine ⟨himp s op hs hop, ih (hstep s op hs hop) ?_⟩
    exact fun op' hop' => hops op' (List.mem_cons_of_mem _ hop')

/-- **Two conditions that agree at every step of a run are met by it together.** -/
theorem everyStep_congr {P Q : σ → ι → Prop} {s : σ} {ops : List ι}
    (h : EveryStep step (fun s op => P s op ↔ Q s op) s ops) :
    EveryStep step P s ops ↔ EveryStep step Q s ops := by
  induction ops generalizing s with
  | nil => exact Iff.rfl
  | cons op ops ih => exact and_congr h.1 (ih h.2)

/-- **Along an invariant that one of two conditions keeps, the two are met together**, if they agree
wherever the invariant holds. -/
theorem everyStep_iff_of_invariant {I : σ → Prop} {P Q : σ → ι → Prop} {s : σ} (hs : I s)
    (hstep : ∀ s op, I s → P s op → I (step s op)) (hiff : ∀ s op, I s → (P s op ↔ Q s op))
    {ops : List ι} : EveryStep step P s ops ↔ EveryStep step Q s ops := by
  induction ops generalizing s with
  | nil => exact Iff.rfl
  | cons op ops ih =>
    constructor
    · intro h
      exact ⟨(hiff s op hs).mp h.1, (ih (hstep s op hs h.1)).mp h.2⟩
    · intro h
      have hP := (hiff s op hs).mpr h.1
      exact ⟨hP, (ih (hstep s op hs hP)).mpr h.2⟩

/-- The same in the runs whose steps all meet a third condition. -/
theorem everyStep_iff_of_everyStep {I : σ → Prop} {C P Q : σ → ι → Prop} {s : σ} (hs : I s)
    (hstep : ∀ s op, I s → C s op → P s op → I (step s op))
    (hiff : ∀ s op, I s → C s op → (P s op ↔ Q s op)) {ops : List ι}
    (hops : EveryStep step C s ops) : EveryStep step P s ops ↔ EveryStep step Q s ops := by
  induction ops generalizing s with
  | nil => exact Iff.rfl
  | cons op ops ih =>
    constructor
    · intro h
      refine ⟨(hiff s op hs hops.1).mp h.1, ?_⟩
      exact (ih (hstep s op hs hops.1 h.1) hops.2).mp h.2
    · intro h
      have hP := (hiff s op hs hops.1).mpr h.1
      exact ⟨hP, (ih (hstep s op hs hops.1 hP) hops.2).mpr h.2⟩

/-! ## Histories -/

/-- A member of two parts is in the one or in the other. -/
theorem split_of_append {α : Type*} {front back history new : List α} {event : α}
    (h : history ++ new = front ++ event :: back) :
    (∃ rest, history = front ++ event :: rest ∧ back = rest ++ new) ∨
      ∃ rest, front = history ++ rest ∧ new = rest ++ event :: back := by
  rcases List.append_eq_append_iff.mp h with ⟨rest, hfront, hnew⟩ | ⟨rest, hhistory, hback⟩
  · exact Or.inr ⟨rest, hfront, hnew⟩
  · cases rest with
    | nil => exact Or.inr ⟨[], by rw [hhistory, List.append_nil, List.append_nil], hback.symm⟩
    | cons first rest =>
      obtain ⟨rfl, hrest⟩ := List.cons.inj hback
      exact Or.inl ⟨rest, hhistory, hrest⟩

/-- A member of a history with one more is an old one or the last one. -/
theorem split_of_concat {α : Type*} {front back history : List α} {last event : α}
    (h : history ++ [last] = front ++ event :: back) :
    (∃ rest, history = front ++ event :: rest ∧ back = rest ++ [last]) ∨
      front = history ∧ event = last ∧ back = [] := by
  rcases split_of_append h with hold | ⟨rest, hfront, hnew⟩
  · exact Or.inl hold
  · cases rest with
    | nil =>
      obtain ⟨rfl, rfl⟩ := List.cons.inj hnew
      exact Or.inr ⟨by rw [hfront, List.append_nil], rfl, rfl⟩
    | cons _ rest =>
      exact absurd (List.cons.inj hnew).2.symm
        (List.append_ne_nil_of_right_ne_nil _ (List.cons_ne_nil _ _))

/-! ## Since -/

theorem run_append (s : σ) (ops later : List ι) :
    run step s (ops ++ later) = run step (run step s ops) later := List.foldl_append

variable (step) in
/-- **A step of the run has started it, and no later step has ended it.** -/
def Since (Starts Ends : σ → ι → Prop) (s : σ) (ops : List ι) : Prop :=
  ∃ before op between, ops = before ++ op :: between ∧ Starts (run step s before) op ∧
    EveryStep step (fun s op => ¬Ends s op) (run step s (before ++ [op])) between

section Since

variable {Starts Ends : σ → ι → Prop} {s : σ} {ops : List ι} {op : ι}

/-- The last step has started it. -/
theorem Since.of_starts (h : Starts (run step s ops) op) :
    Since step Starts Ends s (ops ++ [op]) :=
  ⟨ops, op, [], rfl, h, trivial⟩

/-- One more step that does not end it. -/
theorem Since.concat (h : Since step Starts Ends s ops) (hop : ¬Ends (run step s ops) op) :
    Since step Starts Ends s (ops ++ [op]) := by
  obtain ⟨before, first, between, rfl, hstarts, hbetween⟩ := h
  refine ⟨before, first, between ++ [op], ?_, hstarts, everyStep_concat.mpr ⟨hbetween, ?_⟩⟩
  · rw [List.append_assoc, List.cons_append]
  · rwa [← run_append, List.append_assoc, List.singleton_append]

/-- **What holds at the end of a run holds since a step of it**, if it did not hold before and a step
after which it holds has started it, or found it and has not ended it. -/
theorem since_of_run {H : σ → Prop} (hs : ¬H s)
    (hstep : ∀ s op, H (step s op) → Starts s op ∨ H s ∧ ¬Ends s op)
    (h : H (run step s ops)) : Since step Starts Ends s ops := by
  induction ops using List.reverseRecOn with
  | nil => exact absurd h hs
  | append_singleton ops op ih =>
    rw [run_append] at h
    rcases hstep _ op h with hstarts | ⟨hheld, hends⟩
    · exact Since.of_starts hstarts
    · exact (ih hheld).concat hends

end Since

end Runs
