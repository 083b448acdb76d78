import Mathlib.Data.List.Basic

/-!
# Stages that stop at the first failure

A list of stages, each of which goes on with a state or stops with one.

* `run_rule`: what every stage keeps while it goes on, and what holds where one stops, with the
  stages that have been run so far.
* `run_filter`: a run of the stages that are switched on.
-/

namespace Stages

variable {P σ : Type*} (stage : P → σ → Except σ σ)

/-- The stages one after the other, as far as the first that stops. -/
def run : List P → σ → Except σ σ
  | [], s => .ok s
  | p :: stages, s =>
    match stage p s with
    | .ok next => run stages next
    | .error last => .error last

variable {stage}

theorem run_nil : run stage [] = pure := rfl

theorem run_cons (p : P) (stages : List P) :
    run stage (p :: stages) = fun s => stage p s >>= run stage stages := by
  funext s
  rw [run]
  cases stage p s
  · rfl
  · rfl

theorem run_cons_of_ok {p : P} {s next : σ} (h : stage p s = .ok next) (stages : List P) :
    run stage (p :: stages) s = run stage stages next := by
  rw [run, h]

theorem run_cons_of_error {p : P} {s last : σ} (h : stage p s = .error last) (stages : List P) :
    run stage (p :: stages) s = .error last := by
  rw [run, h]

/-- **The rule of a run**: the stages that have been run are all of them, or they end with one that
has stopped. -/
theorem run_rule {stages : List P} {I J : List P → σ → Prop}
    (hgoes : ∀ done p rest s next, done ++ p :: rest = stages → I done s →
      stage p s = .ok next → I (done ++ [p]) next)
    (hstops : ∀ done p rest s last, done ++ p :: rest = stages → I done s →
      stage p s = .error last → J (done ++ [p]) last)
    {s : σ} (hs : I [] s) :
    (∃ last, run stage stages s = .ok last ∧ I stages last) ∨
      ∃ done last, done <+: stages ∧ run stage stages s = .error last ∧ J done last := by
  suffices h : ∀ (rest done : List P) (s : σ), done ++ rest = stages → I done s →
      (∃ last, run stage rest s = .ok last ∧ I stages last) ∨
        ∃ done last, done <+: stages ∧ run stage rest s = .error last ∧ J done last from
    h stages [] s rfl hs
  intro rest
  induction rest with
  | nil =>
    intro done s hdone hs
    rw [List.append_nil] at hdone
    exact Or.inl ⟨s, rfl, hdone ▸ hs⟩
  | cons p rest ih =>
    intro done s hdone hs
    have hsplit : done ++ [p] ++ rest = stages := by rw [List.append_assoc]; exact hdone
    cases hstage : stage p s with
    | ok next =>
      rw [run_cons_of_ok hstage]
      exact ih (done ++ [p]) next hsplit (hgoes done p rest s next hdone hs hstage)
    | error last =>
      exact Or.inr ⟨done ++ [p], last, ⟨rest, hsplit⟩, run_cons_of_error hstage rest,
        hstops done p rest s last hdone hs hstage⟩

/-- The stages that are switched off are no stages. -/
theorem run_filter (on : P → Bool) (stages : List P) (s : σ) :
    run stage (stages.filter on) s =
      run (fun p s => if on p then stage p s else .ok s) stages s := by
  induction stages generalizing s with
  | nil => rfl
  | cons p stages ih =>
    cases hon : on p with
    | true =>
      rw [List.filter_cons_of_pos hon, run, run, if_pos hon]
      cases stage p s with
      | ok next => exact ih next
      | error last => rfl
    | false =>
      have hoff : ¬on p = true := by rw [hon]; exact Bool.false_ne_true
      rw [List.filter_cons_of_neg hoff, run, if_neg hoff]
      exact ih s

end Stages
