import Mathlib.Data.List.Chain
import Mathlib.Data.List.Induction

/-!
# A counter of attempts in a window of time

A component counts its attempts and forgets the count when the last attempt is too long ago
(`Expired`).  What is counted are the attempts of the history that are close to each other: `Covers`
says so, and is kept by an attempt that adds one (`Covers.attempt`), by a count that starts again when
the last attempt has expired (`Covers.restart`), by time that goes on (`Covers.later`), and by
something else that takes its place (`Covers.interrupt`).

* `AtMost`: no more than so many attempts in a row are close to each other; a counter that stays
  below the limit keeps this (`AtMost.attempt`).

An attempt of the history is `some` time, and what interrupts a row of attempts is `none`.
-/

namespace AttemptWindow

variable {Expired : ℕ → ℕ → Prop}

variable (Expired) in
/-- The attempts are close to each other. -/
def Close (block : List ℕ) : Prop := block.IsChain fun earlier later => ¬Expired earlier later

variable (Expired) in
/-- Of the attempts at the end of the history that are close to each other, the count has every one
and `last` is the last one, unless this one has expired. -/
def Covers (history : List (Option ℕ)) (count last now : ℕ) : Prop :=
  ∀ before block final, history = before ++ (block ++ [final]).map some →
    Close Expired (block ++ [final]) →
    block.length + 1 ≤ count ∧ last = final ∨ Expired final now

variable (Expired) in
/-- No more than `limit` attempts in a row are close to each other. -/
def AtMost (limit : ℕ) (history : List (Option ℕ)) : Prop :=
  ∀ before block after, history = before ++ (block.map some ++ after) → Close Expired block →
    block.length ≤ limit

section Covers

variable {history : List (Option ℕ)} {count last now : ℕ}

theorem covers_nil : Covers Expired [] count last now := by
  intro before block final h
  have hlength := congrArg List.length h
  simp at hlength

/-- Time goes on. -/
theorem Covers.later (h : Covers Expired history count last now) {now' : ℕ}
    (hmono : ∀ final, Expired final now → Expired final now') :
    Covers Expired history count last now' := by
  intro before block final heq hclose
  exact (h before block final heq hclose).imp_right (hmono final)

/-- A count that is left behind when the last attempt has expired, or there was none. -/
theorem Covers.restart (h : Covers Expired history count last now)
    (hlast : some last ∈ history → Expired last now) (count' last' : ℕ) :
    Covers Expired history count' last' now := by
  intro before block final heq hclose
  refine Or.inr ?_
  rcases h before block final heq hclose with ⟨-, rfl⟩ | hexpired
  · refine hlast ?_
    rw [heq]
    simp
  · exact hexpired

/-- Something else comes between the attempts. -/
theorem covers_interrupt (history : List (Option ℕ)) (count last now : ℕ) :
    Covers Expired (history ++ [none]) count last now := by
  intro before block final heq
  rw [List.map_append, List.map_singleton, ← List.append_assoc] at heq
  exact absurd (List.append_inj' heq rfl).2 (by simp)

/-- One more attempt. -/
theorem Covers.attempt (h : Covers Expired history count last now) :
    Covers Expired (history ++ [some now]) (count + 1) now now := by
  intro before block final heq hclose
  rw [List.map_append, List.map_singleton, ← List.append_assoc] at heq
  obtain ⟨hhistory, hfinal⟩ := List.append_inj' heq rfl
  obtain rfl : now = final := by simpa using hfinal
  refine Or.inl ⟨?_, rfl⟩
  cases block using List.reverseRecOn with
  | nil => simp
  | append_singleton block earlier =>
    have hparts := List.isChain_append.1 hclose
    have hlast : ¬Expired earlier now := hparts.2.2 earlier (by simp) now (by simp)
    rcases h before block earlier hhistory hparts.1 with ⟨hcount, -⟩ | hexpired
    · rw [List.length_append, List.length_singleton]
      omega
    · exact absurd hexpired hlast

end Covers

section AtMost

variable {history : List (Option ℕ)} {limit : ℕ}

theorem atMost_nil : AtMost Expired limit [] := by
  intro before block after h
  have hlength := congrArg List.length h
  simp at hlength
  omega

/-- What is appended to a history is in no block, or at the end of one. -/
theorem split_concat {entry : Option ℕ} {before after : List (Option ℕ)} {block : List ℕ}
    (h : history ++ [entry] = before ++ (block.map some ++ after)) :
    (∃ after', history = before ++ (block.map some ++ after')) ∨
      after = [] ∧ history ++ [entry] = before ++ block.map some := by
  cases after using List.reverseRecOn with
  | nil => exact Or.inr ⟨rfl, by rwa [List.append_nil] at h⟩
  | append_singleton after' last =>
    rw [← List.append_assoc, ← List.append_assoc] at h
    refine Or.inl ⟨after', ?_⟩
    rw [(List.append_inj' h rfl).1, List.append_assoc]

theorem AtMost.interrupt (h : AtMost Expired limit history) :
    AtMost Expired limit (history ++ [none]) := by
  intro before block after heq hclose
  rcases split_concat heq with ⟨after', hbefore⟩ | ⟨-, hend⟩
  · exact h before block after' hbefore hclose
  · cases block using List.reverseRecOn with
    | nil => exact Nat.zero_le _
    | append_singleton block final =>
      rw [List.map_append, List.map_singleton, ← List.append_assoc] at hend
      exact absurd (List.append_inj' hend rfl).2 (by simp)

/-- **An attempt with a count within the limit.** -/
theorem AtMost.attempt (h : AtMost Expired limit history) {count last now : ℕ}
    (hcovers : Covers Expired (history ++ [some now]) count last now) (hcount : count ≤ limit)
    (hnow : ¬Expired now now) : AtMost Expired limit (history ++ [some now]) := by
  intro before block after heq hclose
  rcases split_concat heq with ⟨after', hbefore⟩ | ⟨-, hend⟩
  · exact h before block after' hbefore hclose
  · cases block using List.reverseRecOn with
    | nil => exact Nat.zero_le _
    | append_singleton block final =>
      have hfinal := hend
      rw [List.map_append, List.map_singleton, ← List.append_assoc] at hfinal
      obtain rfl : now = final := by simpa using (List.append_inj' hfinal rfl).2
      rcases hcovers before block now hend hclose with ⟨hlength, -⟩ | hexpired
      · rw [List.length_append, List.length_singleton]
        omega
      · exact absurd hexpired hnow

/-- **Of more attempts in a row than the limit, two that follow each other are apart.** -/
theorem AtMost.exists_expired (h : AtMost Expired limit history)
    {before after : List (Option ℕ)} {block : List ℕ}
    (heq : history = before ++ (block.map some ++ after)) (hlength : limit < block.length) :
    ∃ front earlier later back, block = front ++ earlier :: later :: back ∧
      Expired earlier later := by
  by_contra hnone
  have hclose : Close Expired block := by
    rw [Close, List.isChain_iff_forall_rel_of_append_cons_cons]
    intro earlier later front back hblock hexpired
    exact hnone ⟨front, earlier, later, back, hblock, hexpired⟩
  exact absurd (h before block after heq hclose) (Nat.not_le.2 hlength)

end AtMost

end AttemptWindow
