import Mathlib.Data.List.Basic

/-!
# Changing the first entry that matches

A loop over a list that stops at the first entry with a property, changes it or takes it out, and
gives an answer.

* `updateFirst`: the list after the loop, and the answer if there was such an entry.
* `updateFirst_of_none`: without such an entry the list stays.
* `exists_split_of_find?`: with one, the list is cut there, the entries before do not match, and the
  entries before and behind are the old ones.
* `updateFirst_filter`: the loop and a filter that keeps every match go in either order.
* `IsFirst`: an entry is the first with a property, with `find?_eq_some_iff_isFirst` and
  `isFirst_of_findSome?` for the two searches.
-/

namespace FirstMatch

variable {α β : Type*}

/-- The first entry with `p` becomes what `f` makes of it: another entry, or none. -/
def updateFirst (p : α → Bool) (f : α → β × Option α) : List α → Option β × List α
  | [] => (none, [])
  | a :: l =>
    if p a then (some (f a).1, (f a).2.toList ++ l)
    else ((updateFirst p f l).1, a :: (updateFirst p f l).2)

variable {p : α → Bool} {f : α → β × Option α}

theorem updateFirst_of_none {l : List α} (h : l.find? p = none) :
    updateFirst p f l = (none, l) := by
  induction l with
  | nil => rfl
  | cons a l ih =>
    rw [List.find?_cons] at h
    cases hp : p a with
    | true =>
      rw [hp] at h
      cases h
    | false =>
      rw [hp] at h
      rw [updateFirst, hp, ih h]
      rfl

/-- **The loop cuts the list at its first match** and leaves the two sides as they are. -/
theorem exists_split_of_find? {l : List α} {a : α} (h : l.find? p = some a) :
    ∃ before behind, l = before ++ a :: behind ∧ (∀ b ∈ before, p b = false) ∧ p a = true ∧
      updateFirst p f l = (some (f a).1, before ++ ((f a).2.toList ++ behind)) := by
  induction l with
  | nil => cases h
  | cons b l ih =>
    rw [List.find?_cons] at h
    cases hp : p b with
    | true =>
      rw [hp] at h
      cases h
      refine ⟨[], l, rfl, by simp, hp, ?_⟩
      rw [updateFirst, if_pos hp]
      rfl
    | false =>
      rw [hp] at h
      obtain ⟨before, behind, hl, hbefore, ha, hupdate⟩ := ih h
      refine ⟨b :: before, behind, by rw [hl, List.cons_append], ?_, ha, ?_⟩
      · intro c hc
        rcases List.mem_cons.mp hc with rfl | hc
        · exact hp
        · exact hbefore c hc
      · rw [updateFirst, hp, hupdate]
        rfl

/-- **The loop and a filter that keeps every match commute.** -/
theorem updateFirst_filter {q : α → Bool} (hmatch : ∀ a, p a = true → q a = true)
    (hkept : ∀ a b, p a = true → (f a).2 = some b → q b = true) (l : List α) :
    updateFirst p f (l.filter q) = ((updateFirst p f l).1, (updateFirst p f l).2.filter q) := by
  induction l with
  | nil => rfl
  | cons a l ih =>
    cases hp : p a with
    | true =>
      have hhead : (f a).2.toList.filter q = (f a).2.toList := by
        cases hf : (f a).2 with
        | none => rfl
        | some b => simp [hkept a b hp hf]
      rw [List.filter_cons_of_pos (hmatch a hp), updateFirst, if_pos hp, updateFirst, if_pos hp,
        List.filter_append, hhead]
    | false =>
      cases hq : q a with
      | true =>
        rw [List.filter_cons_of_pos hq, updateFirst, hp, updateFirst, hp, ih]
        simp only [Bool.false_eq_true, if_false]
        rw [List.filter_cons_of_pos hq]
      | false =>
        rw [List.filter_cons_of_neg (by simp [hq]), ih, updateFirst, hp]
        simp only [Bool.false_eq_true, if_false]
        rw [List.filter_cons_of_neg (by simp [hq])]

/-! ## The first entry with a property -/

/-- **`a` is the first entry of `l` with `P`**: the entries before it do not have it. -/
def IsFirst (P : α → Prop) (l : List α) (a : α) : Prop :=
  P a ∧ ∃ before behind, l = before ++ a :: behind ∧ ∀ b ∈ before, ¬P b

theorem IsFirst.mem {P : α → Prop} {l : List α} {a : α} (h : IsFirst P l a) : a ∈ l := by
  obtain ⟨-, before, behind, rfl, -⟩ := h
  exact List.mem_append_right _ List.mem_cons_self

/-- A search gives the first match, and an answer that is the first match is what it gives. -/
theorem find?_eq_some_iff_isFirst {P : α → Prop} [DecidablePred P] {l : List α} {a : α} :
    l.find? (fun b => decide (P b)) = some a ↔ IsFirst P l a := by
  rw [List.find?_eq_some_iff_append, IsFirst]
  simp only [decide_eq_true_eq, Bool.not_eq_eq_eq_not, Bool.not_true, decide_eq_false_iff_not]

/-- A search that computes something from its match stops at the first entry it can do so for. -/
theorem isFirst_of_findSome? {g : α → Option β} {l : List α} {b : β} (h : l.findSome? g = some b) :
    ∃ a, g a = some b ∧ IsFirst (fun c => (g c).isSome = true) l a := by
  obtain ⟨before, a, behind, hl, ha, hbefore⟩ := List.findSome?_eq_some_iff.mp h
  exact ⟨a, ha, Option.isSome_iff_exists.mpr ⟨b, ha⟩, before, behind, hl,
    fun c hc => Option.not_isSome_iff_eq_none.mpr (hbefore c hc)⟩

end FirstMatch
