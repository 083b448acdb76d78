import Mathlib.Data.List.Nodup

/-!
# Precedence in a list

`Precedes l a b`: an occurrence of `a` stands before an occurrence of `b`.  It is the sublist
`[a, b]`, so it passes to every longer list.

A sublist of a list without repetitions keeps the order of the elements it has, which is
`precedes_iff_of_sublist`.
-/

namespace Precedence

variable {α : Type*}

/-- An occurrence of `a` stands before an occurrence of `b`. -/
def Precedes (l : List α) (a b : α) : Prop := [a, b].Sublist l

instance [DecidableEq α] (l : List α) (a b : α) : Decidable (Precedes l a b) :=
  inferInstanceAs (Decidable (List.Sublist _ _))

theorem Precedes.of_sublist {l l' : List α} {a b : α} (h : Precedes l a b) (hsub : l.Sublist l') :
    Precedes l' a b :=
  h.trans hsub

theorem precedes_of_split {l₁ l₂ : List α} {a b : α} (ha : a ∈ l₁) :
    Precedes (l₁ ++ b :: l₂) a b :=
  (List.singleton_sublist.mpr ha).append (List.singleton_sublist.mpr List.mem_cons_self)

/-- Nothing precedes itself where nothing stands twice. -/
theorem not_precedes_self {l : List α} (hnodup : l.Nodup) (a : α) : ¬ Precedes l a a :=
  List.nodup_iff_sublist.mp hnodup a

/-- Precedence is transitive where nothing stands twice. -/
theorem Precedes.trans {l : List α} (hnodup : l.Nodup) {a b c : α} (h : Precedes l a b)
    (h' : Precedes l b c) : Precedes l a c := by
  induction l with
  | nil => cases h
  | cons x l ih =>
    obtain ⟨hx, hnodup⟩ := List.nodup_cons.mp hnodup
    have hb : b ∈ l := by
      cases h with
      | cons _ h => exact h.subset (List.mem_cons_of_mem _ (List.mem_singleton_self b))
      | cons_cons _ h => exact List.singleton_sublist.mp h
    have hlater : Precedes l b c := by
      cases h' with
      | cons _ h' => exact h'
      | cons_cons _ h' => exact absurd hb hx
    cases h with
    | cons _ h => exact (ih hnodup h hlater).of_sublist (List.sublist_cons_self x l)
    | cons_cons _ h =>
      have hc : c ∈ l := hlater.subset (List.mem_cons_of_mem _ (List.mem_singleton_self c))
      exact List.Sublist.cons_cons _ (List.singleton_sublist.mpr hc)

/-- **A sublist keeps the order of the elements it has.** -/
theorem precedes_iff_of_sublist {l l' : List α} (hsub : l'.Sublist l) (hnodup : l.Nodup) {a b : α}
    (ha : a ∈ l') (hb : b ∈ l') : Precedes l' a b ↔ Precedes l a b := by
  refine ⟨fun h => h.of_sublist hsub, fun h => ?_⟩
  induction hsub with
  | slnil => cases ha
  | @cons l' l x hsub ih =>
    have hx : x ∉ l := (List.nodup_cons.mp hnodup).1
    have hne : a ≠ x := fun hax => hx (hax ▸ hsub.subset ha)
    refine ih (List.nodup_cons.mp hnodup).2 ha hb ?_
    cases h with
    | cons _ h => exact h
    | cons_cons _ h => exact absurd rfl hne
  | @cons_cons l' l x hsub ih =>
    have hx : x ∉ l := (List.nodup_cons.mp hnodup).1
    cases h with
    | cons _ h =>
      have ha' : a ∈ l := h.subset (List.mem_cons_self ..)
      have hb' : b ∈ l := h.subset (List.mem_cons_of_mem _ (List.mem_singleton_self b))
      have hmem : ∀ c ∈ x :: l', c ∈ l → c ∈ l' := fun c hc hcl =>
        (List.mem_cons.mp hc).resolve_left fun hcx => hx (hcx ▸ hcl)
      exact (ih (List.nodup_cons.mp hnodup).2 (hmem a ha ha') (hmem b hb hb') h).of_sublist
        (List.sublist_cons_self x l')
    | cons_cons _ h =>
      have hb' : b ∈ l := List.singleton_sublist.mp h
      refine List.Sublist.cons_cons _ (List.singleton_sublist.mpr ?_)
      exact (List.mem_cons.mp hb).resolve_left fun hbx => hx (hbx ▸ hb')

end Precedence
