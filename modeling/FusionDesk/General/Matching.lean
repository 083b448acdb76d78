import Mathlib.Data.List.Forall2

/-!
# Lists matched entry by entry

* `exists_forall₂`: a choice for every entry of a list is a list that matches it.
* `exists_left_of_forall₂`: an entry of the matched list has one it belongs to.
-/

namespace Matching

variable {α β : Type*} {R : α → β → Prop} {l : List α}

theorem exists_forall₂ (h : ∀ a ∈ l, ∃ b, R a b) : ∃ l', List.Forall₂ R l l' := by
  induction l with
  | nil => exact ⟨[], .nil⟩
  | cons a l ih =>
    obtain ⟨b, hb⟩ := h a List.mem_cons_self
    obtain ⟨l', hl'⟩ := ih fun other hother => h other (List.mem_cons_of_mem _ hother)
    exact ⟨b :: l', .cons hb hl'⟩

theorem exists_left_of_forall₂ {l' : List β} (h : List.Forall₂ R l l') {b : β} (hb : b ∈ l') :
    ∃ a ∈ l, R a b := by
  induction h with
  | nil => cases hb
  | cons hfirst hrest ih =>
    rcases List.mem_cons.mp hb with rfl | hmem
    · exact ⟨_, List.mem_cons_self, hfirst⟩
    · obtain ⟨a, ha, hab⟩ := ih hmem
      exact ⟨a, List.mem_cons_of_mem _ ha, hab⟩

end Matching
