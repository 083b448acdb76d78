import Mathlib.Algebra.Ring.Nat
import Mathlib.Data.List.AList
import Mathlib.Algebra.BigOperators.Group.List.Basic

/-!
# Totals of what is held under keys

Amounts are held under keys, and the total of what is held is to be kept in step with a counter.

* `total_insert`, `total_erase`: what a new key adds and what a key that goes takes along.
* `nodup_of_subperm`: keys that go from one stage to the next are never in two.
-/

namespace Holdings

variable {α β : Type*}

/-- The sum of the weights of all that is held. -/
def total (weight : β → ℕ) (held : AList fun _ : α => β) : ℕ :=
  (held.entries.map fun item => weight item.2).sum

variable {weight : β → ℕ} {held : AList fun _ : α => β} {a : α} {b : β}

@[simp] theorem total_empty : total weight (∅ : AList fun _ : α => β) = 0 := rfl

theorem total_of_keys_eq_nil (h : held.keys = []) : total weight held = 0 := by
  have hentries : held.entries = [] := List.map_eq_nil_iff.mp h
  rw [total, hentries]
  rfl

variable [DecidableEq α]

/-- **A new key adds its weight.** -/
theorem total_insert (h : a ∉ held) (b : β) :
    total weight (held.insert a b) = weight b + total weight held := by
  have hentries : (held.insert a b).entries = ⟨a, b⟩ :: held.entries := by
    show ⟨a, b⟩ :: held.entries.kerase a = _
    rw [List.kerase_of_notMem_keys h]
  rw [total, hentries, List.map_cons, List.sum_cons]
  rfl

/-- **A key that goes takes its weight along.** -/
theorem total_erase (h : held.lookup a = some b) :
    weight b + total weight (held.erase a) = total weight held := by
  have hmem : ⟨a, b⟩ ∈ held.entries := AList.mem_lookup_iff.mp h
  obtain ⟨b', before, behind, hbefore, hentries, herased⟩ :=
    List.exists_of_kerase (List.mem_keys_of_mem hmem)
  have hvalue : b' = b := by
    have hmem' : ⟨a, b'⟩ ∈ held.entries := by
      rw [hentries]
      exact List.mem_append_right _ List.mem_cons_self
    have hlookup : held.lookup a = some b' := AList.mem_lookup_iff.mpr hmem'
    rw [h] at hlookup
    exact (Option.some_inj.mp hlookup).symm
  subst hvalue
  show weight b' + ((held.entries.kerase a).map fun item => weight item.2).sum = _
  rw [herased, total, hentries]
  simp only [List.map_append, List.map_cons, List.sum_append, List.sum_cons]
  omega

/-- What is held under one key is part of the total. -/
theorem le_total (h : held.lookup a = some b) : weight b ≤ total weight held := by
  have hsplit : weight b + total weight (held.erase a) = total weight held := total_erase h
  omega

/-- **Keys that are in a list of keys without repetition, each no more often, do not repeat.** -/
theorem nodup_of_subperm {before after : List α} (h : before.Nodup) (hmoved : after.Subperm before) :
    after.Nodup := by
  rw [List.nodup_iff_count_le_one] at h ⊢
  exact fun a => (hmoved.count_le a).trans (h a)

end Holdings
