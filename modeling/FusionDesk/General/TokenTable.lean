import Mathlib.Data.List.Pairwise
import Mathlib.Data.Nat.Notation
import Mathlib.Tactic.Common
import Std.Data.ExtTreeMap

/-!
# A table of values under tokens

A component hands out a token for every value it is given, each token larger than all it has
handed out before, and drops a value when it is given the token back.  Read in the order of the
tokens the table is a list, and on that list both operations are the plain ones: a value under a
fresh token goes to the end, and dropping tokens is a filter.

* `toList_insert_fresh`, `toList_dropAll`: the two operations on the list.
* `select`: the part of the list whose values meet a condition.
* `select_dropAll_self`: who drops the tokens of all its values has none left.
* `select_dropAll_disjoint`: and the values of others stay as they were.
-/

namespace TokenTable

variable {α : Type}

/-! ## The table as a list -/

theorem getElem?_insert (table : Std.ExtTreeMap ℕ α) (token other : ℕ) (value : α) :
    (table.insert token value)[other]? = if token = other then some value else table[other]? := by
  simp only [Std.ExtTreeMap.getElem?_insert, Nat.compare_eq_eq]

theorem getElem?_erase (table : Std.ExtTreeMap ℕ α) (token other : ℕ) :
    (table.erase token)[other]? = if token = other then none else table[other]? := by
  simp only [Std.ExtTreeMap.getElem?_erase, Nat.compare_eq_eq]

/-- The tokens ascend in the list of the table. -/
theorem toList_ascending (table : Std.ExtTreeMap ℕ α) :
    table.toList.Pairwise fun a b => a.1 < b.1 :=
  table.ordered_keys_toList.imp fun h => Nat.compare_eq_lt.mp h

theorem nodup_of_ascending {items : List (ℕ × α)} (h : items.Pairwise fun a b => a.1 < b.1) :
    items.Nodup := by
  refine h.imp ?_
  rintro a b hlt rfl
  exact Nat.lt_irrefl _ hlt

/-- A list in ascending order of the tokens that has the entries of the table is the table. -/
theorem toList_eq_of_ascending {table : Std.ExtTreeMap ℕ α} {items : List (ℕ × α)}
    (hascending : items.Pairwise fun a b => a.1 < b.1)
    (hitems : ∀ token value, (token, value) ∈ items ↔ table[token]? = some value) :
    table.toList = items := by
  have hperm : table.toList.Perm items := by
    rw [List.perm_ext_iff_of_nodup (nodup_of_ascending (toList_ascending table))
      (nodup_of_ascending hascending)]
    rintro ⟨token, value⟩
    rw [hitems]
    exact Std.ExtTreeMap.mem_toList_iff_getElem?_eq_some
  refine hperm.eq_of_pairwise ?_ (toList_ascending table) hascending
  intro a b _ _ hab hba
  exact absurd (Nat.lt_trans hab hba) (Nat.lt_irrefl _)

/-- Every token handed out so far is below `next`. -/
def Fresh (table : Std.ExtTreeMap ℕ α) (next : ℕ) : Prop :=
  ∀ token value, table[token]? = some value → token < next

theorem Fresh.empty (next : ℕ) : Fresh (∅ : Std.ExtTreeMap ℕ α) next := by
  intro token value h
  rw [Std.ExtTreeMap.getElem?_empty] at h
  cases h

theorem Fresh.insert {table : Std.ExtTreeMap ℕ α} {next : ℕ} (h : Fresh table next) (value : α) :
    Fresh (table.insert next value) (next + 1) := by
  intro token w hw
  rw [getElem?_insert] at hw
  by_cases hnext : next = token
  · rw [← hnext]
    exact Nat.lt_succ_self _
  · rw [if_neg hnext] at hw
    exact Nat.lt_succ_of_lt (h token w hw)

theorem Fresh.erase {table : Std.ExtTreeMap ℕ α} {next : ℕ} (h : Fresh table next) (token : ℕ) :
    Fresh (table.erase token) next := by
  intro other w hw
  rw [getElem?_erase] at hw
  by_cases hsame : token = other
  · rw [if_pos hsame] at hw
    cases hw
  · rw [if_neg hsame] at hw
    exact h other w hw

/-- A value under a fresh token goes to the end. -/
theorem toList_insert_fresh {table : Std.ExtTreeMap ℕ α} {next : ℕ} (h : Fresh table next)
    (value : α) : (table.insert next value).toList = table.toList ++ [(next, value)] := by
  have hlt : ∀ item ∈ table.toList, item.1 < next := by
    rintro ⟨token, w⟩ hitem
    exact h token w (Std.ExtTreeMap.mem_toList_iff_getElem?_eq_some.mp hitem)
  apply toList_eq_of_ascending
  · refine List.pairwise_append.mpr ⟨toList_ascending table, List.pairwise_singleton _ _, ?_⟩
    intro item hitem last hlast
    rw [List.mem_singleton.mp hlast]
    exact hlt item hitem
  · intro token w
    rw [List.mem_append, List.mem_singleton, Std.ExtTreeMap.mem_toList_iff_getElem?_eq_some,
      getElem?_insert, Prod.mk.injEq]
    by_cases hnext : next = token
    · subst hnext
      rw [if_pos rfl, Option.some.injEq]
      constructor
      · rintro (hold | ⟨-, rfl⟩)
        · exact absurd (h _ _ hold) (Nat.lt_irrefl _)
        · rfl
      · rintro rfl
        exact Or.inr ⟨rfl, rfl⟩
    · rw [if_neg hnext]
      constructor
      · rintro (hold | ⟨rfl, -⟩)
        · exact hold
        · exact absurd rfl hnext
      · exact Or.inl

theorem toList_erase (table : Std.ExtTreeMap ℕ α) (token : ℕ) :
    (table.erase token).toList = table.toList.filter fun item => item.1 ≠ token := by
  apply toList_eq_of_ascending ((toList_ascending table).filter _)
  intro other w
  rw [List.mem_filter, Std.ExtTreeMap.mem_toList_iff_getElem?_eq_some, getElem?_erase]
  by_cases hsame : token = other
  · rw [if_pos hsame]
    simp [hsame]
  · rw [if_neg hsame]
    simp [Ne.symm hsame]

/-- Drop a list of tokens, one after the other. -/
def dropAll (table : Std.ExtTreeMap ℕ α) (tokens : List ℕ) : Std.ExtTreeMap ℕ α :=
  tokens.foldl (fun table token => table.erase token) table

theorem toList_dropAll (tokens : List ℕ) :
    ∀ table : Std.ExtTreeMap ℕ α, (dropAll table tokens).toList =
      table.toList.filter fun item => item.1 ∉ tokens := by
  induction tokens with
  | nil =>
    intro table
    exact (List.filter_eq_self.mpr fun item _ => by simp).symm
  | cons token tokens ih =>
    intro table
    show (dropAll (table.erase token) tokens).toList = _
    rw [ih, toList_erase, List.filter_filter]
    refine List.filter_congr fun item _ => ?_
    simp [not_or, Bool.and_comm]

/-! ## The values that meet a condition -/

/-- The entries whose value meets the condition, in the order of the tokens. -/
def select (p : α → Bool) (table : Std.ExtTreeMap ℕ α) : List (ℕ × α) :=
  table.toList.filter fun item => p item.2

theorem mem_select {p : α → Bool} {table : Std.ExtTreeMap ℕ α} {item : ℕ × α} :
    item ∈ select p table ↔ table[item.1]? = some item.2 ∧ p item.2 = true := by
  rw [select, List.mem_filter, ← Std.ExtTreeMap.mem_toList_iff_getElem?_eq_some]

theorem select_insert_fresh {table : Std.ExtTreeMap ℕ α} {next : ℕ} (h : Fresh table next)
    (p : α → Bool) (value : α) :
    select p (table.insert next value) =
      select p table ++ if p value then [(next, value)] else [] := by
  rw [select, toList_insert_fresh h, List.filter_append, select, List.filter_cons,
    List.filter_nil]

theorem select_dropAll (p : α → Bool) (table : Std.ExtTreeMap ℕ α) (tokens : List ℕ) :
    select p (dropAll table tokens) =
      (select p table).filter fun item => item.1 ∉ tokens := by
  rw [select, toList_dropAll, List.filter_filter, select, List.filter_filter]
  exact List.filter_congr fun item _ => Bool.and_comm _ _

/-- Dropping the tokens of all the values that meet a condition leaves none. -/
theorem select_dropAll_self (p : α → Bool) (table : Std.ExtTreeMap ℕ α) :
    select p (dropAll table ((select p table).map Prod.fst)) = [] := by
  rw [select_dropAll, List.filter_eq_nil_iff]
  intro item hitem hnot
  exact (of_decide_eq_true hnot) (List.mem_map_of_mem hitem)

/-- Dropping them leaves the values that do not meet it as they were. -/
theorem select_dropAll_disjoint {p q : α → Bool} (hpq : ∀ value, p value = true → q value = false)
    (table : Std.ExtTreeMap ℕ α) :
    select q (dropAll table ((select p table).map Prod.fst)) = select q table := by
  rw [select_dropAll, List.filter_eq_self]
  rintro ⟨token, value⟩ hitem
  refine decide_eq_true fun htoken => ?_
  obtain ⟨⟨_, w⟩, hw, rfl⟩ := List.mem_map.mp htoken
  obtain ⟨hvalue, hq⟩ := mem_select.mp hitem
  obtain ⟨hw, hp⟩ := mem_select.mp hw
  obtain rfl : w = value := Option.some.inj (hw.symm.trans hvalue)
  rw [hpq w hp] at hq
  cases hq

end TokenTable
