import Mathlib.Data.List.Induction
import Mathlib.Data.List.Perm.Basic
import Mathlib.Tactic.Common
import Std.Data.ExtTreeMap

/-!
# Grouping a list by keys

A list is split into groups through an ordered map: each item goes to the end of the group under
its key.  Read back in the order of the map, the groups are the list with its items grouped by
ascending key, and within a key in the order they had.

* `groups`, `getElem?_groups`, `mem_keys_groups`: the map, and what it holds under a key.
* `StablyGrouped`: a list in ascending order of the keys that has the items of another list under
  each key, in their order; `StablyGrouped.perm`, and there is one only, `StablyGrouped.unique`.
* `stablyGrouped_groups`: the groups read back.
* `mergeInto`, `getElem?_mergeInto`: any other way to put items into a map one after the other.
-/

namespace Grouping

variable {α β κ : Type} [DecidableEq κ] {key : α → κ}

/-- The items under a key. -/
def under (key : α → κ) (items : List α) (k : κ) : List α :=
  items.filter fun item => key item = k

theorem under_concat (items : List α) (item : α) (k : κ) :
    under key (items ++ [item]) k = under key items k ++ if key item = k then [item] else [] := by
  rw [under, List.filter_append, under, List.filter_singleton]
  by_cases h : key item = k <;> simp [h]

theorem under_cons (item : α) (items : List α) (k : κ) :
    under key (item :: items) k = if key item = k then item :: under key items k
      else under key items k := by
  rw [under, List.filter_cons, under]
  simp only [decide_eq_true_eq]

theorem mem_under {items : List α} {item : α} {k : κ} :
    item ∈ under key items k ↔ item ∈ items ∧ key item = k := by
  rw [under, List.mem_filter, decide_eq_true_eq]

/-- Of different groups one after the other, each key has its own. -/
theorem under_flatMap_under (items : List α) {keys : List κ} (hkeys : keys.Nodup) (k : κ) :
    under key (keys.flatMap (under key items)) k = if k ∈ keys then under key items k else [] := by
  induction keys with
  | nil => rfl
  | cons first keys ih =>
    obtain ⟨hfirst, hrest⟩ := List.nodup_cons.mp hkeys
    have hinner : under key (under key items first) k =
        if k = first then under key items k else [] := by
      by_cases heq : k = first
      · rw [if_pos heq, heq]
        exact List.filter_eq_self.mpr fun item hitem => decide_eq_true (mem_under.mp hitem).2
      · rw [if_neg heq]
        refine List.filter_eq_nil_iff.mpr fun item hitem hk => ?_
        exact heq ((of_decide_eq_true hk).symm.trans (mem_under.mp hitem).2)
    rw [List.flatMap_cons, under, List.filter_append]
    show under key (under key items first) k ++ under key (keys.flatMap (under key items)) k = _
    rw [hinner, ih hrest]
    by_cases heq : k = first
    · subst heq
      rw [if_pos rfl, if_neg hfirst, if_pos List.mem_cons_self, List.append_nil]
    · rw [if_neg heq, List.nil_append]
      simp only [List.mem_cons, heq, false_or]

/-! ## Stable grouping -/

variable [Ord κ]

/-- `after` is in ascending order of the keys, and has under each key what `before` has, in the
order it has there. -/
structure StablyGrouped (key : α → κ) (before after : List α) : Prop where
  ascending : after.Pairwise fun a b => (compare (key a) (key b)).isLE
  same : ∀ k, under key after k = under key before k

namespace StablyGrouped

variable {before after other : List α}

theorem mem_iff (h : StablyGrouped key before after) (item : α) :
    item ∈ after ↔ item ∈ before := by
  have hunder := h.same (key item)
  have hafter := @mem_under _ _ _ key after item (key item)
  have hbefore := @mem_under _ _ _ key before item (key item)
  rw [hunder] at hafter
  simpa using hafter.symm.trans hbefore

/-- Nothing is lost and nothing added. -/
theorem perm [DecidableEq α] (h : StablyGrouped key before after) : after.Perm before := by
  rw [List.perm_iff_count]
  intro item
  have hcount : ∀ items : List α,
      List.count item (under key items (key item)) = List.count item items := by
    intro items
    exact List.count_filter (decide_eq_true rfl)
  rw [← hcount after, h.same, hcount before]

theorem tail {item : α} {rest : List α} (h : StablyGrouped key before (item :: rest)) :
    ∀ k, under key rest k = (under key before k).drop (if key item = k then 1 else 0) := by
  intro k
  rw [← h.same k, under_cons]
  by_cases hkey : key item = k
  · rw [if_pos hkey, if_pos hkey]
    rfl
  · rw [if_neg hkey, if_neg hkey, List.drop_zero]

/-- A list in ascending order of the keys is its own grouping. -/
theorem self (h : after.Pairwise fun a b => (compare (key a) (key b)).isLE) :
    StablyGrouped key after after :=
  ⟨h, fun _ => rfl⟩

variable [Std.TransOrd κ] [Std.LawfulEqOrd κ]

/-- **There is one stable grouping only.** -/
theorem unique (h : StablyGrouped key before after) (hother : StablyGrouped key before other) :
    after = other := by
  induction after generalizing before other with
  | nil =>
    cases other with
    | nil => rfl
    | cons item rest =>
      have hmem := (h.mem_iff item).mpr ((hother.mem_iff item).mp List.mem_cons_self)
      cases hmem
  | cons first after ih =>
    cases other with
    | nil =>
      have hmem := (hother.mem_iff first).mpr ((h.mem_iff first).mp List.mem_cons_self)
      cases hmem
    | cons head other =>
      have hle : (compare (key first) (key head)).isLE := by
        have hmem := (h.mem_iff head).mpr ((hother.mem_iff head).mp List.mem_cons_self)
        rcases List.mem_cons.mp hmem with rfl | hrest
        · exact Std.ReflCmp.isLE_rfl
        · exact List.rel_of_pairwise_cons h.ascending hrest
      have hge : (compare (key head) (key first)).isLE := by
        have hmem := (hother.mem_iff first).mpr ((h.mem_iff first).mp List.mem_cons_self)
        rcases List.mem_cons.mp hmem with rfl | hrest
        · exact Std.ReflCmp.isLE_rfl
        · exact List.rel_of_pairwise_cons hother.ascending hrest
      have hkey : key first = key head :=
        Std.LawfulEqOrd.eq_of_compare (Std.OrientedCmp.isLE_antisymm hle hge)
      -- the two lists begin with the first item that `before` has under this key
      have hgroups : first :: under key after (key head) = head :: under key other (key head) := by
        have hsame := (h.same (key head)).trans (hother.same (key head)).symm
        rwa [under_cons, if_pos hkey, under_cons, if_pos rfl] at hsame
      obtain ⟨rfl, -⟩ := List.cons.inj hgroups
      have hafter : StablyGrouped key other after := by
        refine ⟨h.ascending.of_cons, fun k => ?_⟩
        rw [h.tail k, hother.tail k]
      rw [ih hafter ⟨hother.ascending.of_cons, fun _ => rfl⟩]

end StablyGrouped

/-! ## The groups -/

section Groups

variable [Std.TransOrd κ]

/-- Each item to the end of the group under its key. -/
def groups (key : α → κ) (f : α → β) (items : List α) : Std.ExtTreeMap κ (List β) :=
  items.foldl
    (fun groups item => groups.insert (key item) ((groups[key item]?).getD [] ++ [f item])) ∅

omit [DecidableEq κ] in
theorem groups_concat (f : α → β) (items : List α) (item : α) :
    groups key f (items ++ [item]) =
      (groups key f items).insert (key item)
        (((groups key f items)[key item]?).getD [] ++ [f item]) := by
  rw [groups, List.foldl_concat, groups]

variable [Std.LawfulEqOrd κ]

theorem getElem?_insert (table : Std.ExtTreeMap κ β) (k other : κ) (value : β) :
    (table.insert k value)[other]? = if k = other then some value else table[other]? := by
  simp only [Std.ExtTreeMap.getElem?_insert, Std.compare_eq_iff_eq]

/-- **The group under a key** has the items of the list under it, if there is one. -/
theorem getElem?_groups (f : α → β) (items : List α) (k : κ) :
    (groups key f items)[k]? =
      if under key items k = [] then none else some ((under key items k).map f) := by
  induction items using List.reverseRecOn with
  | nil => rfl
  | append_singleton items item ih =>
    rw [groups_concat, getElem?_insert, under_concat]
    by_cases hkey : key item = k
    · subst hkey
      rw [if_pos rfl, if_pos rfl, if_neg (by simp), ih, List.map_append]
      by_cases hnone : under key items (key item) = []
      · rw [if_pos hnone, hnone]
        rfl
      · rw [if_neg hnone]
        rfl
    · rw [if_neg hkey, if_neg hkey, ih, List.append_nil]

theorem mem_keys_groups {f : α → β} {items : List α} {k : κ} :
    k ∈ (groups key f items).keys ↔ ∃ item ∈ items, key item = k := by
  rw [Std.ExtTreeMap.mem_keys, ← Std.ExtTreeMap.isSome_getElem?_iff_mem, getElem?_groups]
  constructor
  · intro h
    by_cases hnone : under key items k = []
    · rw [if_pos hnone] at h
      cases h
    · obtain ⟨item, hitem⟩ := List.exists_mem_of_ne_nil _ hnone
      exact ⟨item, mem_under.mp hitem⟩
  · rintro ⟨item, hitem⟩
    rw [if_neg (List.ne_nil_of_mem (mem_under.mpr hitem))]
    rfl

/-! ## The groups read back -/

omit [Std.TransOrd κ] in
theorem ascending_flatMap_under (items : List α) {keys : List κ}
    (hkeys : keys.Pairwise fun a b => compare a b = .lt) :
    (keys.flatMap (under key items)).Pairwise fun a b => (compare (key a) (key b)).isLE := by
  rw [List.pairwise_flatMap]
  constructor
  · intro k _
    refine List.pairwise_of_forall_mem_list fun a ha b hb => ?_
    rw [(mem_under.mp ha).2, (mem_under.mp hb).2]
    exact Std.ReflCmp.isLE_rfl
  · refine hkeys.imp fun {k other} hlt a ha b hb => ?_
    rw [(mem_under.mp ha).2, (mem_under.mp hb).2, hlt]
    rfl

/-- What the map holds, in its order. -/
theorem toList_groups (f : α → β) (items : List α) :
    (groups key f items).toList =
      (groups key f items).keys.map fun k => (k, (under key items k).map f) := by
  rw [← Std.ExtTreeMap.map_fst_toList_eq_keys, List.map_map]
  refine (List.map_id _).symm.trans (List.map_congr_left fun item hitem => ?_)
  obtain ⟨k, group⟩ := item
  have hgroup := Std.ExtTreeMap.mem_toList_iff_getElem?_eq_some.mp hitem
  rw [getElem?_groups] at hgroup
  by_cases hnone : under key items k = []
  · rw [if_pos hnone] at hgroup
    cases hgroup
  · rw [if_neg hnone] at hgroup
    exact Prod.ext rfl (Option.some.inj hgroup).symm

/-- **The groups read back are the list, stably grouped**, where reading an item back gives the
item. -/
theorem stablyGrouped_groups {f : α → β} {back : κ → β → α} (items : List α)
    (hback : ∀ item ∈ items, back (key item) (f item) = item) :
    StablyGrouped key items
      ((groups key f items).toList.flatMap fun group => group.2.map (back group.1)) := by
  have hread : (groups key f items).toList.flatMap (fun group => group.2.map (back group.1)) =
      (groups key f items).keys.flatMap (under key items) := by
    rw [toList_groups, List.flatMap_map]
    refine congrArg List.flatten (List.map_congr_left fun k _ => ?_)
    rw [List.map_map]
    refine (List.map_congr_left fun item hitem => ?_).trans (List.map_id _)
    obtain ⟨hmem, rfl⟩ := mem_under.mp hitem
    exact hback item hmem
  rw [hread]
  refine ⟨ascending_flatMap_under items Std.ExtTreeMap.ordered_keys, fun k => ?_⟩
  rw [under_flatMap_under items Std.ExtTreeMap.nodup_keys]
  by_cases hmem : k ∈ (groups key f items).keys
  · rw [if_pos hmem]
  · rw [if_neg hmem]
    refine (List.filter_eq_nil_iff.mpr fun item hitem hk => ?_).symm
    exact hmem (mem_keys_groups.mpr ⟨item, hitem, of_decide_eq_true hk⟩)

/-! ## Merging into a map -/

/-- Each item is merged into what the map has under its key. -/
def mergeInto (key : α → κ) (merge : Option β → α → β) (table : Std.ExtTreeMap κ β)
    (items : List α) : Std.ExtTreeMap κ β :=
  items.foldl (fun table item => table.insert (key item) (merge table[key item]? item)) table

/-- **What the map then has under a key** is what the items under the key have made of it, one after
the other. -/
theorem getElem?_mergeInto (merge : Option β → α → β) (table : Std.ExtTreeMap κ β)
    (items : List α) (k : κ) :
    (mergeInto key merge table items)[k]? =
      (under key items k).foldl (fun found item => some (merge found item)) table[k]? := by
  induction items generalizing table with
  | nil => rfl
  | cons item items ih =>
    rw [mergeInto, List.foldl_cons]
    refine (ih _).trans ?_
    rw [getElem?_insert, under_cons]
    by_cases hkey : key item = k
    · rw [if_pos hkey, if_pos hkey, List.foldl_cons, hkey]
    · rw [if_neg hkey, if_neg hkey]

end Groups

end Grouping
