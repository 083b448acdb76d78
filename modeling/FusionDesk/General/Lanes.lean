import Mathlib.Algebra.BigOperators.Fin
import Mathlib.Algebra.Order.BigOperators.Group.Finset
import Mathlib.Data.List.FinRange

/-!
# A row of queues

`n` queues side by side, the lower the number the more urgent, and what is done with them: push at
the back of one, pop from the front of the first that is not empty, take out the first item that
matches, or clear everything that matches.

* `total`, `countIn`: the items of all the lanes, and how many of them match.
* `removeFirst_eq_some_iff`: what taking the first match does to a queue.
* `popFirst_eq_some_iff`: what a pop does to the lanes.
* `total_push`, `total_remove`, `total_replace`, and the same for `countIn`: the books after each
  change.
-/

namespace Lanes

variable {n : ℕ} {α : Type*}

/-! ## The items of all the lanes -/

/-- All items, with their multiplicities. -/
def total (lanes : Fin n → List α) : Multiset α := ∑ i, (lanes i : Multiset α)

/-- How many items match. -/
def countIn (p : α → Bool) (lanes : Fin n → List α) : ℕ := ∑ i, (lanes i).countP p

/-- Replacing one lane replaces its share of a sum over the lanes. -/
theorem sum_update {M : Type*} [AddCommMonoid M] (f : List α → M) (lanes : Fin n → List α)
    (i : Fin n) (l : List α) :
    ∑ j, f (Function.update lanes i l j) + f (lanes i) = ∑ j, f (lanes j) + f l := by
  have hrest : ∑ j ∈ Finset.univ.erase i, f (Function.update lanes i l j) =
      ∑ j ∈ Finset.univ.erase i, f (lanes j) := by
    refine Finset.sum_congr rfl fun j hj => ?_
    rw [Function.update_of_ne (Finset.ne_of_mem_erase hj)]
  rw [← Finset.sum_erase_add _ _ (Finset.mem_univ i),
    ← Finset.sum_erase_add _ (fun j => f (lanes j)) (Finset.mem_univ i), hrest,
    Function.update_self, add_right_comm]

/-! ## Taking the first match -/

/-- The first item that matches, and the queue without it. -/
def removeFirst (p : α → Bool) (queue : List α) : Option (α × List α) :=
  (queue.find? p).map fun a => (a, queue.eraseP p)

/-- **What taking the first match does**: the items before it do not match and everything else
keeps its place. -/
theorem removeFirst_eq_some_iff {p : α → Bool} {queue rest : List α} {a : α} :
    removeFirst p queue = some (a, rest) ↔
      ∃ front back, queue = front ++ a :: back ∧ rest = front ++ back ∧ p a ∧
        ∀ b ∈ front, ¬ p b := by
  rw [removeFirst, Option.map_eq_some_iff]
  constructor
  · rintro ⟨b, hfind, hpair⟩
    obtain ⟨rfl, rfl⟩ := Prod.mk.inj hpair
    obtain ⟨hpb, front, back, rfl, hfront⟩ := List.find?_eq_some_iff_append.mp hfind
    have hfront' : ∀ c ∈ front, ¬ p c := fun c hc => by simpa using hfront c hc
    refine ⟨front, back, rfl, ?_, hpb, hfront'⟩
    rw [List.eraseP_append_right _ hfront', List.eraseP_cons_of_pos hpb]
  · rintro ⟨front, back, rfl, rfl, hpa, hfront⟩
    refine ⟨a, ?_, ?_⟩
    · rw [List.find?_append, List.find?_eq_none.mpr hfront, Option.none_or,
        List.find?_cons_of_pos hpa]
    · rw [List.eraseP_append_right _ hfront, List.eraseP_cons_of_pos hpa]

theorem removeFirst_eq_none_iff {p : α → Bool} {queue : List α} :
    removeFirst p queue = none ↔ ∀ a ∈ queue, ¬ p a := by
  rw [removeFirst, Option.map_eq_none_iff, List.find?_eq_none]

/-! ## The most urgent item -/

/-- The front of the first lane that is not empty, and the lanes without it. -/
def popFirst (lanes : Fin n → List α) : Option (α × (Fin n → List α)) :=
  (List.finRange n).findSome? fun i =>
    match lanes i with
    | [] => none
    | a :: rest => some (a, Function.update lanes i rest)

/-- **What a pop does**: the lanes before the popped one are empty. -/
theorem popFirst_eq_some_iff {lanes after : Fin n → List α} {a : α} :
    popFirst lanes = some (a, after) ↔
      ∃ i rest, lanes i = a :: rest ∧ (∀ j < i, lanes j = []) ∧
        after = Function.update lanes i rest := by
  rw [popFirst, List.findSome?_eq_some_iff]
  constructor
  · rintro ⟨front, i, back, hsplit, hi, hfront⟩
    rcases hlane : lanes i with _ | ⟨b, rest⟩
    · rw [hlane] at hi
      cases hi
    · rw [hlane] at hi
      obtain ⟨rfl, rfl⟩ := Prod.mk.inj (Option.some.inj hi)
      refine ⟨i, rest, hlane, fun j hj => ?_, rfl⟩
      have hmem : j ∈ front := by
        have hall : j ∈ front ++ i :: back := hsplit ▸ List.mem_finRange j
        rcases List.mem_append.mp hall with hj' | hj'
        · exact hj'
        · have hsorted : (front ++ i :: back).Pairwise (· < ·) :=
            hsplit ▸ List.pairwise_lt_finRange n
          rcases List.mem_cons.mp hj' with rfl | hback
          · exact absurd hj (lt_irrefl _)
          · have hlt := List.rel_of_pairwise_cons (List.pairwise_append.mp hsorted).2.1 hback
            exact absurd hj (not_lt_of_gt hlt)
      have hnone := hfront j hmem
      rcases hlane' : lanes j with _ | ⟨c, tail⟩
      · rfl
      · rw [hlane'] at hnone
        cases hnone
  · rintro ⟨i, rest, hi, hbefore, rfl⟩
    obtain ⟨front, back, hsplit⟩ := List.append_of_mem (List.mem_finRange i)
    refine ⟨front, i, back, hsplit, by rw [hi], fun j hj => ?_⟩
    have hsorted : (front ++ i :: back).Pairwise (· < ·) := hsplit ▸ List.pairwise_lt_finRange n
    have hlt : j < i :=
      (List.pairwise_append.mp hsorted).2.2 j hj i List.mem_cons_self
    rw [hbefore j hlt]

theorem popFirst_eq_none_iff {lanes : Fin n → List α} :
    popFirst lanes = none ↔ ∀ i, lanes i = [] := by
  rw [popFirst, List.findSome?_eq_none_iff]
  constructor
  · intro h i
    have hi := h i (List.mem_finRange i)
    rcases hlane : lanes i with _ | ⟨a, rest⟩
    · rfl
    · rw [hlane] at hi
      cases hi
  · intro h i _
    rw [h i]

/-! ## The books after each change -/

theorem total_push (lanes : Fin n → List α) (i : Fin n) (a : α) :
    total (Function.update lanes i (lanes i ++ [a])) = total lanes + {a} := by
  have h := sum_update (fun l : List α => (l : Multiset α)) lanes i (lanes i ++ [a])
  rw [← Multiset.coe_add, ← add_assoc, add_right_comm] at h
  exact add_right_cancel h

theorem total_remove {lanes : Fin n → List α} {i : Fin n} {a : α} {front back : List α}
    (h : lanes i = front ++ a :: back) :
    total lanes = total (Function.update lanes i (front ++ back)) + {a} := by
  have hsum := sum_update (fun l : List α => (l : Multiset α)) lanes i (front ++ back)
  have hlane : (lanes i : Multiset α) = {a} + ((front ++ back : List α) : Multiset α) := by
    rw [h, Multiset.singleton_add, Multiset.cons_coe]
    exact Multiset.coe_eq_coe.mpr List.perm_middle
  rw [hlane, ← add_assoc] at hsum
  exact (add_right_cancel hsum).symm

/-- Clearing what matches splits the items in two. -/
theorem total_filter (p : α → Bool) (lanes : Fin n → List α) :
    total lanes = total (fun i => (lanes i).filter fun a => !p a) +
      (total lanes).filter fun a => p a := by
  have hfilter : (total lanes).filter (fun a => p a) =
      ∑ i, (((lanes i).filter p : List α) : Multiset α) := by
    let filterHom : Multiset α →+ Multiset α :=
      { toFun := Multiset.filter fun a => p a
        map_zero' := rfl
        map_add' := Multiset.filter_add _ }
    refine (map_sum filterHom _ _).trans (Finset.sum_congr rfl fun i _ => ?_)
    show Multiset.filter (fun a => p a = true) (lanes i : Multiset α) = _
    simp
  rw [hfilter, total, total, ← Finset.sum_add_distrib]
  refine Finset.sum_congr rfl fun i _ => ?_
  have hsplit := Multiset.filter_add_not (fun a => p a = true) (lanes i : Multiset α)
  rw [add_comm, ← hsplit]
  simp

/-- One item goes, another one goes to the back. -/
theorem total_replace {lanes : Fin n → List α} {i : Fin n} {a : α} {front back : List α}
    (h : lanes i = front ++ a :: back) (b : α) :
    total lanes + {b} = total (Function.update lanes i (front ++ back ++ [b])) + {a} := by
  have hpush := total_push (Function.update lanes i (front ++ back)) i b
  rw [Function.update_self, Function.update_idem] at hpush
  rw [hpush, total_remove h, add_right_comm]

theorem countIn_eq_zero_iff {p : α → Bool} {lanes : Fin n → List α} :
    countIn p lanes = 0 ↔ ∀ i, ∀ a ∈ lanes i, ¬ p a := by
  rw [countIn, Finset.sum_eq_zero_iff]
  constructor
  · intro h i a ha
    exact List.countP_eq_zero.mp (h i (Finset.mem_univ i)) a ha
  · intro h i _
    exact List.countP_eq_zero.mpr (h i)

/-- Taking one item out of a lane leaves a sublist of each. -/
theorem update_sublist {lanes : Fin n → List α} {i : Fin n} {a : α} {front back : List α}
    (h : lanes i = front ++ a :: back) (j : Fin n) :
    (Function.update lanes i (front ++ back) j).Sublist (lanes j) := by
  by_cases hj : j = i
  · rw [hj, Function.update_self, h]
    exact (List.sublist_cons_self a back).append_left front
  · rw [Function.update_of_ne hj]

/-- Fewer items, fewer matches. -/
theorem countIn_le_of_sublist (p : α → Bool) {lanes after : Fin n → List α}
    (h : ∀ i, (after i).Sublist (lanes i)) : countIn p after ≤ countIn p lanes :=
  Finset.sum_le_sum fun i _ => (h i).countP_le

theorem countIn_push (p : α → Bool) (lanes : Fin n → List α) (i : Fin n) (a : α) :
    countIn p (Function.update lanes i (lanes i ++ [a])) = countIn p lanes + [a].countP p := by
  have h := sum_update (fun l : List α => l.countP p) lanes i (lanes i ++ [a])
  rw [List.countP_append] at h
  simp only [countIn]
  omega

theorem countIn_remove (p : α → Bool) {lanes : Fin n → List α} {i : Fin n} {a : α}
    {front back : List α} (h : lanes i = front ++ a :: back) :
    countIn p lanes = countIn p (Function.update lanes i (front ++ back)) + [a].countP p := by
  have hsum := sum_update (fun l : List α => l.countP p) lanes i (front ++ back)
  have hlane : (lanes i).countP p = (front ++ back).countP p + [a].countP p := by
    rw [h, List.countP_append, List.countP_append, List.countP_cons, List.countP_singleton]
    omega
  simp only [countIn]
  omega

theorem countIn_replace (p : α → Bool) {lanes : Fin n → List α} {i : Fin n} {a : α}
    {front back : List α} (h : lanes i = front ++ a :: back) (b : α) :
    countIn p lanes + [b].countP p =
      countIn p (Function.update lanes i (front ++ back ++ [b])) + [a].countP p := by
  have hpush := countIn_push p (Function.update lanes i (front ++ back)) i b
  rw [Function.update_self, Function.update_idem] at hpush
  rw [hpush, countIn_remove p h, Nat.add_right_comm]

end Lanes
