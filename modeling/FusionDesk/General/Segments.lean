import Mathlib.Algebra.Ring.Nat
import Mathlib.Data.List.Basic

/-!
# Segments with separators between them

A text that is cut at its separators, and segments that are joined by one.

* `intercalate_concat`, `intercalate_eq_nil_iff`, `map_intercalate`: joining.
* `splitOnP_intercalate`: segments that are joined come apart again.
* `scan`, `foldl_scan`: a loop over the bytes of a text that hands over a segment at every separator
  and at the end hands over the segments, one after the other.
* `length_intercalate`, `extent_splitOnP`, `extent_flatMap_le`: segments that are shortened or left
  out make a text that is no longer.
-/

namespace Segments

variable {α β σ : Type*}

/-! ## Joining -/

theorem intercalate_concat (separator l : List α) {ls : List (List α)} (h : ls ≠ []) :
    separator.intercalate (ls ++ [l]) = separator.intercalate ls ++ separator ++ l := by
  induction ls with
  | nil => exact absurd rfl h
  | cons first ls ih =>
    cases ls with
    | nil => rw [List.singleton_append, List.intercalate_cons_cons, List.intercalate_singleton,
        List.intercalate_singleton]
    | cons second ls =>
      have hrest := ih (List.cons_ne_nil _ _)
      rw [List.cons_append] at hrest
      rw [List.cons_append, List.cons_append, List.intercalate_cons_cons, hrest,
        List.intercalate_cons_cons]
      simp only [List.append_assoc]

theorem intercalate_eq_nil_iff {separator : List α} {ls : List (List α)} (h : ∀ l ∈ ls, l ≠ []) :
    separator.intercalate ls = [] ↔ ls = [] := by
  refine ⟨fun hnil => ?_, fun hnil => by rw [hnil, List.intercalate_nil]⟩
  cases ls with
  | nil => rfl
  | cons first ls =>
    refine absurd ?_ (h first List.mem_cons_self)
    cases ls with
    | nil => rwa [List.intercalate_singleton] at hnil
    | cons second ls =>
      rw [List.intercalate_cons_cons, List.append_assoc] at hnil
      exact (List.append_eq_nil_iff.mp hnil).1

theorem map_intercalate (f : α → β) (separator : List α) (ls : List (List α)) :
    (separator.intercalate ls).map f = (separator.map f).intercalate (ls.map (List.map f)) := by
  induction ls with
  | nil => rfl
  | cons first ls ih =>
    cases ls with
    | nil => rw [List.intercalate_singleton, List.map_singleton, List.intercalate_singleton]
    | cons second ls =>
      rw [List.intercalate_cons_cons, List.map_append, List.map_append, ih, List.map_cons,
        List.map_cons, List.map_cons, List.intercalate_cons_cons]

/-- The front of a joined text is that of its first segment. -/
theorem head?_intercalate {separator first : List α} (h : first ≠ []) (ls : List (List α)) :
    (separator.intercalate (first :: ls)).head? = first.head? := by
  cases ls with
  | nil => rw [List.intercalate_singleton]
  | cons second ls =>
    rw [List.intercalate_cons_cons, List.append_assoc, List.head?_append_of_ne_nil _ h]

/-- Its end is that of its last segment. -/
theorem getLast?_intercalate {separator last : List α} (h : last ≠ []) (ls : List (List α)) :
    (separator.intercalate (ls ++ [last])).getLast? = last.getLast? := by
  by_cases hls : ls = []
  · rw [hls, List.nil_append, List.intercalate_singleton]
  · rw [intercalate_concat _ _ hls, List.getLast?_append_of_ne_nil _ h]

/-! ## Cutting -/

variable {p : α → Bool}

/-- **Segments that are joined come apart again.** -/
theorem splitOnP_intercalate {separator : α} (hseparator : p separator = true)
    {ls : List (List α)} (h : ∀ l ∈ ls, ∀ a ∈ l, p a = false) (hne : ls ≠ []) :
    ([separator].intercalate ls).splitOnP p = ls := by
  induction ls with
  | nil => exact absurd rfl hne
  | cons first ls ih =>
    have hfirst := h first List.mem_cons_self
    cases ls with
    | nil => rw [List.intercalate_singleton, List.splitOnP_eq_singleton hfirst]
    | cons second ls =>
      rw [List.intercalate_cons_cons, List.append_assoc, List.singleton_append,
        List.splitOnP_append_cons_of_forall_mem hfirst _ hseparator,
        ih (fun l hl => h l (List.mem_cons_of_mem _ hl)) (List.cons_ne_nil _ _)]

/-- One pass of a loop over a text: at a separator the segment is handed over. -/
def scan (p : α → Bool) (f : α → β) (flush : σ → List β → σ) (acc : σ × List β) (a : α) :
    σ × List β :=
  if p a then (flush acc.1 acc.2, []) else (acc.1, acc.2 ++ [f a])

/-- **The loop hands over the segments of the text.** -/
theorem foldl_scan (f : α → β) (flush : σ → List β → σ) (text : List α) (acc : σ × List β) :
    flush (text.foldl (scan p f flush) acc).1 (text.foldl (scan p f flush) acc).2 =
      (((text.splitOnP p).map (List.map f)).modifyHead (acc.2 ++ ·)).foldl flush acc.1 := by
  induction text generalizing acc with
  | nil =>
    rw [List.splitOnP_nil, List.map_singleton, List.map_nil, List.modifyHead_cons, List.append_nil]
    rfl
  | cons a text ih =>
    rw [List.foldl_cons, ih, List.splitOnP_cons_eq_if_modifyHead]
    obtain ⟨first, rest, hsplit⟩ := List.exists_cons_of_ne_nil (List.splitOnP_ne_nil p text)
    rw [hsplit]
    cases hp : p a with
    | true => simp [scan, hp]
    | false => simp [scan, hp]

/-! ## Lengths -/

/-- What segments take up with a separator for each. -/
def extent (ls : List (List α)) : ℕ := (ls.map fun l => l.length + 1).sum

theorem extent_cons (l : List α) (ls : List (List α)) :
    extent (l :: ls) = l.length + 1 + extent ls := by
  rw [extent, List.map_cons, List.sum_cons, ← extent]

theorem extent_append (ls ls' : List (List α)) : extent (ls ++ ls') = extent ls + extent ls' := by
  rw [extent, List.map_append, List.sum_append, ← extent, ← extent]

theorem length_intercalate (separator : α) {ls : List (List α)} (h : ls ≠ []) :
    ([separator].intercalate ls).length + 1 = extent ls := by
  induction ls with
  | nil => exact absurd rfl h
  | cons first ls ih =>
    cases ls with
    | nil => simp [extent]
    | cons second ls =>
      have hrest := ih (List.cons_ne_nil _ _)
      rw [List.intercalate_cons_cons, List.length_append, List.length_append, extent_cons,
        List.length_singleton]
      omega

theorem extent_splitOnP (p : α → Bool) (text : List α) :
    extent (text.splitOnP p) = text.length + 1 := by
  induction text with
  | nil => rfl
  | cons a text ih =>
    rw [List.splitOnP_cons_eq_if_modifyHead]
    obtain ⟨first, rest, hsplit⟩ := List.exists_cons_of_ne_nil (List.splitOnP_ne_nil p text)
    rw [hsplit, extent_cons] at ih
    rw [hsplit]
    split
    · rw [extent_cons, extent_cons, List.length_nil, List.length_cons]
      omega
    · rw [List.modifyHead_cons, extent_cons, List.length_cons, List.length_cons]
      omega

/-- **Segments that are shortened or left out take up no more.** -/
theorem extent_flatMap_le {g : List α → List (List β)}
    (h : ∀ l, extent (g l) ≤ l.length + 1) (ls : List (List α)) :
    extent (ls.flatMap g) ≤ extent ls := by
  induction ls with
  | nil => exact Nat.le_refl _
  | cons l ls ih =>
    have hfirst := h l
    rw [List.flatMap_cons, extent_append, extent_cons]
    omega

end Segments
