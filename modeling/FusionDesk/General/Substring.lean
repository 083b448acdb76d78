import Mathlib.Data.List.Infix

/-!
# Searching for a substring

Where a needle is first in a text, for texts that are put together of known and unknown parts.

* `find`: the first index of the needle.
* `Apart`, `find_append_of_apart`: a part in which no occurrence starts, whatever follows, is
  skipped; such parts are put together by `Apart.append`.
* `find_front`: behind a part without the needle, the needle is found at its own place, if its first
  letter is in no other place of it.
* `infix_iff_find`: a text has the needle in it exactly if it is found.
-/

namespace Substring

variable {α : Type*} [DecidableEq α]

/-- The first index at which the needle is. -/
def find (needle : List α) : List α → Option ℕ
  | [] => if needle = [] then some 0 else none
  | a :: rest => if needle <+: a :: rest then some 0 else (find needle rest).map (· + 1)

/-- An occurrence that starts at the front is found there. -/
theorem find_at_front {needle text : List α} (h : needle <+: text) : find needle text = some 0 := by
  cases text with
  | nil => exact if_pos (List.prefix_nil.mp h)
  | cons a rest => exact if_pos h

theorem find_cons {needle : List α} {a : α} {rest : List α}
    (h : ¬needle <+: a :: rest) : find needle (a :: rest) = (find needle rest).map (· + 1) :=
  if_neg h

/-- What is found is an occurrence. -/
theorem prefix_of_find {needle text : List α} {k : ℕ} (h : find needle text = some k) :
    needle <+: text.drop k ∧ k ≤ text.length := by
  induction text generalizing k with
  | nil =>
    rw [find] at h
    split at h
    next hnil =>
      rw [hnil]
      exact ⟨List.nil_prefix, Nat.le_of_eq (Option.some.inj h).symm⟩
    · cases h
  | cons a rest ih =>
    rw [find] at h
    split at h
    next hfront =>
      cases h
      exact ⟨hfront, Nat.zero_le _⟩
    · obtain ⟨k', hk', rfl⟩ := Option.map_eq_some_iff.mp h
      obtain ⟨hocc, hle⟩ := ih hk'
      exact ⟨hocc, Nat.succ_le_succ hle⟩

/-- **A text has the needle in it exactly if it is found.** -/
theorem infix_iff_find {needle text : List α} :
    needle <:+: text ↔ ∃ k, find needle text = some k := by
  constructor
  · intro h
    induction text with
    | nil => exact ⟨0, find_at_front (List.infix_nil.mp h ▸ List.nil_prefix)⟩
    | cons a rest ih =>
      by_cases hfront : needle <+: a :: rest
      · exact ⟨0, find_at_front hfront⟩
      · obtain ⟨k, hk⟩ := ih ((List.infix_cons_iff.mp h).resolve_left hfront)
        exact ⟨k + 1, by rw [find_cons hfront, hk]; rfl⟩
  · rintro ⟨k, hk⟩
    exact (prefix_of_find hk).1.isInfix.trans (List.drop_suffix k text).isInfix

/-- Nothing that is found is in front of the first occurrence. -/
theorem not_infix_take {needle text : List α} (hne : needle ≠ []) {k : ℕ}
    (h : find needle text = some k) : ¬needle <:+: text.take k := by
  induction text generalizing k with
  | nil => rw [List.take_nil, List.infix_nil]; exact hne
  | cons a rest ih =>
    by_cases hfront : needle <+: a :: rest
    · rw [find_at_front hfront] at h
      cases h
      rw [List.take_zero, List.infix_nil]
      exact hne
    · rw [find_cons hfront] at h
      obtain ⟨k', hk', rfl⟩ := Option.map_eq_some_iff.mp h
      rw [List.take_succ_cons, List.infix_cons_iff, not_or]
      refine ⟨fun hocc => hfront ?_, ih hk'⟩
      exact hocc.trans (List.cons_prefix_cons.mpr ⟨rfl, List.take_prefix k' rest⟩)

/-! ## Parts that are skipped -/

/-- No occurrence of the needle starts in the part, whatever follows it: at each place of it, it
differs from the needle within the part. -/
def Apart (needle : List α) : List α → Prop
  | [] => True
  | a :: rest => ¬a :: rest <+: needle ∧ ¬needle <+: a :: rest ∧ Apart needle rest

instance decidableApart (needle : List α) : (part : List α) → Decidable (Apart needle part)
  | [] => isTrue trivial
  | _ :: rest =>
    have : Decidable (Apart needle rest) := decidableApart needle rest
    inferInstanceAs (Decidable (_ ∧ _ ∧ _))

omit [DecidableEq α] in
theorem Apart.differs {needle : List α} {a : α} {part : List α} (h : Apart needle (a :: part))
    (rest : List α) : ¬needle <+: a :: part ++ rest := by
  intro hocc
  rcases List.prefix_or_prefix_of_prefix hocc (List.prefix_append (a :: part) rest) with h' | h'
  · exact h.2.1 h'
  · exact h.1 h'

omit [DecidableEq α] in
theorem Apart.append {needle part rest : List α} (hpart : Apart needle part)
    (hrest : Apart needle rest) : Apart needle (part ++ rest) := by
  induction part with
  | nil => exact hrest
  | cons a part ih =>
    exact ⟨fun h => hpart.1 ((List.prefix_append _ _).trans h), hpart.differs rest, ih hpart.2.2⟩

omit [DecidableEq α] in
/-- A part without the first letter of the needle. -/
theorem Apart.of_not_mem {needle part : List α} {first : α} (hfirst : needle.head? = some first)
    (h : first ∉ part) : Apart needle part := by
  obtain ⟨others, rfl⟩ := List.head?_eq_some_iff.mp hfirst
  induction part with
  | nil => trivial
  | cons a part ih =>
    have hne : a ≠ first := fun heq => h (heq ▸ List.mem_cons_self)
    refine ⟨fun hocc => hne ?_, fun hocc => hne ?_,
      ih fun hmem => h (List.mem_cons_of_mem a hmem)⟩
    · exact (List.cons_prefix_cons.mp hocc).1
    · exact (List.cons_prefix_cons.mp hocc).1.symm

/-- **Such a part is skipped.** -/
theorem find_append_of_apart {needle part : List α} (h : Apart needle part) (rest : List α) :
    find needle (part ++ rest) = (find needle rest).map (· + part.length) := by
  induction part with
  | nil => exact Option.map_id'.symm
  | cons a part ih =>
    have hskip := find_cons (h.differs rest)
    rw [List.append_eq, ih h.2.2, Option.map_map] at hskip
    exact hskip

/-- The needle is found behind such a part. -/
theorem find_behind {needle part : List α} (h : Apart needle part) (rest : List α) :
    find needle (part ++ (needle ++ rest)) = some part.length := by
  rw [find_append_of_apart h, find_at_front (List.prefix_append needle rest), Option.map_some,
    Nat.zero_add]

/-! ## A needle behind an unknown text -/

/-- **Where the first needle is, if one is behind the text**: in the text, or else behind it.  The
first letter of the needle is in no other place of it, so that none starts in the text and ends
behind it. -/
theorem find_front {needle : List α} {first : α} (hfirst : needle.head? = some first)
    (honce : first ∉ needle.tail) (text rest : List α) :
    find needle (text ++ (needle ++ rest)) = some ((find needle text).getD text.length) := by
  induction text with
  | nil =>
    have hnot : find needle ([] : List α) = none := by
      refine if_neg fun h => ?_
      rw [h] at hfirst
      cases hfirst
    rw [hnot]
    exact find_at_front (List.prefix_append _ rest)
  | cons a text ih =>
    by_cases hfront : needle <+: a :: text
    · rw [find_at_front hfront]
      exact find_at_front (hfront.trans (List.prefix_append _ _))
    · have hnot : ¬needle <+: a :: text ++ (needle ++ rest) := by
        intro h
        rcases List.prefix_or_prefix_of_prefix h (List.prefix_append (a :: text) _) with h' | h'
        · exact hfront h'
        · -- The text would be a part of the needle, and another needle start within this one.
          obtain ⟨tail, htail⟩ := h'
          have hsecond : tail <+: needle ++ rest := by
            rw [← List.prefix_append_right_inj (a :: text), htail]
            exact h
          obtain ⟨others, hneedle⟩ := List.head?_eq_some_iff.mp hfirst
          cases tail with
          | nil =>
            rw [List.append_nil] at htail
            exact hfront (htail ▸ List.prefix_rfl)
          | cons b tail =>
            rw [hneedle] at hsecond
            have hb : b = first := (List.cons_prefix_cons.mp hsecond).1
            refine honce ?_
            rw [← htail, hb]
            exact List.mem_append_right text List.mem_cons_self
      have hskip := find_cons hnot
      rw [List.append_eq, ih] at hskip
      refine hskip.trans ?_
      rw [find_cons hfront, Option.map_some, List.length_cons]
      cases find needle text with
      | none => rfl
      | some k => rfl

end Substring
