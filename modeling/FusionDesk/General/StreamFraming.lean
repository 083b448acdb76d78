import Mathlib.Data.List.Basic
import Mathlib.Tactic.Common

/-!
# Cutting a stream into frames

A receiver keeps the bytes it has not used yet in a buffer, appends every chunk that arrives, and
looks at the front of the buffer: it waits for more, takes one frame off the front, or refuses what
it sees and throws the whole buffer away.  This file studies such a receiver over any alphabet and
any kind of event.

A `Framer` is the look together with what makes it a look at a stream: a verdict once reached stays
when more arrives, and a frame is recognised from its own bytes.  `walk` is the receiver's loop on
one buffer and `receiveAll` its run over a list of chunks.

* `walk_append_of_none`, `walk_append_of_some`: the loop on a longer buffer.
* `receiveAll_of_none`: as long as nothing is refused, the run over any chunks is the loop on their
  concatenation.
* `receiveAll_of_prompt`: the same when the refused front is refused by no proper prefix, so that
  nothing is left behind it to throw away.
* `exists_late_chunks`: otherwise some chunks are read differently, since what one run throws away
  another one reads.
* `walk_prefix_receiveAll`: in any case the events before the first refusal are the same.
-/

namespace StreamFraming

/-- What a look at the front of the buffer says: wait for more, take `size` entries off the front,
or refuse the buffer. -/
inductive Verdict (ε : Type*) where
  | wait
  | frame (size : ℕ) (event : ε)
  | reject (event : ε)

/-- A look at the front of a buffer whose verdicts do not depend on what follows. -/
structure Framer (α ε : Type*) where
  /-- The verdict on a buffer. -/
  look : List α → Verdict ε
  /-- There is nothing to see in an empty buffer. -/
  look_nil : look [] = .wait
  /-- A frame is not empty and lies within the buffer. -/
  frame_size : ∀ {b : List α} {n : ℕ} {e : ε}, look b = .frame n e → 0 < n ∧ n ≤ b.length
  /-- A frame is recognised from its own entries. -/
  frame_take : ∀ {b : List α} {n : ℕ} {e : ε}, look b = .frame n e → look (b.take n) = .frame n e
  /-- A verdict stays when more arrives. -/
  stable : ∀ {b : List α} (c : List α), look b ≠ .wait → look (b ++ c) = look b

namespace Framer

variable {α ε : Type*} (F : Framer α ε)

/-! ## The loop on one buffer -/

/-- The receiver's loop: the events, and what stays in the buffer. -/
def walk (b : List α) : List ε × List α :=
  match _h : F.look b with
  | .wait => ([], b)
  | .frame n e => (e :: (walk (b.drop n)).1, (walk (b.drop n)).2)
  | .reject e => ([e], [])
termination_by b.length
decreasing_by
  all_goals
    have := F.frame_size _h
    rw [List.length_drop]
    omega

/-- The part of the buffer the loop refuses, from the refused front on. -/
def rejection (b : List α) : Option (List α) :=
  match _h : F.look b with
  | .wait => none
  | .frame n _ => rejection (b.drop n)
  | .reject _ => some b
termination_by b.length
decreasing_by
  have := F.frame_size _h
  rw [List.length_drop]
  omega

variable {F} {b : List α} {n : ℕ} {e : ε}

/-- One round of the loop. -/
theorem walk_eq (b : List α) : F.walk b =
    match F.look b with
    | .wait => ([], b)
    | .frame n e => (e :: (F.walk (b.drop n)).1, (F.walk (b.drop n)).2)
    | .reject e => ([e], []) := by
  rw [walk]
  split <;> rename_i hlook <;> rw [hlook]

theorem rejection_eq (b : List α) : F.rejection b =
    match F.look b with
    | .wait => none
    | .frame n _ => F.rejection (b.drop n)
    | .reject _ => some b := by
  rw [rejection]
  split <;> rename_i hlook <;> rw [hlook]

theorem walk_wait (h : F.look b = .wait) : F.walk b = ([], b) := by
  rw [walk_eq, h]

theorem walk_frame (h : F.look b = .frame n e) :
    F.walk b = (e :: (F.walk (b.drop n)).1, (F.walk (b.drop n)).2) := by
  rw [walk_eq, h]

theorem walk_reject (h : F.look b = .reject e) : F.walk b = ([e], []) := by
  rw [walk_eq, h]

theorem rejection_wait (h : F.look b = .wait) : F.rejection b = none := by
  rw [rejection_eq, h]

theorem rejection_frame (h : F.look b = .frame n e) :
    F.rejection b = F.rejection (b.drop n) := by
  rw [rejection_eq, h]

theorem rejection_reject (h : F.look b = .reject e) : F.rejection b = some b := by
  rw [rejection_eq, h]

@[simp] theorem walk_nil : F.walk [] = ([], []) := walk_wait F.look_nil

/-- A frame at the front is still there when more arrives. -/
theorem look_append_frame (c : List α) (h : F.look b = .frame n e) :
    F.look (b ++ c) = .frame n e := by
  have hwait : F.look b ≠ .wait := by rw [h]; simp
  rw [F.stable c hwait, h]

theorem look_append_reject (c : List α) (h : F.look b = .reject e) :
    F.look (b ++ c) = .reject e := by
  have hwait : F.look b ≠ .wait := by rw [h]; simp
  rw [F.stable c hwait, h]

/-- Induction along the loop. -/
theorem walk_induction {motive : List α → Prop} (wait : ∀ b, F.look b = .wait → motive b)
    (frame : ∀ b n e, F.look b = .frame n e → motive (b.drop n) → motive b)
    (reject : ∀ b e, F.look b = .reject e → motive b) (b : List α) : motive b := by
  induction hk : b.length using Nat.strongRecOn generalizing b with
  | _ k ih =>
    rcases h : F.look b with _ | ⟨n, e⟩ | e
    · exact wait b h
    · have hsize := F.frame_size h
      refine frame b n e h (ih (b.drop n).length ?_ _ rfl)
      rw [List.length_drop]
      omega
    · exact reject b e h

/-- When nothing is refused, the loop stops where there is nothing to see yet. -/
theorem look_walk_of_none (b : List α) (h : F.rejection b = none) :
    F.look (F.walk b).2 = .wait := by
  induction b using F.walk_induction with
  | wait b hb => rw [walk_wait hb]; exact hb
  | frame b n e hb ih =>
    rw [walk_frame hb]
    exact ih (by rw [← rejection_frame hb]; exact h)
  | reject b e hb =>
    rw [rejection_reject hb] at h
    cases h

/-! ## A longer buffer -/

/-- **The loop goes on from where it waited.** -/
theorem walk_append_of_none (b c : List α) (h : F.rejection b = none) :
    F.walk (b ++ c) = ((F.walk b).1 ++ (F.walk ((F.walk b).2 ++ c)).1,
      (F.walk ((F.walk b).2 ++ c)).2) := by
  induction b using F.walk_induction with
  | wait b hb => rw [walk_wait hb]; rfl
  | frame b n e hb ih =>
    have hn := (F.frame_size hb).2
    have hrest := ih (by rw [← rejection_frame hb]; exact h)
    rw [walk_frame hb, walk_frame (look_append_frame c hb), List.drop_append_of_le_length hn, hrest]
    rfl
  | reject b e hb =>
    rw [rejection_reject hb] at h
    cases h

theorem rejection_append_of_none (b c : List α) (h : F.rejection b = none) :
    F.rejection (b ++ c) = F.rejection ((F.walk b).2 ++ c) := by
  induction b using F.walk_induction with
  | wait b hb => rw [walk_wait hb]
  | frame b n e hb ih =>
    have hn := (F.frame_size hb).2
    rw [walk_frame hb, rejection_frame (look_append_frame c hb),
      List.drop_append_of_le_length hn]
    exact ih (by rw [← rejection_frame hb]; exact h)
  | reject b e hb =>
    rw [rejection_reject hb] at h
    cases h

/-- **What follows a refused front is thrown away with it.** -/
theorem walk_append_of_some (b c : List α) {r : List α} (h : F.rejection b = some r) :
    F.walk (b ++ c) = F.walk b := by
  induction b using F.walk_induction with
  | wait b hb =>
    rw [rejection_wait hb] at h
    cases h
  | frame b n e hb ih =>
    have hn := (F.frame_size hb).2
    rw [walk_frame hb, walk_frame (look_append_frame c hb), List.drop_append_of_le_length hn,
      ih (by rw [← rejection_frame hb]; exact h)]
  | reject b e hb => rw [walk_reject hb, walk_reject (look_append_reject c hb)]

theorem rejection_append_of_some (b c : List α) {r : List α} (h : F.rejection b = some r) :
    F.rejection (b ++ c) = some (r ++ c) := by
  induction b using F.walk_induction with
  | wait b hb =>
    rw [rejection_wait hb] at h
    cases h
  | frame b n e hb ih =>
    have hn := (F.frame_size hb).2
    rw [rejection_frame (look_append_frame c hb), List.drop_append_of_le_length hn]
    exact ih (by rw [← rejection_frame hb]; exact h)
  | reject b e hb =>
    rw [rejection_reject hb, Option.some_inj] at h
    rw [rejection_reject (look_append_reject c hb), h]

theorem walk_snd_of_some (b : List α) {r : List α} (h : F.rejection b = some r) :
    (F.walk b).2 = [] := by
  induction b using F.walk_induction with
  | wait b hb =>
    rw [rejection_wait hb] at h
    cases h
  | frame b n e hb ih =>
    rw [walk_frame hb]
    exact ih (by rw [← rejection_frame hb]; exact h)
  | reject b e hb => rw [walk_reject hb]

/-- A buffer that is not empty gives an event or stays. -/
theorem walk_ne_nil (hb : b ≠ []) : (F.walk b).1 ≠ [] ∨ (F.walk b).2 ≠ [] := by
  rcases h : F.look b with _ | ⟨n, e⟩ | e
  · rw [walk_wait h]
    exact Or.inr hb
  · rw [walk_frame h]
    exact Or.inl (List.cons_ne_nil _ _)
  · rw [walk_reject h]
    exact Or.inl (List.cons_ne_nil _ _)

/-- The refused part is the end of the buffer, its front is refused, and the frames before it are
recognised whatever follows them. -/
theorem exists_front_of_some (b : List α) {r : List α} (h : F.rejection b = some r) :
    ∃ front, b = front ++ r ∧ (∃ e, F.look r = .reject e) ∧
      ∀ q, F.rejection (front ++ q) = F.rejection q := by
  induction b using F.walk_induction with
  | wait b hb =>
    rw [rejection_wait hb] at h
    cases h
  | frame b n e hb ih =>
    obtain ⟨front, hfront, hr, hq⟩ := ih (by rw [← rejection_frame hb]; exact h)
    refine ⟨b.take n ++ front, ?_, hr, fun q => ?_⟩
    · rw [List.append_assoc, ← hfront, List.take_append_drop]
    · have hn := (F.frame_size hb).2
      have hlen : (b.take n).length = n := by
        rw [List.length_take]
        omega
      rw [List.append_assoc, rejection_frame (look_append_frame _ (F.frame_take hb)),
        List.drop_append_of_le_length (by omega), List.drop_of_length_le (by omega),
        List.nil_append]
      exact hq q
  | reject b e hb =>
    rw [rejection_reject hb, Option.some_inj] at h
    exact ⟨[], h, ⟨e, h ▸ hb⟩, fun q => rfl⟩

/-! ## A run over chunks -/

variable (F) in
/-- One chunk arrives: it is appended to the buffer and the loop runs. -/
def receive (state : List ε × List α) (chunk : List α) : List ε × List α :=
  (state.1 ++ (F.walk (state.2 ++ chunk)).1, (F.walk (state.2 ++ chunk)).2)

variable (F) in
/-- The chunks arrive one after the other. -/
def receiveAll (state : List ε × List α) (chunks : List (List α)) : List ε × List α :=
  chunks.foldl F.receive state

@[simp] theorem receiveAll_nil (state : List ε × List α) : F.receiveAll state [] = state := rfl

@[simp] theorem receiveAll_cons (state : List ε × List α) (c : List α) (cs : List (List α)) :
    F.receiveAll state (c :: cs) = F.receiveAll (F.receive state c) cs := rfl

/-- Events are only ever added. -/
theorem prefix_receiveAll (state : List ε × List α) (cs : List (List α)) :
    state.1 <+: (F.receiveAll state cs).1 := by
  induction cs generalizing state with
  | nil => exact List.prefix_refl _
  | cons c cs ih => exact (List.prefix_append _ _).trans (ih (F.receive state c))

/-- Empty chunks change nothing once the buffer is empty. -/
theorem receiveAll_of_flatten_nil (log : List ε) {cs : List (List α)} (h : cs.flatten = []) :
    F.receiveAll (log, []) cs = (log, []) := by
  induction cs with
  | nil => rfl
  | cons c cs ih =>
    rw [List.flatten_cons, List.append_eq_nil_iff] at h
    rw [receiveAll_cons, receive, h.1]
    simpa using ih h.2

/-- **Without a refusal the cuts do not matter.** -/
theorem receiveAll_of_none (log : List ε) (buffer : List α) (cs : List (List α))
    (hwait : F.look buffer = .wait) (h : F.rejection (buffer ++ cs.flatten) = none) :
    F.receiveAll (log, buffer) cs = (log ++ (F.walk (buffer ++ cs.flatten)).1,
      (F.walk (buffer ++ cs.flatten)).2) := by
  induction cs generalizing log buffer with
  | nil => rw [receiveAll_nil, List.flatten_nil, List.append_nil, walk_wait hwait, List.append_nil]
  | cons c cs ih =>
    rw [List.flatten_cons, ← List.append_assoc] at h ⊢
    have hc : F.rejection (buffer ++ c) = none := by
      by_contra hne
      obtain ⟨r, hr⟩ := Option.ne_none_iff_exists'.mp hne
      rw [rejection_append_of_some _ _ hr] at h
      cases h
    rw [rejection_append_of_none _ _ hc] at h
    rw [receiveAll_cons, receive, ih _ _ (look_walk_of_none _ hc) h,
      walk_append_of_none _ _ hc, List.append_assoc]

/-- The refused front is refused by no shorter piece of itself. -/
def Prompt (F : Framer α ε) (r : List α) : Prop :=
  ∀ q, q <+: r → q ≠ r → F.look q = .wait

/-- **A prompt refusal leaves nothing to throw away, so the cuts do not matter.** -/
theorem receiveAll_of_prompt (log : List ε) (buffer : List α) (cs : List (List α))
    (hwait : F.look buffer = .wait) {r : List α}
    (h : F.rejection (buffer ++ cs.flatten) = some r) (hr : F.Prompt r) :
    F.receiveAll (log, buffer) cs = (log ++ (F.walk (buffer ++ cs.flatten)).1,
      (F.walk (buffer ++ cs.flatten)).2) := by
  induction cs generalizing log buffer with
  | nil =>
    rw [List.flatten_nil, List.append_nil, rejection_wait hwait] at h
    cases h
  | cons c cs ih =>
    rw [List.flatten_cons, ← List.append_assoc] at h ⊢
    rcases hc : F.rejection (buffer ++ c) with _ | r'
    · rw [rejection_append_of_none _ _ hc] at h
      rw [receiveAll_cons, receive, ih _ _ (look_walk_of_none _ hc) h,
        walk_append_of_none _ _ hc, List.append_assoc]
    · -- the refusal happens in this chunk, so nothing follows it
      rw [rejection_append_of_some _ _ hc, Option.some_inj] at h
      obtain ⟨front, -, ⟨e, he⟩, -⟩ := exists_front_of_some _ hc
      have hall : r' = r := by
        by_contra hne
        rw [hr r' ⟨_, h⟩ hne] at he
        cases he
      have hnil : cs.flatten = [] := by
        rw [hall] at h
        exact List.append_right_eq_self.mp h
      have hend : F.walk (buffer ++ c) = ((F.walk (buffer ++ c)).1, []) :=
        Prod.ext rfl (walk_snd_of_some _ hc)
      rw [hnil, List.append_nil, receiveAll_cons, receive, hend,
        receiveAll_of_flatten_nil _ hnil]

/-- **The events up to the first refusal do not depend on the cuts.** -/
theorem walk_prefix_receiveAll (log : List ε) (buffer : List α) (cs : List (List α))
    (hwait : F.look buffer = .wait) :
    log ++ (F.walk (buffer ++ cs.flatten)).1 <+: (F.receiveAll (log, buffer) cs).1 := by
  induction cs generalizing log buffer with
  | nil =>
    rw [List.flatten_nil, List.append_nil, walk_wait hwait, List.append_nil]
    exact List.prefix_refl _
  | cons c cs ih =>
    rw [List.flatten_cons, ← List.append_assoc, receiveAll_cons]
    rcases hc : F.rejection (buffer ++ c) with _ | r
    · rw [walk_append_of_none _ _ hc, ← List.append_assoc]
      exact ih _ _ (look_walk_of_none _ hc)
    · rw [walk_append_of_some _ _ hc]
      exact prefix_receiveAll (F.receive (log, buffer) c) cs

/-- **A refusal that is not prompt makes the cuts matter**: some chunks are read on behind the
refused front, where the loop on the whole stream has stopped. -/
theorem exists_late_chunks (s : List α) {r : List α} (h : F.rejection s = some r)
    (hr : ¬ F.Prompt r) :
    ∃ cs, cs.flatten = s ∧ ∃ extra, (F.receiveAll ([], []) cs).1 = (F.walk s).1 ++ extra ∧
      (extra ≠ [] ∨ (F.receiveAll ([], []) cs).2 ≠ []) := by
  obtain ⟨front, hs, ⟨e, he⟩, hfront⟩ := exists_front_of_some s h
  rw [Prompt] at hr
  push Not at hr
  obtain ⟨q, ⟨rest, hq⟩, hne, hlook⟩ := hr
  have hrest : rest ≠ [] := by
    rintro rfl
    exact hne (by rw [← hq, List.append_nil])
  have hsplit : s = (front ++ q) ++ rest := by rw [hs, ← hq, List.append_assoc]
  -- `q` gets the verdict of `r`, which it begins
  have hqrej : F.rejection (front ++ q) = some q := by
    have hlookq : F.look q = .reject e := by rw [← F.stable rest hlook, hq, he]
    rw [hfront, rejection_reject hlookq]
  have hfirst : F.receive ([], []) (front ++ q) = ((F.walk s).1, []) := by
    rw [hsplit, walk_append_of_some _ _ hqrej]
    exact Prod.ext rfl (walk_snd_of_some _ hqrej)
  refine ⟨[front ++ q, rest], by simp [hsplit], (F.walk rest).1, ?_, ?_⟩
  · rw [receiveAll_cons, hfirst]
    rfl
  · rw [receiveAll_cons, hfirst]
    exact walk_ne_nil hrest

end Framer
end StreamFraming
