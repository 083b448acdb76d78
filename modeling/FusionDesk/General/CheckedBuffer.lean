import Mathlib.Data.List.Range
import Mathlib.Data.List.Flatten
import Mathlib.Tactic.Ring

/-!
# Buffers whose every write is checked and recorded

A program that fills a buffer by index: a write outside the buffer has no result, and a write inside
it is recorded, so that a run says which positions it wrote and in which order.

* `Writes f n indices`: on every buffer of size `n` the step `f` succeeds, keeps the size and writes
  exactly `indices`; rules for one write (`writes_write`), for a value that is read first
  (`writes_read`), for two steps (`Writes.andThen`) and for a loop (`writes_forEach`).
* `exists_of_forEach`: a loop that succeeds has succeeded at each of its values.
* `writes_rows`: a loop that writes the rows of a grid, one after the other, writes the grid.
-/

namespace CheckedBuffer

variable {α β ι : Type*}

/-- A buffer and the positions written so far. -/
structure Canvas (α : Type*) where
  cells : List α
  written : List ℕ

/-- `n` elements, none of them written. -/
def Canvas.blank (n : ℕ) (v : α) : Canvas α where
  cells := List.replicate n v
  written := []

@[simp] theorem Canvas.length_blank (n : ℕ) (v : α) : (Canvas.blank n v).cells.length = n :=
  List.length_replicate

@[simp] theorem Canvas.written_blank (n : ℕ) (v : α) : (Canvas.blank n v).written = [] := rfl

/-- `buffer[i] = v`, which has no result outside the buffer. -/
def Canvas.write (c : Canvas α) (i : ℕ) (v : α) : Option (Canvas α) :=
  if i < c.cells.length then some ⟨c.cells.set i v, c.written ++ [i]⟩ else none

/-- A loop that does `f` at each value of `l`. -/
def forEach (l : List ι) (f : ι → Canvas α → Option (Canvas α)) (c : Canvas α) :
    Option (Canvas α) :=
  l.foldlM (fun c i => f i c) c

/-- On a buffer of size `n`, `f` succeeds and writes exactly `indices`, in this order. -/
def Writes (f : Canvas α → Option (Canvas α)) (n : ℕ) (indices : List ℕ) : Prop :=
  ∀ c : Canvas α, c.cells.length = n →
    ∃ c', f c = some c' ∧ c'.cells.length = n ∧ c'.written = c.written ++ indices

/-- A loop whose every step succeeds has a result. -/
theorem exists_foldlM {f : β → ι → Option β} {l : List ι} (hf : ∀ i ∈ l, ∀ b, ∃ b', f b i = some b')
    (b : β) : ∃ b', l.foldlM f b = some b' := by
  induction l generalizing b with
  | nil => exact ⟨b, rfl⟩
  | cons i rest ih =>
    obtain ⟨b₁, hhead⟩ := hf i List.mem_cons_self b
    obtain ⟨b₂, hrest⟩ := ih (fun j hj => hf j (List.mem_cons_of_mem i hj)) b₁
    exact ⟨b₂, by rw [List.foldlM_cons, hhead]; exact hrest⟩

section Rules

variable {f g : Canvas α → Option (Canvas α)} {n : ℕ} {indices more : List ℕ}

theorem writes_write {i : ℕ} (v : α) (hi : i < n) :
    Writes (fun c : Canvas α => c.write i v) n [i] := by
  intro c hc
  refine ⟨⟨c.cells.set i v, c.written ++ [i]⟩, ?_, ?_, rfl⟩
  · exact if_pos (hc.symm ▸ hi)
  · rw [List.length_set, hc]

theorem Writes.andThen (hf : Writes f n indices) (hg : Writes g n more) :
    Writes (fun c => (f c).bind g) n (indices ++ more) := by
  intro c hc
  obtain ⟨c₁, hc₁, hlength₁, hwritten₁⟩ := hf c hc
  obtain ⟨c₂, hc₂, hlength₂, hwritten₂⟩ := hg c₁ hlength₁
  refine ⟨c₂, ?_, hlength₂, ?_⟩
  · simp only [hc₁, Option.bind_some, hc₂]
  · rw [hwritten₂, hwritten₁, List.append_assoc]

/-- A run from a blank buffer. -/
theorem Writes.blank (hf : Writes f n indices) (v : α) :
    ∃ c, f (Canvas.blank n v) = some c ∧ c.cells.length = n ∧ c.written = indices := by
  obtain ⟨c, hrun, hlength, hwritten⟩ := hf (Canvas.blank n v) (Canvas.length_blank n v)
  exact ⟨c, hrun, hlength, hwritten⟩

/-- A step that reads a value which is there. -/
theorem writes_read {x : Option β} {v : β} {h : β → Canvas α → Option (Canvas α)}
    (hx : x = some v) (hf : Writes (h v) n indices) :
    Writes (fun c => x.bind fun v => h v c) n indices := by
  intro c hc
  simp only [hx, Option.bind_some]
  exact hf c hc

theorem forEach_map (g : β → ι) (l : List β) (f : ι → Canvas α → Option (Canvas α)) :
    forEach (l.map g) f = forEach l fun i => f (g i) := by
  funext c
  exact List.foldlM_map

theorem writes_forEach {f : ι → Canvas α → Option (Canvas α)} {l : List ι} {positions : ι → List ℕ}
    (hf : ∀ i ∈ l, Writes (f i) n (positions i)) : Writes (forEach l f) n (l.flatMap positions) := by
  induction l with
  | nil => exact fun c hc => ⟨c, rfl, hc, (List.append_nil _).symm⟩
  | cons i rest ih =>
    have hhead := hf i List.mem_cons_self
    have hrest := ih fun j hj => hf j (List.mem_cons_of_mem i hj)
    rw [List.flatMap_cons]
    exact hhead.andThen hrest

end Rules

/-- A loop that succeeds has succeeded at each of its values. -/
theorem exists_of_forEach {f : ι → Canvas α → Option (Canvas α)} {l : List ι} {c c' : Canvas α}
    (hrun : forEach l f c = some c') {i : ι} (hi : i ∈ l) :
    ∃ c₀ c₁, f i c₀ = some c₁ := by
  induction l generalizing c with
  | nil => exact absurd hi List.not_mem_nil
  | cons j rest ih =>
    rw [forEach, List.foldlM_cons, Option.bind_eq_bind, Option.bind_eq_some_iff] at hrun
    obtain ⟨c₁, hhead, hrest⟩ := hrun
    obtain rfl | hi := List.mem_cons.1 hi
    · exact ⟨c, c₁, hhead⟩
    · exact ih hrest hi

/-! ## Rows -/

/-- Rows of `w` positions each, one behind the other, are one block. -/
theorem flatMap_rows (base w h : ℕ) :
    ((List.range h).flatMap fun y => List.range' (base + y * w) w) = List.range' base (h * w) := by
  induction h with
  | zero => rw [Nat.zero_mul]; rfl
  | succ h ih =>
    rw [List.range_succ, List.flatMap_append, ih, List.flatMap_singleton, Nat.succ_mul,
      ← List.range'_append_1]

/-- A block from 0 on and the block behind it. -/
theorem range'_append_behind (m n : ℕ) :
    List.range' 0 m ++ List.range' m n = List.range (m + n) := by
  rw [List.range_eq_range', ← List.range'_append_1, Nat.zero_add]

/-- A loop that writes one row after the other. -/
theorem writes_rows {f : ℕ → Canvas α → Option (Canvas α)} {n base w h : ℕ}
    (hf : ∀ y < h, Writes (f y) n (List.range' (base + y * w) w)) :
    Writes (forEach (List.range h) f) n (List.range' base (h * w)) := by
  rw [← flatMap_rows base w h]
  exact writes_forEach fun y hy => hf y (List.mem_range.1 hy)

/-- A place in a row of a grid is a place in the grid. -/
theorem place_lt {y h x w : ℕ} (hy : y < h) (hx : x < w) : y * w + x < h * w :=
  calc y * w + x < y * w + w := Nat.add_lt_add_left hx _
    _ = (y + 1) * w := (Nat.succ_mul y w).symm
    _ ≤ h * w := Nat.mul_le_mul_right w hy

end CheckedBuffer
