import FusionDesk.General.Precedence
import Mathlib.Data.List.Perm.Subperm
import Mathlib.Logic.Function.Basic
import Mathlib.Logic.Relation

/-!
# Depth-first search with three marks

The search that marks a node as entered, visits its successors, marks it as finished and appends it
to the order.  A visit that meets an entered node records it as cyclic.

* `Visits`: what visiting a list of nodes makes of a search, as a relation.
* `visit`, `search`: the evaluator with fuel. `search_visits`: more fuel than there are nodes is
  enough.
* `Sound`: the finished nodes are those in the order, each once; while nothing is cyclic, every node
  of the order comes after its successors; and what is recorded as cyclic is a cycle.
* `search_spec`: the order is a permutation of the nodes; nothing is recorded as cyclic exactly when
  there is no cycle; and then the order is topological.
-/

namespace DepthFirst

open Precedence Relation

inductive Mark
  | unseen
  | entered
  | finished
  deriving DecidableEq, Repr

structure Search (ι : Type*) where
  mark : ι → Mark := fun _ => .unseen
  order : List ι := []
  cyclic : List ι := []

variable {ι : Type*} [DecidableEq ι]

namespace Search

def enter (s : Search ι) (i : ι) : Search ι :=
  { s with mark := Function.update s.mark i .entered }

def finish (s : Search ι) (i : ι) : Search ι :=
  { s with mark := Function.update s.mark i .finished, order := s.order ++ [i] }

def close (s : Search ι) (i : ι) : Search ι := { s with cyclic := s.cyclic ++ [i] }

@[simp] theorem order_enter (s : Search ι) (i : ι) : (s.enter i).order = s.order := rfl
@[simp] theorem cyclic_enter (s : Search ι) (i : ι) : (s.enter i).cyclic = s.cyclic := rfl
@[simp] theorem order_finish (s : Search ι) (i : ι) : (s.finish i).order = s.order ++ [i] := rfl
@[simp] theorem cyclic_finish (s : Search ι) (i : ι) : (s.finish i).cyclic = s.cyclic := rfl
omit [DecidableEq ι] in
@[simp] theorem mark_close (s : Search ι) (i : ι) : (s.close i).mark = s.mark := rfl
omit [DecidableEq ι] in
@[simp] theorem order_close (s : Search ι) (i : ι) : (s.close i).order = s.order := rfl
omit [DecidableEq ι] in
@[simp] theorem cyclic_close (s : Search ι) (i : ι) : (s.close i).cyclic = s.cyclic ++ [i] := rfl

theorem mark_enter (s : Search ι) (i j : ι) :
    (s.enter i).mark j = if j = i then .entered else s.mark j :=
  Function.update_apply ..

theorem mark_finish (s : Search ι) (i j : ι) :
    (s.finish i).mark j = if j = i then .finished else s.mark j :=
  Function.update_apply ..

end Search

variable (succ : ι → List ι)

/-- What visiting the nodes of a list, one after the other, makes of a search. -/
inductive Visits : Search ι → List ι → Search ι → Prop
  | nil (s : Search ι) : Visits s [] s
  | finished {s s' : Search ι} {i : ι} {js : List ι} (hmark : s.mark i = .finished)
      (rest : Visits s js s') : Visits s (i :: js) s'
  | entered {s s' : Search ι} {i : ι} {js : List ι} (hmark : s.mark i = .entered)
      (rest : Visits (s.close i) js s') : Visits s (i :: js) s'
  | unseen {s inner s' : Search ι} {i : ι} {js : List ι} (hmark : s.mark i = .unseen)
      (below : Visits (s.enter i) (succ i) inner) (rest : Visits (inner.finish i) js s') :
      Visits s (i :: js) s'

/-- One visit, with fuel for the depth. -/
def visit : ℕ → Search ι → ι → Search ι
  | 0, s, _ => s
  | fuel + 1, s, i =>
    match s.mark i with
    | .finished => s
    | .entered => s.close i
    | .unseen => ((succ i).foldl (visit fuel) (s.enter i)).finish i

/-- The search from every node in turn. -/
def search (fuel : ℕ) (nodes : List ι) : Search ι := nodes.foldl (visit succ fuel) {}

variable {succ}

/-! ## The evaluator -/

theorem Visits.append {s s' s'' : Search ι} {is js : List ι} (h : Visits succ s is s')
    (h' : Visits succ s' js s'') : Visits succ s (is ++ js) s'' := by
  induction h with
  | nil s => exact h'
  | finished hmark _ ih => exact .finished hmark (ih h')
  | entered hmark _ ih => exact .entered hmark (ih h')
  | unseen hmark below _ _ ih => exact .unseen hmark below (ih h')

/-- A visit leaves the entered nodes as they are. -/
theorem Visits.entered_iff {s s' : Search ι} {js : List ι} (h : Visits succ s js s') (j : ι) :
    s'.mark j = .entered ↔ s.mark j = .entered := by
  induction h with
  | nil s => exact Iff.rfl
  | finished _ _ ih => exact ih
  | entered _ _ ih => exact ih
  | @unseen s inner s' i js hmark _ _ ihbelow ihrest =>
    rw [ihrest, Search.mark_finish]
    by_cases hj : j = i
    · rw [if_pos hj, hj, hmark]
      simp
    · rw [if_neg hj, ihbelow, Search.mark_enter, if_neg hj]

/-- **Enough fuel visits.**  The fuel is used up along the path of entered nodes, and that is no
longer than the list of nodes. -/
theorem visits_visit {nodes : List ι} (hclosed : ∀ i ∈ nodes, ∀ j ∈ succ i, j ∈ nodes) (fuel : ℕ) :
    ∀ {path : List ι} {s : Search ι} {i : ι}, (∀ j, s.mark j = .entered ↔ j ∈ path) →
      path.Nodup → path ⊆ nodes → nodes.length < fuel + path.length → i ∈ nodes →
      Visits succ s [i] (visit succ fuel s i) := by
  induction fuel with
  | zero =>
    intro path s i _ hnodup hsub hfuel _
    have hle := (List.subperm_of_subset hnodup hsub).length_le
    omega
  | succ fuel ih =>
    intro path s i hpath hnodup hsub hfuel hi
    rw [visit]
    cases hmark : s.mark i with
    | finished => exact .finished hmark (.nil s)
    | entered => exact .entered hmark (.nil _)
    | unseen =>
      have hnew : i ∉ path := by
        rw [← hpath, hmark]
        simp
      have hall : ∀ (js : List ι) (t : Search ι), (∀ j ∈ js, j ∈ nodes) →
          (∀ j, t.mark j = .entered ↔ j ∈ i :: path) →
          Visits succ t js (js.foldl (visit succ fuel) t) := by
        intro js
        induction js with
        | nil => exact fun t _ _ => .nil t
        | cons j js ihjs =>
          intro t hjs ht
          have hone : Visits succ t [j] (visit succ fuel t j) := by
            refine ih ht (List.nodup_cons.mpr ⟨hnew, hnodup⟩) ?_ ?_ (hjs j List.mem_cons_self)
            · exact List.cons_subset.mpr ⟨hi, hsub⟩
            · rw [List.length_cons]
              omega
          refine hone.append (ihjs _ (fun k hk => hjs k (List.mem_cons_of_mem _ hk)) fun k => ?_)
          rw [hone.entered_iff, ht]
      refine .unseen hmark (hall (succ i) (s.enter i) (hclosed i hi) fun j => ?_) (.nil _)
      rw [Search.mark_enter, List.mem_cons]
      by_cases hj : j = i
      · simp [hj]
      · rw [if_neg hj, hpath, or_iff_right hj]

/-- **The search visits every node**, with more fuel than there are nodes. -/
theorem search_visits {nodes : List ι} (hclosed : ∀ i ∈ nodes, ∀ j ∈ succ i, j ∈ nodes) {fuel : ℕ}
    (hfuel : nodes.length < fuel) : Visits succ {} nodes (search succ fuel nodes) := by
  suffices h : ∀ (js : List ι) (s : Search ι), (∀ j ∈ js, j ∈ nodes) →
      (∀ j, s.mark j ≠ .entered) → Visits succ s js (js.foldl (visit succ fuel) s) from
    h nodes {} (fun _ hj => hj) (by simp)
  intro js
  induction js with
  | nil => exact fun s _ _ => .nil s
  | cons j js ih =>
    intro s hjs hs
    have hone : Visits succ s [j] (visit succ fuel s j) :=
      visits_visit hclosed fuel (fun k => iff_of_false (hs k) List.not_mem_nil) List.nodup_nil
        (List.nil_subset _) hfuel (hjs j List.mem_cons_self)
    refine hone.append (ih _ (fun k hk => hjs k (List.mem_cons_of_mem _ hk)) fun k => ?_)
    rw [ne_eq, hone.entered_iff]
    exact hs k

/-! ## What a search keeps -/

/-- The edges of the graph. -/
def Edge (succ : ι → List ι) (a b : ι) : Prop := b ∈ succ a

variable (succ) in
/-- What holds of a search at every point. -/
structure Sound (nodes : List ι) (s : Search ι) : Prop where
  mem_order : ∀ i, i ∈ s.order ↔ s.mark i = .finished
  nodup : s.order.Nodup
  order_sub : ∀ i ∈ s.order, i ∈ nodes
  behind : s.cyclic = [] → ∀ i ∈ s.order, ∀ j ∈ succ i, Precedes s.order j i
  cycle : s.cyclic ≠ [] → ∃ i ∈ nodes, TransGen (Edge succ) i i

/-- What visiting a list of nodes adds. -/
structure Visited (s : Search ι) (js : List ι) (s' : Search ι) : Prop where
  order : s.order <+: s'.order
  cyclic : s.cyclic <+: s'.cyclic
  finished : ∀ j ∈ js, s.mark j ≠ .entered → s'.mark j = .finished
  entered : ∀ j ∈ js, s.mark j = .entered → s'.cyclic ≠ []

omit [DecidableEq ι] in
theorem Sound.init (nodes : List ι) : Sound succ nodes {} := by
  constructor <;> simp

theorem ne_nil_of_prefix {α : Type*} {l l' : List α} (h : l <+: l') (hne : l ≠ []) : l' ≠ [] :=
  fun hnil => hne (List.prefix_nil.mp (hnil ▸ h))

section Keeps

variable {nodes : List ι} {s s' s'' : Search ι} {i : ι} {js : List ι}

omit [DecidableEq ι] in
/-- A finished node stays finished. -/
theorem Sound.finished_of_prefix (h : Sound succ nodes s) (h' : Sound succ nodes s')
    (hgrow : s.order <+: s'.order) (hmark : s.mark i = .finished) : s'.mark i = .finished := by
  rw [← h'.mem_order]
  exact hgrow.subset ((h.mem_order i).mpr hmark)

theorem Sound.enter (h : Sound succ nodes s) (hmark : s.mark i = .unseen) :
    Sound succ nodes (s.enter i) := by
  refine ⟨fun j => ?_, h.nodup, h.order_sub, h.behind, h.cycle⟩
  rw [Search.mark_enter, Search.order_enter, h.mem_order]
  by_cases hj : j = i
  · rw [if_pos hj, hj, hmark]
    simp
  · rw [if_neg hj]

omit [DecidableEq ι] in
theorem Sound.close (h : Sound succ nodes s) (hi : i ∈ nodes)
    (hcycle : TransGen (Edge succ) i i) : Sound succ nodes (s.close i) := by
  refine ⟨h.mem_order, h.nodup, h.order_sub, fun hnil => ?_, fun _ => ⟨i, hi, hcycle⟩⟩
  rw [Search.cyclic_close] at hnil
  exact absurd hnil (List.append_ne_nil_of_right_ne_nil _ (List.cons_ne_nil i []))

/-- A node is finished when its successors are in the order, unless something is cyclic. -/
theorem Sound.finish (h : Sound succ nodes s) (hi : i ∈ nodes) (hmark : s.mark i = .entered)
    (hsucc : s.cyclic = [] → ∀ j ∈ succ i, j ∈ s.order) : Sound succ nodes (s.finish i) := by
  have hnew : i ∉ s.order := by
    rw [h.mem_order, hmark]
    simp
  constructor
  case mem_order =>
    intro j
    rw [Search.mark_finish, Search.order_finish, List.mem_append, List.mem_singleton, h.mem_order]
    by_cases hj : j = i
    · simp [hj]
    · rw [if_neg hj, or_iff_left hj]
  case nodup =>
    rw [Search.order_finish, ← List.concat_eq_append]
    exact h.nodup.concat hnew
  case order_sub =>
    intro j hj
    rcases List.mem_append.mp hj with hj | hj
    · exact h.order_sub j hj
    · rwa [List.mem_singleton.mp hj]
  case behind =>
    intro hnil j hj k hk
    rcases List.mem_append.mp hj with hj | hj
    · exact (h.behind hnil j hj k hk).of_sublist (List.sublist_append_left _ _)
    · rw [List.mem_singleton.mp hj] at hk ⊢
      exact precedes_of_split (hsucc hnil k hk)
  case cycle => exact h.cycle

omit [DecidableEq ι] in
/-- Visiting a node and then a list. -/
theorem Visited.cons (hsound : Sound succ nodes s') (hsound' : Sound succ nodes s'')
    (hmark : ∀ j, s'.mark j = .entered ↔ s.mark j = .entered) (h : Visited s [i] s')
    (h' : Visited s' js s'') : Visited s (i :: js) s'' := by
  refine ⟨h.order.trans h'.order, h.cyclic.trans h'.cyclic, fun j hj hopen => ?_,
    fun j hj hentered => ?_⟩
  · rcases List.mem_cons.mp hj with rfl | hj
    · exact hsound.finished_of_prefix hsound' h'.order
        (h.finished j (List.mem_singleton_self j) hopen)
    · exact h'.finished j hj fun hentered => hopen ((hmark j).mp hentered)
  · rcases List.mem_cons.mp hj with rfl | hj
    · exact ne_nil_of_prefix h'.cyclic (h.entered j (List.mem_singleton_self j) hentered)
    · exact h'.entered j hj ((hmark j).mpr hentered)

/-- **A visit keeps the search sound, and finishes what it visits.**  Every entered node reaches the
nodes that are visited: an entered node that is met again is on a cycle. -/
theorem Visits.sound (h : Visits succ s js s')
    (hclosed : ∀ i ∈ nodes, ∀ j ∈ succ i, j ∈ nodes) :
    Sound succ nodes s → (∀ j ∈ js, j ∈ nodes) →
      (∀ k, s.mark k = .entered → ∀ j ∈ js, TransGen (Edge succ) k j) →
      Sound succ nodes s' ∧ Visited s js s' := by
  induction h with
  | nil s =>
    intro hsound _ _
    exact ⟨hsound, List.prefix_refl _, List.prefix_refl _, fun j hj => absurd hj List.not_mem_nil,
      fun j hj => absurd hj List.not_mem_nil⟩
  | @finished s s' i js hmark rest ih =>
    intro hsound hjs hreach
    obtain ⟨hsound', hvisited⟩ := ih hsound (fun j hj => hjs j (List.mem_cons_of_mem _ hj))
      fun k hk j hj => hreach k hk j (List.mem_cons_of_mem _ hj)
    refine ⟨hsound', Visited.cons hsound hsound' (fun _ => Iff.rfl) ?_ hvisited⟩
    refine ⟨List.prefix_refl _, List.prefix_refl _, fun j hj _ => ?_, fun j hj hentered => ?_⟩
    · rwa [List.mem_singleton.mp hj]
    · rw [List.mem_singleton.mp hj, hmark] at hentered
      cases hentered
  | @entered s s' i js hmark rest ih =>
    intro hsound hjs hreach
    have hclose : Sound succ nodes (s.close i) :=
      hsound.close (hjs i List.mem_cons_self) (hreach i hmark i List.mem_cons_self)
    obtain ⟨hsound', hvisited⟩ := ih hclose (fun j hj => hjs j (List.mem_cons_of_mem _ hj))
      fun k hk j hj => hreach k hk j (List.mem_cons_of_mem _ hj)
    refine ⟨hsound', Visited.cons hclose hsound' (fun _ => Iff.rfl) ?_ hvisited⟩
    refine ⟨List.prefix_refl _, List.prefix_append _ _, fun j hj hopen => ?_, fun j _ _ => ?_⟩
    · rw [List.mem_singleton.mp hj] at hopen
      exact absurd hmark hopen
    · exact List.append_ne_nil_of_right_ne_nil _ (List.cons_ne_nil i [])
  | @unseen s inner s' i js hmark below rest ihbelow ihrest =>
    intro hsound hjs hreach
    have hi : i ∈ nodes := hjs i List.mem_cons_self
    have hentered : ∀ k, (s.enter i).mark k = .entered ↔ k = i ∨ s.mark k = .entered := by
      intro k
      rw [Search.mark_enter]
      by_cases hk : k = i
      · simp [hk]
      · rw [if_neg hk, or_iff_right hk]
    obtain ⟨hinner, hbelow⟩ := ihbelow (hsound.enter hmark) (hclosed i hi) fun k hk j hj => by
      rcases (hentered k).mp hk with rfl | hk
      · exact .single hj
      · exact .tail (hreach k hk i List.mem_cons_self) hj
    have hmark' : inner.mark i = .entered := by
      rw [below.entered_iff, hentered]
      exact Or.inl rfl
    have hfinish : Sound succ nodes (inner.finish i) := by
      refine hinner.finish hi hmark' fun hnil j hj => ?_
      rw [hinner.mem_order]
      refine hbelow.finished j hj fun hopen => ?_
      exact hbelow.entered j hj hopen hnil
    have hsame : ∀ k, (inner.finish i).mark k = .entered ↔ s.mark k = .entered := by
      intro k
      rw [Search.mark_finish]
      by_cases hk : k = i
      · rw [if_pos hk, hk, hmark]
        simp
      · rw [if_neg hk, below.entered_iff, hentered, or_iff_right hk]
    obtain ⟨hsound', hvisited⟩ := ihrest hfinish (fun j hj => hjs j (List.mem_cons_of_mem _ hj))
      fun k hk j hj => hreach k ((hsame k).mp hk) j (List.mem_cons_of_mem _ hj)
    refine ⟨hsound', Visited.cons hfinish hsound' hsame ?_ hvisited⟩
    refine ⟨hbelow.order.trans (List.prefix_append _ _), hbelow.cyclic, fun j hj _ => ?_,
      fun j hj hopen => ?_⟩
    · rw [List.mem_singleton.mp hj, Search.mark_finish, if_pos rfl]
    · rw [List.mem_singleton.mp hj, hmark] at hopen
      cases hopen

/-- **What the search of a graph returns.**  The order is a permutation of the nodes; nothing is
recorded as cyclic exactly when there is no cycle; and then every node comes after its
successors. -/
theorem search_spec (hclosed : ∀ i ∈ nodes, ∀ j ∈ succ i, j ∈ nodes) (hnodup : nodes.Nodup)
    {fuel : ℕ} (hfuel : nodes.length < fuel) :
    (search succ fuel nodes).order.Perm nodes ∧
      ((search succ fuel nodes).cyclic = [] ↔ ∀ i ∈ nodes, ¬ TransGen (Edge succ) i i) ∧
      ((search succ fuel nodes).cyclic = [] → ∀ i ∈ nodes, ∀ j ∈ succ i,
        Precedes (search succ fuel nodes).order j i) := by
  obtain ⟨hsound, hvisited⟩ := (search_visits hclosed hfuel).sound hclosed (.init nodes)
    (fun j hj => hj) fun k hk => by cases hk
  have hmem : ∀ i, i ∈ (search succ fuel nodes).order ↔ i ∈ nodes := by
    intro i
    refine ⟨hsound.order_sub i, fun hi => ?_⟩
    rw [hsound.mem_order]
    exact hvisited.finished i hi (by simp)
  have hbehind : (search succ fuel nodes).cyclic = [] → ∀ i ∈ nodes, ∀ j ∈ succ i,
      Precedes (search succ fuel nodes).order j i := by
    intro hnil i hi j hj
    exact hsound.behind hnil i ((hmem i).mpr hi) j hj
  refine ⟨(List.perm_ext_iff_of_nodup hsound.nodup hnodup).mpr hmem, ⟨?_, ?_⟩, hbehind⟩
  · intro hnil i hi hcycle
    have hbefore : ∀ k, TransGen (Edge succ) i k →
        k ∈ nodes ∧ Precedes (search succ fuel nodes).order k i := by
      intro k hk
      induction hk with
      | single hedge => exact ⟨hclosed i hi _ hedge, hbehind hnil i hi _ hedge⟩
      | tail _ hedge ih =>
        exact ⟨hclosed _ ih.1 _ hedge, (hbehind hnil _ ih.1 _ hedge).trans hsound.nodup ih.2⟩
    exact not_precedes_self hsound.nodup i (hbefore i hcycle).2
  · intro hacyclic
    by_contra hne
    obtain ⟨i, hi, hcycle⟩ := hsound.cycle hne
    exact hacyclic i hi hcycle

end Keeps

end DepthFirst
