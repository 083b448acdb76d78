import FusionDesk.General.BigEndian

/-!
# Readers that move through a byte buffer

A decoder walks over a buffer with an offset: each read asks whether enough bytes are left, takes
them and moves the offset, and the first read that fails ends the decoder with an error.

* `Reader`: what such a decoder does on a buffer from an offset.  There are three outcomes: an
  access outside the buffer (`none`), an error, or a value with the offset behind it.  A reader
  carries the proof that started inside the buffer it neither reads outside nor leaves it.
* `checked`, `bytes`, `fail`, `refuseIf`, `atEnd`, `expectEnd`, `times`, `named`: the readers that
  decoders are put together from, with the monad structure.
* `Reads r a front rest`: in front of `rest`, and whatever is before, `r` takes exactly the bytes
  `front` and gives `a`.  A decoder reads what an encoder wrote if it does so field by field
  (`Reads.bind`, `Reads.times`).
* `Advances r n`, `Ends r`: the reader moves by `n` bytes, or gives a value only at the end of the
  buffer.
* `Yields r P`, `Refuses r P`: what holds of every value, of every error.
* `Takes r P`: the converse of `Reads`, what the bytes that a value was read from are.
-/

namespace ByteReader

open BigEndian

variable {ε δ α β : Type}

/-- What a decoder does on a buffer, from an offset on. -/
structure Reader (ε α : Type) where
  run : List UInt8 → ℕ → Option (Except ε (α × ℕ))
  inside : ∀ input offset, offset ≤ input.length → ∃ outcome, run input offset = some outcome ∧
    ∀ a next, outcome = .ok (a, next) → offset ≤ next ∧ next ≤ input.length

namespace Reader

/-- No read, the value at hand. -/
def ret (a : α) : Reader ε α where
  run _ offset := some (.ok (a, offset))
  inside _ offset h := ⟨_, rfl, fun _ _ heq => by cases heq; exact ⟨le_refl _, h⟩⟩

/-- One reader after the other; the first error ends both. -/
def andThen (r : Reader ε α) (f : α → Reader ε β) : Reader ε β where
  run input offset :=
    match r.run input offset with
    | none => none
    | some (.error e) => some (.error e)
    | some (.ok (a, next)) => (f a).run input next
  inside input offset h := by
    obtain ⟨outcome, hrun, hin⟩ := r.inside input offset h
    rw [hrun]
    cases outcome with
    | error e => exact ⟨_, rfl, fun _ _ heq => by cases heq⟩
    | ok p =>
      obtain ⟨a, next⟩ := p
      have hnext := hin a next rfl
      obtain ⟨outcome', hrun', hin'⟩ := (f a).inside input next hnext.2
      refine ⟨outcome', hrun', fun b last heq => ?_⟩
      have hlast := hin' b last heq
      exact ⟨hnext.1.trans hlast.1, hlast.2⟩

instance : Monad (Reader ε) where
  pure := ret
  bind := andThen

/-! ## The readers a decoder is put together from -/

/-- The error. -/
def fail (e : ε) : Reader ε α where
  run _ _ := some (.error e)
  inside _ _ _ := ⟨_, rfl, fun _ _ heq => by cases heq⟩

/-- The error, if the condition holds. -/
def refuseIf (c : Prop) [Decidable c] (e : ε) : Reader ε Unit :=
  if c then fail e else ret ()

/-- The value, or the error if there is none. -/
def ofOption (o : Option α) (e : ε) : Reader ε α :=
  match o with
  | some a => ret a
  | none => fail e

theorem isSome_getElem? (input : List UInt8) (offset : ℕ) (h : offset + 1 ≤ input.length) :
    (input[offset]?).isSome := by
  rw [List.getElem?_eq_getElem (by omega)]
  rfl

/-- An access to `n` bytes behind the question whether they are there.  `access` looks at the
buffer without asking. -/
def checked (n : ℕ) (e : ε) (access : List UInt8 → ℕ → Option α)
    (haccess : ∀ input offset, offset + n ≤ input.length → (access input offset).isSome) :
    Reader ε α where
  run input offset :=
    if offset + n > input.length then some (.error e)
    else (access input offset).map fun a => .ok (a, offset + n)
  inside input offset _ := by
    by_cases hn : offset + n > input.length
    · exact ⟨_, if_pos hn, fun _ _ heq => by cases heq⟩
    · obtain ⟨a, ha⟩ := Option.isSome_iff_exists.mp (haccess input offset (by omega))
      refine ⟨.ok (a, offset + n), by rw [if_neg hn, ha]; rfl, fun a' next heq => ?_⟩
      cases heq
      omega

/-- The bytes from one offset to another, if both are inside. -/
def range (input : List UInt8) (offset n : ℕ) : Option (List UInt8) :=
  if offset + n ≤ input.length then some (slice input offset n) else none

/-- A run of `n` bytes. -/
def bytes (n : ℕ) (e : ε) : Reader ε (List UInt8) :=
  checked n e (fun input offset => range input offset n) fun input offset h => by
    rw [range, if_pos h]
    rfl

/-- Nothing is left behind the offset. -/
def atEnd : Reader ε Bool where
  run input offset := some (.ok (!decide (offset < input.length), offset))
  inside _ _ h := ⟨_, rfl, fun _ _ heq => by cases heq; exact ⟨le_refl _, h⟩⟩

/-- The size of the buffer. -/
def size : Reader ε ℕ where
  run input offset := some (.ok (input.length, offset))
  inside _ _ h := ⟨_, rfl, fun _ _ heq => by cases heq; exact ⟨le_refl _, h⟩⟩

/-- The error, if something is left. -/
def expectEnd (e : ε) : Reader ε Unit where
  run input offset := if offset ≠ input.length then some (.error e) else some (.ok ((), offset))
  inside input offset h := by
    by_cases hend : offset ≠ input.length
    · exact ⟨_, if_pos hend, fun _ _ heq => by cases heq⟩
    · exact ⟨_, if_neg hend, fun _ _ heq => by cases heq; exact ⟨le_refl _, h⟩⟩

/-- The reader `n` times, the values in their order. -/
def times (r : Reader ε α) : ℕ → Reader ε (List α)
  | 0 => ret []
  | n + 1 => andThen r fun a => andThen (times r n) fun as => ret (a :: as)

/-- A reader whose errors pass through `f`. -/
def named (f : ε → δ) (r : Reader ε α) : Reader δ α where
  run input offset :=
    match r.run input offset with
    | none => none
    | some (.error e) => some (.error (f e))
    | some (.ok p) => some (.ok p)
  inside input offset h := by
    obtain ⟨outcome, hrun, hin⟩ := r.inside input offset h
    rw [hrun]
    cases outcome with
    | error e => exact ⟨_, rfl, fun _ _ heq => by cases heq⟩
    | ok p => exact ⟨_, rfl, fun a next heq => by cases heq; exact hin a next rfl⟩

/-- **A reader started inside the buffer reads nothing outside.** -/
theorem isSome_run (r : Reader ε α) {input : List UInt8} {offset : ℕ}
    (h : offset ≤ input.length) : (r.run input offset).isSome := by
  obtain ⟨outcome, hrun, -⟩ := r.inside input offset h
  rw [hrun]
  rfl

/-- What comes of a whole buffer. -/
def outcome (r : Reader ε α) (input : List UInt8) : Except ε (α × ℕ) :=
  (r.run input 0).get (r.isSome_run (Nat.zero_le _))

theorem outcome_eq_iff {r : Reader ε α} {input : List UInt8} {x : Except ε (α × ℕ)} :
    r.outcome input = x ↔ r.run input 0 = some x := by
  constructor
  · intro h
    rw [← h, outcome, Option.some_get]
  · intro h
    exact Option.get_of_eq_some _ h

end Reader

open Reader

/-! ## Outcomes of a sequence -/

@[simp] theorem run_pure (a : α) (input : List UInt8) (offset : ℕ) :
    (pure a : Reader ε α).run input offset = some (.ok (a, offset)) := rfl

theorem run_bind (r : Reader ε α) (f : α → Reader ε β) (input : List UInt8) (offset : ℕ) :
    (r >>= f).run input offset =
      match r.run input offset with
      | none => none
      | some (.error e) => some (.error e)
      | some (.ok (a, next)) => (f a).run input next := rfl

theorem run_checked (n : ℕ) (e : ε) (access : List UInt8 → ℕ → Option α)
    (haccess : ∀ input offset, offset + n ≤ input.length → (access input offset).isSome)
    (input : List UInt8) (offset : ℕ) :
    (checked n e access haccess).run input offset =
      if offset + n > input.length then some (.error e)
      else (access input offset).map fun a => .ok (a, offset + n) := rfl

theorem run_expectEnd (e : ε) (input : List UInt8) (offset : ℕ) :
    (expectEnd e).run input offset =
      if offset ≠ input.length then some (.error e) else some (.ok ((), offset)) := rfl

theorem run_named (f : ε → δ) (r : Reader ε α) (input : List UInt8) (offset : ℕ) :
    (named f r).run input offset =
      match r.run input offset with
      | none => none
      | some (.error e) => some (.error (f e))
      | some (.ok p) => some (.ok p) := rfl

theorem run_bind_of_ok {r : Reader ε α} {input : List UInt8} {offset next : ℕ} {a : α}
    (h : r.run input offset = some (.ok (a, next))) (f : α → Reader ε β) :
    (r >>= f).run input offset = (f a).run input next := by
  rw [run_bind, h]

theorem run_bind_refuseIf {c : Prop} [Decidable c] {e : ε} (hc : ¬c) (f : Unit → Reader ε β)
    (input : List UInt8) (offset : ℕ) :
    (refuseIf c e >>= f).run input offset = (f ()).run input offset := by
  rw [run_bind, refuseIf, if_neg hc]
  rfl

/-- A check that does not pass ends the reader. -/
theorem run_bind_refuseIf_pos {c : Prop} [Decidable c] {e : ε} (hc : c) (f : Unit → Reader ε β)
    (input : List UInt8) (offset : ℕ) :
    (refuseIf c e >>= f).run input offset = some (.error e) := by
  rw [run_bind, refuseIf, if_pos hc]
  rfl

theorem run_bind_of_error {r : Reader ε α} {input : List UInt8} {offset : ℕ} {e : ε}
    (h : r.run input offset = some (.error e)) (f : α → Reader ε β) :
    (r >>= f).run input offset = some (.error e) := by
  rw [run_bind, h]

theorem run_bind_size (f : ℕ → Reader ε β) (input : List UInt8) (offset : ℕ) :
    (size >>= f).run input offset = (f input.length).run input offset := rfl

/-- A value of a sequence comes from a value of each part. -/
theorem exists_of_run_bind {r : Reader ε α} {f : α → Reader ε β} {input : List UInt8}
    {offset last : ℕ} {b : β} (h : (r >>= f).run input offset = some (.ok (b, last))) :
    ∃ a next, r.run input offset = some (.ok (a, next)) ∧
      (f a).run input next = some (.ok (b, last)) := by
  rw [run_bind] at h
  rcases hrun : r.run input offset with _ | (e | ⟨a, next⟩)
  · rw [hrun] at h
    cases h
  · rw [hrun] at h
    cases h
  · rw [hrun] at h
    exact ⟨a, next, rfl, h⟩

/-- An error of a sequence comes from one of its parts. -/
theorem error_of_run_bind {r : Reader ε α} {f : α → Reader ε β} {input : List UInt8}
    {offset : ℕ} {e : ε} (h : (r >>= f).run input offset = some (.error e)) :
    r.run input offset = some (.error e) ∨
      ∃ a next, r.run input offset = some (.ok (a, next)) ∧
        (f a).run input next = some (.error e) := by
  rw [run_bind] at h
  rcases hrun : r.run input offset with _ | (e' | ⟨a, next⟩)
  · rw [hrun] at h
    cases h
  · rw [hrun] at h
    cases h
    exact Or.inl rfl
  · rw [hrun] at h
    exact Or.inr ⟨a, next, rfl, h⟩

/-! ## Reading what was written -/

/-- In front of `rest` the reader takes exactly the bytes `front` and gives `a`. -/
def Reads (r : Reader ε α) (a : α) (front rest : List UInt8) : Prop :=
  ∀ before : List UInt8, r.run (before ++ (front ++ rest)) before.length =
    some (.ok (a, before.length + front.length))

namespace Reads

theorem pure (a : α) (rest : List UInt8) : Reads (Pure.pure a : Reader ε α) a [] rest :=
  fun _ => rfl

/-- **Two readers one after the other read two fields one after the other.** -/
theorem bind {r : Reader ε α} {f : α → Reader ε β} {a : α} {b : β} {front middle rest : List UInt8}
    (hr : Reads r a front (middle ++ rest)) (hf : Reads (f a) b middle rest) :
    Reads (r >>= f) b (front ++ middle) rest := by
  intro before
  have hrun := hr before
  have hnext := hf (before ++ front)
  rw [List.append_assoc, List.length_append] at hnext
  rw [List.append_assoc, run_bind_of_ok hrun, hnext, List.length_append, Nat.add_assoc]

/-- What comes behind the last read takes no bytes. -/
theorem last {r : Reader ε α} {f : α → Reader ε β} {a : α} {b : β} {front rest : List UInt8}
    (hr : Reads r a front rest) (hf : Reads (f a) b [] rest) : Reads (r >>= f) b front rest := by
  have h := bind hr hf
  rwa [List.append_nil] at h

theorem refuseIf {c : Prop} [Decidable c] (hc : ¬c) (e : ε) (rest : List UInt8) :
    Reads (Reader.refuseIf c e) () [] rest := by
  intro before
  rw [Reader.refuseIf, if_neg hc]
  rfl

/-- A check that passes takes no bytes. -/
theorem bind_refuseIf {c : Prop} [Decidable c] {e : ε} {f : Unit → Reader ε β} {b : β}
    {front rest : List UInt8} (hc : ¬c) (hf : Reads (f ()) b front rest) :
    Reads (Reader.refuseIf c e >>= f) b front rest := by
  have h := bind (refuseIf hc e (front ++ rest)) hf
  rwa [List.nil_append] at h

/-- A value that is there takes no bytes. -/
theorem ofOption {o : Option α} {a : α} (h : o = some a) (e : ε) (rest : List UInt8) :
    Reads (Reader.ofOption o e) a [] rest := by
  rw [h]
  exact pure a rest

theorem bind_ofOption {o : Option α} {a : α} {e : ε} {f : α → Reader ε β} {b : β}
    {front rest : List UInt8} (ho : o = some a) (hf : Reads (f a) b front rest) :
    Reads (Reader.ofOption o e >>= f) b front rest := by
  subst ho
  exact hf

theorem expectEnd (e : ε) : Reads (Reader.expectEnd e) () [] [] := by
  intro before
  rw [run_expectEnd]
  exact if_neg (by simp)

theorem bind_expectEnd {e : ε} {f : Unit → Reader ε β} {b : β} (hf : Reads (f ()) b [] []) :
    Reads (Reader.expectEnd e >>= f) b [] [] := by
  have hend : Reads (Reader.expectEnd e : Reader ε Unit) () [] ([] ++ []) := expectEnd e
  exact bind hend hf

theorem checked {n : ℕ} {e : ε} {access : List UInt8 → ℕ → Option α}
    {haccess : ∀ input offset, offset + n ≤ input.length → (access input offset).isSome} {a : α}
    {front rest : List UInt8} (hlen : front.length = n)
    (h : ∀ before : List UInt8, access (before ++ (front ++ rest)) before.length = some a) :
    Reads (Reader.checked n e access haccess) a front rest := by
  intro before
  have hfits : ¬before.length + n > (before ++ (front ++ rest)).length := by
    rw [List.length_append, List.length_append, hlen]
    omega
  show (if _ then _ else _) = _
  rw [if_neg hfits, h before, hlen]
  rfl

theorem bytes {n : ℕ} {e : ε} {front rest : List UInt8} (hlen : front.length = n) :
    Reads (Reader.bytes n e) front front rest := by
  refine checked hlen fun before => ?_
  have hfits : before.length + n ≤ (before ++ (front ++ rest)).length := by
    rw [List.length_append, List.length_append, hlen]
    omega
  rw [range, if_pos hfits, slice_append_right le_rfl, Nat.sub_self, slice_append_left hlen]

theorem named {r : Reader ε α} {a : α} {front rest : List UInt8} (f : ε → δ)
    (h : Reads r a front rest) : Reads (Reader.named f r) a front rest := by
  intro before
  rw [run_named, h before]

/-- **The loop reads back the values that were written one after the other.** -/
theorem times {r : Reader ε α} {encode : α → List UInt8} {values : List α} {rest : List UInt8}
    (h : ∀ a ∈ values, ∀ rest, Reads r a (encode a) rest) :
    Reads (Reader.times r values.length) values (values.flatMap encode) rest := by
  induction values with
  | nil => exact pure [] rest
  | cons a values ih =>
    have hfirst := h a List.mem_cons_self (values.flatMap encode ++ rest)
    have hothers := ih fun b hb => h b (List.mem_cons_of_mem _ hb)
    have hnil : values.flatMap encode = values.flatMap encode ++ [] := (List.append_nil _).symm
    rw [List.flatMap_cons, List.length_cons]
    refine bind hfirst ?_
    rw [hnil]
    exact bind (by rwa [List.nil_append]) (pure _ _)

end Reads

/-! ## Where a reader stops, and with what -/

/-- The reader gives its value `n` bytes behind where it started. -/
def Advances (r : Reader ε α) (n : ℕ) : Prop :=
  ∀ input offset a next, r.run input offset = some (.ok (a, next)) → next = offset + n

/-- The reader gives a value only at the end of the buffer. -/
def Ends (r : Reader ε α) : Prop :=
  ∀ input offset a next, r.run input offset = some (.ok (a, next)) → next = input.length

/-- Every value of the reader has the property. -/
def Yields (r : Reader ε α) (P : α → Prop) : Prop :=
  ∀ input offset a next, r.run input offset = some (.ok (a, next)) → P a

/-- Every error of the reader has the property. -/
def Refuses (r : Reader ε α) (P : ε → Prop) : Prop :=
  ∀ input offset e, r.run input offset = some (.error e) → P e

namespace Advances

theorem pure (a : α) : Advances (Pure.pure a : Reader ε α) 0 := by
  intro input offset a' next h
  cases h
  rfl

theorem checked {n : ℕ} {e : ε} {access : List UInt8 → ℕ → Option α}
    {haccess : ∀ input offset, offset + n ≤ input.length → (access input offset).isSome} :
    Advances (Reader.checked n e access haccess) n := by
  intro input offset a next h
  rw [run_checked] at h
  split at h
  · cases h
  · obtain ⟨b, -, hb⟩ := Option.map_eq_some_iff.mp h
    cases hb
    rfl

theorem refuseIf (c : Prop) [Decidable c] (e : ε) : Advances (Reader.refuseIf c e) 0 := by
  intro input offset a next h
  by_cases hc : c
  · rw [Reader.refuseIf, if_pos hc] at h
    cases h
  · rw [Reader.refuseIf, if_neg hc] at h
    cases h
    rfl

theorem size : Advances (Reader.size : Reader ε ℕ) 0 := by
  intro input offset a next h
  cases h
  rfl

theorem named {r : Reader ε α} {n : ℕ} (f : ε → δ) (h : Advances r n) :
    Advances (Reader.named f r) n := by
  intro input offset a next hrun
  rw [run_named] at hrun
  rcases hr : r.run input offset with _ | (e | p)
  · rw [hr] at hrun
    cases hrun
  · rw [hr] at hrun
    cases hrun
  · rw [hr] at hrun
    cases hrun
    exact h input offset a next hr

theorem bind {r : Reader ε α} {f : α → Reader ε β} {m n : ℕ} (hr : Advances r m)
    (hf : ∀ a, Advances (f a) n) : Advances (r >>= f) (m + n) := by
  intro input offset b last h
  obtain ⟨a, next, hrun, hlast⟩ := exists_of_run_bind h
  rw [hf a input next b last hlast, hr input offset a next hrun, Nat.add_assoc]

end Advances

namespace Ends

/-- What ends a sequence ends at the end. -/
theorem bind {r : Reader ε α} {f : α → Reader ε β} (hf : ∀ a, Ends (f a)) : Ends (r >>= f) := by
  intro input offset b last h
  obtain ⟨a, next, -, hlast⟩ := exists_of_run_bind h
  exact hf a input next b last hlast

/-- Behind the question for the end nothing moves any more. -/
theorem expectEnd_bind {e : ε} {f : Unit → Reader ε β} (hf : Advances (f ()) 0) :
    Ends (Reader.expectEnd e >>= f) := by
  intro input offset b last h
  obtain ⟨a, next, hrun, hlast⟩ := exists_of_run_bind h
  rw [run_expectEnd] at hrun
  by_cases hend : offset ≠ input.length
  · rw [if_pos hend] at hrun
    cases hrun
  · rw [if_neg hend] at hrun
    cases hrun
    rw [hf input offset b last hlast]
    exact not_not.mp hend

end Ends

namespace Yields

variable {P : α → Prop} {Q : β → Prop}

theorem pure {a : α} (h : P a) : Yields (Pure.pure a : Reader ε α) P := by
  intro input offset a' next hrun
  cases hrun
  exact h

theorem bind {r : Reader ε α} {f : α → Reader ε β} (hr : Yields r P)
    (hf : ∀ a, P a → Yields (f a) Q) : Yields (r >>= f) Q := by
  intro input offset b last h
  obtain ⟨a, next, hrun, hlast⟩ := exists_of_run_bind h
  exact hf a (hr input offset a next hrun) input next b last hlast

/-- Of the values of the first reader nothing need be known. -/
theorem bind' {r : Reader ε α} {f : α → Reader ε β} (hf : ∀ a, Yields (f a) Q) :
    Yields (r >>= f) Q :=
  bind (P := fun _ => True) (fun _ _ _ _ _ => trivial) fun a _ => hf a

/-- Behind a check its condition is known to fail. -/
theorem refuseIf_bind {c : Prop} [Decidable c] {e : ε} {f : Unit → Reader ε β}
    (hf : ¬c → Yields (f ()) Q) : Yields (Reader.refuseIf c e >>= f) Q := by
  intro input offset b last h
  obtain ⟨a, next, hrun, hlast⟩ := exists_of_run_bind h
  by_cases hc : c
  · rw [Reader.refuseIf, if_pos hc] at hrun
    cases hrun
  · exact hf hc input next b last hlast

theorem named {r : Reader ε α} {f : ε → δ} (h : Yields r P) : Yields (Reader.named f r) P := by
  intro input offset a next hrun
  rw [run_named] at hrun
  split at hrun
  · cases hrun
  · cases hrun
  next found hfound =>
    cases hrun
    exact h input offset a next hfound

theorem times {r : Reader ε α} (h : Yields r P) :
    ∀ n, Yields (Reader.times r n) fun values => values.length = n ∧ ∀ a ∈ values, P a
  | 0 => pure ⟨rfl, by simp⟩
  | n + 1 => by
    refine bind h fun a ha => bind (times h n) fun values hvalues => pure ⟨?_, ?_⟩
    · rw [List.length_cons, hvalues.1]
    · intro b hb
      rcases List.mem_cons.mp hb with rfl | hb
      · exact ha
      · exact hvalues.2 b hb

theorem bytes (n : ℕ) (e : ε) : Yields (Reader.bytes n e) fun value => value.length = n := by
  intro input offset value next hrun
  rw [Reader.bytes, run_checked] at hrun
  split at hrun
  · cases hrun
  next hfits =>
    rw [not_lt] at hfits
    obtain ⟨field, hfield, hvalue⟩ := Option.map_eq_some_iff.mp hrun
    rw [range, if_pos hfits] at hfield
    cases hfield
    cases hvalue
    exact length_slice hfits

theorem ite {c : Prop} [Decidable c] {r s : Reader ε α} (hr : Yields r P) (hs : Yields s P) :
    Yields (if c then r else s) P := by
  by_cases h : c
  · rwa [if_pos h]
  · rwa [if_neg h]

end Yields

namespace Refuses

variable {P : ε → Prop}

theorem pure (a : α) : Refuses (Pure.pure a : Reader ε α) P := by
  intro input offset e h
  cases h

theorem fail {e : ε} (h : P e) : Refuses (Reader.fail e : Reader ε α) P := by
  intro input offset e' hrun
  cases hrun
  exact h

theorem bind {r : Reader ε α} {f : α → Reader ε β} (hr : Refuses r P)
    (hf : ∀ a, Refuses (f a) P) : Refuses (r >>= f) P := by
  intro input offset e h
  rcases error_of_run_bind h with hfirst | ⟨a, next, -, hnext⟩
  · exact hr input offset e hfirst
  · exact hf a input next e hnext

theorem checked {n : ℕ} {e : ε} {access : List UInt8 → ℕ → Option α}
    {haccess : ∀ input offset, offset + n ≤ input.length → (access input offset).isSome}
    (h : P e) : Refuses (Reader.checked n e access haccess) P := by
  intro input offset e' hrun
  rw [run_checked] at hrun
  split at hrun
  · cases hrun
    exact h
  · obtain ⟨b, -, hb⟩ := Option.map_eq_some_iff.mp hrun
    cases hb

theorem bytes {n : ℕ} {e : ε} (h : P e) : Refuses (Reader.bytes n e) P := checked h

theorem refuseIf {c : Prop} [Decidable c] {e : ε} (h : P e) : Refuses (Reader.refuseIf c e) P := by
  intro input offset e' hrun
  by_cases hc : c
  · rw [Reader.refuseIf, if_pos hc] at hrun
    cases hrun
    exact h
  · rw [Reader.refuseIf, if_neg hc] at hrun
    cases hrun

theorem expectEnd {e : ε} (h : P e) : Refuses (Reader.expectEnd e) P := by
  intro input offset e' hrun
  rw [run_expectEnd] at hrun
  split at hrun
  · cases hrun
    exact h
  · cases hrun

theorem atEnd : Refuses (Reader.atEnd : Reader ε Bool) P := by
  intro input offset e h
  cases h

theorem size : Refuses (Reader.size : Reader ε ℕ) P := by
  intro input offset e h
  cases h

theorem named {Q : δ → Prop} {r : Reader ε α} {f : ε → δ} (hf : ∀ e, P e → Q (f e))
    (h : Refuses r P) : Refuses (Reader.named f r) Q := by
  intro input offset e hrun
  rw [run_named] at hrun
  rcases hr : r.run input offset with _ | (e' | p)
  · rw [hr] at hrun
    cases hrun
  · rw [hr] at hrun
    cases hrun
    exact hf e' (h input offset e' hr)
  · rw [hr] at hrun
    cases hrun

theorem times {r : Reader ε α} (h : Refuses r P) : ∀ n, Refuses (Reader.times r n) P
  | 0 => pure []
  | n + 1 => bind h fun _ => bind (times h n) fun _ => pure _

theorem ite {c : Prop} [Decidable c] {r s : Reader ε α} (hr : Refuses r P) (hs : Refuses s P) :
    Refuses (if c then r else s) P := by
  by_cases h : c
  · rwa [if_pos h]
  · rwa [if_neg h]

end Refuses

/-! ## The bytes behind a value -/

/-- Whenever the reader gives a value, what it has moved over are bytes with the property. -/
def Takes (r : Reader ε α) (P : α → List UInt8 → Prop) : Prop :=
  ∀ input offset a next, offset ≤ input.length → r.run input offset = some (.ok (a, next)) →
    ∃ front rest, input.drop offset = front ++ rest ∧ next = offset + front.length ∧ P a front

namespace Takes

variable {P : α → List UInt8 → Prop} {Q : β → List UInt8 → Prop}

theorem pure {a : α} (h : P a []) : Takes (Pure.pure a : Reader ε α) P := by
  intro input offset a' next _ hrun
  cases hrun
  exact ⟨[], input.drop offset, rfl, rfl, h⟩

/-- **What comes first is in front of what comes after it.** -/
theorem bind {r : Reader ε α} {f : α → Reader ε β} (hr : Takes r P)
    (hf : ∀ a front, P a front → Takes (f a) fun b back => Q b (front ++ back)) :
    Takes (r >>= f) Q := by
  intro input offset b last hin hrun
  obtain ⟨a, next, hfirst, hlast⟩ := exists_of_run_bind hrun
  obtain ⟨front, rest, hdrop, hnext, hP⟩ := hr input offset a next hin hfirst
  have hlength := congrArg List.length hdrop
  rw [List.length_drop, List.length_append] at hlength
  obtain ⟨back, rest', hback, hend, hQ⟩ := hf a front hP input next b last (by omega) hlast
  have hbehind : input.drop next = rest := by
    rw [hnext, ← List.drop_drop, hdrop, List.drop_left]
  refine ⟨front ++ back, rest', ?_, ?_, hQ⟩
  · rw [hdrop, ← hbehind, hback, List.append_assoc]
  · rw [hend, hnext, List.length_append, Nat.add_assoc]

theorem mono {r : Reader ε α} {P' : α → List UInt8 → Prop} (h : Takes r P)
    (himp : ∀ a front, P a front → P' a front) : Takes r P' := by
  intro input offset a next hin hrun
  obtain ⟨front, rest, hdrop, hnext, hP⟩ := h input offset a next hin hrun
  exact ⟨front, rest, hdrop, hnext, himp a front hP⟩

theorem refuseIf_bind {c : Prop} [Decidable c] {e : ε} {f : Unit → Reader ε β}
    (hf : ¬c → Takes (f ()) Q) : Takes (Reader.refuseIf c e >>= f) Q := by
  intro input offset b last hin hrun
  by_cases hc : c
  · rw [run_bind, Reader.refuseIf, if_pos hc] at hrun
    cases hrun
  · rw [run_bind_refuseIf hc] at hrun
    exact hf hc input offset b last hin hrun

theorem ofOption {o : Option α} {e : ε} (h : ∀ a, o = some a → P a []) :
    Takes (Reader.ofOption o e) P := by
  cases o with
  | none =>
    intro input offset a next _ hrun
    cases hrun
  | some a => exact pure (h a rfl)

theorem ofOption_bind {o : Option α} {e : ε} {f : α → Reader ε β}
    (hf : ∀ a, o = some a → Takes (f a) Q) : Takes (Reader.ofOption o e >>= f) Q := by
  intro input offset b last hin hrun
  cases o with
  | none => cases hrun
  | some a => exact hf a rfl input offset b last hin hrun

theorem expectEnd_bind {e : ε} {f : Unit → Reader ε β} (hf : Takes (f ()) Q) :
    Takes (Reader.expectEnd e >>= f) Q := by
  intro input offset b last hin hrun
  obtain ⟨a, next, hrun, hlast⟩ := exists_of_run_bind hrun
  rw [run_expectEnd] at hrun
  split at hrun
  · cases hrun
  · cases hrun
    exact hf input offset b last hin hlast

theorem checked {n : ℕ} {e : ε} {access : List UInt8 → ℕ → Option α}
    {haccess : ∀ input offset, offset + n ≤ input.length → (access input offset).isSome}
    (h : ∀ input offset a, offset + n ≤ input.length → access input offset = some a →
      P a (slice input offset n)) : Takes (Reader.checked n e access haccess) P := by
  intro input offset a next _ hrun
  rw [run_checked] at hrun
  split at hrun
  · cases hrun
  next hfits =>
    rw [not_lt] at hfits
    obtain ⟨a', haccessed, ha⟩ := Option.map_eq_some_iff.mp hrun
    cases ha
    refine ⟨slice input offset n, input.drop (offset + n), ?_, ?_, h input offset a hfits haccessed⟩
    · rw [slice, ← List.drop_drop, List.take_append_drop]
    · rw [length_slice hfits]

theorem bytes (n : ℕ) (e : ε) :
    Takes (Reader.bytes n e) fun value front => front = value ∧ value.length = n := by
  refine checked fun input offset value hfits haccess => ?_
  rw [range, if_pos hfits] at haccess
  cases haccess
  exact ⟨rfl, length_slice hfits⟩

theorem named {r : Reader ε α} {f : ε → δ} (h : Takes r P) : Takes (Reader.named f r) P := by
  intro input offset a next hin hrun
  rw [run_named] at hrun
  split at hrun
  · cases hrun
  · cases hrun
  next found hfound =>
    cases hrun
    exact h input offset a next hin hfound

/-- The bytes of a list are those of its items, one after the other. -/
theorem times {r : Reader ε α} (h : Takes r P) :
    ∀ n, Takes (Reader.times r n) fun values front =>
      values.length = n ∧ ∃ parts, front = parts.flatten ∧ List.Forall₂ P values parts
  | 0 => pure ⟨rfl, [], rfl, .nil⟩
  | n + 1 => by
    refine bind h fun a first ha => bind (times h n) fun values others hvalues => pure ?_
    obtain ⟨hlength, parts, rfl, hparts⟩ := hvalues
    refine ⟨by rw [List.length_cons, hlength], first :: parts, ?_, .cons ha hparts⟩
    rw [List.append_nil, List.flatten_cons]

/-- **The value of a whole buffer**: what was read ends where the buffer ends. -/
theorem of_whole {r : Reader ε α} (h : Takes r P) {input : List UInt8} {a : α}
    (hrun : r.run input 0 = some (.ok (a, input.length))) : P a input := by
  obtain ⟨front, rest, hdrop, hnext, hP⟩ := h input 0 a _ (Nat.zero_le _) hrun
  rw [List.drop_zero] at hdrop
  have hrest : rest = [] := by
    have hlength := congrArg List.length hdrop
    rw [List.length_append] at hlength
    exact List.length_eq_zero_iff.mp (by omega)
  rw [hdrop, hrest, List.append_nil]
  exact hP

end Takes

end ByteReader
