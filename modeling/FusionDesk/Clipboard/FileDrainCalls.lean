import FusionDesk.Clipboard.FileDrain
import Mathlib.Algebra.BigOperators.Group.List.Basic
import Mathlib.Algebra.Ring.Nat
import Mathlib.Data.List.Induction

/-!
# The calls of a drain

What `drainRemoteFileRange` asks of the reader and gives to the sink, whatever they answer.  The
calls are seen by parties that write them down (`DrainParties.traced`), which changes nothing else
(`drainRemoteFileRange_traced`).

* `WriteFollows`: a write is the range that was read last, and goes on where the last write ended.
* `Draining`: the invariant of the loop.
* `drainRemoteFileRange_drained`: the calls and the result of every drain.
-/

namespace FusionDesk
namespace Clipboard

open Protocol

/-! ## Calls -/

/-- A range that is given to the sink. -/
structure DrainWrite where
  request : TransferFileRangeRequest
  bytes : ByteBuffer
  endOfFile : Bool

/-- A call of the reader or of the sink, and its answer. -/
inductive DrainCall
  | read (request : TransferFileRangeRequest) (timeoutMs : UInt32)
      (answer : TransferFileRangeResult)
  | write (write : DrainWrite) (answer : TransferFileDrainSinkResult)

namespace DrainCall

def succeeded : DrainCall → Bool
  | .read _ _ answer => answer.ok
  | .write _ answer => answer.ok

def given : DrainCall → Option DrainWrite
  | .read _ _ _ => none
  | .write range _ => some range

def accepted : DrainCall → Option DrainWrite
  | .read _ _ _ => none
  | .write range answer => if answer.ok = true then some range else none

end DrainCall

/-- All writes, and those that the sink has accepted. -/
def writesOf (calls : List DrainCall) : List DrainWrite := calls.filterMap DrainCall.given

def acceptedOf (calls : List DrainCall) : List DrainWrite := calls.filterMap DrainCall.accepted

def totalBytes (writes : List DrainWrite) : ℕ := (writes.map fun write => write.bytes.length).sum

/-- A world, and the calls so far. -/
structure Traced (σ : Type*) where
  world : σ
  calls : List DrainCall := []

variable {σ : Type*}

/-- The parties, with their calls written down. -/
def DrainParties.traced (parties : DrainParties σ) : DrainParties (Traced σ) where
  readRemoteFileRange request timeoutMs s :=
    let answer := parties.readRemoteFileRange request timeoutMs s.world
    (answer.1, { world := answer.2, calls := s.calls ++ [.read request timeoutMs answer.1] })
  writeRange request bytes endOfFile s :=
    let answer := parties.writeRange request bytes endOfFile s.world
    (answer.1, {
      world := answer.2
      calls := s.calls ++ [.write ⟨request, bytes, endOfFile⟩ answer.1] })

/-! ### Counting -/

section

variable (calls : List DrainCall) (request : TransferFileRangeRequest) (timeoutMs : UInt32)
  (range : TransferFileRangeResult) {write : DrainWrite} {answer : TransferFileDrainSinkResult}

@[simp] theorem acceptedOf_read :
    acceptedOf (calls ++ [.read request timeoutMs range]) = acceptedOf calls := by
  simp [acceptedOf, DrainCall.accepted]

@[simp] theorem writesOf_read :
    writesOf (calls ++ [.read request timeoutMs range]) = writesOf calls := by
  simp [writesOf, DrainCall.given]

theorem acceptedOf_write (h : answer.ok = true) :
    acceptedOf (calls ++ [.write write answer]) = acceptedOf calls ++ [write] := by
  simp [acceptedOf, DrainCall.accepted, h]

theorem acceptedOf_refused (h : answer.ok = false) :
    acceptedOf (calls ++ [.write write answer]) = acceptedOf calls := by
  simp [acceptedOf, DrainCall.accepted, h]

@[simp] theorem writesOf_write :
    writesOf (calls ++ [.write write answer]) = writesOf calls ++ [write] := by
  simp [writesOf, DrainCall.given]

@[simp] theorem totalBytes_concat (writes : List DrainWrite) :
    totalBytes (writes ++ [write]) = totalBytes writes + write.bytes.length := by
  simp [totalBytes]

/-- Where all calls have succeeded, all writes are accepted. -/
theorem writesOf_eq_acceptedOf {calls : List DrainCall}
    (h : ∀ call ∈ calls, call.succeeded = true) : writesOf calls = acceptedOf calls := by
  refine List.filterMap_congr fun call hcall => ?_
  cases call with
  | read request timeoutMs answer => rfl
  | write write answer => exact (if_pos (h _ hcall)).symm

end

/-! ## Writes -/

section

variable (baseRequest : TransferFileRangeRequest) (options : TransferFileDrainOptions)

/-- **A write is the range that was read last**, it goes on where the accepted writes end, and no
call before it has failed. -/
structure WriteFollows (before : List DrainCall) (write : DrainWrite) : Prop where
  request : write.request = { baseRequest with
    offset := write.request.offset, requestedBytes := write.request.requestedBytes }
  offset : write.request.offset.toNat = baseRequest.offset.toNat + totalBytes (acceptedOf before)
  chunk : write.request.requestedBytes ≤ options.chunkBytes
  length_le : write.bytes.length ≤ write.request.requestedBytes.toNat
  read : ∃ earlier range, before = earlier ++ [.read write.request options.timeoutMs range] ∧
    range.ok = true ∧ range.bytes = write.bytes ∧ range.endOfFile = write.endOfFile
  succeeded : ∀ call ∈ before, call.succeeded = true

/-- Every write follows the calls before it. -/
def WritesFollow (calls : List DrainCall) : Prop :=
  ∀ before write answer after, calls = before ++ .write write answer :: after →
    WriteFollows baseRequest options before write

/-- **What a drain has done**, and what it says of it. -/
structure Drained (calls : List DrainCall) (result : TransferFileDrainResult) : Prop where
  writes : WritesFollow baseRequest options calls
  bytesWritten : result.bytesWritten.toNat = totalBytes (acceptedOf calls) % 2 ^ 64
  chunksWritten : result.chunksWritten.toNat = (acceptedOf calls).length % 2 ^ 64
  exact : options.maxTotalBytes ≠ 0 →
    result.bytesWritten.toNat = totalBytes (acceptedOf calls) ∧
      result.chunksWritten.toNat = (acceptedOf calls).length
  ok_iff : result.ok = true ↔
    ∃ write, (acceptedOf calls).getLast? = some write ∧ write.endOfFile = true
  budget : options.maxTotalBytes ≠ 0 →
    totalBytes (writesOf calls) ≤ options.maxTotalBytes.toNat

variable {baseRequest options} {calls : List DrainCall}

/-- A list with one more at its end is split at the last entry or before it. -/
theorem concat_eq_append_cons {α : Type*} {before after list : List α} {last x : α}
    (h : list ++ [last] = before ++ x :: after) :
    (after = [] ∧ list = before ∧ last = x) ∨ ∃ rest, list = before ++ x :: rest := by
  induction after using List.reverseRecOn with
  | nil =>
    obtain ⟨hlist, hlast⟩ := List.append_inj' h rfl
    exact Or.inl ⟨rfl, hlist, List.singleton_inj.mp hlast⟩
  | append_singleton rest last' _ =>
    rw [← List.cons_append, ← List.append_assoc] at h
    exact Or.inr ⟨rest, (List.append_inj' h rfl).1⟩

theorem WritesFollow.nil : WritesFollow baseRequest options [] := by
  intro before write answer after h
  cases before with
  | nil => cases h
  | cons call before => cases h

theorem WritesFollow.read (h : WritesFollow baseRequest options calls)
    (request : TransferFileRangeRequest) (timeoutMs : UInt32) (range : TransferFileRangeResult) :
    WritesFollow baseRequest options (calls ++ [.read request timeoutMs range]) := by
  intro before write answer after hsplit
  rcases concat_eq_append_cons hsplit with ⟨-, -, hlast⟩ | ⟨rest, hrest⟩
  · cases hlast
  · exact h before write answer rest hrest

theorem WritesFollow.write (h : WritesFollow baseRequest options calls) {write : DrainWrite}
    (hfollows : WriteFollows baseRequest options calls write)
    (answer : TransferFileDrainSinkResult) :
    WritesFollow baseRequest options (calls ++ [.write write answer]) := by
  intro before write' answer' after hsplit
  rcases concat_eq_append_cons hsplit with ⟨-, rfl, hlast⟩ | ⟨rest, hrest⟩
  · cases hlast
    exact hfollows
  · exact h before write' answer' rest hrest

/-! ## The loop -/

variable (baseRequest options) in
/-- **The invariant of the loop**: all calls have succeeded, the counts are right, and no range was
the last one. -/
structure Draining (s : DrainState (Traced σ)) : Prop where
  writes : WritesFollow baseRequest options s.world.calls
  succeeded : ∀ call ∈ s.world.calls, call.succeeded = true
  offset : s.offset.toNat = baseRequest.offset.toNat + totalBytes (acceptedOf s.world.calls)
  bytesWritten : s.result.bytesWritten.toNat = totalBytes (acceptedOf s.world.calls)
  chunksWritten : s.result.chunksWritten.toNat = (acceptedOf s.world.calls).length
  progress : (acceptedOf s.world.calls).length ≤ totalBytes (acceptedOf s.world.calls)
  budget : options.maxTotalBytes ≠ 0 →
    totalBytes (acceptedOf s.world.calls) < options.maxTotalBytes.toNat
  more : ∀ write ∈ acceptedOf s.world.calls, write.endOfFile = false

namespace Draining

variable {s : DrainState (Traced σ)}

theorem start (world : σ) :
    Draining baseRequest options
      { world := { world := world }, offset := baseRequest.offset } where
  writes := .nil
  succeeded := fun _ hcall => absurd hcall List.not_mem_nil
  offset := rfl
  bytesWritten := rfl
  chunksWritten := rfl
  progress := le_rfl
  budget := fun hmax => Nat.pos_of_ne_zero fun hzero => hmax (UInt64.toNat_inj.mp hzero)
  more := fun _ hwrite => absurd hwrite List.not_mem_nil

/-- A range that passes is a write that follows. -/
theorem follows (h : Draining baseRequest options s) {asked : TransferFileRangeRequest}
    {range : TransferFileRangeResult} (hasks : Asks baseRequest options s asked)
    (hpasses : Deliverable options s asked range) :
    WriteFollows baseRequest options
      (s.world.calls ++ [.read asked options.timeoutMs range])
      ⟨asked, range.bytes, range.endOfFile⟩ where
  request := by
    have hsame := hasks.same
    rw [hsame]
  offset := by
    have hoffset : asked.offset = s.offset := by rw [hasks.same]
    rw [acceptedOf_read, hoffset, h.offset]
  chunk := hasks.chunk
  length_le := hpasses.length_le
  read := ⟨s.world.calls, range, rfl, hpasses.ok, rfl, rfl⟩
  succeeded := by
    intro call hcall
    rcases List.mem_append.mp hcall with hcall | hcall
    · exact h.succeeded call hcall
    · rw [List.mem_singleton.mp hcall]
      exact hpasses.ok

/-- What is given fits the budget. -/
theorem given_le (h : Draining baseRequest options s) {asked : TransferFileRangeRequest}
    {range : TransferFileRangeResult} (hasks : Asks baseRequest options s asked)
    (hpasses : Deliverable options s asked range) (hmax : options.maxTotalBytes ≠ 0) :
    totalBytes (acceptedOf s.world.calls) + range.bytes.length ≤ options.maxTotalBytes.toNat := by
  have hroom := hasks.budget hmax
  rw [h.bytesWritten] at hroom
  have hlength := hpasses.length_le
  omega

/-- The counts of the source are those of the calls, in 64 bits. -/
theorem count (h : Draining baseRequest options s) (received : ℕ) (hreceived : received < 2 ^ 64) :
    (s.result.count received).bytesWritten.toNat =
        (totalBytes (acceptedOf s.world.calls) + received) % 2 ^ 64 ∧
      (s.result.count received).chunksWritten.toNat =
        ((acceptedOf s.world.calls).length + 1) % 2 ^ 64 := by
  constructor
  · show (s.result.bytesWritten + UInt64.ofNat received).toNat = _
    rw [UInt64.toNat_add, UInt64.toNat_ofNat_of_lt' hreceived, h.bytesWritten]
  · show (s.result.chunksWritten + 1).toNat = _
    rw [UInt64.toNat_add, h.chunksWritten]
    rfl

/-! ### The ends -/

/-- A drain that fails with no more accepted than before. -/
theorem drained_of_failure (h : Draining baseRequest options s) {calls : List DrainCall}
    {result : TransferFileDrainResult} (hwrites : WritesFollow baseRequest options calls)
    (haccepted : acceptedOf calls = acceptedOf s.world.calls)
    (hbudget : options.maxTotalBytes ≠ 0 →
      totalBytes (writesOf calls) ≤ options.maxTotalBytes.toNat)
    (hfails : FailsAt s.result result) : Drained baseRequest options calls result := by
  have hbytes : result.bytesWritten.toNat = totalBytes (acceptedOf calls) := by
    rw [hfails.bytesWritten, haccepted, h.bytesWritten]
  have hchunks : result.chunksWritten.toNat = (acceptedOf calls).length := by
    rw [hfails.chunksWritten, haccepted, h.chunksWritten]
  refine ⟨hwrites, ?_, ?_, fun _ => ⟨hbytes, hchunks⟩, ?_, hbudget⟩
  · rw [← hbytes, Nat.mod_eq_of_lt result.bytesWritten.toNat_lt]
  · rw [← hchunks, Nat.mod_eq_of_lt result.chunksWritten.toNat_lt]
  · rw [hfails.failed, haccepted]
    refine ⟨fun hok => absurd hok Bool.false_ne_true, ?_⟩
    rintro ⟨write, hlast, heof⟩
    rw [h.more write (List.mem_of_getLast? hlast)] at heof
    cases heof

/-- A drain that ends after a write was accepted. -/
theorem drained_of_accepted (h : Draining baseRequest options s) {asked : TransferFileRangeRequest}
    {range : TransferFileRangeResult} {write : TransferFileDrainSinkResult}
    {result : TransferFileDrainResult} (hasks : Asks baseRequest options s asked)
    (hpasses : Deliverable options s asked range) (hwrite : write.ok = true)
    (hbytes : result.bytesWritten = (s.result.count range.bytes.length).bytesWritten)
    (hchunks : result.chunksWritten = (s.result.count range.bytes.length).chunksWritten)
    (hok : result.ok = range.endOfFile) :
    Drained baseRequest options
      (s.world.calls ++ [.read asked options.timeoutMs range] ++
        [.write ⟨asked, range.bytes, range.endOfFile⟩ write]) result := by
  have hreceived : range.bytes.length < 2 ^ 64 :=
    hpasses.length_le.trans_lt asked.requestedBytes.toNat_lt
  obtain ⟨hbytesCount, hchunksCount⟩ := h.count range.bytes.length hreceived
  rw [← hbytes] at hbytesCount
  rw [← hchunks] at hchunksCount
  have haccepted : acceptedOf (s.world.calls ++ [.read asked options.timeoutMs range] ++
      [.write ⟨asked, range.bytes, range.endOfFile⟩ write]) =
        acceptedOf s.world.calls ++ [⟨asked, range.bytes, range.endOfFile⟩] := by
    rw [acceptedOf_write _ hwrite, acceptedOf_read]
  refine ⟨(h.writes.read _ _ _).write (h.follows hasks hpasses) write, ?_, ?_, fun hmax => ?_, ?_,
    fun hmax => ?_⟩
  · rw [haccepted, totalBytes_concat, hbytesCount]
  · rw [haccepted, List.length_append, hchunksCount]
    rfl
  · have hgiven := h.given_le hasks hpasses hmax
    have hbudget := h.budget hmax
    have hprogress := h.progress
    have hlt := options.maxTotalBytes.toNat_lt
    rw [haccepted, totalBytes_concat, List.length_append, hbytesCount, hchunksCount]
    exact ⟨Nat.mod_eq_of_lt (by omega), Nat.mod_eq_of_lt (by omega)⟩
  · rw [hok, haccepted, List.getLast?_concat]
    constructor
    · exact fun heof => ⟨_, rfl, heof⟩
    · rintro ⟨last, hlast, heof⟩
      rw [← Option.some.inj hlast] at heof
      exact heof
  · have hall := writesOf_eq_acceptedOf h.succeeded
    rw [writesOf_write, writesOf_read, totalBytes_concat, hall]
    exact h.given_le hasks hpasses hmax

/-- **A pass that goes on keeps the invariant.** -/
theorem goesOn (h : Draining baseRequest options s) {asked : TransferFileRangeRequest}
    {range : TransferFileRangeResult} {write : TransferFileDrainSinkResult}
    {next : DrainState (Traced σ)} (hasks : Asks baseRequest options s asked)
    (hpasses : Deliverable options s asked range) (hwrite : write.ok = true)
    (hmore : range.endOfFile = false)
    (hoffset : next.offset.toNat = s.offset.toNat + range.bytes.length)
    (hresult : next.result = s.result.count range.bytes.length)
    (hcalls : next.world.calls = s.world.calls ++ [.read asked options.timeoutMs range] ++
      [.write ⟨asked, range.bytes, range.endOfFile⟩ write]) :
    Draining baseRequest options next := by
  have haccepted : acceptedOf next.world.calls =
      acceptedOf s.world.calls ++ [⟨asked, range.bytes, range.endOfFile⟩] := by
    rw [hcalls, acceptedOf_write _ hwrite, acceptedOf_read]
  have hprogress := h.progress
  have hpositive := hpasses.progress hmore
  -- The offset has not overflowed, so neither have the counts.
  have hlt := next.offset.toNat_lt
  rw [hoffset, h.offset] at hlt
  obtain ⟨hbytesCount, hchunksCount⟩ := h.count range.bytes.length (by omega)
  constructor
  · rw [hcalls]
    exact (h.writes.read _ _ _).write (h.follows hasks hpasses) write
  · intro call hcall
    rw [hcalls] at hcall
    rcases List.mem_append.mp hcall with hcall | hcall
    · exact (h.follows hasks hpasses).succeeded call hcall
    · rw [List.mem_singleton.mp hcall]
      exact hwrite
  · rw [haccepted, totalBytes_concat, hoffset, h.offset, add_assoc]
  · rw [haccepted, totalBytes_concat, hresult, hbytesCount]
    exact Nat.mod_eq_of_lt (by omega)
  · rw [haccepted, List.length_append, hresult, hchunksCount]
    exact Nat.mod_eq_of_lt (by omega)
  · rw [haccepted, totalBytes_concat, List.length_append, List.length_singleton]
    show _ ≤ _ + range.bytes.length
    omega
  · intro hmax
    have hgiven := h.given_le hasks hpasses hmax
    have hexact := hpasses.budget hmore hmax
    rw [h.bytesWritten] at hexact
    rw [haccepted, totalBytes_concat]
    exact lt_of_le_of_ne hgiven hexact
  · intro write' hwrite'
    rw [haccepted] at hwrite'
    rcases List.mem_append.mp hwrite' with hwrite' | hwrite'
    · exact h.more write' hwrite'
    · rw [List.mem_singleton.mp hwrite']
      exact hmore

end Draining

end

/-! ## The function -/

variable (parties : DrainParties σ) (baseRequest : TransferFileRangeRequest)
  (options : TransferFileDrainOptions)

section

variable {parties} {s next : Traced σ}

theorem calls_of_read {request : TransferFileRangeRequest} {timeoutMs : UInt32}
    {answer : TransferFileRangeResult}
    (h : parties.traced.readRemoteFileRange request timeoutMs s = (answer, next)) :
    next.calls = s.calls ++ [.read request timeoutMs answer] := by
  cases h
  rfl

theorem calls_of_write {request : TransferFileRangeRequest} {bytes : ByteBuffer}
    {endOfFile : Bool} {answer : TransferFileDrainSinkResult}
    (h : parties.traced.writeRange request bytes endOfFile s = (answer, next)) :
    next.calls = s.calls ++ [.write ⟨request, bytes, endOfFile⟩ answer] := by
  cases h
  rfl

end

/-- **The loop does what a drain does.** -/
theorem drained_drainLoop (world : σ) :
    let after := (drainLoop parties.traced baseRequest options).run
      { world := { world := world }, offset := baseRequest.offset }
    Drained baseRequest options after.2.calls after.1 := by
  refine (drainLoop parties.traced baseRequest options).run_rule
    (I := Draining baseRequest options) (Q := fun after => Drained baseRequest options
      after.2.calls after.1) ?_ ?_ (Draining.start world)
  · intro s after h hbody
    have hall := writesOf_eq_acceptedOf h.succeeded
    cases DrainPass.of_body hbody with
    | stopped fails =>
      refine h.drained_of_failure h.writes rfl (fun hmax => ?_) fails
      rw [hall]
      exact (h.budget hmax).le
    | unread asks read fails =>
      refine h.drained_of_failure ?_ ?_ (fun hmax => ?_) fails
      · exact calls_of_read read ▸ h.writes.read _ _ _
      · rw [calls_of_read read, acceptedOf_read]
      · rw [calls_of_read read, writesOf_read, hall]
        exact (h.budget hmax).le
    | unwritten asks read passes wrote refused fails =>
      refine h.drained_of_failure ?_ ?_ (fun hmax => ?_) fails
      · rw [calls_of_write wrote, calls_of_read read]
        exact (h.writes.read _ _ _).write (h.follows asks passes) _
      · rw [calls_of_write wrote, calls_of_read read, acceptedOf_refused _ refused,
          acceptedOf_read]
      · rw [calls_of_write wrote, calls_of_read read, writesOf_write, writesOf_read,
          totalBytes_concat, hall]
        exact h.given_le asks passes hmax
    | ended asks read passes wrote accepted last counted =>
      show Drained baseRequest options _ _
      rw [calls_of_write wrote, calls_of_read read]
      exact h.drained_of_accepted asks passes accepted (counted ▸ rfl) (counted ▸ rfl)
        (counted ▸ last.symm)
    | overflowed asks read passes wrote accepted more fails =>
      show Drained baseRequest options _ _
      rw [calls_of_write wrote, calls_of_read read]
      exact h.drained_of_accepted asks passes accepted fails.bytesWritten fails.chunksWritten
        (fails.failed.trans more.symm)
  · intro s next h hbody
    cases DrainPass.of_body hbody with
    | goesOn asks read passes wrote accepted more offset result world_eq =>
      refine h.goesOn asks passes accepted more offset result ?_
      rw [world_eq, calls_of_write wrote, calls_of_read read]

/-! ### The calls change nothing -/

/-- A state of the loop without the calls. -/
def DrainState.forget (s : DrainState (Traced σ)) : DrainState σ where
  world := s.world.world
  offset := s.offset
  result := s.result

theorem map_ite {α β γ δ : Type*} {f : α → γ} {g : β → δ} {c : Prop} [Decidable c] {a b : α ⊕ β}
    {a' b' : γ ⊕ δ} (ha : Sum.map f g a = a') (hb : Sum.map f g b = b') :
    Sum.map f g (if c then a else b) = if c then a' else b' := by
  split
  · exact ha
  · exact hb

/-- **A pass does the same where its calls are written down.** -/
theorem drainPass_traced (s : DrainState (Traced σ)) :
    Sum.map (fun after => (after.1, after.2.world)) DrainState.forget
        (drainPass parties.traced baseRequest options s) =
      drainPass parties baseRequest options s.forget := by
  unfold drainPass
  refine map_ite rfl ?_
  refine map_ite rfl ?_
  refine map_ite rfl ?_
  refine map_ite rfl ?_
  refine map_ite rfl ?_
  refine map_ite rfl ?_
  refine map_ite rfl ?_
  refine map_ite rfl ?_
  exact map_ite rfl rfl

/-- **So does the whole function.** -/
theorem drainRemoteFileRange_traced (world : σ) :
    let after := drainRemoteFileRange parties.traced baseRequest options { world := world }
    (after.1, after.2.world) = drainRemoteFileRange parties baseRequest options world := by
  unfold drainRemoteFileRange
  split
  · rfl
  refine (drainLoop parties.traced baseRequest options).run_related
    (drainLoop parties baseRequest options) (R := fun s t => s.forget = t)
    (S := fun after after' => (after.1, after.2.world) = after') ?_ rfl
  rintro s t rfl
  show Sum.LiftRel _ _ (drainPass parties.traced baseRequest options s)
    (drainPass parties baseRequest options s.forget)
  rw [← drainPass_traced]
  cases drainPass parties.traced baseRequest options s with
  | inl after => exact Sum.LiftRel.inl rfl
  | inr next => exact Sum.LiftRel.inr rfl

/-- **Every drain with a chunk size ends, and does what a drain does**, whatever the reader and the
sink answer. -/
theorem drainRemoteFileRange_drained (hchunk : options.chunkBytes ≠ 0) (world : σ) :
    let traced := drainRemoteFileRange parties.traced baseRequest options { world := world }
    let after := drainRemoteFileRange parties baseRequest options world
    (∃ passes ≤ 2 ^ 64 - baseRequest.offset.toNat + 1,
        (drainLoop parties baseRequest options).after passes
          { world := world, offset := baseRequest.offset } = .inl after) ∧
      (traced.1, traced.2.world) = after ∧ Drained baseRequest options traced.2.calls after.1 := by
  intro traced after
  have hsame : (traced.1, traced.2.world) = after :=
    drainRemoteFileRange_traced parties baseRequest options world
  have hdrained := drained_drainLoop parties baseRequest options world
  dsimp only at hdrained
  rw [← drainRemoteFileRange_of_chunk parties.traced baseRequest hchunk] at hdrained
  refine ⟨?_, hsame, ?_⟩
  · have hends := (drainLoop parties baseRequest options).exists_after_eq_run
      { world := world, offset := baseRequest.offset }
    rw [← drainRemoteFileRange_of_chunk parties baseRequest hchunk] at hends
    exact hends
  · rw [← congrArg Prod.fst hsame]
    exact hdrained

/-! ### Runs -/

/-- A reader of the file, and a sink that accepts what it gets. -/
def fileParties (file : ByteBuffer) : DrainParties Unit where
  readRemoteFileRange request _ _ :=
    let bytes := (file.drop request.offset.toNat).take request.requestedBytes.toNat
    ({ status := .ok
       bytes := bytes
       endOfFile := file.length ≤ request.offset.toNat + bytes.length }, ())
  writeRange _ _ _ _ := ({}, ())

/-- Five bytes, two at a time. -/
theorem drainRemoteFileRange_drained_five :
    let options : TransferFileDrainOptions := { chunkBytes := 2, maxTotalBytes := 5 }
    let traced := drainRemoteFileRange (fileParties [1, 2, 3, 4, 5]).traced {} options { world := () }
    Drained {} options traced.2.calls
        (drainRemoteFileRange (fileParties [1, 2, 3, 4, 5]) {} options ()).1 ∧
      traced.1.chunksWritten = 3 :=
  ⟨(drainRemoteFileRange_drained (fileParties [1, 2, 3, 4, 5]) {}
    { chunkBytes := 2, maxTotalBytes := 5 } (by decide) ()).2.2, by decide +kernel⟩

/-- A reader of `2 ^ 63 - 1` bytes at a time, until the offset is two bytes below `2 ^ 64`: there are
two more. -/
def hugeParties (chunk : ByteBuffer) : DrainParties Unit where
  readRemoteFileRange request _ _ :=
    if request.offset = 0xfffffffffffffffe then
      ({ status := .ok, bytes := [0, 0], endOfFile := true }, ())
    else ({ status := .ok, bytes := chunk }, ())
  writeRange _ _ _ _ := ({}, ())

/-- The loop of its drain, in chunks of that size. -/
def hugeLoop (chunk : ByteBuffer) :
    BoundedLoop (DrainState (Traced Unit)) (TransferFileDrainResult × Traced Unit) :=
  drainLoop (hugeParties chunk).traced {} { chunkBytes := 0x7fffffffffffffff }

section

variable {chunk : ByteBuffer} (hchunk : chunk.length = 0x7fffffffffffffff)

include hchunk

theorem pass_hugeParties {s : DrainState (Traced Unit)} {next : UInt64}
    (hoffset : s.offset ≤ 0x7fffffffffffffff) (hnext : s.offset + 0x7fffffffffffffff = next) :
    ∃ request : TransferFileRangeRequest,
      (hugeLoop chunk).body s =
        .inr {
          world := { world := (), calls := s.world.calls ++
            [.read request 30000 { status := .ok, bytes := chunk }] ++
            [.write ⟨request, chunk, false⟩ {}] }
          offset := next
          result := s.result.count 0x7fffffffffffffff } := by
  have hle := UInt64.le_iff_toNat_le.mp hoffset
  have hne : s.offset ≠ 0xfffffffffffffffe := by
    rintro heq
    rw [heq] at hle
    exact absurd hle (by decide)
  have hroom : ¬s.offset > maxUInt64 - 0x7fffffffffffffff := by
    intro hgt
    have hlt := UInt64.lt_iff_toNat_lt.mp hgt
    have hmax : (maxUInt64 - 0x7fffffffffffffff).toNat = 2 ^ 63 := by decide
    have hmiddle : (0x7fffffffffffffff : UInt64).toNat = 2 ^ 63 - 1 := by decide
    omega
  refine ⟨{ offset := s.offset, requestedBytes := 0x7fffffffffffffff }, ?_⟩
  simp [hugeLoop, drainLoop, drainPass, hugeParties, DrainParties.traced, TransferFileRangeResult.ok,
    TransferFileDrainSinkResult.ok, TransferFileDrainResult.count, hne, hchunk, hroom, hnext]

omit hchunk in
theorem lastPass_hugeParties (chunk : ByteBuffer) {s : DrainState (Traced Unit)} (hoffset : s.offset = 0xfffffffffffffffe) :
    ∃ request : TransferFileRangeRequest,
      (hugeLoop chunk).body s =
        .inl ({ s.result.count 2 with status := .ok, endOfFile := true },
          { world := (), calls := s.world.calls ++
            [.read request 30000 { status := .ok, bytes := [0, 0], endOfFile := true }] ++
            [.write ⟨request, [0, 0], true⟩ {}] }) := by
  refine ⟨{ offset := s.offset, requestedBytes := 0x7fffffffffffffff }, ?_⟩
  simp [hugeLoop, drainLoop, drainPass, hugeParties, DrainParties.traced, TransferFileRangeResult.ok,
    TransferFileDrainSinkResult.ok, TransferFileDrainResult.count, hoffset]

/-- Three ranges of `2 ^ 64` bytes. -/
theorem drain_hugeParties :
    let traced := drainRemoteFileRange (hugeParties chunk).traced {}
      { chunkBytes := 0x7fffffffffffffff } { world := () }
    traced.1.ok = true ∧ traced.1.bytesWritten.toNat ≠ totalBytes (acceptedOf traced.2.calls) := by
  intro traced
  obtain ⟨first, hfirst⟩ := pass_hugeParties hchunk
    (s := { world := { world := () }, offset := 0 }) (show (0 : UInt64) ≤ _ by decide)
    (show (0 : UInt64) + _ = 0x7fffffffffffffff by decide)
  obtain ⟨second, hsecond⟩ := pass_hugeParties hchunk (s := {
    world := { world := (), calls :=
      [.read first 30000 { status := .ok, bytes := chunk }, .write ⟨first, chunk, false⟩ {}] }
    offset := 0x7fffffffffffffff
    result := ({} : TransferFileDrainResult).count 0x7fffffffffffffff })
    (show (0x7fffffffffffffff : UInt64) ≤ _ by decide)
    (show (0x7fffffffffffffff : UInt64) + _ = 0xfffffffffffffffe by decide)
  obtain ⟨last, hlast⟩ := lastPass_hugeParties chunk (s := {
    world := { world := (), calls :=
      [.read first 30000 { status := .ok, bytes := chunk }, .write ⟨first, chunk, false⟩ {},
        .read second 30000 { status := .ok, bytes := chunk }, .write ⟨second, chunk, false⟩ {}] }
    offset := 0xfffffffffffffffe
    result := (({} : TransferFileDrainResult).count 0x7fffffffffffffff).count
      0x7fffffffffffffff }) rfl
  have hloop : traced = (hugeLoop chunk).run { world := { world := () }, offset := 0 } :=
    drainRemoteFileRange_of_chunk _ _ (by decide) _
  have htraced := ((hloop.trans ((hugeLoop chunk).run_of_inr hfirst)).trans
    ((hugeLoop chunk).run_of_inr hsecond)).trans ((hugeLoop chunk).run_of_inl hlast)
  rw [htraced]
  refine ⟨rfl, ?_⟩
  have htotal : totalBytes [⟨first, chunk, false⟩, ⟨second, chunk, false⟩,
      ⟨last, [0, 0], true⟩] = 2 ^ 64 := by
    simp [totalBytes, hchunk]
  show (((({} : TransferFileDrainResult).count 0x7fffffffffffffff).count
    0x7fffffffffffffff).count 2).bytesWritten.toNat ≠ totalBytes [⟨first, chunk, false⟩,
      ⟨second, chunk, false⟩, ⟨last, [0, 0], true⟩]
  rw [htotal]
  decide

end

/-- **`bytesWritten` wraps**: `2 ^ 64` bytes are accepted, and it is zero. -/
theorem bytesWritten_wraps :
    let traced := drainRemoteFileRange (hugeParties (List.replicate 0x7fffffffffffffff 0)).traced {}
      { chunkBytes := 0x7fffffffffffffff } { world := () }
    traced.1.ok = true ∧ traced.1.bytesWritten.toNat ≠ totalBytes (acceptedOf traced.2.calls) :=
  drain_hugeParties List.length_replicate

end Clipboard
end FusionDesk
