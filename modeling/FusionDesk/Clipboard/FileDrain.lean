import FusionDesk.General.BoundedLoop
import FusionDesk.Clipboard.Types
import Mathlib.Algebra.Ring.Nat
import Mathlib.Data.List.Basic

/-!
# Draining a remote file

`drainRemoteFileRange` of `src/modules/clipboard/clipboard_transfer.cpp`: a reader is asked for one
range after the other, and a sink gets what it answers.  Both are objects that the function calls,
so each may do to the world what it likes and answer what it likes; `DrainParties` is what one call
makes of the world and what it answers.

The loop is a `BoundedLoop`: a pass that goes on moves the offset on, and the offset has 64 bits.

* `drainPass`: one pass of the loop.
* `DrainPass`, `drainPass_cases`: what a pass can do, once.
* `drainRemoteFileRange`: the whole function.
-/

namespace FusionDesk
namespace Clipboard

open Protocol

/-! ## Options and results -/

/-- `DefaultTransferFileRangeChunkBytes`. -/
def defaultTransferFileRangeChunkBytes : UInt64 := 4 * 1024 * 1024

structure TransferFileDrainOptions where
  chunkBytes : UInt64 := defaultTransferFileRangeChunkBytes
  maxTotalBytes : UInt64 := 0
  timeoutMs : UInt32 := 30000
  deriving DecidableEq, Repr

structure TransferFileDrainSinkResult where
  status : ResponseStatus := .ok
  message : StdString := []
  deriving DecidableEq, Repr

def TransferFileDrainSinkResult.ok (result : TransferFileDrainSinkResult) : Bool :=
  result.status == .ok

structure TransferFileDrainResult where
  status : ResponseStatus := .failed
  bytesWritten : UInt64 := 0
  chunksWritten : UInt64 := 0
  endOfFile : Bool := false
  message : StdString := []
  deriving DecidableEq, Repr

def TransferFileDrainResult.ok (result : TransferFileDrainResult) : Bool :=
  result.status == .ok

/-- An `IClipboardRemoteFileReader` and an `ITransferFileRangeSink` in a world of type `σ`. -/
structure DrainParties (σ : Type*) where
  readRemoteFileRange : TransferFileRangeRequest → UInt32 → σ → TransferFileRangeResult × σ
  writeRange : TransferFileRangeRequest → ByteBuffer → Bool → σ → TransferFileDrainSinkResult × σ

/-! ## The loop -/

/-- What the loop goes on with. -/
structure DrainState (σ : Type*) where
  world : σ
  offset : UInt64
  result : TransferFileDrainResult := {}

variable {σ : Type*} (parties : DrainParties σ) (baseRequest : TransferFileRangeRequest)
  (options : TransferFileDrainOptions)

/-- `std::numeric_limits<std::uint64_t>::max()`. -/
def maxUInt64 : UInt64 := 0xffffffffffffffff

/-- One pass of the loop.  The size of a buffer is a natural number, which its cast to 64 bits keeps:
no buffer of the source is larger. -/
def drainPass (s : DrainState σ) : TransferFileDrainResult × σ ⊕ DrainState σ :=
  let result := s.result
  if options.maxTotalBytes ≠ 0 ∧ result.bytesWritten ≥ options.maxTotalBytes then
    .inl ({ result with
      status := .tooLarge
      message := bytesOf "clipboard file exceeds max drain bytes" }, s.world)
  else
  let requestedBytes :=
    if options.maxTotalBytes ≠ 0 then
      min options.chunkBytes (options.maxTotalBytes - result.bytesWritten)
    else options.chunkBytes
  if requestedBytes = 0 then
    .inl ({ result with
      status := .tooLarge
      message := bytesOf "clipboard file exceeds max drain bytes" }, s.world)
  else
  let rangeRequest := { baseRequest with offset := s.offset, requestedBytes := requestedBytes }
  let (range, world) := parties.readRemoteFileRange rangeRequest options.timeoutMs s.world
  if range.ok = false then
    .inl ({ result with
      status := range.status
      message :=
        if range.message = [] then bytesOf "clipboard remote file range read failed"
        else range.message }, world)
  else
  let receivedBytes := range.bytes.length
  if receivedBytes > requestedBytes.toNat then
    .inl ({ result with
      status := .protocolError
      message := bytesOf "clipboard remote file range exceeded requested bytes" }, world)
  else
  if receivedBytes = 0 ∧ range.endOfFile = false then
    .inl ({ result with
      status := .protocolError
      message := bytesOf "clipboard remote file range made no progress" }, world)
  else
  if options.maxTotalBytes ≠ 0 ∧
      receivedBytes = (options.maxTotalBytes - result.bytesWritten).toNat ∧
        range.endOfFile = false then
    .inl ({ result with
      status := .tooLarge
      message := bytesOf "clipboard file exceeds max drain bytes" }, world)
  else
  let (write, world) := parties.writeRange rangeRequest range.bytes range.endOfFile world
  if write.ok = false then
    .inl ({ result with
      status := write.status
      message :=
        if write.message = [] then bytesOf "clipboard file range sink rejected data"
        else write.message }, world)
  else
  let result := { result with
    bytesWritten := result.bytesWritten + UInt64.ofNat receivedBytes
    chunksWritten := result.chunksWritten + 1 }
  if range.endOfFile = true then
    .inl ({ result with status := .ok, endOfFile := true }, world)
  else
  if s.offset > maxUInt64 - UInt64.ofNat receivedBytes then
    .inl ({ result with
      status := .protocolError
      message := bytesOf "clipboard remote file range offset overflow" }, world)
  else
    .inr { world := world, offset := s.offset + UInt64.ofNat receivedBytes, result := result }

/-! ### What a pass can do -/

/-- The range that a pass asks for. -/
structure Asks (s : DrainState σ) (asked : TransferFileRangeRequest) : Prop where
  same : asked = { baseRequest with offset := s.offset, requestedBytes := asked.requestedBytes }
  chunk : asked.requestedBytes ≤ options.chunkBytes
  budget : options.maxTotalBytes ≠ 0 →
    s.result.bytesWritten.toNat + asked.requestedBytes.toNat ≤ options.maxTotalBytes.toNat

/-- An answer of the reader that the sink gets to see. -/
structure Deliverable (s : DrainState σ) (asked : TransferFileRangeRequest)
    (range : TransferFileRangeResult) : Prop where
  ok : range.ok = true
  length_le : range.bytes.length ≤ asked.requestedBytes.toNat
  progress : range.endOfFile = false → 0 < range.bytes.length
  budget : range.endOfFile = false → options.maxTotalBytes ≠ 0 →
    s.result.bytesWritten.toNat + range.bytes.length ≠ options.maxTotalBytes.toNat

/-- The result is a failure, and the counts stand. -/
structure FailsAt (before after : TransferFileDrainResult) : Prop where
  failed : after.ok = false
  bytesWritten : after.bytesWritten = before.bytesWritten
  chunksWritten : after.chunksWritten = before.chunksWritten

/-- The counts after a write. -/
def TransferFileDrainResult.count (result : TransferFileDrainResult) (received : ℕ) :
    TransferFileDrainResult :=
  { result with
    bytesWritten := result.bytesWritten + UInt64.ofNat received
    chunksWritten := result.chunksWritten + 1 }

/-- **What a pass can do.** -/
inductive DrainPass (s : DrainState σ) : TransferFileDrainResult × σ ⊕ DrainState σ → Prop
  | stopped {result : TransferFileDrainResult} (fails : FailsAt s.result result) :
      DrainPass s (.inl (result, s.world))
  | unread {asked : TransferFileRangeRequest} {range : TransferFileRangeResult} {world : σ}
      {result : TransferFileDrainResult} (asks : Asks baseRequest options s asked)
      (read : parties.readRemoteFileRange asked options.timeoutMs s.world = (range, world))
      (fails : FailsAt s.result result) : DrainPass s (.inl (result, world))
  | unwritten {asked : TransferFileRangeRequest} {range : TransferFileRangeResult} {world after : σ}
      {write : TransferFileDrainSinkResult} {result : TransferFileDrainResult}
      (asks : Asks baseRequest options s asked)
      (read : parties.readRemoteFileRange asked options.timeoutMs s.world = (range, world))
      (passes : Deliverable options s asked range)
      (wrote : parties.writeRange asked range.bytes range.endOfFile world = (write, after))
      (refused : write.ok = false) (fails : FailsAt s.result result) :
      DrainPass s (.inl (result, after))
  | ended {asked : TransferFileRangeRequest} {range : TransferFileRangeResult} {world after : σ}
      {write : TransferFileDrainSinkResult} {result : TransferFileDrainResult}
      (asks : Asks baseRequest options s asked)
      (read : parties.readRemoteFileRange asked options.timeoutMs s.world = (range, world))
      (passes : Deliverable options s asked range)
      (wrote : parties.writeRange asked range.bytes range.endOfFile world = (write, after))
      (accepted : write.ok = true) (last : range.endOfFile = true)
      (counted : result =
        { s.result.count range.bytes.length with status := .ok, endOfFile := true }) :
      DrainPass s (.inl (result, after))
  | overflowed {asked : TransferFileRangeRequest} {range : TransferFileRangeResult}
      {world after : σ} {write : TransferFileDrainSinkResult} {result : TransferFileDrainResult}
      (asks : Asks baseRequest options s asked)
      (read : parties.readRemoteFileRange asked options.timeoutMs s.world = (range, world))
      (passes : Deliverable options s asked range)
      (wrote : parties.writeRange asked range.bytes range.endOfFile world = (write, after))
      (accepted : write.ok = true) (more : range.endOfFile = false)
      (fails : FailsAt (s.result.count range.bytes.length) result) :
      DrainPass s (.inl (result, after))
  | goesOn {asked : TransferFileRangeRequest} {range : TransferFileRangeResult} {world after : σ}
      {write : TransferFileDrainSinkResult} {next : DrainState σ}
      (asks : Asks baseRequest options s asked)
      (read : parties.readRemoteFileRange asked options.timeoutMs s.world = (range, world))
      (passes : Deliverable options s asked range)
      (wrote : parties.writeRange asked range.bytes range.endOfFile world = (write, after))
      (accepted : write.ok = true) (more : range.endOfFile = false)
      (offset : next.offset.toNat = s.offset.toNat + range.bytes.length)
      (result : next.result = s.result.count range.bytes.length) (world_eq : next.world = after) :
      DrainPass s (.inr next)

/-- `std::min` of two numbers is no more than either. -/
theorem toNat_min_le (a b : UInt64) :
    (min a b).toNat ≤ a.toNat ∧ (min a b).toNat ≤ b.toNat := by
  show (if a ≤ b then a else b).toNat ≤ _ ∧ (if a ≤ b then a else b).toNat ≤ _
  split
  next h => exact ⟨le_rfl, UInt64.le_iff_toNat_le.mp h⟩
  next h => exact ⟨(UInt64.lt_iff_toNat_lt.mp (UInt64.not_le.mp h)).le, le_rfl⟩

variable {baseRequest options} in
/-- The budget leaves room for what is asked for. -/
theorem asks_of_guards {s : DrainState σ} {requestedBytes : UInt64}
    (hbudget : ¬(options.maxTotalBytes ≠ 0 ∧ s.result.bytesWritten ≥ options.maxTotalBytes))
    (hrequested : requestedBytes =
      if options.maxTotalBytes ≠ 0 then
        min options.chunkBytes (options.maxTotalBytes - s.result.bytesWritten)
      else options.chunkBytes) :
    Asks baseRequest options s
      { baseRequest with offset := s.offset, requestedBytes := requestedBytes } := by
  refine ⟨rfl, ?_, fun hmax => ?_⟩
  · show requestedBytes ≤ _
    rw [hrequested, UInt64.le_iff_toNat_le]
    split
    · exact (toNat_min_le _ _).1
    · exact le_rfl
  · show _ + requestedBytes.toNat ≤ _
    have hroom : s.result.bytesWritten < options.maxTotalBytes :=
      UInt64.not_le.mp fun hle => hbudget ⟨hmax, hle⟩
    have hleft : requestedBytes.toNat ≤ (options.maxTotalBytes - s.result.bytesWritten).toNat := by
      rw [hrequested, if_pos hmax]
      exact (toNat_min_le _ _).2
    rw [UInt64.toNat_sub_of_le _ _ (UInt64.le_of_lt hroom)] at hleft
    have hlt := UInt64.lt_iff_toNat_lt.mp hroom
    omega

/-- Where the offset does not overflow, it moves on by what was received. -/
theorem toNat_add_of_le_maxUInt64_sub {offset : UInt64} {received : ℕ} (hreceived : received < 2 ^ 64)
    (h : ¬offset > maxUInt64 - UInt64.ofNat received) :
    (offset + UInt64.ofNat received).toNat = offset.toNat + received := by
  have hle := UInt64.le_iff_toNat_le.mp (UInt64.not_lt.mp h)
  have hofNat : (UInt64.ofNat received).toNat = received := UInt64.toNat_ofNat_of_lt' hreceived
  have hmax : maxUInt64.toNat = 2 ^ 64 - 1 := rfl
  rw [UInt64.toNat_sub_of_le _ _ (UInt64.le_iff_toNat_le.mpr (by omega)), hofNat, hmax] at hle
  rw [UInt64.toNat_add, hofNat]
  exact Nat.mod_eq_of_lt (by omega)

/-- **A pass does one of these.** -/
theorem drainPass_cases (s : DrainState σ) :
    DrainPass parties baseRequest options s (drainPass parties baseRequest options s) := by
  unfold drainPass
  extract_lets result
  split
  · exact .stopped ⟨rfl, rfl, rfl⟩
  next requestedBytes asked hbudget =>
  have hasks : Asks baseRequest options s asked := asks_of_guards hbudget rfl
  split
  · exact .stopped ⟨rfl, rfl, rfl⟩
  split
  next range world hread =>
  split
  next hfailed => exact .unread hasks hread ⟨hfailed, rfl, rfl⟩
  next hok =>
  extract_lets receivedBytes
  split
  · exact .unread hasks hread ⟨rfl, rfl, rfl⟩
  next hlength =>
  split
  · exact .unread hasks hread ⟨rfl, rfl, rfl⟩
  next hprogress =>
  split
  · exact .unread hasks hread ⟨rfl, rfl, rfl⟩
  next hexact =>
  have hpasses : Deliverable options s asked range := by
    refine ⟨eq_true_of_ne_false hok, not_lt.mp hlength, fun hmore => ?_,
      fun hmore hmax heq => ?_⟩
    · exact Nat.pos_of_ne_zero fun hzero => hprogress ⟨hzero, hmore⟩
    · refine hexact ⟨hmax, ?_, hmore⟩
      have hroom : result.bytesWritten.toNat + asked.requestedBytes.toNat ≤ _ := hasks.budget hmax
      have heq : result.bytesWritten.toNat + range.bytes.length = _ := heq
      rw [UInt64.toNat_sub_of_le _ _ (UInt64.le_iff_toNat_le.mpr (by omega))]
      omega
  split
  next write after hwrote =>
  split
  next hrefused => exact .unwritten hasks hread hpasses hwrote hrefused ⟨hrefused, rfl, rfl⟩
  next haccepted =>
  have haccepted := eq_true_of_ne_false haccepted
  split
  next hlast => exact .ended hasks hread hpasses hwrote haccepted hlast rfl
  next hmore =>
  have hmore := eq_false_of_ne_true hmore
  split
  · exact .overflowed hasks hread hpasses hwrote haccepted hmore ⟨rfl, rfl, rfl⟩
  next hoffset =>
  refine .goesOn hasks hread hpasses hwrote haccepted hmore ?_ rfl rfl
  exact toNat_add_of_le_maxUInt64_sub
    (hpasses.length_le.trans_lt asked.requestedBytes.toNat_lt) hoffset

/-! ## The function -/

/-- **A pass that goes on moves the offset on**, and the offset has 64 bits. -/
theorem drainPass_decreases {s next : DrainState σ}
    (h : drainPass parties baseRequest options s = .inr next) :
    2 ^ 64 - next.offset.toNat < 2 ^ 64 - s.offset.toNat := by
  have hcases := drainPass_cases parties baseRequest options s
  rw [h] at hcases
  cases hcases with
  | goesOn asks read passes wrote accepted more offset result world_eq =>
    have hprogress := passes.progress more
    have hlt := s.offset.toNat_lt
    omega

def drainLoop : BoundedLoop (DrainState σ) (TransferFileDrainResult × σ) where
  body := drainPass parties baseRequest options
  variant s := 2 ^ 64 - s.offset.toNat
  decreases := drainPass_decreases parties baseRequest options

variable {parties baseRequest options} in
theorem DrainPass.of_body {s : DrainState σ} {after : TransferFileDrainResult × σ ⊕ DrainState σ}
    (h : (drainLoop parties baseRequest options).body s = after) :
    DrainPass parties baseRequest options s after :=
  h ▸ drainPass_cases parties baseRequest options s

/-- The result, and the world after the calls. -/
def drainRemoteFileRange (world : σ) : TransferFileDrainResult × σ :=
  if options.chunkBytes = 0 then
    ({ status := .invalidArgument
       message := bytesOf "clipboard file drain chunk size is zero" }, world)
  else
    (drainLoop parties baseRequest options).run { world := world, offset := baseRequest.offset }

/-- A drain with a chunk size is its loop. -/
theorem drainRemoteFileRange_of_chunk {options : TransferFileDrainOptions}
    (h : options.chunkBytes ≠ 0) (world : σ) :
    drainRemoteFileRange parties baseRequest options world =
      (drainLoop parties baseRequest options).run
        { world := world, offset := baseRequest.offset } :=
  if_neg h

end Clipboard
end FusionDesk
