import FusionDesk.Clipboard.FileDrain

/-!
# Reading a window of a remote file

`readRemoteFileRangeWindow` of `src/modules/clipboard/clipboard_transfer.cpp`: a reader is asked for
one range after the other until the window is full or the file ends.  The reader is an object that
the function calls, so it may do to the world what it likes.

* `windowPass`, `WindowPass`: one pass of the loop, and what it can do.
* `Answers`: an answer of a reader that reads a file, however short.
* `Stitched`: the invariant, the bytes so far are those of the file from the offset on.
* `readRemoteFileRangeWindow_exact`: every window, and what holds whatever the reader does.
-/

namespace FusionDesk
namespace Clipboard

open Protocol

structure TransferFileWindowReadOptions where
  chunkBytes : UInt64 := defaultTransferFileRangeChunkBytes
  timeoutMs : UInt32 := 30000
  deriving DecidableEq, Repr

/-- What the loop goes on with. -/
structure WindowState (σ : Type*) where
  world : σ
  currentOffset : UInt64
  remaining : UInt64
  result : TransferFileRangeResult := { status := .ok }

variable {σ : Type*}
  (readRemoteFileRange : TransferFileRangeRequest → UInt32 → σ → TransferFileRangeResult × σ)
  (baseRequest : TransferFileRangeRequest) (options : TransferFileWindowReadOptions)

/-- The range that a pass asks for. -/
def windowRequest (s : WindowState σ) : TransferFileRangeRequest :=
  { baseRequest with
    offset := s.currentOffset
    requestedBytes := min s.remaining options.chunkBytes }

/-- One pass of the loop.  The size of a buffer is a natural number, which its cast to 64 bits keeps:
no buffer of the source is larger. -/
def windowPass (s : WindowState σ) : TransferFileRangeResult × σ ⊕ WindowState σ :=
  if s.remaining = 0 then .inl (s.result, s.world)
  else
  let wanted := min s.remaining options.chunkBytes
  let (range, world) := readRemoteFileRange (windowRequest baseRequest options s) options.timeoutMs
    s.world
  if range.ok = false then .inl (range, world)
  else
  let received := range.bytes.length
  if received > wanted.toNat then
    .inl ({ s.result with
      status := .protocolError
      bytes := []
      message := bytesOf "clipboard remote file range exceeded requested window bytes" }, world)
  else
  if received = 0 ∧ range.endOfFile = false then
    .inl ({ s.result with
      status := .protocolError
      bytes := []
      message := bytesOf "clipboard remote file window read made no progress" }, world)
  else
  let result := { s.result with bytes := s.result.bytes ++ range.bytes }
  if range.endOfFile = true then .inl ({ result with endOfFile := true }, world)
  else
  if s.currentOffset > maxUInt64 - UInt64.ofNat received then
    .inl ({ result with
      status := .protocolError
      bytes := []
      message := bytesOf "clipboard remote file window offset overflow" }, world)
  else
    .inr {
      world := world
      currentOffset := s.currentOffset + UInt64.ofNat received
      remaining := s.remaining - UInt64.ofNat received
      result := result }

/-! ## What a pass can do -/

/-- An answer that is not taken. -/
def Rejected (asked : TransferFileRangeRequest) (range : TransferFileRangeResult) : Prop :=
  asked.requestedBytes.toNat < range.bytes.length ∨
    range.bytes.length = 0 ∧ range.endOfFile = false ∨
    2 ^ 64 ≤ asked.offset.toNat + range.bytes.length ∧ range.endOfFile = false

/-- An answer that is taken. -/
structure Taken (asked : TransferFileRangeRequest) (range : TransferFileRangeResult) : Prop where
  ok : range.ok = true
  length_le : range.bytes.length ≤ asked.requestedBytes.toNat
  progress : range.endOfFile = false → 0 < range.bytes.length

/-- **What a pass can do.** -/
inductive WindowPass (s : WindowState σ) : TransferFileRangeResult × σ ⊕ WindowState σ → Prop
  | full (nothing : s.remaining = 0) : WindowPass s (.inl (s.result, s.world))
  | unread {range : TransferFileRangeResult} {world : σ} (more : s.remaining ≠ 0)
      (read : readRemoteFileRange (windowRequest baseRequest options s) options.timeoutMs s.world =
        (range, world)) (failed : range.ok = false) : WindowPass s (.inl (range, world))
  | rejected {range result : TransferFileRangeResult} {world : σ} (more : s.remaining ≠ 0)
      (read : readRemoteFileRange (windowRequest baseRequest options s) options.timeoutMs s.world =
        (range, world)) (why : Rejected (windowRequest baseRequest options s) range)
      (failed : result.ok = false) : WindowPass s (.inl (result, world))
  | ended {range : TransferFileRangeResult} {world : σ} (more : s.remaining ≠ 0)
      (read : readRemoteFileRange (windowRequest baseRequest options s) options.timeoutMs s.world =
        (range, world)) (taken : Taken (windowRequest baseRequest options s) range)
      (last : range.endOfFile = true) :
      WindowPass s (.inl ({ s.result with
        bytes := s.result.bytes ++ range.bytes
        endOfFile := true }, world))
  | goesOn {range : TransferFileRangeResult} {world : σ} {next : WindowState σ}
      (more : s.remaining ≠ 0)
      (read : readRemoteFileRange (windowRequest baseRequest options s) options.timeoutMs s.world =
        (range, world)) (taken : Taken (windowRequest baseRequest options s) range)
      (rest : range.endOfFile = false)
      (offset : next.currentOffset.toNat = s.currentOffset.toNat + range.bytes.length)
      (remaining : next.remaining.toNat + range.bytes.length = s.remaining.toNat)
      (result : next.result = { s.result with bytes := s.result.bytes ++ range.bytes }) :
      WindowPass s (.inr next)

/-- **A pass does one of these.** -/
theorem windowPass_cases (s : WindowState σ) :
    WindowPass readRemoteFileRange baseRequest options s
      (windowPass readRemoteFileRange baseRequest options s) := by
  unfold windowPass
  split
  next hnothing => exact .full hnothing
  next hmore =>
  extract_lets wanted
  split
  next range world hread =>
  split
  next hfailed => exact .unread hmore hread hfailed
  next hok =>
  extract_lets received
  split
  next hlong => exact .rejected hmore hread (.inl hlong) rfl
  next hlength =>
  split
  next hstuck => exact .rejected hmore hread (.inr (.inl hstuck)) rfl
  next hprogress =>
  have hlength : received ≤ wanted.toNat := not_lt.mp hlength
  have htaken : Taken (windowRequest baseRequest options s) range :=
    ⟨eq_true_of_ne_false hok, hlength, fun hrest =>
      Nat.pos_of_ne_zero fun hzero => hprogress ⟨hzero, hrest⟩⟩
  split
  next hlast => exact .ended hmore hread htaken hlast
  next hrest =>
  have hrest := eq_false_of_ne_true hrest
  have hreceived : received < 2 ^ 64 := hlength.trans_lt wanted.toNat_lt
  split
  next hoverflow =>
    refine .rejected hmore hread (.inr (.inr ⟨?_, hrest⟩)) rfl
    have hlt := UInt64.lt_iff_toNat_lt.mp hoverflow
    have hofNat : (UInt64.ofNat received).toNat = received := UInt64.toNat_ofNat_of_lt' hreceived
    have hmax : maxUInt64.toNat = 2 ^ 64 - 1 := rfl
    rw [UInt64.toNat_sub_of_le _ _ (UInt64.le_iff_toNat_le.mpr (by omega)), hofNat, hmax] at hlt
    show 2 ^ 64 ≤ s.currentOffset.toNat + received
    omega
  next hoffset =>
    refine .goesOn hmore hread htaken hrest
      (toNat_add_of_le_maxUInt64_sub hreceived hoffset) ?_ rfl
    have hremaining : wanted.toNat ≤ s.remaining.toNat := (toNat_min_le _ _).1
    have hofNat : (UInt64.ofNat received).toNat = received := UInt64.toNat_ofNat_of_lt' hreceived
    show (s.remaining - UInt64.ofNat received).toNat + received = _
    rw [UInt64.toNat_sub_of_le _ _ (UInt64.le_iff_toNat_le.mpr (by omega)), hofNat]
    omega

/-! ## The function -/

/-- **A pass that goes on leaves less of the window.** -/
theorem windowPass_decreases {s next : WindowState σ}
    (h : windowPass readRemoteFileRange baseRequest options s = .inr next) :
    next.remaining.toNat < s.remaining.toNat := by
  have hcases := windowPass_cases readRemoteFileRange baseRequest options s
  rw [h] at hcases
  cases hcases with
  | goesOn more read taken rest offset remaining result =>
    have hprogress := taken.progress rest
    omega

def windowLoop : BoundedLoop (WindowState σ) (TransferFileRangeResult × σ) where
  body := windowPass readRemoteFileRange baseRequest options
  variant s := s.remaining.toNat
  decreases := windowPass_decreases readRemoteFileRange baseRequest options

/-- The result, and the world after the calls. -/
def readRemoteFileRangeWindow (offset requestedBytes : UInt64) (world : σ) :
    TransferFileRangeResult × σ :=
  if requestedBytes = 0 then ({ status := .ok }, world)
  else if options.chunkBytes = 0 then
    ({ status := .invalidArgument
       message := bytesOf "clipboard file window chunk size is zero" }, world)
  else
    (windowLoop readRemoteFileRange baseRequest options).run
      { world := world, currentOffset := offset, remaining := requestedBytes }

/-! ## Windows of a file -/

/-- **An answer of a reader of a file**: the bytes at the offset, as many as the reader likes but some
of them, and the mark of the end where the end is reached. -/
structure Answers (content : ByteBuffer) (asked : TransferFileRangeRequest)
    (range : TransferFileRangeResult) : Prop where
  ok : range.ok = true
  inside : asked.offset.toNat < content.length →
    range.bytes ≠ [] ∧ range.bytes <+: content.drop asked.offset.toNat ∧
      range.bytes.length ≤ asked.requestedBytes.toNat
  outside : content.length ≤ asked.offset.toNat → range.bytes = []
  endOfFile : range.endOfFile = true ↔ content.length ≤ asked.offset.toNat + range.bytes.length

variable {readRemoteFileRange baseRequest options}

/-- The bytes of an answer are those of the file, whether the offset is inside or not. -/
theorem Answers.bytes_eq {content : ByteBuffer} {asked : TransferFileRangeRequest}
    {range : TransferFileRangeResult} (h : Answers content asked range) :
    range.bytes = (content.drop asked.offset.toNat).take range.bytes.length := by
  rcases Nat.lt_or_ge asked.offset.toNat content.length with hin | hout
  · exact List.prefix_iff_eq_take.mp (h.inside hin).2.1
  · rw [h.outside hout]
    rfl

/-- No such answer is rejected. -/
theorem Answers.not_rejected {content : ByteBuffer} {asked : TransferFileRangeRequest}
    {range : TransferFileRangeResult} (h : Answers content asked range)
    (hsize : content.length < 2 ^ 64) : ¬Rejected asked range := by
  have hend : range.endOfFile = false →
      asked.offset.toNat + range.bytes.length < content.length := by
    intro hrest
    refine not_le.mp fun hle => ?_
    rw [h.endOfFile.mpr hle] at hrest
    cases hrest
  rintro (hlong | ⟨hempty, hrest⟩ | ⟨hoverflow, hrest⟩)
  · rcases Nat.lt_or_ge asked.offset.toNat content.length with hin | hout
    · have := (h.inside hin).2.2
      omega
    · rw [h.outside hout, List.length_nil] at hlong
      exact Nat.not_lt_zero _ hlong
  · have hin : asked.offset.toNat < content.length := by
      have := hend hrest
      omega
    exact (h.inside hin).1 (List.length_eq_zero_iff.mp hempty)
  · have := hend hrest
    omega

/-- **The window so far**: its bytes are those of the file from the offset on, and where something
has been read the end of the file has not been. -/
structure Stitched (content : ByteBuffer) (offset requestedBytes : UInt64) (s : WindowState σ) :
    Prop where
  result : s.result = { status := .ok, bytes := s.result.bytes }
  bytes : s.result.bytes = (content.drop offset.toNat).take s.result.bytes.length
  currentOffset : s.currentOffset.toNat = offset.toNat + s.result.bytes.length
  remaining : s.remaining.toNat + s.result.bytes.length = requestedBytes.toNat
  inside : s.result.bytes ≠ [] → s.currentOffset.toNat < content.length

/-- The window of a file. -/
def windowOf (content : ByteBuffer) (offset requestedBytes : UInt64) : TransferFileRangeResult where
  status := .ok
  bytes := (content.drop offset.toNat).take requestedBytes.toNat
  endOfFile := decide (content.length ≤ offset.toNat + requestedBytes.toNat)

section Stitching

variable {content : ByteBuffer} {offset requestedBytes : UInt64} {s : WindowState σ}
  {range : TransferFileRangeResult}

/-- One more answer is put behind the bytes so far. -/
theorem Stitched.append (h : Stitched content offset requestedBytes s)
    (hanswer : Answers content (windowRequest baseRequest options s) range) :
    s.result.bytes ++ range.bytes =
      (content.drop offset.toNat).take (s.result.bytes.length + range.bytes.length) := by
  have hmore : range.bytes = (content.drop s.currentOffset.toNat).take range.bytes.length :=
    hanswer.bytes_eq
  rw [h.currentOffset, ← List.drop_drop] at hmore
  rw [List.take_add, ← h.bytes, ← hmore]

theorem Stitched.ended (h : Stitched content offset requestedBytes s)
    (hanswer : Answers content (windowRequest baseRequest options s) range)
    (htaken : Taken (windowRequest baseRequest options s) range) (hlast : range.endOfFile = true) :
    { s.result with bytes := s.result.bytes ++ range.bytes, endOfFile := true } =
      windowOf content offset requestedBytes := by
  have hend : content.length ≤ s.currentOffset.toNat + range.bytes.length :=
    hanswer.endOfFile.mp hlast
  have hlength : range.bytes.length ≤ s.remaining.toNat :=
    htaken.length_le.trans (toNat_min_le _ _).1
  have hoffset := h.currentOffset
  have hremaining := h.remaining
  have hwhole : decide (content.length ≤ offset.toNat + requestedBytes.toNat) = true :=
    decide_eq_true (by omega)
  have hdrop : (content.drop offset.toNat).length = content.length - offset.toNat :=
    List.length_drop
  have hbytes : s.result.bytes ++ range.bytes =
      (content.drop offset.toNat).take requestedBytes.toNat := by
    rw [h.append hanswer, List.take_of_length_le (by omega), List.take_of_length_le (by omega)]
  rw [hbytes, windowOf, hwhole]
  exact congrArg (fun result : TransferFileRangeResult => { result with
    bytes := (content.drop offset.toNat).take requestedBytes.toNat
    endOfFile := true }) h.result

/-- A window that is full has not reached the end of the file. -/
theorem Stitched.full (h : Stitched content offset requestedBytes s) (hsome : requestedBytes ≠ 0)
    (hnothing : s.remaining = 0) : s.result = windowOf content offset requestedBytes := by
  have hremaining := h.remaining
  rw [hnothing, UInt64.toNat_zero, Nat.zero_add] at hremaining
  have hne : s.result.bytes ≠ [] := by
    intro hnil
    rw [hnil, List.length_nil] at hremaining
    exact hsome (UInt64.toNat_inj.mp hremaining.symm)
  have hinside := h.inside hne
  rw [h.currentOffset] at hinside
  have hrest : decide (content.length ≤ offset.toNat + requestedBytes.toNat) = false :=
    decide_eq_false (by omega)
  rw [h.result, h.bytes, hremaining, windowOf, hrest]

/-- A pass goes on stitching. -/
theorem Stitched.goesOn (h : Stitched content offset requestedBytes s)
    (hanswer : Answers content (windowRequest baseRequest options s) range)
    (hrest : range.endOfFile = false) {next : WindowState σ}
    (hoffset : next.currentOffset.toNat = s.currentOffset.toNat + range.bytes.length)
    (hremaining : next.remaining.toNat + range.bytes.length = s.remaining.toNat)
    (hresult : next.result = { s.result with bytes := s.result.bytes ++ range.bytes }) :
    Stitched content offset requestedBytes next := by
  have hbytes : next.result.bytes = s.result.bytes ++ range.bytes :=
    congrArg TransferFileRangeResult.bytes hresult
  have hlength : next.result.bytes.length = s.result.bytes.length + range.bytes.length := by
    rw [hbytes, List.length_append]
  have hcurrent := h.currentOffset
  have hleft := h.remaining
  refine ⟨?_, ?_, by omega, by omega, fun _ => ?_⟩
  · rw [hbytes, hresult]
    exact congrArg (fun result : TransferFileRangeResult =>
      { result with bytes := s.result.bytes ++ range.bytes }) h.result
  · rw [hlength, hbytes, h.append hanswer]
  · rw [hoffset]
    refine not_le.mp fun hle => ?_
    rw [hanswer.endOfFile.mpr hle] at hrest
    cases hrest

end Stitching

/-- The answers of a reader, whatever the world is, to requests for some bytes. -/
def ReadsFile
    (readRemoteFileRange : TransferFileRangeRequest → UInt32 → σ → TransferFileRangeResult × σ)
    (content : ByteBuffer) : Prop :=
  ∀ asked timeoutMs world, asked.requestedBytes ≠ 0 →
    Answers content asked (readRemoteFileRange asked timeoutMs world).1

/-- **The loop stitches the window together.** -/
theorem run_windowLoop {content : ByteBuffer} (hsize : content.length < 2 ^ 64)
    (hreads : ReadsFile readRemoteFileRange content) {offset requestedBytes : UInt64}
    (hsome : requestedBytes ≠ 0) (hchunk : options.chunkBytes ≠ 0) (world : σ) :
    ((windowLoop readRemoteFileRange baseRequest options).run
      { world := world, currentOffset := offset, remaining := requestedBytes }).1 =
      windowOf content offset requestedBytes := by
  have hanswers : ∀ s : WindowState σ, s.remaining ≠ 0 → ∀ {range after},
      readRemoteFileRange (windowRequest baseRequest options s) options.timeoutMs s.world =
        (range, after) → Answers content (windowRequest baseRequest options s) range := by
    intro s hmore range after hread
    have hwanted : min s.remaining options.chunkBytes ≠ 0 := by
      show (if s.remaining ≤ options.chunkBytes then s.remaining else options.chunkBytes) ≠ 0
      split
      · exact hmore
      · exact hchunk
    have hanswer := hreads (windowRequest baseRequest options s) options.timeoutMs s.world hwanted
    rwa [hread] at hanswer
  refine (windowLoop readRemoteFileRange baseRequest options).run_rule
    (I := Stitched content offset requestedBytes)
    (Q := fun after => after.1 = windowOf content offset requestedBytes) ?_ ?_ ?_
  · intro s after h hbody
    have hcases := windowPass_cases readRemoteFileRange baseRequest options s
    rw [show windowPass readRemoteFileRange baseRequest options s = _ from hbody] at hcases
    cases hcases with
    | full nothing => exact h.full hsome nothing
    | unread more read failed =>
      rw [(hanswers s more read).ok] at failed
      cases failed
    | rejected more read why failed => exact absurd why ((hanswers s more read).not_rejected hsize)
    | ended more read taken last => exact h.ended (hanswers s more read) taken last
  · intro s next h hbody
    have hcases := windowPass_cases readRemoteFileRange baseRequest options s
    rw [show windowPass readRemoteFileRange baseRequest options s = _ from hbody] at hcases
    cases hcases with
    | goesOn more read taken rest offset remaining result =>
      exact h.goesOn (hanswers s more read) rest offset remaining result
  · exact ⟨rfl, rfl, rfl, rfl, fun h => absurd rfl h⟩

/-- **An Ok result is no longer than the window**, whatever the reader answers. -/
theorem length_run_windowLoop (offset requestedBytes : UInt64) (world : σ) :
    let after := (windowLoop readRemoteFileRange baseRequest options).run
      { world := world, currentOffset := offset, remaining := requestedBytes }
    after.1.ok = true → after.1.bytes.length ≤ requestedBytes.toNat := by
  refine (windowLoop readRemoteFileRange baseRequest options).run_rule
    (I := fun s => s.remaining.toNat + s.result.bytes.length = requestedBytes.toNat)
    (Q := fun after => after.1.ok = true → after.1.bytes.length ≤ requestedBytes.toNat) ?_ ?_ rfl
  · intro s after h hbody hok
    have hcases := windowPass_cases readRemoteFileRange baseRequest options s
    rw [show windowPass readRemoteFileRange baseRequest options s = _ from hbody] at hcases
    cases hcases with
    | full nothing => exact h ▸ Nat.le_add_left _ _
    | unread more read failed =>
      rw [failed] at hok
      cases hok
    | rejected more read why failed =>
      rw [failed] at hok
      cases hok
    | @ended range world more read taken last =>
      have hlength : range.bytes.length ≤ s.remaining.toNat :=
        taken.length_le.trans (toNat_min_le _ _).1
      show (s.result.bytes ++ range.bytes).length ≤ _
      rw [List.length_append]
      omega
  · intro s next h hbody
    have hcases := windowPass_cases readRemoteFileRange baseRequest options s
    rw [show windowPass readRemoteFileRange baseRequest options s = _ from hbody] at hcases
    cases hcases with
    | @goesOn range world next more read taken rest offset remaining result =>
      rw [result]
      show next.remaining.toNat + (s.result.bytes ++ range.bytes).length = _
      rw [List.length_append]
      omega

/-- **A window read is one plain read**, whatever the chunk size is and however short the answers
are; and with any reader it ends, and a window that is Ok has no more bytes than were asked for. -/
theorem readRemoteFileRangeWindow_exact
    (readRemoteFileRange : TransferFileRangeRequest → UInt32 → σ → TransferFileRangeResult × σ)
    (baseRequest : TransferFileRangeRequest) (options : TransferFileWindowReadOptions)
    (offset requestedBytes : UInt64) (world : σ) :
    let after := readRemoteFileRangeWindow readRemoteFileRange baseRequest options offset
      requestedBytes world
    (∀ content : ByteBuffer, content.length < 2 ^ 64 → ReadsFile readRemoteFileRange content →
      requestedBytes ≠ 0 → options.chunkBytes ≠ 0 →
        after.1 = windowOf content offset requestedBytes) ∧
    (requestedBytes ≠ 0 → options.chunkBytes ≠ 0 → ∃ passes ≤ requestedBytes.toNat + 1,
      (windowLoop readRemoteFileRange baseRequest options).after passes
        { world := world, currentOffset := offset, remaining := requestedBytes } = .inl after) ∧
    (after.1.ok = true → after.1.bytes.length ≤ requestedBytes.toNat) := by
  intro after
  have hloop : requestedBytes ≠ 0 → options.chunkBytes ≠ 0 →
      after = (windowLoop readRemoteFileRange baseRequest options).run
        { world := world, currentOffset := offset, remaining := requestedBytes } :=
    fun hsome hchunk => (if_neg hsome).trans (if_neg hchunk)
  refine ⟨fun content hsize hreads hsome hchunk => ?_, fun hsome hchunk => ?_, fun hok => ?_⟩
  · rw [hloop hsome hchunk]
    exact run_windowLoop hsize hreads hsome hchunk world
  · rw [hloop hsome hchunk]
    exact (windowLoop readRemoteFileRange baseRequest options).exists_after_eq_run
      { world := world, currentOffset := offset, remaining := requestedBytes }
  · by_cases hsome : requestedBytes = 0
    · have hempty : after = ({ status := .ok }, world) := if_pos hsome
      rw [hempty]
      exact Nat.zero_le _
    · by_cases hchunk : options.chunkBytes = 0
      · have hfailed : after = ({
            status := .invalidArgument
            message := bytesOf "clipboard file window chunk size is zero" }, world) :=
          (if_neg hsome).trans (if_pos hchunk)
        rw [hfailed] at hok
        cases hok
      · rw [hloop hsome hchunk] at hok ⊢
        exact length_run_windowLoop offset requestedBytes world hok

/-- A reader that gives one byte at a time. -/
def byteReader (content : ByteBuffer) (asked : TransferFileRangeRequest) (_timeoutMs : UInt32)
    (world : Unit) : TransferFileRangeResult × Unit :=
  ({ status := .ok
     bytes := (content.drop asked.offset.toNat).take 1
     endOfFile := decide (content.length ≤ asked.offset.toNat + 1) }, world)

theorem readsFile_byteReader (content : ByteBuffer) : ReadsFile (byteReader content) content := by
  intro asked timeoutMs world hasked
  have hone : 1 ≤ asked.requestedBytes.toNat :=
    Nat.one_le_iff_ne_zero.mpr fun hzero => hasked (UInt64.toNat_inj.mp hzero)
  have hlength : (byteReader content asked timeoutMs world).1.bytes.length =
      min 1 (content.length - asked.offset.toNat) := by
    rw [byteReader, List.length_take, List.length_drop]
  refine ⟨rfl, fun hin => ⟨?_, List.take_prefix _ _, by omega⟩, fun hout => ?_, ?_⟩
  · exact List.ne_nil_of_length_pos (by omega)
  · exact List.length_eq_zero_iff.mp (by omega)
  · rw [hlength]
    show decide (content.length ≤ asked.offset.toNat + 1) = true ↔ _
    rw [decide_eq_true_eq]
    omega

/-- A window over the end of a file of three bytes. -/
theorem readRemoteFileRangeWindow_byteReader :
    (readRemoteFileRangeWindow (byteReader [1, 2, 3]) {} { chunkBytes := 2 } 1 5 ()).1 =
      { status := .ok, bytes := [2, 3], endOfFile := true } :=
  (readRemoteFileRangeWindow_exact (byteReader [1, 2, 3]) {} { chunkBytes := 2 } 1 5 ()).1
    [1, 2, 3] (by decide) (readsFile_byteReader [1, 2, 3]) (by decide) (by decide)

end Clipboard
end FusionDesk
