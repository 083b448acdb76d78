import FusionDesk.Pc.ClipboardFileSave

/-!
# What is in the saved files

A reader that answers with the true bytes of every object, and a file system that does what it is
told: where a save returns `true`, every file holds its bytes if and only if no two files of the list
that go to one path have different bytes.

* `contents_of_drained`: one file, after its drain.
* `SavedExactly`, `SamePathSameBytes`: what is claimed, and when it holds.
* `savedExactly_iff`: the whole function.
* `not_savedExactly_maskedNames`: two files whose names become one.
-/

namespace FusionDesk
namespace Pc

open Protocol Clipboard

/-! ## Readers that tell the truth -/

/-- The range has the bytes of the file from the offset on, and is the last one only at the end. -/
structure TrueRange (truth : ByteBuffer) (request : TransferFileRangeRequest)
    (range : TransferFileRangeResult) : Prop where
  bytes : range.bytes = (truth.drop request.offset.toNat).take range.bytes.length
  last : range.endOfFile = true → truth.length ≤ request.offset.toNat + range.bytes.length

/-- Every range that is answered is true to the bytes of its object. -/
def TrueReader {ρ : Type*}
    (readRemoteFileRange : TransferFileRangeRequest → UInt32 → ρ → TransferFileRangeResult × ρ)
    (truth : TransferObjectId → UInt32 → ByteBuffer) : Prop :=
  ∀ request timeoutMs remote, (readRemoteFileRange request timeoutMs remote).1.ok = true →
    TrueRange (truth request.objectId request.fileIndex) request
      (readRemoteFileRange request timeoutMs remote).1

variable {ρ φ : Type*} {fs : FileSystem φ Path UInt8}

/-! ## The sink -/

/-- What is written so far: nothing before the file is opened, and then what it holds. -/
def Holding (fs : FileSystem φ Path UInt8) (world : SinkWorld ρ φ) (written : ByteBuffer) : Prop :=
  if world.sink.opened = true then fs.contents world.files world.sink.path = some written
  else written = []

section

variable (fs)

/-- A file that is opened holds what is written so far. -/
theorem openOnce_spec (world : SinkWorld ρ φ) :
    let after := world.openOnce fs
    after.sink.path = world.sink.path ∧ after.sink.opened = true ∧
      fs.SameBut world.sink.path world.files after.files ∧
        ∀ written, Holding fs world written → after.sink.isOpen = true →
          fs.contents after.files world.sink.path = some written := by
  intro after
  by_cases hopened : world.sink.opened = true
  · have hafter : after = world := if_pos hopened
    rw [hafter]
    refine ⟨rfl, hopened, .rfl, fun written hholding _ => ?_⟩
    rwa [Holding, if_pos hopened] at hholding
  · have hafter : after = _ := if_neg hopened
    rw [hafter]
    refine ⟨rfl, rfl, fs.sameBut_openTruncated _ _, fun written hholding hopen => ?_⟩
    rw [Holding, if_neg hopened] at hholding
    rw [hholding]
    exact fs.contents_openTruncated _ _ hopen

/-- Bytes that are written come after what is written so far. -/
theorem streamWrite_spec (world : SinkWorld ρ φ) (bytes : ByteBuffer) :
    let after := world.streamWrite fs bytes
    after.sink.path = world.sink.path ∧ after.sink.opened = world.sink.opened ∧
      fs.SameBut world.sink.path world.files after.files ∧
        ∀ written, fs.contents world.files world.sink.path = some written →
          after.sink.good = true →
            fs.contents after.files world.sink.path = some (written ++ bytes) := by
  intro after
  by_cases hnothing : bytes = [] ∨ world.sink.good = false
  · have hafter : after = world := if_pos hnothing
    rw [hafter]
    refine ⟨rfl, rfl, .rfl, fun written hcontents hgood => ?_⟩
    rcases hnothing with hempty | hbad
    · rw [hempty, List.append_nil, hcontents]
    · exact absurd (hgood.symm.trans hbad) (by decide)
  · have hafter : after = _ := if_neg hnothing
    rw [hafter]
    exact ⟨rfl, rfl, fs.sameBut_append _ _ _, fun written hcontents hgood =>
      fs.contents_append _ _ _ _ hcontents hgood⟩

/-- **A write that is accepted comes after what is written so far**, and no other file changes. -/
theorem writeRange_spec (bytes : ByteBuffer) (world : SinkWorld ρ φ) :
    let after := FileOutputSink.writeRange fs bytes world
    after.2.sink.path = world.sink.path ∧
      fs.SameBut world.sink.path world.files after.2.files ∧
        ∀ written, Holding fs world written → after.1.ok = true →
          Holding fs after.2 (written ++ bytes) ∧ after.2.sink.opened = true := by
  intro after
  obtain ⟨hpath, hopened, hsame, hcontents⟩ := openOnce_spec fs world
  obtain ⟨hpath', hopened', hsame', hcontents'⟩ :=
    streamWrite_spec fs (world.openOnce fs) bytes
  rw [hpath] at hpath' hsame' hcontents'
  by_cases hclosed : (world.openOnce fs).sink.isOpen = false
  · have hafter : after = _ := if_pos hclosed
    rw [hafter]
    exact ⟨hpath, hsame, fun written _ hok => absurd (show false = true from hok) Bool.false_ne_true⟩
  · have hafter : after = _ := if_neg hclosed
    by_cases hbad : ((world.openOnce fs).streamWrite fs bytes).sink.good = false
    · rw [hafter, if_pos hbad]
      exact ⟨hpath', hsame.trans hsame', fun written _ hok => absurd (show false = true from hok) Bool.false_ne_true⟩
    · rw [hafter, if_neg hbad]
      refine ⟨hpath', hsame.trans hsame', fun written hholding _ => ⟨?_, hopened'.trans hopened⟩⟩
      rw [Holding, if_pos (hopened'.trans hopened), hpath']
      exact hcontents' written (hcontents written hholding (eq_true_of_ne_false hclosed))
        (eq_true_of_ne_false hbad)

end

/-! ## One file -/

/-- What the loop of the drain keeps. -/
structure Saving (fs : FileSystem φ Path UInt8) (path : Path) (files : φ) (truth : ByteBuffer)
    (s : DrainState (SinkWorld ρ φ)) : Prop where
  path_eq : s.world.sink.path = path
  others : fs.SameBut path files s.world.files
  holding : Holding fs s.world (truth.take s.offset.toNat)

variable {readRemoteFileRange : TransferFileRangeRequest → UInt32 → ρ → TransferFileRangeResult × ρ}
  {truth : TransferObjectId → UInt32 → ByteBuffer}

/-- A write of a true range. -/
theorem Saving.write {path : Path} {files : φ} {bytes : ByteBuffer} {s : DrainState (SinkWorld ρ φ)}
    (h : Saving fs path files bytes s) {asked : TransferFileRangeRequest}
    {range : TransferFileRangeResult} {world after : SinkWorld ρ φ}
    {write : TransferFileDrainSinkResult} (hoffset : asked.offset = s.offset)
    (hrange : TrueRange bytes asked range) (hfiles : world.files = s.world.files)
    (hsink : world.sink = s.world.sink)
    (hwrote : FileOutputSink.writeRange fs range.bytes world = (write, after)) :
    after.sink.path = path ∧ fs.SameBut path files after.files ∧
      (write.ok = true → after.sink.opened = true ∧
        Holding fs after (bytes.take (s.offset.toNat + range.bytes.length))) := by
  obtain ⟨hpath, hsame, hcontents⟩ := writeRange_spec fs range.bytes world
  rw [hwrote] at hpath hsame hcontents
  rw [hsink, h.path_eq] at hpath hsame
  rw [hfiles] at hsame
  have hholding : Holding fs world (bytes.take s.offset.toNat) := by
    have hbefore := h.holding
    unfold Holding at hbefore ⊢
    rwa [hfiles, hsink]
  refine ⟨hpath, h.others.trans hsame, fun hok => ?_⟩
  obtain ⟨hafter, hopened⟩ := hcontents _ hholding hok
  have hbytes := hrange.bytes
  rw [hoffset] at hbytes
  refine ⟨hopened, ?_⟩
  rw [List.take_add, ← hbytes]
  exact hafter

/-- **A file that is drained holds its bytes**, and no other file changes. -/
theorem contents_of_drained (fs : FileSystem φ Path UInt8)
    (htrue : TrueReader readRemoteFileRange truth) (request : TransferFileRangeRequest)
    (hstart : request.offset = 0)
    (options : TransferFileDrainOptions) (remote : ρ) (files : φ) (path : Path) :
    let drained := drainRemoteFileRange (saveParties fs readRemoteFileRange) request options
      { remote := remote, files := files, sink := { path := path } }
    fs.SameBut path files drained.2.files ∧ (drained.1.ok = true →
      fs.contents drained.2.files path = some (truth request.objectId request.fileIndex)) := by
  intro drained
  by_cases hchunk : options.chunkBytes = 0
  · have hdrained : drained = _ := if_pos hchunk
    rw [hdrained]
    exact ⟨.rfl, fun hok => absurd (show false = true from hok) Bool.false_ne_true⟩
  have hdrained : drained = _ := drainRemoteFileRange_of_chunk _ _ hchunk _
  rw [hdrained]
  have hread : ∀ {s : DrainState (SinkWorld ρ φ)} {asked range world},
      Asks request options s asked → Deliverable options s asked range →
      (saveParties fs readRemoteFileRange).readRemoteFileRange asked options.timeoutMs s.world =
        (range, world) →
      asked.offset = s.offset ∧ world.files = s.world.files ∧ world.sink = s.world.sink ∧
        TrueRange (truth request.objectId request.fileIndex) asked range := by
    intro s asked range world hasks hdeliverable hread
    cases hread
    have hrange := htrue asked options.timeoutMs s.world.remote hdeliverable.ok
    rw [hasks.same] at hrange ⊢
    exact ⟨rfl, rfl, rfl, hrange⟩
  refine (drainLoop (saveParties fs readRemoteFileRange) request options).run_rule
    (I := Saving fs path files (truth request.objectId request.fileIndex))
    (Q := fun after => fs.SameBut path files after.2.files ∧ (after.1.ok = true →
      fs.contents after.2.files path = some (truth request.objectId request.fileIndex))) ?_ ?_ ?_
  · intro s after h hbody
    cases DrainPass.of_body hbody with
    | stopped fails =>
      exact ⟨h.others, fun hok => absurd (fails.failed.symm.trans hok) Bool.false_ne_true⟩
    | unread asks read fails =>
      cases read
      exact ⟨h.others, fun hok => absurd (fails.failed.symm.trans hok) Bool.false_ne_true⟩
    | unwritten asks read passes wrote refused fails =>
      obtain ⟨hoffset, hfiles, hsink, hrange⟩ := hread asks passes read
      have hwrite := h.write hoffset hrange hfiles hsink wrote
      exact ⟨hwrite.2.1, fun hok => absurd (fails.failed.symm.trans hok) Bool.false_ne_true⟩
    | ended asks read passes wrote accepted last counted =>
      obtain ⟨hoffset, hfiles, hsink, hrange⟩ := hread asks passes read
      obtain ⟨hpath, hothers, hwritten⟩ := h.write hoffset hrange hfiles hsink wrote
      obtain ⟨hopened, hholding⟩ := hwritten accepted
      have hend := hrange.last last
      rw [hoffset] at hend
      rw [Holding, if_pos hopened, hpath, List.take_of_length_le hend] at hholding
      exact ⟨hothers, fun _ => hholding⟩
    | overflowed asks read passes wrote accepted more fails =>
      obtain ⟨hoffset, hfiles, hsink, hrange⟩ := hread asks passes read
      have hwrite := h.write hoffset hrange hfiles hsink wrote
      exact ⟨hwrite.2.1, fun hok => absurd (fails.failed.symm.trans hok) Bool.false_ne_true⟩
  · intro s next h hbody
    cases DrainPass.of_body hbody with
    | goesOn asks read passes wrote accepted more offset result world_eq =>
      obtain ⟨hoffset, hfiles, hsink, hrange⟩ := hread asks passes read
      obtain ⟨hpath, hothers, hwritten⟩ := h.write hoffset hrange hfiles hsink wrote
      subst world_eq
      refine ⟨hpath, hothers, ?_⟩
      rw [offset]
      exact (hwritten accepted).2
  · refine ⟨rfl, .rfl, ?_⟩
    show (truth request.objectId request.fileIndex).take request.offset.toNat = []
    rw [hstart]
    rfl

/-! ## All entries -/

/-- **Every file of the list is at its path**, and holds the bytes of its object. -/
def SavedExactly (fs : FileSystem φ Path UInt8) (root : Path)
    (truth : TransferObjectId → UInt32 → ByteBuffer) (list : List TransferFileDescriptor)
    (files : φ) : Prop :=
  ∀ index file, list[index]? = some file → file.directory = false →
    ∃ path, buildOutputPath root file = .ok path ∧
      fs.contents files path = some (truth file.objectId (UInt32.ofNat index))

/-- **Two files that go to one path have the same bytes.** -/
def SamePathSameBytes (root : Path) (truth : TransferObjectId → UInt32 → ByteBuffer)
    (list : List TransferFileDescriptor) : Prop :=
  ∀ index file index' file', list[index]? = some file → list[index']? = some file' →
    file.directory = false → file'.directory = false →
      buildOutputPath root file = buildOutputPath root file' →
        truth file.objectId (UInt32.ofNat index) = truth file'.objectId (UInt32.ofNat index')

/-- Files that are at one path have the same bytes. -/
theorem SavedExactly.samePathSameBytes {root : Path} {list : List TransferFileDescriptor}
    {files : φ} (h : SavedExactly fs root truth list files) :
    SamePathSameBytes root truth list := by
  intro index file index' file' hfile hfile' hdirectory hdirectory' hpaths
  obtain ⟨path, hpath, hcontents⟩ := h index file hfile hdirectory
  obtain ⟨path', hpath', hcontents'⟩ := h index' file' hfile' hdirectory'
  obtain rfl : path = path' := Except.ok.inj (hpath.symm.trans (hpaths.trans hpath'))
  exact Option.some.inj (hcontents.symm.trans hcontents')

variable (context : SaveContext ρ φ)

/-- What a file that is saved has at its path. -/
theorem contents_of_saveFile (htrue : TrueReader context.readRemoteFileRange truth) {index : ℕ}
    {descriptor : TransferFileDescriptor} {path : Path} {world after : SaveWorld ρ φ}
    {drained : TransferFileDrainResult}
    (h : saveFile context index descriptor path world = (.ok drained, after)) :
    context.fs.SameBut path world.files after.files ∧
      context.fs.contents after.files path =
        some (truth descriptor.objectId (UInt32.ofNat index)) := by
  unfold saveFile at h
  dsimp only at h
  split at h
  · cases h
  split at h
  · cases h
  obtain ⟨hothers, hcontents⟩ := contents_of_drained context.fs htrue
    (rangeRequest context index descriptor) rfl (drainOptions context descriptor)
    (context.locker.lockRemoteObject (lockRequest context index descriptor)
      context.options.timeoutMs world.remote).2 world.files path
  split at h
  · cases h
  next hok =>
  split at h
  · cases h
  split at h
  · cases h
  cases h
  exact ⟨hothers, hcontents (eq_true_of_ne_false hok)⟩

/-- **An entry that is saved**: a file has its bytes, and no other file changes. -/
theorem contents_of_saveEntry (htrue : TrueReader context.readRemoteFileRange truth) {index : ℕ}
    {descriptor : TransferFileDescriptor} {saved saved' : SavedFiles} {world after : SaveWorld ρ φ}
    (h : saveEntry context index descriptor saved world = (.ok saved', after)) :
    ∃ path, buildOutputPath context.root descriptor = .ok path ∧
      context.fs.SameBut path world.files after.files ∧
        context.fs.contents after.files path =
          if descriptor.directory = true then context.fs.contents world.files path
          else some (truth descriptor.objectId (UInt32.ofNat index)) := by
  unfold saveEntry at h
  split at h
  · cases h
  next path hpath =>
  refine ⟨path, hpath, ?_⟩
  split at h
  next hdirectory =>
    dsimp only at h
    split at h
    · cases h
    cases h
    rw [if_pos hdirectory]
    exact ⟨fun other _ => context.fs.contents_createDirectories _ _ other,
      context.fs.contents_createDirectories _ _ path⟩
  next hdirectory =>
    dsimp only at h
    split at h
    · cases h
    split at h
    · cases h
    next drained world' hfile =>
      cases h
      obtain ⟨hothers, hcontents⟩ := contents_of_saveFile context htrue hfile
      rw [if_neg hdirectory]
      exact ⟨fun other hother => (hothers other hother).trans
        (context.fs.contents_createDirectories _ _ other), hcontents⟩

/-- **The loop over the entries**: where files at one path have the same bytes, the files so far are
saved exactly. -/
theorem savedExactly_of_saveEntries (htrue : TrueReader context.readRemoteFileRange truth)
    {list : List TransferFileDescriptor}
    (hpaths : SamePathSameBytes context.root truth list)
    {rest : List TransferFileDescriptor} : ∀ (before : List TransferFileDescriptor)
      {saved saved' : SavedFiles} {world after : SaveWorld ρ φ},
      list = before ++ rest → SavedExactly context.fs context.root truth before world.files →
        saveEntries context before.length rest saved world = (.ok saved', after) →
          SavedExactly context.fs context.root truth list after.files := by
  induction rest with
  | nil =>
    intro before saved saved' world after hlist hbefore h
    cases h
    rwa [hlist, List.append_nil]
  | cons descriptor rest ih =>
    intro before saved saved' world after hlist hbefore h
    unfold saveEntries at h
    split at h
    · cases h
    next saved'' world' hentry =>
    obtain ⟨path, hpath, hothers, hcontents⟩ := contents_of_saveEntry context htrue hentry
    have hat : list[before.length]? = some descriptor := by simp [hlist]
    refine ih (before ++ [descriptor]) (by simp [hlist]) ?_ (by simpa using h)
    intro index file hfile hdirectory
    rcases Nat.lt_or_ge index before.length with hindex | hindex
    · rw [List.getElem?_append_left hindex] at hfile
      obtain ⟨path', hpath', hcontents'⟩ := hbefore index file hfile hdirectory
      refine ⟨path', hpath', ?_⟩
      by_cases hsame : path' = path
      · -- The entry goes to the path of the file: it is a directory, or has the same bytes.
        rw [hsame, hcontents]
        split
        next => rw [← hsame, hcontents']
        next hfile' =>
          have hlisted : list[index]? = some file := by
            rw [hlist, List.getElem?_append_left hindex, hfile]
          rw [hpaths index file before.length descriptor hlisted hat hdirectory
            (eq_false_of_ne_true hfile') (by rw [hpath', hpath, hsame])]
      · rw [hothers path' hsame, hcontents']
    · rw [List.getElem?_append_right hindex, List.getElem?_singleton] at hfile
      obtain ⟨hlast, hdescriptor⟩ := Option.ite_none_right_eq_some.mp hfile
      obtain rfl : index = before.length := by omega
      obtain rfl : descriptor = file := Option.some.inj hdescriptor
      refine ⟨path, hpath, ?_⟩
      rw [hcontents, if_neg (by simp [hdirectory])]

/-! ## The function -/

/-- **Where a save returns `true`, the files are saved exactly if and only if files that go to one
path have the same bytes.** -/
theorem savedExactly_iff (truth : TransferObjectId → UInt32 → ByteBuffer) (options : SaveOptions)
    (environment : SaveEnvironment ρ φ) (world : SaveWorld ρ φ)
    (htrue : ∀ reader ∈ environment.remoteReader,
      ∀ readRemoteFileRange ∈ reader.readRemoteFileRange, TrueReader readRemoteFileRange truth)
    (hrequested : options.outputDir ≠ [])
    (hsaved : (saveClipboardRemoteFiles options environment world).1.isOk = true) :
    ∃ reader ∈ environment.remoteReader, ∃ root ∈ environment.absolute options.outputDir,
      ∃ view, (remoteFileListView environment reader options.timeoutMs world.remote).1 = .ok view ∧
        (SavedExactly environment.fs root truth view.fileList.files
            (saveClipboardRemoteFiles options environment world).2.files ↔
          SamePathSameBytes root truth view.fileList.files) := by
  generalize hresult : saveClipboardRemoteFiles options environment world = result at hsaved ⊢
  unfold saveClipboardRemoteFiles at hresult
  rw [if_neg hrequested] at hresult
  split at hresult
  · subst hresult
    cases hsaved
  next reader hreader =>
  split at hresult
  · subst hresult
    cases hsaved
  next readRemoteFileRange hread =>
  split at hresult
  · subst hresult
    cases hsaved
  next locker hlocker =>
  split at hresult
  · subst hresult
    cases hsaved
  next view remote hview =>
  split at hresult
  · subst hresult
    cases hsaved
  next root hroot =>
  refine ⟨reader, hreader, root, hroot, view, congrArg Prod.fst hview, ?_⟩
  dsimp only at hresult
  split at hresult
  · subst hresult
    cases hsaved
  split at hresult
  · subst hresult
    cases hsaved
  next saved after hentries =>
  subst hresult
  refine ⟨SavedExactly.samePathSameBytes, fun hpaths => ?_⟩
  exact savedExactly_of_saveEntries _ (htrue reader hreader readRemoteFileRange hread) hpaths
    [] rfl (fun index file hfile => by cases hfile) hentries

/-! ### Two files -/

/-- A file of the list, with its path and no size. -/
def listedFile (objectId : UInt8) (path : String) : ByteBuffer :=
  [objectId, 0, 0, 0, 0, 0, 0, 0] ++ List.replicate 17 0 ++ [1, 0] ++ bytesOf "f" ++
    [UInt8.ofNat (bytesOf path).length, 0] ++ bytesOf path

/-- A list of two files. -/
def twoFiles (path path' : String) : ByteBuffer :=
  bytesOf "FDFL" ++ [1, 0, 1, 0, 2, 0, 0, 0] ++ listedFile 1 path ++ listedFile 2 path'

/-- The first file has one byte, the second has two. -/
def twoTruths (objectId : TransferObjectId) (_ : UInt32) : ByteBuffer :=
  if objectId = 1 then [7] else [8, 9]

def readTwoTruths (request : TransferFileRangeRequest) (_ : UInt32) (_ : Unit) :
    TransferFileRangeResult × Unit :=
  let truth := twoTruths request.objectId request.fileIndex
  let bytes := (truth.drop request.offset.toNat).take request.requestedBytes.toNat
  ({ status := .ok
     bytes := bytes
     endOfFile := truth.length ≤ request.offset.toNat + bytes.length }, ())

theorem trueReader_readTwoTruths : TrueReader readTwoTruths twoTruths := by
  intro request timeoutMs remote _
  refine ⟨?_, fun hlast => of_decide_eq_true hlast⟩
  simp [readTwoTruths]

/-- A peer with the two files, and a file system with nothing but a root. -/
def twoFileEnvironment (path path' : String) :
    SaveEnvironment Unit (Path → Option (FileSystem.Node UInt8)) where
  remoteBundle := some {
    bundleId := 1
    offerId := 2
    ownerEpoch := 1
    sources := [some (remoteFdclTransferSource 3 [{
      canonicalFormat := fdclFileListFormat, formatId := 5 }])] }
  moment := 0
  remoteReader := some {
    readRemoteFormat := fun _ _ _ => ({ status := .ok, bytes := twoFiles path path' }, ())
    readRemoteFileRange := some readTwoTruths
    objectLocker := some {
      lockRemoteObject := fun _ _ _ => ({ status := .ok, lockId := 1 }, ())
      unlockRemoteObject := fun _ _ _ => ({ status := .ok, lockId := 1 }, ()) } }
  absolute := fun outputDir => some [outputDir]
  fs := FileSystem.tree

def emptyDisk : SaveWorld Unit (Path → Option (FileSystem.Node UInt8)) where
  remote := ()
  files := fun path => if path = [] then some .directory else none

/-- Two files with different paths. -/
theorem savedExactly_iff_twoPaths :
    ∃ reader ∈ (twoFileEnvironment "a" "d/b").remoteReader,
      ∃ root ∈ (twoFileEnvironment "a" "d/b").absolute (bytesOf "out"),
        ∃ view, (remoteFileListView (twoFileEnvironment "a" "d/b") reader 3000 ()).1 = .ok view ∧
          (SavedExactly FileSystem.tree root twoTruths view.fileList.files
              (saveClipboardRemoteFiles { outputDir := bytesOf "out" }
                (twoFileEnvironment "a" "d/b") emptyDisk).2.files ↔
            SamePathSameBytes root twoTruths view.fileList.files) := by
  refine savedExactly_iff twoTruths { outputDir := bytesOf "out" } (twoFileEnvironment "a" "d/b")
    emptyDisk ?_ (by decide) (by decide +kernel)
  intro reader hreader readRemoteFileRange hread
  cases hreader
  cases hread
  exact trueReader_readTwoTruths

/-- **Two files whose names become one**: the save returns `true`, and the first file is gone. -/
theorem not_savedExactly_maskedNames :
    let after := saveClipboardRemoteFiles { outputDir := bytesOf "out" }
      (twoFileEnvironment "a:b" "a_b") emptyDisk
    after.1.isOk = true ∧
      ∃ reader ∈ (twoFileEnvironment "a:b" "a_b").remoteReader,
        TrueReader readTwoTruths twoTruths ∧ reader.readRemoteFileRange = some readTwoTruths ∧
          ∃ view,
            (remoteFileListView (twoFileEnvironment "a:b" "a_b") reader 3000 ()).1 = .ok view ∧
              ¬SavedExactly FileSystem.tree [bytesOf "out"] twoTruths view.fileList.files
                after.2.files := by
  refine ⟨by decide +kernel, _, rfl, trueReader_readTwoTruths, rfl, _, rfl, fun h => ?_⟩
  have hbytes := h.samePathSameBytes 0 _ 1 _ rfl rfl rfl rfl rfl
  exact absurd hbytes (by decide)

end Pc
end FusionDesk
