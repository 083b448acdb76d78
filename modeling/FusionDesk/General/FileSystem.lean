import Mathlib.Logic.Function.Basic
import Mathlib.Data.List.Basic
import Mathlib.Data.List.Infix

/-!
# File systems

What a program may rely on that makes directories and writes files from the start: a file system is
a map from paths to contents, a file that is opened with truncation is empty, what is appended to it
comes after what it holds, and no other file changes.  A call may always fail; its answer says so.

`FileSystem.tree` is one: a map from paths, which are lists of names, to nodes.
-/

/-- A file system with states of type `φ`, and what its calls do to the contents of files.  The
answers are `false` where a call has failed. -/
structure FileSystem (φ Path β : Type*) where
  contents : φ → Path → Option (List β)
  createDirectories : Path → φ → Bool × φ
  openTruncated : Path → φ → Bool × φ
  append : Path → List β → φ → Bool × φ
  contents_createDirectories : ∀ path files other,
    contents (createDirectories path files).2 other = contents files other
  contents_openTruncated : ∀ path files, (openTruncated path files).1 = true →
    contents (openTruncated path files).2 path = some []
  contents_openTruncated_other : ∀ path files other, other ≠ path →
    contents (openTruncated path files).2 other = contents files other
  contents_append : ∀ path bytes files old, contents files path = some old →
    (append path bytes files).1 = true →
      contents (append path bytes files).2 path = some (old ++ bytes)
  contents_append_other : ∀ path bytes files other, other ≠ path →
    contents (append path bytes files).2 other = contents files other

namespace FileSystem

variable {φ Path β : Type*} (fs : FileSystem φ Path β)

/-- No file but one has other contents. -/
def SameBut (path : Path) (files files' : φ) : Prop :=
  ∀ other, other ≠ path → fs.contents files' other = fs.contents files other

section

variable {fs} {path : Path} {files files' files'' : φ}

theorem SameBut.rfl : fs.SameBut path files files := fun _ _ => Eq.refl _

theorem SameBut.trans (h : fs.SameBut path files files') (h' : fs.SameBut path files' files'') :
    fs.SameBut path files files'' := fun other hother =>
  (h' other hother).trans (h other hother)

variable (path files)

theorem sameBut_openTruncated : fs.SameBut path files (fs.openTruncated path files).2 :=
  fs.contents_openTruncated_other path files

theorem sameBut_append (bytes : List β) : fs.SameBut path files (fs.append path bytes files).2 :=
  fs.contents_append_other path bytes files

end

/-! ## A tree of nodes -/

inductive Node (β : Type*)
  | directory
  | file (bytes : List β)

/-- The contents of a node that is a file. -/
def Node.bytes {β : Type*} : Option (Node β) → Option (List β)
  | some (.file bytes) => some bytes
  | _ => none

variable {Name : Type*} [DecidableEq Name]

/-- Whether a part of the path is a file. -/
def blocked (path : List Name) (files : List Name → Option (Node β)) : Bool :=
  path.inits.any fun part => (Node.bytes (files part)).isSome

/-- A map from lists of names to nodes, which refuses to make a directory below or in place of a
file, and to open a file in place of a directory or where the directory is missing. -/
def tree : FileSystem (List Name → Option (Node β)) (List Name) β where
  contents files path := Node.bytes (files path)
  createDirectories path files :=
    if blocked path files = true then (false, files)
    else (true, fun other =>
      if other <+: path ∧ (files other).isNone = true then some .directory else files other)
  openTruncated path files :=
    match files path, files path.dropLast with
    | some .directory, _ => (false, files)
    | _, some .directory => (true, Function.update files path (some (.file [])))
    | _, _ => (false, files)
  append path bytes files :=
    match files path with
    | some (.file old) => (true, Function.update files path (some (.file (old ++ bytes))))
    | _ => (false, files)
  contents_createDirectories := by
    intro path files other
    split
    · rfl
    · dsimp only
      split
      next hnew => rw [Option.isNone_iff_eq_none.mp hnew.2]; rfl
      next => rfl
  contents_openTruncated := by
    intro path files h
    split at h
    · cases h
    next hdirectory hparent hnot =>
      simp [Node.bytes]
    · cases h
  contents_openTruncated_other := by
    intro path files other hother
    split
    · rfl
    · dsimp only
      rw [Function.update_of_ne hother]
    · rfl
  contents_append := by
    intro path bytes files old hold h
    split at h
    next previous hfile =>
      rw [hfile] at hold
      cases hold
      simp [Node.bytes]
    · cases h
  contents_append_other := by
    intro path bytes files other hother
    split
    · dsimp only
      rw [Function.update_of_ne hother]
    · rfl

end FileSystem
