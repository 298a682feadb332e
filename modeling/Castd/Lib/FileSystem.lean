import Castd.Lib.Utf8
import Mathlib.Logic.Function.Basic

/-!
# Files and their names

A directory of names, and the files with what they hold. No file has two names. A writer that has a
file open goes on writing to it whatever happens to the name; a rename gives a file another name and
takes that name from the file that had it.
-/

namespace Castd.Lib

/-- A directory, and the files made so far by number. -/
structure FileSystem (ν : Type) where
  entry : ν → Option Nat
  content : Nat → Bytes
  made : Nat
  known : ∀ n file, entry n = some file → file < made
  distinct : ∀ m n file, entry m = some file → entry n = some file → m = n

/-- What a file holds after a write at some offset. A gap before it is filled with zeros. -/
def overwrite (data : Bytes) (offset : Nat) (written : Bytes) : Bytes :=
  (data ++ List.replicate (offset - data.length) 0).take offset ++ written ++
    data.drop (offset + written.length)

/-- A write at the end. -/
theorem overwrite_end (data written : Bytes) :
    overwrite data data.length written = data ++ written := by
  simp [overwrite]

namespace FileSystem

variable {ν : Type} (fs : FileSystem ν)

/-- No files. -/
def empty : FileSystem ν where
  entry := fun _ => none
  content := fun _ => []
  made := 0
  known := fun _ _ found => by cases found
  distinct := fun _ _ _ found => by cases found

/-- What is read under a name. -/
def read (n : ν) : Option Bytes := (fs.entry n).map fs.content

/-- The file that an `open` for writing opens: the one of that name, or a new one. -/
def opened (n : ν) : Nat := (fs.entry n).getD fs.made

private theorem entry_ne_opened {m n : ν} (other : m ≠ n) : fs.entry m ≠ some (fs.opened n) := by
  intro same
  rw [opened] at same
  cases found : fs.entry n with
  | none =>
    rw [found, Option.getD_none] at same
    exact absurd (fs.known m _ same) (Nat.lt_irrefl _)
  | some file =>
    rw [found, Option.getD_some] at same
    exact other (fs.distinct m n file same found)

/-- Writes to a file that is open. -/
def write (file offset : Nat) (data : Bytes) : FileSystem ν :=
  { fs with content := Function.update fs.content file (overwrite (fs.content file) offset data) }

section

variable {fs} {m n : ν} {file : Nat}

/-- A write changes what is read under the name of the file and no other. -/
theorem read_write_of_ne (found : fs.entry n = some file) (other : m ≠ n) (offset : Nat)
    (data : Bytes) : (fs.write file offset data).read m = fs.read m := by
  refine Option.map_congr fun file' found' => Function.update_of_ne ?_ _ _
  rintro rfl
  exact other (fs.distinct m n _ found' found)

theorem content_write (offset : Nat) (data : Bytes) :
    (fs.write file offset data).content file = overwrite (fs.content file) offset data :=
  Function.update_self _ _ _

end

variable [DecidableEq ν]

/-- Opens a file for writing, which empties it. -/
def openTruncate (n : ν) : FileSystem ν where
  entry := Function.update fs.entry n (some (fs.opened n))
  content := Function.update fs.content (fs.opened n) []
  made := max fs.made (fs.opened n + 1)
  known := by
    intro m file found
    rw [Function.update_apply] at found
    split at found
    next =>
      cases found
      exact Nat.lt_of_lt_of_le (Nat.lt_succ_self _) (Nat.le_max_right _ _)
    next => exact Nat.lt_of_lt_of_le (fs.known m file found) (Nat.le_max_left _ _)
  distinct := by
    intro m m' file found found'
    by_cases hm : m = n <;> by_cases hm' : m' = n
    · rw [hm, hm']
    · subst hm
      rw [Function.update_self, Option.some_inj] at found
      rw [Function.update_of_ne hm', ← found] at found'
      exact absurd found' (fs.entry_ne_opened hm')
    · subst hm'
      rw [Function.update_self, Option.some_inj] at found'
      rw [Function.update_of_ne hm, ← found'] at found
      exact absurd found (fs.entry_ne_opened hm)
    · rw [Function.update_of_ne hm] at found
      rw [Function.update_of_ne hm'] at found'
      exact fs.distinct m m' file found found'

/-- The directory after a rename. -/
def renamed (source target : ν) : FileSystem ν where
  entry := Function.update (Function.update fs.entry source none) target (fs.entry source)
  content := fs.content
  made := fs.made
  known := by
    intro m file found
    rw [Function.update_apply] at found
    split at found
    next => exact fs.known source file found
    next =>
      rw [Function.update_apply] at found
      split at found
      next => cases found
      next => exact fs.known m file found
  distinct := by
    have kept : ∀ {m file}, Function.update fs.entry source none m = some file →
        m ≠ source ∧ fs.entry m = some file := by
      intro m file found
      by_cases hm : m = source
      · rw [hm, Function.update_self] at found
        cases found
      · rw [Function.update_of_ne hm] at found
        exact ⟨hm, found⟩
    intro m m' file found found'
    by_cases hm : m = target <;> by_cases hm' : m' = target
    · rw [hm, hm']
    · subst hm
      rw [Function.update_self] at found
      rw [Function.update_of_ne hm'] at found'
      obtain ⟨other, found'⟩ := kept found'
      exact absurd (fs.distinct m' source file found' found) other
    · subst hm'
      rw [Function.update_self] at found'
      rw [Function.update_of_ne hm] at found
      obtain ⟨other, found⟩ := kept found
      exact absurd (fs.distinct m source file found found') other
    · rw [Function.update_of_ne hm] at found
      rw [Function.update_of_ne hm'] at found'
      exact fs.distinct m m' file (kept found).2 (kept found').2

/-- Renames a file, `none` where there is none of that name. -/
def rename (source target : ν) : Option (FileSystem ν) :=
  if (fs.entry source).isSome then some (fs.renamed source target) else none

variable {fs} {m n : ν}

@[simp] theorem entry_openTruncate : (fs.openTruncate n).entry n = some (fs.opened n) :=
  Function.update_self _ _ _

@[simp] theorem content_openTruncate : (fs.openTruncate n).content (fs.opened n) = [] :=
  Function.update_self _ _ _

/-- Opening a file leaves the others as they are. -/
theorem read_openTruncate_of_ne (other : m ≠ n) : (fs.openTruncate n).read m = fs.read m := by
  have entry : (fs.openTruncate n).entry m = fs.entry m := Function.update_of_ne other _ _
  rw [read, read, entry]
  refine Option.map_congr fun file found => Function.update_of_ne ?_ _ _
  rintro rfl
  exact fs.entry_ne_opened other found

/-- What a rename does: the file is read under the new name, and the old one is free. -/
theorem rename_eq_some {fs' : FileSystem ν} (renames : fs.rename m n = some fs') (other : m ≠ n) :
    fs'.read n = fs.read m ∧ fs'.entry m = none := by
  unfold rename at renames
  split at renames
  next =>
    cases renames
    constructor
    · have entry : (fs.renamed m n).entry n = fs.entry m := Function.update_self _ _ _
      rw [read, entry]
      rfl
    · exact (Function.update_of_ne other _ _).trans (Function.update_self _ _ _)
  next => cases renames

theorem rename_eq_none_iff : fs.rename m n = none ↔ fs.entry m = none := by
  unfold rename
  cases fs.entry m <;> simp

end FileSystem

end Castd.Lib
