/-
Module: Bindery.Disk
Layer: Disk
Purpose: Files as programs get at them. The system may refuse any use of any path, whatever is there, and
  a file that has been opened for writing may take some of its bytes only. Only a null character is
  refused before the system hears of the path.
Imports: Bindery.FileTree
Main exports: Use, CutOff, Disk, Disk.isFile, Disk.isDirectory, Disk.read, Written, Disk.write
-/
import Bindery.FileTree

namespace Bindery

/-- What is done with a path. -/
inductive Use where
  | look
  | read
  | write
deriving DecidableEq, Repr

/-- Where a device stops taking what it is given: how much it has taken, and the text of the error. -/
structure CutOff where
  taken : Nat
  text : String
deriving DecidableEq, Repr

/-- Files, and what the system does of its own accord: which uses of a path it refuses, and where it
    stops taking the bytes of a file. -/
structure Disk where
  files : FileTree
  refusal? : Use → Path → Option Refusal := fun _ _ => none
  cutOff? : Path → List UInt8 → Option CutOff := fun _ _ => none

/-- The numbers of the reasons that say that nothing is there: no such entry, no such descriptor, no
    directory on the way, or links that lead in a circle. -/
def absenceNumbers : List Nat := [2, 9, 20, 40]

/-- Does a fault say that nothing is there? -/
def AccessFault.isAbsence (fault : AccessFault) : Bool :=
  fault = .nullCharacter || absenceNumbers.contains fault.number

namespace Disk

/-- What stands against a use of a path, whatever is there. -/
def objection? (disk : Disk) (use : Use) (path : Path) : Option AccessFault :=
  if path.hasNull then some .nullCharacter else (disk.refusal? use path).map .refused

def look (disk : Disk) (path : Path) : Except AccessFault Node :=
  match disk.objection? .look path with
  | some fault => .error fault
  | none => disk.files.lookup path

/-- Does the path lead to something that `holds` accepts? Where nothing is, the answer is no; any other
    fault leaves the question without an answer. -/
def leadsTo (disk : Disk) (path : Path) (holds : Node → Bool) : Except AccessError Bool :=
  match disk.look path with
  | .ok node => .ok (holds node)
  | .error fault => if fault.isAbsence then .ok false else .error ⟨path, fault⟩

def isFile (disk : Disk) (path : Path) : Except AccessError Bool :=
  disk.leadsTo path fun node => match node with
    | .file _ => true
    | .directory => false

def isDirectory (disk : Disk) (path : Path) : Except AccessError Bool :=
  disk.leadsTo path fun node => match node with
    | .file _ => false
    | .directory => true

/-- The bytes of a file. -/
def read (disk : Disk) (path : Path) : Except AccessError (List UInt8) :=
  match disk.objection? .read path with
  | some fault => .error ⟨path, fault⟩
  | none => disk.files.read path

end Disk

/-- The files behind a write to an open file, and the text of the error if not all was taken. -/
structure Written where
  files : FileTree
  failure : Option String
deriving DecidableEq, Repr

namespace Disk

/-- How much of some bytes a file takes, and the error if that is not all. -/
def accepted (disk : Disk) (path : Path) (bytes : List UInt8) : List UInt8 × Option String :=
  match disk.cutOff? path bytes with
  | none => (bytes, none)
  | some cutOff => (bytes.take cutOff.taken, some cutOff.text)

/-- Writes a file. Nothing of what it held before is left once it is open. -/
def write (disk : Disk) (path : Path) (bytes : List UInt8) : Except AccessError Written :=
  match disk.objection? .write path with
  | some fault => .error ⟨path, fault⟩
  | none =>
    let (taken, failure) := disk.accepted path bytes
    (disk.files.write path taken).map fun files => ⟨files, failure⟩

end Disk

end Bindery
