/-
Module: Bindery.FileTree
Layer: FileTree
Purpose: Files and directories below a working directory. A path is followed step by step: every
  step but the last has to be a directory, and `..` leads to the directory around. Around the
  working directory there are only directories without files.
Imports: Bindery.Path, Bindery.Text.Quoted
Main exports: Node, FileTree, Refusal, AccessFault, AccessError, FileTree.ofFiles, FileTree.lookup,
  FileTree.read, FileTree.write
-/
import Bindery.Path
import Bindery.Text.Quoted

namespace Bindery

/-- What is at a place: a file with its bytes, or a directory. -/
inductive Node where
  | file (bytes : List UInt8)
  | directory
deriving DecidableEq, Repr, Inhabited

/-- The places where there is something. A place is a path without detours: `..` stands only in
    front, where the path leaves the working directory. -/
structure FileTree where
  entries : List (Path × Node)
deriving DecidableEq, Repr, Inhabited

/-- What the system says when it refuses something: the number of the reason, and its name. -/
structure Refusal where
  number : Nat
  reason : String
deriving DecidableEq, Repr

/-- Why a path cannot be used. -/
inductive AccessFault where
  | missing
  | isDirectory
  | notDirectory
  | nameTooLong
  | nullCharacter
  | refused (refusal : Refusal)
deriving DecidableEq, Repr

/-- What the system calls a fault. A null character never reaches it. -/
def AccessFault.text : AccessFault → String
  | .missing => "No such file or directory"
  | .isDirectory => "Is a directory"
  | .notDirectory => "Not a directory"
  | .nameTooLong => "File name too long"
  | .nullCharacter => "embedded null byte"
  | .refused refusal => refusal.reason

def AccessFault.number : AccessFault → Nat
  | .missing => 2
  | .isDirectory => 21
  | .notDirectory => 20
  | .nameTooLong => 36
  | .nullCharacter => 22
  | .refused refusal => refusal.number

/-- A path that could not be used, and why. -/
structure AccessError where
  path : Path
  fault : AccessFault
deriving DecidableEq, Repr

/-- The text of an error. A path with a null character is not shown. -/
def AccessError.text (error : AccessError) : String :=
  match error.fault with
  | .nullCharacter => error.fault.text
  | fault =>
    "[Errno " ++ toString fault.number ++ "] " ++ fault.text ++ ": " ++
      Text.quoted error.path.toString

/-- The longest name of a file, in bytes. -/
def longestName : Nat := 255

/-- The longest path, in bytes. -/
def longestPath : Nat := 4095

namespace Path

/-- The working directory. -/
def here : Path := ⟨.current, []⟩

/-- The place that a name leads to from another place. -/
def child (place : Path) (name : String) : Path :=
  if name = ".." then
    match place.components.getLast? with
    | none => if place.anchor = .current then { place with components := [".."] } else place
    | some last =>
      if last = ".." then { place with components := place.components ++ [".."] }
      else { place with components := place.components.dropLast }
  else { place with components := place.components ++ [name] }

def hasNull (path : Path) : Bool := path.components.any (·.toList.contains '\x00')

/-- Where a path starts. Two slashes lead to the same place as one. -/
def startingPlace (path : Path) : Path :=
  match path.anchor with
  | .current => here
  | _ => ⟨.root, []⟩

/-- Is the place the working directory, around it, or the root? -/
def isSurrounding (place : Path) : Bool := place.components.all (· = "..")

/-- The place around a place, and so on up to the working directory. -/
def ancestors (place : Path) : List Path :=
  (List.range place.components.length).map fun length =>
    { place with components := place.components.take length }

end Path

namespace FileTree

/-- There are no files. -/
def empty : FileTree := ⟨[]⟩

/-- What is at a place. -/
def node? (tree : FileTree) (place : Path) : Option Node :=
  if place.isSurrounding then some .directory else tree.entries.lookup place

/-- Puts something at a place. -/
def put (tree : FileTree) (place : Path) (node : Node) : FileTree :=
  ⟨(place, node) :: tree.entries.filter fun entry => entry.1 ≠ place⟩

/-- Adds a directory, unless there is something already. -/
def addDirectory (tree : FileTree) (place : Path) : FileTree :=
  if (tree.node? place).isSome then tree else tree.put place .directory

/-- Adds a file or a directory with the directories around it. -/
def add (tree : FileTree) (path : Path) (node : Node) : FileTree :=
  let around := path.ancestors.foldl addDirectory tree
  match node with
  | .file bytes => around.put path (.file bytes)
  | .directory => around.addDirectory path

def ofFiles (files : List (Path × Node)) : FileTree :=
  files.foldl (fun tree (path, node) => tree.add path node) empty

/-! ### Following paths -/

/-- Follows names from a place. The last of them need not exist. -/
def follow (tree : FileTree) (place : Path) : List String → Except AccessFault Path
  | [] => .ok place
  | name :: rest =>
    match tree.node? place with
    | none => .error .missing
    | some (.file _) => .error .notDirectory
    | some .directory =>
      if longestName < name.utf8ByteSize then .error .nameTooLong
      else tree.follow (place.child name) rest

/-- The place that a path leads to. -/
def resolve (tree : FileTree) (path : Path) : Except AccessFault Path :=
  if path.hasNull then .error .nullCharacter
  else if longestPath < path.toString.utf8ByteSize then .error .nameTooLong
  else tree.follow path.startingPlace path.components

/-- What a path leads to. -/
def lookup (tree : FileTree) (path : Path) : Except AccessFault Node :=
  match tree.resolve path with
  | .error fault => .error fault
  | .ok place =>
    match tree.node? place with
    | some node => .ok node
    | none => .error .missing

/-- The bytes of a file. -/
def read (tree : FileTree) (path : Path) : Except AccessError (List UInt8) :=
  match tree.lookup path with
  | .error fault => .error ⟨path, fault⟩
  | .ok .directory => .error ⟨path, .isDirectory⟩
  | .ok (.file bytes) => .ok bytes

/-- Puts a file where a path leads to. There may be one already, but no directory. -/
def write (tree : FileTree) (path : Path) (bytes : List UInt8) : Except AccessError FileTree :=
  match tree.resolve path with
  | .error fault => .error ⟨path, fault⟩
  | .ok place =>
    match tree.node? place with
    | some .directory => .error ⟨path, .isDirectory⟩
    | _ => .ok (tree.put place (.file bytes))

end FileTree

end Bindery
