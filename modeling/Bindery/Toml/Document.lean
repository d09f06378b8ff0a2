/-
Module: Bindery.Toml.Document
Layer: Toml
Purpose: Whole TOML documents, read statement by statement. A statement sets a value, or opens a
  table or the next table of an array. Marks on paths of keys keep what has been declared from being
  declared again, and inline values from being extended.
Imports: Bindery.Toml.Reader
Main exports: Builder, readStatement, ReadFault, readDocument
-/
import Bindery.Toml.Reader

namespace Bindery.Toml

/-- A mark on a path: the table has been declared, or the value and everything in it is complete. -/
inductive Mark where
  | declared
  | complete
deriving DecidableEq, Repr

/-- A document being read: its entries, the marks on paths, the paths that are declared as soon as
    the section ends, and the path of the section. -/
structure Builder where
  entries : Table
  marks : List (Key × Mark)
  pending : List Key
  here : Key
deriving Repr

namespace Builder

/-- Nothing has been read. -/
def empty : Builder := ⟨[], [], [], []⟩

def isDeclared (builder : Builder) (key : Key) : Bool := builder.marks.contains (key, .declared)

def isComplete (builder : Builder) (key : Key) : Bool :=
  builder.marks.any fun (path, mark) => mark = .complete && path.isPrefixOf key

def mark (builder : Builder) (key : Key) (mark : Mark) : Builder :=
  { builder with marks := (key, mark) :: builder.marks }

/-- Ends the section at hand. -/
def endSection (builder : Builder) : Builder :=
  { builder with
    marks := builder.pending.map (fun key => (key, .declared)) ++ builder.marks
    pending := [] }

/-- Opens a table. `rest` is the text behind its name. -/
def openTable (builder : Builder) (key : Key) (rest : List Char) : Except Fault Builder :=
  if builder.isDeclared key ∨ builder.isComplete key then .error ⟨.declaredTwice key, rest⟩
  else
    match builder.entries.modifyNest? true some key with
    | none => .error ⟨.overwritten, rest⟩
    | some entries => .ok { builder.mark key .declared with entries, here := key }

/-- Opens the next table of an array. What was said about the one before it no longer holds. -/
def openItem (builder : Builder) (key : Key) (rest : List Char) : Except Fault Builder :=
  if builder.isComplete key then .error ⟨.immutable key, rest⟩
  else
    match builder.entries.appendTable? key with
    | none => .error ⟨.overwritten, rest⟩
    | some entries =>
      .ok { builder with
        entries
        marks := (key, .declared) :: builder.marks.filter fun (path, _) => !key.isPrefixOf path
        here := key }

def pathsThrough (base key : Key) : List Key :=
  (List.range' 1 (key.length - 1)).map fun length => base ++ key.take length

/-- Sets a value. `rest` is the text behind it. -/
def setValue (builder : Builder) (key : Key) (value : Value) (rest : List Char) :
    Except Fault Builder :=
  let through := pathsThrough builder.here key
  let full := builder.here ++ key
  match through.find? builder.isDeclared with
  | some path => .error ⟨.redefined path, rest⟩
  | none =>
    if builder.isComplete full.dropLast then .error ⟨.immutable full.dropLast, rest⟩
    else
      let name := key.getLastD ""
      match builder.entries.modifyNest? true (fun nest =>
          if (nest.find? name).isSome then none else some (nest.set name value)) full.dropLast with
      | none => .error ⟨.overwritten, rest⟩
      | some entries =>
        let next := { builder with entries, pending := through ++ builder.pending }
        .ok (if value.isNest then next.mark full .complete else next)

end Builder

/-- The text behind a mark, if it starts with it. -/
def expect (mark : List Char) (problem : Problem) (text : List Char) :
    Except Fault (List Char) :=
  if mark.isPrefixOf text then .ok (text.drop mark.length) else .error ⟨problem, text⟩

/-- Reads the name of a table or of an array of tables, behind its opening brackets. -/
def readSection (builder : Builder) (text : List Char) : Read Builder :=
  let ended := builder.endSection
  match text with
  | '[' :: rest =>
    match readKey (rest.dropWhile isSpace) with
    | .error fault => .error fault
    | .ok (key, behind) =>
      match ended.openItem key behind with
      | .error fault => .error fault
      | .ok next => (expect [']', ']'] .unclosedArrayName behind).map fun left => (next, left)
  | rest =>
    match readKey (rest.dropWhile isSpace) with
    | .error fault => .error fault
    | .ok (key, behind) =>
      match ended.openTable key behind with
      | .error fault => .error fault
      | .ok next => (expect [']'] .unclosedTableName behind).map fun left => (next, left)

/-- Reads a statement, or nothing in front of a comment. -/
def readStatement (builder : Builder) (text : List Char) : Read Builder :=
  match text with
  | '[' :: rest => readSection builder rest
  | '#' :: _ => .ok (builder, text)
  | c :: _ =>
    if isBareKeyChar c ∨ c = '"' ∨ c = '\'' then
      match readPair text with
      | .error fault => .error fault
      | .ok ((key, value), behind) =>
        (builder.setValue key value behind).map fun next => (next, behind)
    else failAt .invalidStatement text
  | [] => .ok (builder, [])

def readLines : (fuel : Nat) → Builder → List Char → Except Fault Builder
  | 0, builder, _ => .ok builder
  | fuel + 1, builder, text =>
    match text.dropWhile isSpace with
    | [] => .ok builder
    | '\n' :: rest => readLines fuel builder rest
    | line =>
      match readStatement builder line with
      | .error fault => .error fault
      | .ok (next, behind) =>
        match skipComment (behind.dropWhile isSpace) with
        | .error fault => .error fault
        | .ok [] => .ok next
        | .ok ('\n' :: rest) => readLines fuel next rest
        | .ok left => .error ⟨.trailingText, left⟩

/-- The text with line ends of one character. -/
def joinLineEnds : List Char → List Char
  | '\r' :: '\n' :: rest => '\n' :: joinLineEnds rest
  | c :: rest => c :: joinLineEnds rest
  | [] => []

/-- Why a document has no entries: it is faulty, or reading it was given up. -/
inductive ReadFault where
  | invalid (detail : String)
  | givenUp (text : String)
deriving DecidableEq, Repr

/-- What a fault in a document amounts to. Where reading was given up, no place is told. -/
def Fault.reported (document : List Char) (fault : Fault) : ReadFault :=
  if fault.problem.isExcess then .givenUp fault.problem.message
  else .invalid (fault.text document)

/-- The entries of a document. -/
def readDocument (text : String) : Except ReadFault Table :=
  let document := joinLineEnds text.toList
  match readLines (document.length + 1) .empty document with
  | .ok builder => .ok builder.entries
  | .error fault => .error (fault.reported document)

end Bindery.Toml
