/-
Module: Bindery.CommonMark.Definition
Layer: CommonMark
Purpose: Definitions of link targets, such as `[label]: address "title"`. A definition may go on
  over the lines of the paragraph that it starts. A title that is not closed, or that something
  follows, is not one; the definition then ends with its destination.
Imports: Bindery.CommonMark.Opening
Main exports: Cursor, Definition, Definition.at?
-/
import Bindery.CommonMark.Opening

namespace Bindery.CommonMark

/-- A place in the lines of a paragraph: what is left of the line at hand, the lines behind it, and
    how many lines have been begun. -/
structure Cursor where
  rest : List Char
  later : List (List Char)
  begun : Nat
deriving Repr

namespace Cursor

/-- How much there is behind the cursor. -/
def size (cursor : Cursor) : Nat :=
  cursor.rest.length + cursor.later.flatten.length + cursor.later.length

/-- Goes on to the next line, if there is one. -/
def nextLine (cursor : Cursor) : Cursor :=
  match cursor.later with
  | [] => { cursor with rest := [] }
  | line :: later => ⟨line, later, cursor.begun + 1⟩

/-- Goes behind a character, which may end a line. -/
def behind (cursor : Cursor) (c : Char) (rest : List Char) : Cursor :=
  if c = '\n' then { cursor with rest }.nextLine else { cursor with rest }

/-- Reads a label up to its closing bracket. `label` is what has been read, backwards. -/
def label? (label : List Char) : (fuel : Nat) → Cursor → Option (List Char × Cursor)
  | 0, _ => none
  | fuel + 1, cursor =>
    match cursor.rest with
    | [] => none
    | '\\' :: c :: rest => label? (c :: '\\' :: label) fuel (cursor.behind c rest)
    | c :: rest =>
      if c = '[' then none
      else if c = ']' then some (label.reverse, { cursor with rest })
      else label? (c :: label) fuel (cursor.behind c rest)

/-- Goes behind spaces and ends of lines. -/
def skipGap : (fuel : Nat) → Cursor → Cursor
  | 0, cursor => cursor
  | fuel + 1, cursor =>
    match cursor.rest with
    | c :: rest => if c = '\n' ∨ isSpace c then skipGap fuel (cursor.behind c rest) else cursor
    | [] => cursor

/-- Reads a title up to its closing mark, over several lines if need be. Tells whether it went on to
    another line. -/
def title? (mark : Char) (read : List Char) (isLong : Bool) :
    (later : List (List Char)) → Cursor → Option (List Char × Cursor × Bool)
  | later, cursor =>
    match scanTitle mark read cursor.rest with
    | .refused => none
    | .closed read rest => some (unescape read.reverse, { cursor with rest }, isLong)
    | .unfinished read =>
      match later with
      | [] => none
      | line :: more => title? mark read true more ⟨line, more, cursor.begun + 1⟩

/-- Goes behind spaces. -/
def skipSpaces (cursor : Cursor) : Cursor := { cursor with rest := cursor.rest.dropWhile isSpace }

/-- Is nothing left of the line? -/
def isAtEnd (cursor : Cursor) : Bool := cursor.rest.head?.all (· = '\n')

end Cursor

/-- A definition: its label as written, its target, and how many lines it has. -/
structure Definition where
  label : List Char
  target : LinkTarget
  lines : Nat
deriving Repr

namespace Definition

/-- The title behind a destination, if there is one that nothing follows. A gap has to come first,
    unless the title goes on to another line. -/
def title? (destination : Cursor) : Option (List Char × Cursor) :=
  let start := destination.skipGap destination.size
  match start.rest with
  | [] => none
  | c :: rest =>
    match titleMark? c with
    | none => none
    | some mark =>
      match Cursor.title? mark [] false start.later { start with rest } with
      | none => none
      | some (title, cursor, isLong) =>
        if start.size < destination.size ∨ isLong then some (title, cursor.skipSpaces) else none

/-- The title and the end of a definition whose destination has been read. -/
def finish? (destination : Cursor) : Option (List Char × Cursor) :=
  let plain : Option (List Char × Cursor) :=
    if destination.skipSpaces.isAtEnd then some ([], destination) else none
  match title? destination with
  | none => plain
  | some (title, cursor) =>
    if cursor.isAtEnd then some (title, cursor) else if title = [] then none else plain

def read? (start : Cursor) : Option Definition :=
  match start.rest with
  | '[' :: rest =>
    match Cursor.label? [] start.size { start with rest } with
    | none => none
    | some (label, behindLabel) =>
      match behindLabel.rest with
      | ':' :: afterColon =>
        let colon := { behindLabel with rest := afterColon }
        let gap := colon.skipGap colon.size
        match destination? gap.rest with
        | none => none
        | some (written, afterDestination) =>
          let address := normalizeAddress written
          if isSafeAddress address then
            (finish? { gap with rest := afterDestination }).bind fun (title, cursor) =>
              if normalizeLabel label = [] then none
              else some ⟨label, ⟨address, title⟩, cursor.begun⟩
          else none
      | _ => none
  | _ => none

/-- The definition that starts at a line. -/
def at? (page : Page) (index : Nat) : Option Definition :=
  if page.isCode index then none
  else if (page.content index).head? = some '[' then
    let last := paragraphEnd page false index
    let later := (List.range' (index + 1) (last - (index + 1))).map fun i =>
      (page.line i).contentAndEnd
    read? ⟨(page.line index).contentAndEnd, later, 1⟩
  else none

end Definition

end Bindery.CommonMark
