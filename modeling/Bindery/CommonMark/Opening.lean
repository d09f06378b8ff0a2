/-
Module: Bindery.CommonMark.Opening
Layer: CommonMark
Purpose: How blocks start, and which blocks may end the block in front of them.
Imports: Bindery.CommonMark.Html, Bindery.CommonMark.Page
Main exports: FenceMark, ListMarker, TableHead, isRule, headingOf?, endsParagraph,
  endsQuote, endsItem
-/
import Bindery.CommonMark.Html
import Bindery.CommonMark.Page

namespace Bindery.CommonMark

/-! ### Fences, rules and headings -/

/-- The start of a fenced block: its mark, how often it stands there, and the label. -/
structure FenceMark where
  mark : Char
  length : Nat
  info : List Char
deriving Repr

/-- Reads a run of a mark: its length, and the text behind it. -/
def markRun (mark : Char) (text : List Char) : Nat × List Char :=
  ((text.takeWhile (· = mark)).length, text.dropWhile (· = mark))

/-- The fence that a line starts with. The label of a fence of backticks holds none. -/
def FenceMark.ofLine? (line : List Char) : Option FenceMark :=
  match line with
  | c :: _ =>
    if c = '~' ∨ c = '\x60' then
      let (length, info) := markRun c line
      if length < 3 ∨ (c = '\x60' ∧ info.contains '\x60') then none else some ⟨c, length, info⟩
    else none
  | [] => none

/-- Does a line close the fenced block? Nothing but spaces may follow the fence. -/
def FenceMark.isClosedBy (fence : FenceMark) (line : List Char) : Bool :=
  let (length, rest) := markRun fence.mark line
  fence.length ≤ length && rest.all isSpace

/-- Is the line a thematic break? -/
def isRule (line : List Char) : Bool :=
  match line with
  | c :: _ =>
    (c = '*' || c = '-' || c = '_') && line.all (fun d => d = c || isSpace d) && 3 ≤ line.count c
  | [] => false

/-- The text without spaces and tabs at its end. -/
def dropSpacesBehind (text : List Char) : List Char := (text.reverse.dropWhile isSpace).reverse

/-- The text of a heading without the marks that close it. They stand behind a space. -/
def dropClosing (text : List Char) : List Char :=
  let body := dropSpacesBehind text
  let front := (body.reverse.dropWhile (· = '#')).reverse
  if front.getLast?.any isSpace then front else body

def headingOf? (line : List Char) : Option (Nat × List Char) :=
  let (level, rest) := markRun '#' line
  if 1 ≤ level ∧ level ≤ 6 ∧ rest.head?.all isSpace then
    some (level, Text.trimList (dropClosing rest))
  else none

def underlineLevel? (line : List Char) : Option Nat :=
  match line with
  | c :: _ =>
    if (c = '=' ∨ c = '-') ∧ (markRun c line).2.all isSpace then some (if c = '=' then 1 else 2)
    else none
  | [] => none

/-! ### Lists -/

/-- The marker of a list item: its number, if it has one, the character that it ends with, and how
    long it is. -/
structure ListMarker where
  number : Option Nat
  mark : Char
  length : Nat
deriving Repr

/-- Does a space follow, or nothing? -/
def isFree (rest : List Char) : Bool := rest.head?.all isSpace

def decimalValue (digits : List Char) : Nat :=
  digits.foldl (fun value c => value * 10 + (c.toNat - 0x30)) 0

/-- The marker that a line starts with. Numbers have nine digits at most. -/
def ListMarker.ofLine? (line : List Char) : Option ListMarker :=
  match line.span Char.isDigit with
  | ([], c :: rest) =>
    if (c = '*' ∨ c = '-' ∨ c = '+') ∧ isFree rest then some ⟨none, c, 1⟩ else none
  | (digits, c :: rest) =>
    if digits.length ≤ 9 ∧ (c = ')' ∨ c = '.') ∧ isFree rest then
      some ⟨some (decimalValue digits), c, digits.length + 1⟩
    else none
  | _ => none

/-- Do two markers belong to one list? -/
def ListMarker.continues (marker next : ListMarker) : Bool :=
  marker.number.isSome = next.number.isSome && marker.mark = next.mark

/-! ### Tables -/

/-- The cells of a row. A backslash in front of a bar makes it a part of the cell. `cell` is the
    cell so far, backwards. -/
def splitCells (cell : List Char) : List Char → List (List Char)
  | [] => [cell.reverse]
  | '\\' :: '|' :: rest => splitCells ('|' :: cell) rest
  | c :: rest => if c = '|' then cell.reverse :: splitCells [] rest else splitCells (c :: cell) rest

/-- The cells of a row without the empty ones outside the bars at its ends. -/
def rowCells (row : List Char) : List (List Char) :=
  let cells := splitCells [] (Text.trimList row)
  let inner := if cells.head? = some [] then cells.drop 1 else cells
  if inner.getLast? = some [] then inner.dropLast else inner

/-- The alignment that a piece of a delimiter row stands for. -/
def columnAlignment? (piece : List Char) : Option String :=
  let dashes := (if piece.head? = some ':' then piece.drop 1 else piece)
  let body := if dashes.getLast? = some ':' then dashes.dropLast else dashes
  if body ≠ [] ∧ body.all (· = '-') then
    match piece.head?, piece.getLast? with
    | some ':', some ':' => some "center"
    | _, some ':' => some "right"
    | some ':', _ => some "left"
    | _, _ => some ""
  else none

def isDelimiterChar (c : Char) : Bool := c = '|' || c = '-' || c = ':'

/-- Can the line be a delimiter row? A dash and a space start a list rather. -/
def isDelimiterRow (line : List Char) : Bool :=
  match line with
  | c :: d :: rest =>
    isDelimiterChar c && (isDelimiterChar d || isSpace d) && !(c = '-' && isSpace d) &&
      rest.all fun e => isDelimiterChar e || isSpace e
  | _ => false

/-- The alignments of a delimiter row. Only its first and its last piece may be blank. -/
def rowAlignments? (line : List Char) : Option (List String) :=
  let pieces := (Text.piecesBetween '|' line).map Text.trimList
  let first := if pieces.head? = some [] then pieces.drop 1 else pieces
  let inner := if first.getLast? = some [] then first.dropLast else first
  inner.mapM columnAlignment?

/-- The header of a table: its cells and the alignments of its columns. -/
structure TableHead where
  cells : List (List Char)
  alignments : List String
deriving Repr

/-- The header of a table at a line, whose delimiter row is the next line in front of `stop`. -/
def TableHead.at? (page : Page) (index stop : Nat) : Option TableHead :=
  if stop < index + 2 ∨ page.isOutside (index + 1) ∨ page.isCode (index + 1) ∨
      !isDelimiterRow (page.content (index + 1)) then
    none
  else
    match rowAlignments? (page.content (index + 1)) with
    | none => none
    | some alignments =>
      let header := page.content index
      let cells := rowCells header
      if header.contains '|' ∧ !page.isCode index ∧ cells ≠ [] ∧
          cells.length = alignments.length then
        some ⟨cells, alignments⟩
      else none

/-! ### What may end a block -/

/-- Does a fence, a quotation or a thematic break start at a line? They end an item of a list. -/
def endsItem (page : Page) (index : Nat) : Bool :=
  !page.isCode index &&
    ((FenceMark.ofLine? (page.content index)).isSome || (page.content index).head? = some '>' ||
      isRule (page.content index))

/-- Is a line indented like an item of the list around, but too far for one? -/
def isTooDeep (page : Page) (index : Nat) : Bool :=
  let indent := (page.line index).indent
  page.isOutside index && page.listIndent.any fun around => indent - around ≥ 4

def listStart? (page : Page) (index : Nat) : Option ListMarker :=
  if page.isCode index ∨ isTooDeep page index then none
  else ListMarker.ofLine? (page.content index)

/-- May a list start at a line? In a paragraph it has to start with one, and not with an empty
    item. -/
def startsList (page : Page) (inParagraph : Bool) (index : Nat) : Bool :=
  match listStart? page index with
  | none => false
  | some marker =>
    !(inParagraph && !page.isOutside index) ||
      (marker.number.all (· = 1) && !((page.content index).drop marker.length).all isSpace)

/-- May a list, a block of HTML or a heading start at a line, or what ends an item? They end a
    quotation. -/
def endsQuote (page : Page) (inParagraph : Bool) (index : Nat) : Bool :=
  endsItem page index || startsList page inParagraph index ||
    !page.isCode index &&
      ((HtmlBlock.ofLine? (page.content index)).any HtmlBlock.interrupts ||
        (headingOf? (page.content index)).isSome)

/-- May a table start at a line, or what ends a quotation? They end a paragraph. -/
def endsParagraph (page : Page) (inParagraph : Bool) (index : Nat) : Bool :=
  (TableHead.at? page index page.stop).isSome || endsQuote page inParagraph index

/-- Does a paragraph go on with a line? A line that is indented far enough to be code goes on with
    it, and so does one that a quotation has let pass. -/
def goesOn (page : Page) (inParagraph : Bool) (index : Nat) : Bool :=
  !page.isEmpty index &&
    (page.isCode index || (page.line index).indent < 0 || !endsParagraph page inParagraph index)

/-- The first line behind `index` that a paragraph does not go on with. -/
def paragraphEnd (page : Page) (inParagraph : Bool) (index : Nat) : Nat :=
  index + 1 + ((List.range' (index + 1) (page.stop - (index + 1))).takeWhile
    (goesOn page inParagraph)).length

end Bindery.CommonMark
