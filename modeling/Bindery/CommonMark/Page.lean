/-
Module: Bindery.CommonMark.Page
Layer: CommonMark
Purpose: The lines of a text as blocks see them. Containers do not copy lines: they move the place
  where a line starts, and note how far its content is indented from there. A tab counts up to the
  next multiple of four columns, measured from where the container starts.
Imports: Bindery.CommonMark.Link
Main exports: SourceLine, Page, Page.ofText, Page.content, Page.cut
-/
import Bindery.CommonMark.Link

namespace Bindery.CommonMark

/-- A line: its text from where it starts in the container, how many characters of it stand in front
    of the content, how far the content is indented (less than zero in a line that only goes on with
    a paragraph of the container), the column it starts at, and whether a line feed ends it. -/
structure SourceLine where
  text : List Char
  shift : Nat
  indent : Int
  column : Nat
  isEnded : Bool
deriving Repr, Inhabited

namespace SourceLine

def content (line : SourceLine) : List Char := line.text.drop line.shift

/-- Is there no content? -/
def isEmpty (line : SourceLine) : Bool := line.content = []

/-- The content with the line feed that ends the line. -/
def contentAndEnd (line : SourceLine) : List Char :=
  line.content ++ if line.isEnded then ['\n'] else []

end SourceLine

/-- Columns from one position to behind a space or a tab there. -/
def spaceWidth (column : Nat) (c : Char) : Nat := if c = '\t' then 4 - column % 4 else 1

/-- The width of the spaces and tabs at the front of a text that starts at a column. -/
def leadingWidth (column : Nat) : List Char → Nat
  | [] => 0
  | c :: rest =>
    if isSpace c then
      spaceWidth column c + leadingWidth (column + spaceWidth column c) rest
    else 0

def SourceLine.ofText (text : List Char) (isEnded : Bool) : SourceLine :=
  { text
    shift := (text.takeWhile isSpace).length
    indent := leadingWidth 0 text
    column := 0
    isEnded }

/-- The lines of a text. What is behind the last line feed counts only if it has content. -/
def linesOf (text : List Char) : List SourceLine :=
  let pieces := Text.piecesBetween '\n' text
  let last := (pieces.getLast?).getD []
  pieces.dropLast.map (SourceLine.ofText · true) ++
    if last.all isSpace then [] else [SourceLine.ofText last false]

/-- The lines that a block sees, and where it stands: paragraphs do not go beyond `stop`; content
    that is indented less than `indent` is outside; `listIndent` is the indentation of the list
    around. -/
structure Page where
  lines : Array SourceLine
  stop : Nat
  indent : Nat
  listIndent : Option Nat

namespace Page

def ofText (text : List Char) : Page :=
  let lines := (linesOf text).toArray
  ⟨lines, lines.size, 0, none⟩

/-- A line; behind the last one there is an empty one. -/
def line (page : Page) (index : Nat) : SourceLine := page.lines.getD index ⟨[], 0, 0, 0, false⟩

def content (page : Page) (index : Nat) : List Char := (page.line index).content

def isEmpty (page : Page) (index : Nat) : Bool := (page.line index).isEmpty

def isCode (page : Page) (index : Nat) : Bool := (page.line index).indent - page.indent ≥ 4

/-- Is the content of a line indented too little for the container? -/
def isOutside (page : Page) (index : Nat) : Bool := (page.line index).indent < page.indent

/-- The first line from `index` on that is not empty, or the end of the page. -/
def skipEmpty (page : Page) (index : Nat) : Nat :=
  index + ((List.range' index (page.stop - index)).takeWhile page.isEmpty).length

/-- A line without the columns in front of `indent`, of which `width` have been dropped already.
    What is left of a tab is filled with spaces. Up to `shift` characters count as one column each,
    whatever they are. -/
def dropColumns (column indent : Nat) : (width shift : Nat) → List Char → List Char
  | width, _, [] => List.replicate (width - indent) ' '
  | width, shift, c :: rest =>
    if width < indent then
      if isSpace c then
        dropColumns column indent (width + spaceWidth (width + column) c) (shift - 1) rest
      else if 0 < shift then dropColumns column indent (width + 1) (shift - 1) rest
      else c :: rest
    else List.replicate (width - indent) ' ' ++ c :: rest

/-- The text of a line without the columns in front of `indent`. -/
def cutLine (line : SourceLine) (indent : Nat) : List Char :=
  dropColumns line.column indent 0 line.shift line.text

/-- The lines from `start` to `stop` without the columns in front of `indent`, with line feeds
    between them, and behind them if `withEnd` is set. -/
def cut (page : Page) (start stop indent : Nat) (withEnd : Bool) : List Char :=
  (List.range' start (stop - start)).flatMap fun index =>
    let line := page.line index
    cutLine line indent ++ if line.isEnded ∧ (withEnd ∨ index + 1 < stop) then ['\n'] else []

def paragraphText (page : Page) (start stop : Nat) : List Char :=
  Text.trimList (page.cut start stop page.indent false)

end Page

end Bindery.CommonMark
