/-
Module: Bindery.CommonMark.Block
Layer: CommonMark
Purpose: The blocks of a text. At each line, the kinds of blocks are tried in a fixed order; the
  first that starts there takes its lines. Quotations and list items read their content as pages of
  their own, up to a depth. Definitions are gathered on the way. Lines of text are left as they are,
  to be read once all definitions are known.
Imports: Bindery.CommonMark.Definition, Bindery.CommonMark.Inline
Main exports: Outcome, BlockRun, blockAt, blocks, documentTokens
-/
import Bindery.CommonMark.Definition
import Bindery.CommonMark.Inline

namespace Bindery.CommonMark

open Prose (Token)

/-- What a block is made of, the line behind it, and the definitions so far. -/
structure Outcome where
  tokens : List Token
  next : Nat
  definitions : Definitions

/-- A run of blocks; it is tight if no empty line stands between them. -/
structure BlockRun where
  tokens : List Token
  next : Nat
  definitions : Definitions
  isTight : Bool

/-- Reads the blocks of a page from a line up to another. -/
abbrev BlockReader := (page : Page) → (start stop : Nat) → Definitions → BlockRun

/-! ### Tokens -/

def opening (kind tag : String) : Token := { kind, tag, nesting := 1 }

def closing (kind tag : String) : Token := { kind, tag, nesting := -1 }

/-- A token that holds text to be read later. -/
def lineToken (text : List Char) : Token := { kind := "inline", content := String.ofList text }

/-- The element of a heading. -/
def headingTag (level : Nat) : String := "h" ++ toString level

def headingTokens (level : Nat) (text : List Char) : List Token :=
  [opening "heading_open" (headingTag level), lineToken text,
   closing "heading_close" (headingTag level)]

/-! ### Blocks without blocks in them -/

/-- Indented code. Empty lines at its end do not belong to it. -/
def codeBlock? (page : Page) (start stop : Nat) (definitions : Definitions) : Option Outcome :=
  if page.isCode start then
    let last := lastCode (stop - (start + 1)) (start + 1) (start + 1)
    some ⟨[{ kind := "code_block", tag := "code",
             content := String.ofList (page.cut start last (4 + page.indent) false ++ ['\n']) }],
      last, definitions⟩
  else none
where
  /-- The line behind the last line of code, the last of which so far is in front of `last`. -/
  lastCode : (fuel index last : Nat) → Nat
    | 0, _, last => last
    | fuel + 1, index, last =>
      if page.isEmpty index then lastCode fuel (index + 1) last
      else if page.isCode index then lastCode fuel (index + 1) (index + 1)
      else last

/-- Where a fenced block ends: the line behind its content, and whether a fence closes it there. -/
def fenceEnd (page : Page) (fence : FenceMark) : (fuel index : Nat) → Nat × Bool
  | 0, index => (index, false)
  | fuel + 1, index =>
    let line := page.line index
    if page.isOutside index ∧ !line.isEmpty then (index, false)
    else if line.isEmpty ∧ !line.isEnded then (index, false)
    else if !page.isCode index ∧ fence.isClosedBy line.content then (index, true)
    else fenceEnd page fence fuel (index + 1)

/-- A fenced block. Its content loses the indentation of the fence. -/
def fencedBlock? (page : Page) (start stop : Nat) (definitions : Definitions) : Option Outcome :=
  if page.isCode start then none
  else (FenceMark.ofLine? (page.content start)).map fun fence =>
    let (last, isClosed) := fenceEnd page fence (stop - (start + 1)) (start + 1)
    let indent := (page.line start).indent.toNat
    ⟨[{ kind := "fence", tag := "code", info := String.ofList fence.info,
        content := String.ofList (page.cut (start + 1) last indent true) }],
      if isClosed then last + 1 else last, definitions⟩

/-- A thematic break. -/
def rule? (page : Page) (start : Nat) (definitions : Definitions) : Option Outcome :=
  if !page.isCode start ∧ isRule (page.content start) then
    some ⟨[{ kind := "hr", tag := "hr" }], start + 1, definitions⟩
  else none

/-- A definition of link targets has no tokens. The first definition of a label counts. -/
def definition? (page : Page) (start : Nat) (definitions : Definitions) : Option Outcome :=
  (Definition.at? page start).map fun found =>
    ⟨[], start + found.lines, definitions.define (normalizeLabel found.label) found.target⟩

/-- Where a block of HTML ends. Its end mark was not in its first line. -/
def htmlEnd (page : Page) (block : HtmlBlock) : (fuel index : Nat) → Nat
  | 0, index => index
  | fuel + 1, index =>
    if page.isOutside index then index
    else if block.endsIn (page.content index) then
      if page.isEmpty index then index else index + 1
    else htmlEnd page block fuel (index + 1)

def htmlBlock? (page : Page) (start stop : Nat) (definitions : Definitions) : Option Outcome :=
  if page.isCode start then none
  else (HtmlBlock.ofLine? (page.content start)).map fun block =>
    let last :=
      if block.endsIn (page.content start) then start + 1
      else htmlEnd page block (stop - (start + 1)) (start + 1)
    ⟨[{ kind := "html_block", content := String.ofList (page.cut start last page.indent true) }],
      last, definitions⟩

def heading? (page : Page) (start : Nat) (definitions : Definitions) : Option Outcome :=
  if page.isCode start then none
  else (headingOf? (page.content start)).map fun (level, text) =>
    ⟨headingTokens level text, start + 1, definitions⟩

/-- The line that underlines a heading, and the level that it gives it. -/
def underline? (page : Page) : (fuel index : Nat) → Option (Nat × Nat)
  | 0, _ => none
  | fuel + 1, index =>
    if page.isEmpty index then none
    else if page.isCode index then underline? page fuel (index + 1)
    else
      match if page.isOutside index then none else underlineLevel? (page.content index) with
      | some level => some (index, level)
      | none => if goesOn page true index then underline? page fuel (index + 1) else none

def underlinedHeading? (page : Page) (start stop : Nat) (definitions : Definitions) :
    Option Outcome :=
  if page.isCode start then none
  else (underline? page (stop - (start + 1)) (start + 1)).map fun (last, level) =>
    ⟨headingTokens level (page.paragraphText start last), last + 1, definitions⟩

/-- A paragraph. It takes what no other block has taken. -/
def paragraph (page : Page) (start : Nat) (definitions : Definitions) : Outcome :=
  let last := paragraphEnd page true start
  ⟨[opening "paragraph_open" "p", lineToken (page.paragraphText start last),
    closing "paragraph_close" "p"], last, definitions⟩

/-! ### Tables -/

def cellTokens (name : String) (alignment : String) (text : List Char) : List Token :=
  let style : List (String × Prose.Attribute) :=
    if alignment = "" then [] else [("style", .text ("text-align:" ++ alignment))]
  [{ opening (name ++ "_open") name with attributes := style }, lineToken (Text.trimList text),
   closing (name ++ "_close") name]

/-- The tokens of a row: a cell for each alignment. -/
def rowTokens (name : String) : (alignments : List String) → (cells : List (List Char)) → List Token
  | [], _ => []
  | alignment :: alignments, [] => cellTokens name alignment [] ++ rowTokens name alignments []
  | alignment :: alignments, cell :: cells =>
    cellTokens name alignment cell ++ rowTokens name alignments cells

def rowOf (name : String) (alignments : List String) (cells : List (List Char)) : List Token :=
  opening "tr_open" "tr" :: rowTokens name alignments cells ++ [closing "tr_close" "tr"]

/-- A table that would have to be filled up with more empty cells than this ends early. -/
def mostFilledCells : Int := 0x10000

/-- The rows of a table, and the line behind them. `filled` cells have been added so far; cells that
    a row has too many make up for them. -/
def tableRows (page : Page) (alignments : List String) :
    (fuel index : Nat) → (filled : Int) → List (List Token) × Nat
  | 0, index, _ => ([], index)
  | fuel + 1, index, filled =>
    if page.isOutside index ∨ endsQuote page false index then ([], index)
    else
      let text := Text.trimList (page.content index)
      if text = [] ∨ page.isCode index then ([], index)
      else
        let cells := rowCells text
        let filled' := filled + (alignments.length : Int) - cells.length
        if filled' > mostFilledCells then ([], index)
        else
          let (rows, next) := tableRows page alignments fuel (index + 1) filled'
          (rowOf "td" alignments cells :: rows, next)

def table? (page : Page) (start stop : Nat) (definitions : Definitions) : Option Outcome :=
  (TableHead.at? page start stop).map fun head =>
    let (rows, next) := tableRows page head.alignments (stop - (start + 2)) (start + 2) 0
    let body :=
      if rows = [] then []
      else opening "tbody_open" "tbody" :: rows.flatten ++ [closing "tbody_close" "tbody"]
    ⟨[opening "table_open" "table", opening "thead_open" "thead"] ++
        rowOf "th" head.alignments head.cells ++ [closing "thead_close" "thead"] ++ body ++
        [closing "table_close" "table"],
      next, definitions⟩

/-! ### Quotations -/

/-- A line behind its quotation mark and the space that may follow it. A tab there counts as that
    space; what is left of it belongs to the content. -/
def SourceLine.quoted (line : SourceLine) : SourceLine :=
  let behind := line.content.drop 1
  let offset := line.indent.toNat + 1
  match behind with
  | ' ' :: text => moved text (offset + 1 + line.column) true
  | '\t' :: rest =>
    if (line.column + offset) % 4 = 3 then moved rest (offset + 1 + line.column) true
    else moved behind (offset + line.column + 1) true
  | text => moved text (offset + line.column) false
where
  /-- The line from a text on, which starts at a column. -/
  moved (text : List Char) (column : Nat) (spaced : Bool) : SourceLine :=
    { line with
      text
      shift := (text.takeWhile isSpace).length
      indent := leadingWidth column text
      column := line.indent.toNat + 1 + if spaced then 1 else 0 }

/-- The lines of a quotation: the page with them taken out of it, the line behind them, and whether
    another block ended it. `afterEmpty` tells that the line in front is empty. Lines without mark
    go on with a paragraph, as long as nothing else starts there. -/
def quoteLines : (fuel : Nat) → (page : Page) → (index : Nat) → (afterEmpty : Bool) →
    Page × Nat × Bool
  | 0, page, index, _ => (page, index, false)
  | fuel + 1, page, index, afterEmpty =>
    let line := page.line index
    if line.isEmpty then (page, index, false)
    else if line.content.head? = some '>' ∧ !page.isOutside index then
      let inner := line.quoted
      quoteLines fuel { page with lines := page.lines.set! index inner } (index + 1) inner.isEmpty
    else if afterEmpty then (page, index, false)
    else if endsQuote page false index then (page, index, true)
    else
      quoteLines fuel { page with lines := page.lines.set! index { line with indent := -1 } }
        (index + 1) false

def quotation? (inner : BlockReader) (page : Page) (start stop : Nat) (definitions : Definitions) :
    Option Outcome :=
  if !page.isCode start ∧ (page.content start).head? = some '>' then
    let first := (page.line start).quoted
    let (quoted, last, isEnded) :=
      quoteLines (stop - (start + 1)) { page with lines := page.lines.set! start first } (start + 1)
        first.isEmpty
    let run := inner { quoted with indent := 0, stop := if isEnded then last else page.stop } start
      last definitions
    some ⟨opening "blockquote_open" "blockquote" :: run.tokens ++
      [closing "blockquote_close" "blockquote"], run.next, run.definitions⟩
  else none

/-! ### Lists -/

/-- Hides the paragraphs that stand directly in an item; `depth` containers are open in it. -/
def hideParagraphs (depth : Int) : List Token → List Token
  | [] => []
  | token :: rest =>
    let isDirect : Bool :=
      (token.kind = "paragraph_open" && depth = 0) || (token.kind = "paragraph_close" && depth = 1)
    (if isDirect then { token with hidden := true } else token) ::
      hideParagraphs (depth + token.nesting) rest

/-- The content of an item whose marker starts at a line. Code behind the marker is indented by one
    space more than the marker. An item whose first two lines are empty ends there. -/
def itemRun (inner : BlockReader) (page : Page) (marker : ListMarker) (start stop : Nat)
    (definitions : Definitions) : BlockRun :=
  let line := page.line start
  let behind := line.content.drop marker.length
  let initial := line.indent.toNat + marker.length
  let width := leadingWidth (initial + line.column) behind
  let isBlank := behind.all isSpace
  let gap := if isBlank ∨ width > 4 then 1 else width
  let first := { line with
    shift := line.shift + marker.length + (behind.takeWhile isSpace).length
    indent := initial + width }
  if isBlank ∧ page.isEmpty (start + 1) then ⟨[], min (start + 2) stop, definitions, true⟩
  else
    inner { page with
      lines := page.lines.set! start first
      indent := initial + gap
      listIndent := some page.indent } start stop definitions

/-- The items of a list from one on: their contents, the line behind them, the definitions, and
    whether all of them are tight. An item is not tight either if it follows an empty line. -/
def listItems (inner : BlockReader) (page : Page) (stop : Nat) :
    (fuel : Nat) → (marker : ListMarker) → (start : Nat) → (afterEmpty : Bool) → Definitions →
      List (List Token) × Nat × Definitions × Bool
  | 0, _, start, _, definitions => ([], start, definitions, true)
  | fuel + 1, marker, start, afterEmpty, definitions =>
    let run := itemRun inner page marker start stop definitions
    let isTight := run.isTight && !afterEmpty
    let endsEmpty := run.next - start > 1 && page.isEmpty (run.next - 1)
    let last := ([run.tokens], run.next, run.definitions, isTight)
    if run.next ≥ stop ∨ page.isOutside run.next ∨ page.isCode run.next ∨
        endsItem page run.next then
      last
    else
      match ListMarker.ofLine? (page.content run.next) with
      | some next =>
        if marker.continues next then
          let (items, behind, definitions', areTight) :=
            listItems inner page stop fuel next run.next endsEmpty run.definitions
          (run.tokens :: items, behind, definitions', isTight && areTight)
        else last
      | none => last

def itemTokens (content : List Token) : List Token :=
  opening "list_item_open" "li" :: content ++ [closing "list_item_close" "li"]

/-- The tokens around the items of a list. A list that does not start with one says so. -/
def listTokens (number : Option Nat) (items : List Token) : List Token :=
  match number with
  | none => opening "bullet_list_open" "ul" :: items ++ [closing "bullet_list_close" "ul"]
  | some value =>
    let start : List (String × Prose.Attribute) :=
      if value = 1 then [] else [("start", .number value)]
    { opening "ordered_list_open" "ol" with attributes := start } :: items ++
      [closing "ordered_list_close" "ol"]

/-- A list. In a tight list, the paragraphs of items are hidden. -/
def list? (inner : BlockReader) (page : Page) (start stop : Nat) (definitions : Definitions) :
    Option Outcome :=
  (listStart? page start).map fun marker =>
    let (items, next, definitions', isTight) :=
      listItems inner page stop (stop - start) marker start false definitions
    let shown := if isTight then items.map (hideParagraphs 0) else items
    ⟨listTokens marker.number (shown.flatMap itemTokens), next, definitions'⟩

/-! ### All of them -/

def blockAt (ofQuotation ofItem : BlockReader) (page : Page) (start stop : Nat)
    (definitions : Definitions) : Outcome :=
  (table? page start stop definitions
    <|> codeBlock? page start stop definitions
    <|> fencedBlock? page start stop definitions
    <|> quotation? ofQuotation page start stop definitions
    <|> rule? page start definitions
    <|> list? ofItem page start stop definitions
    <|> definition? page start definitions
    <|> htmlBlock? page start stop definitions
    <|> heading? page start definitions
    <|> underlinedHeading? page start stop definitions).getD (paragraph page start definitions)

/-- The blocks from a line on. `hasEmpty` tells that there was an empty line so far, and `isTight`
    that there was none in front of the last block. -/
def blocksFrom (block : Page → Nat → Nat → Definitions → Outcome) (page : Page) (stop : Nat) :
    (fuel index : Nat) → (hasEmpty isTight : Bool) → Definitions → BlockRun
  | 0, index, _, isTight, definitions => ⟨[], index, definitions, isTight⟩
  | fuel + 1, index, hasEmpty, isTight, definitions =>
    if index ≥ stop then ⟨[], index, definitions, isTight⟩
    else
      let start := page.skipEmpty index
      if start ≥ stop ∨ page.isOutside start then ⟨[], start, definitions, isTight⟩
      else
        let found := block page start stop definitions
        let next := found.next
        let endsEmpty := hasEmpty || (next - 1 < stop && page.isEmpty (next - 1))
        let isFollowed := decide (next < stop) && page.isEmpty next
        let run := blocksFrom block page stop fuel (if isFollowed then next + 1 else next)
          (endsEmpty || isFollowed) (!hasEmpty) found.definitions
        { run with tokens := found.tokens ++ run.tokens }

/-- Beyond the deepest nesting, all lines are passed over. -/
def skipBlocks : BlockReader := fun page start stop definitions =>
  let first := page.skipEmpty start
  if first ≥ stop ∨ page.isOutside first then ⟨[], first, definitions, true⟩
  else ⟨[], stop, definitions, true⟩

/-- The blocks of a page, with so many levels of nesting left. A quotation takes one level, and a
    list with its item two. -/
def blocks : (levels : Nat) → BlockReader
  | 0 => skipBlocks
  | 1 => fun page start stop =>
    blocksFrom (blockAt skipBlocks skipBlocks) page stop (stop - start + 1) start false true
  | levels + 2 => fun page start stop =>
    blocksFrom (blockAt (blocks (levels + 1)) (blocks levels)) page stop (stop - start + 1) start
      false true

/-! ### Documents -/

/-- The text with its line ends as line feeds, and without null characters. -/
def normalizeText : List Char → List Char
  | [] => []
  | '\r' :: '\n' :: rest => '\n' :: normalizeText rest
  | c :: rest =>
    (if c = '\r' then '\n' else if c = '\x00' then '\uFFFD' else c) :: normalizeText rest

/-- Reads the text that a token holds. -/
def readLine (definitions : Definitions) (token : Token) : Token :=
  if token.kind = "inline" then
    { token with children := inlineTokens definitions token.content.toList }
  else token

/-- The tokens of a text. -/
def documentTokens (text : String) : List Token :=
  let page := Page.ofText (normalizeText text.toList)
  let run := blocks deepestNesting page 0 page.stop []
  run.tokens.map (readLine run.definitions)

end Bindery.CommonMark
