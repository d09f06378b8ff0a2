/-
Module: Bindery.CommonMark.Span
Layer: CommonMark
Purpose: What can stand at a position of a line of text. Each recogniser looks at one position and
  tells what is there and where it ends. Searches for the end of a label and of a code span remember
  what they found, and share it over the line.
Imports: Std.Data.TreeMap, Bindery.CommonMark.Delimiter, Bindery.CommonMark.Html,
  Bindery.CommonMark.Link
Main exports: LineText, Memo, Found, LabelSearch, findAt
-/
import Std.Data.TreeMap
import Bindery.CommonMark.Delimiter
import Bindery.CommonMark.Html
import Bindery.CommonMark.Link

namespace Bindery.CommonMark

open Prose (Token)

/-- The text of a line, or of several, and what labels stand for. -/
structure LineText where
  chars : Array Char
  definitions : Definitions

namespace LineText

/-- The character at a position; a line feed stands for what is behind the end. -/
def charAt (line : LineText) (position : Nat) : Char := line.chars.getD position '\n'

/-- Is the character at a position the given one? -/
def holds (line : LineText) (position : Nat) (c : Char) : Bool := line.chars[position]? = some c

/-- The characters from one position up to another. -/
def slice (line : LineText) (start stop : Nat) : List Char := (line.chars.extract start stop).toList

/-- The characters from a position on. -/
def behind (line : LineText) (start : Nat) : List Char := line.slice start line.chars.size

/-- How many characters from `start` on and before `stop` fulfil a test. -/
def count (line : LineText) (test : Char → Bool) (start stop : Nat) : Nat :=
  go (stop - start) 0
where
  /-- Counts on from `found` characters, looking at no more than `fuel` of them. -/
  go : (fuel found : Nat) → Nat
    | 0, found => found
    | fuel + 1, found =>
      match line.chars[start + found]? with
      | some c => if test c then go fuel (found + 1) else found
      | none => found

end LineText

/-- What searches remember: where the token at a position ends; where runs of backticks of each
    length were seen last; and whether the whole line was searched for them. -/
structure Memo where
  ends : Std.TreeMap Nat Nat
  backticks : List (Nat × Nat)
  scanned : Bool

/-- Nothing has been searched. -/
def Memo.empty : Memo := ⟨∅, [], false⟩

/-- What is found at a position: characters of the text; tokens; a line break; a run of marks, each
    `width` characters long; a link with the range of its content; an image with its content. -/
inductive Found where
  | chars (text : List Char)
  | tokens (tokens : List Token)
  | lineBreak
  | marks (mark : Char) (width run : Nat) (flanks : Flanks)
  | link (target : LinkTarget) (start stop : Nat)
  | image (target : LinkTarget) (content : List Char)

/-- Something found, and the position behind it. -/
structure Match where
  found : Found
  stop : Nat

/-! ### Tokens without content of their own -/

def textToken (text : List Char) : Token := { kind := "text", content := String.ofList text }

/-- A token for characters that were escaped. -/
def specialToken (text : List Char) : Token :=
  { kind := "text_special", content := String.ofList text }

/-- The characters at which something other than text can start. -/
def textEnds : List Char :=
  ['\n', '!', '#', '$', '%', '&', '*', '+', '-', ':', '<', '=', '>', '@', '[', '\\', ']', '^', '_',
   '\x60', '\x7b', '\x7d', '~']

/-- Plain characters, as many as there are. -/
def findText? (line : LineText) (start stop : Nat) : Option Match :=
  match line.count (!textEnds.contains ·) start stop with
  | 0 => none
  | length => some ⟨.chars (line.slice start (start + length)), start + length⟩

/-- A line feed, with the spaces that the next line starts with. -/
def findLineBreak? (line : LineText) (start stop : Nat) : Option Match :=
  if line.holds start '\n' then
    some ⟨.lineBreak, start + 1 + line.count isSpace (start + 1) stop⟩
  else none

/-- A backslash makes punctuation literal; in front of a line feed it is a hard break. -/
def findEscape? (line : LineText) (start stop : Nat) : Option Match :=
  if line.holds start '\\' ∧ start + 1 < stop then
    let c := line.charAt (start + 1)
    if c = '\n' then
      some ⟨.tokens [{ kind := "hardbreak", tag := "br" }],
        start + 2 + line.count isSpace (start + 2) stop⟩
    else
      let shown := if Text.isAsciiPunctuation c then [c] else ['\\', c]
      some ⟨.tokens [specialToken shown], start + 2⟩
  else none

/-- A run of marks for emphasis or strikethrough. A single `~` is text. -/
def findMarks? (line : LineText) (start stop : Nat) : Option Match :=
  let mark := line.charAt start
  if mark = '*' ∨ mark = '_' ∨ mark = '~' then
    let run := line.count (· = mark) start stop
    let before := if start = 0 then ' ' else line.charAt (start - 1)
    let after := if start + run < stop then line.charAt (start + run) else ' '
    let able := flanks before after (mark ≠ '_')
    if mark = '~' then
      if run < 2 then none else some ⟨.marks mark 2 run able, start + run⟩
    else some ⟨.marks mark 1 run able, start + run⟩
  else none

/-! ### Addresses, HTML and character references -/

/-- Is the text an address with a scheme? A line feed at its end is let pass. -/
def isAbsolute (text : List Char) : Bool :=
  match text.span fun c => c.isAlphanum || c = '+' || c = '.' || c = '-' with
  | (scheme, ':' :: rest) =>
    scheme.head?.any Char.isAlpha && 2 ≤ scheme.length && scheme.length ≤ 32 &&
      (match rest.getLast? with
        | some '\n' => rest.dropLast
        | _ => rest).all fun c => c.toNat > 0x20 && c ≠ '<' && c ≠ '>'
  | _ => false

def isMailLabel (label : List Char) : Bool :=
  1 ≤ label.length && label.length ≤ 63 && label.all (fun c => c.isAlphanum || c = '-') &&
    label.head? ≠ some '-' && label.getLast? ≠ some '-'

/-- Is the text a mail address? A line feed at its end is let pass. -/
def isMailAddress (text : List Char) : Bool :=
  match text.span (· ≠ '@') with
  | (mailbox, '@' :: host) =>
    mailbox ≠ [] &&
      mailbox.all (fun c => c.isAlphanum || ".!#$%&'*+/=?^_\x60\x7b|\x7d~-".toList.contains c) &&
      (Text.piecesBetween '.' (match host.getLast? with
        | some '\n' => host.dropLast
        | _ => host)).all isMailLabel
  | _ => false

/-- A link whose address stands in the text. -/
def bareLink? (written shown : List Char) (stop : Nat) : Option Match :=
  let address := normalizeAddress written
  if isSafeAddress address then
    some ⟨.tokens
      [{ kind := "link_open", tag := "a", nesting := 1, markup := "autolink",
         attributes := [("href", .text (String.ofList address))] },
       textToken (shownAddress shown),
       { kind := "link_close", tag := "a", nesting := -1, markup := "autolink" }], stop⟩
  else none

/-- An address in angle brackets. -/
def findAddress? (line : LineText) (start stop : Nat) : Option Match :=
  if line.holds start '<' then
    let length := line.count (fun c => c ≠ '<' && c ≠ '>') (start + 1) stop
    let last := start + 1 + length
    if last < stop ∧ line.holds last '>' then
      let text := line.slice (start + 1) last
      if isAbsolute text then bareLink? text text (last + 1)
      else if isMailAddress text then bareLink? ("mailto:".toList ++ text) text (last + 1)
      else none
    else none
  else none

/-- A piece of HTML. -/
def findHtml? (line : LineText) (start stop : Nat) : Option Match :=
  if line.holds start '<' ∧ start + 2 < stop then
    let text := line.behind start
    (htmlLength? text).map fun length =>
      ⟨.tokens [{ kind := "html_inline", content := String.ofList (text.take length) }],
        start + length⟩
  else none

/-- A character reference. -/
def findReference? (line : LineText) (start stop : Nat) : Option Match :=
  if line.holds start '&' ∧ start + 1 < stop then
    (readReference? (line.behind (start + 1))).map fun (shown, length) =>
      ⟨.tokens [specialToken shown], start + length⟩
  else none

/-! ### Code -/

/-- The content of a code span: line feeds become spaces, and one space at each end is dropped
    unless there is nothing but blanks. -/
def codeContent (text : List Char) : List Char :=
  let shown := text.map fun c => if c = '\n' then ' ' else c
  if shown.head? = some ' ' ∧ shown.getLast? = some ' ' ∧ !shown.all Text.isBlank then
    (shown.drop 1).dropLast
  else shown

def codeToken (text : List Char) : Token :=
  { kind := "code_inline", tag := "code", content := String.ofList (codeContent text) }

/-- The next run of backticks at or behind a position: where it starts and where it ends. Behind
    `stop`, a run counts as a single backtick. -/
def nextBackticks? (line : LineText) (position stop : Nat) : Option (Nat × Nat) :=
  let start := position + line.count (· ≠ '\x60') position line.chars.size
  if start < line.chars.size then
    some (start, start + 1 + line.count (· = '\x60') (start + 1) stop)
  else none

/-- Looks for a run of as many backticks as the one that ends at `position`. The runs passed are
    remembered. -/
def closingBackticks (line : LineText) (length stop : Nat) :
    (fuel position : Nat) → Memo → Option (Nat × Nat) × Memo
  | 0, _, memo => (none, { memo with scanned := true })
  | fuel + 1, position, memo =>
    match nextBackticks? line position stop with
    | none => (none, { memo with scanned := true })
    | some (first, last) =>
      if last - first = length then (some (first, last), memo)
      else
        closingBackticks line length stop fuel last
          { memo with backticks := (last - first, first) :: memo.backticks }

/-- A code span, or the backticks as text if nothing closes them. -/
def findCode? (line : LineText) (start stop : Nat) (memo : Memo) : Option Match × Memo :=
  if line.holds start '\x60' then
    let length := 1 + line.count (· = '\x60') (start + 1) stop
    let opener := start + length
    let plain : Match := ⟨.chars (List.replicate length '\x60'), opener⟩
    if memo.scanned ∧ (memo.backticks.lookup length).getD 0 ≤ start then (some plain, memo)
    else
      match closingBackticks line length stop line.chars.size opener memo with
      | (some (first, last), memo') =>
        (some ⟨.tokens [codeToken (line.slice opener first)], last⟩, memo')
      | (none, memo') => (some plain, memo')
  else (none, memo)

/-! ### Links and images -/

/-- A search for the bracket that closes a label whose opening bracket is at a position. A label
    with a link in it can be refused. -/
abbrev LabelSearch := (start : Nat) → (noLinks : Bool) → Memo → Option Nat × Memo

/-- How many spaces and line feeds there are. -/
def gapLength (line : LineText) (start stop : Nat) : Nat :=
  line.count (fun c => isSpace c || c = '\n') start stop

/-- The end of a link in parentheses, as far as it could be read: the target, the position, and
    whether a closing parenthesis is there. -/
structure InlineTarget where
  target : LinkTarget
  position : Nat
  isClosed : Bool

def readTitle (line : LineText) (start stop : Nat) : List Char × Nat :=
  let position := start + gapLength line start stop
  match title? (line.slice position stop) with
  | some (shown, rest) =>
    if position < stop ∧ start < position then
      let behind := stop - rest.length
      (shown, behind + gapLength line behind stop)
    else ([], position)
  | none => ([], position)

/-- Reads destination and title from a position in front of `stop`. What is refused as a destination
    is left unread. -/
def readTarget (line : LineText) (start stop : Nat) : InlineTarget :=
  let (target, position) : LinkTarget × Nat :=
    match destination? (line.slice start stop) with
    | some (written, rest) =>
      let address := normalizeAddress written
      let safe := isSafeAddress address
      let (title, position) := readTitle line (if safe then stop - rest.length else start) stop
      (⟨if safe then address else [], title⟩, position)
    | none => (⟨[], []⟩, start)
  ⟨target, position, position < stop && line.holds position ')'⟩

/-- Reads the label of a reference: the target that it stands for, and the position behind it. At
    `position` there may be a label in brackets; otherwise, or if it is empty, the text between
    `start` and `stop` is the label. -/
def readLabel (line : LineText) (search : LabelSearch) (start stop position limit : Nat)
    (memo : Memo) : Option (LinkTarget × Nat) × Memo :=
  if line.definitions = [] then (none, memo)
  else
    let (close, memo') :=
      if position < limit ∧ line.holds position '[' then search position false memo
      else (none, memo)
    let (second, behind) := match close with
      | some close => (line.slice (position + 1) close, close + 1)
      | none => ([], stop + 1)
    let label := if second = [] then line.slice start stop else second
    ((line.definitions.target? label).map fun target => (target, behind), memo')

/-- A link. Where a target in parentheses is not closed, the label may be a reference; the search
    for its second label goes on behind the position that could not be read. -/
def findLink? (line : LineText) (search : LabelSearch) (start limit : Nat) (memo : Memo) :
    Option Match × Memo :=
  if line.holds start '[' then
    match search start true memo with
    | (none, memo') => (none, memo')
    | (some stop, memo') =>
      let found (target : LinkTarget) (behind : Nat) : Match :=
        ⟨.link target (start + 1) stop, behind⟩
      if stop + 1 < limit ∧ line.holds (stop + 1) '(' then
        let first := stop + 2 + gapLength line (stop + 2) limit
        if first ≥ limit then (none, memo')
        else
          let inline := readTarget line first limit
          if inline.isClosed then (some (found inline.target (inline.position + 1)), memo')
          else
            let (reference, memo'') :=
              readLabel line search (start + 1) stop (inline.position + 1) limit memo'
            (reference.map fun (target, behind) => found target behind, memo'')
      else
        let (reference, memo'') := readLabel line search (start + 1) stop (stop + 1) limit memo'
        (reference.map fun (target, behind) => found target behind, memo'')
  else (none, memo)

/-- An image. -/
def findImage? (line : LineText) (search : LabelSearch) (start limit : Nat) (memo : Memo) :
    Option Match × Memo :=
  if line.holds start '!' ∧ start + 1 < limit ∧ line.holds (start + 1) '[' then
    match search (start + 1) false memo with
    | (none, memo') => (none, memo')
    | (some stop, memo') =>
      let found (target : LinkTarget) (behind : Nat) : Match :=
        ⟨.image target (line.slice (start + 2) stop), behind⟩
      if stop + 1 < limit ∧ line.holds (stop + 1) '(' then
        let first := stop + 2 + gapLength line (stop + 2) limit
        if first ≥ limit then (none, memo')
        else
          let inline := readTarget line first limit
          (if inline.isClosed then some (found inline.target (inline.position + 1)) else none,
            memo')
      else
        let (reference, memo'') := readLabel line search (start + 2) stop (stop + 1) limit memo'
        (reference.map fun (target, behind) => found target behind, memo'')
  else (none, memo)

/-! ### All of them -/

/-- What is at a position in front of `limit`. Marks are passed over while tokens are only
    skipped. -/
def findAt (line : LineText) (search : LabelSearch) (skipping : Bool) (start limit : Nat)
    (memo : Memo) : Option Match × Memo :=
  match line.charAt start with
  | '\n' => (findLineBreak? line start limit, memo)
  | '\\' => (findEscape? line start limit, memo)
  | '\x60' => findCode? line start limit memo
  | '[' => findLink? line search start limit memo
  | '!' => findImage? line search start limit memo
  | '<' => ((findAddress? line start limit).or (findHtml? line start limit), memo)
  | '&' => (findReference? line start limit, memo)
  | c =>
    if c = '*' ∨ c = '_' ∨ c = '~' then
      (if skipping then none else findMarks? line start limit, memo)
    else (findText? line start limit, memo)

end Bindery.CommonMark
