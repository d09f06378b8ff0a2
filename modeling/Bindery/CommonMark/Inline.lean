/-
Module: Bindery.CommonMark.Inline
Layer: CommonMark
Purpose: The tokens of a line of text. Links are nested no deeper than a limit; behind it everything
  is text. The content of an image is read on its own, and is shorter than the line around it.
Imports: Bindery.CommonMark.Span
Main exports: deepestNesting, tokenEnd, labelEnd, inlineTokens
-/
import Bindery.CommonMark.Span

namespace Bindery.CommonMark

open Prose (Token)

/-- Containers are nested no deeper than this. -/
def deepestNesting : Nat := 20

/-! ### Ends of labels -/

/-- Where a token in front of `limit` ends, given its start. -/
abbrev TokenSearch := (start : Nat) → Memo → Nat × Memo

/-- Looks for the bracket that closes a label from `position` on, while `depth` brackets inside it
    are open. Brackets of tokens inside do not count. -/
def labelEndFrom (line : LineText) (limit : Nat) (skip : TokenSearch) (noLinks : Bool) :
    (fuel depth position : Nat) → Memo → Option Nat × Memo
  | 0, _, _, memo => (none, memo)
  | fuel + 1, depth, position, memo =>
    if position ≥ limit then (none, memo)
    else if line.holds position ']' ∧ depth = 0 then (some position, memo)
    else
      let inside := if line.holds position ']' then depth - 1 else depth
      let (next, memo') := skip position memo
      if line.holds position '[' then
        if next = position + 1 then
          labelEndFrom line limit skip noLinks fuel (inside + 1) next memo'
        else if noLinks then (none, memo')
        else labelEndFrom line limit skip noLinks fuel inside next memo'
      else labelEndFrom line limit skip noLinks fuel inside next memo'

/-- The bracket that closes the label whose opening bracket is at `start`. -/
def labelEnd (line : LineText) (limit : Nat) (skip : TokenSearch) : LabelSearch :=
  fun start noLinks memo =>
    labelEndFrom line limit skip noLinks (limit - start) 0 (start + 1) memo

/-- Where the token at a position ends, with so many levels of nesting left. What has been found
    before is not looked for again. Without a level left, everything up to the limit is passed. -/
def tokenEnd (line : LineText) (limit : Nat) : (levels : Nat) → TokenSearch
  | 0, start, memo =>
    match memo.ends[start]? with
    | some stop => (stop, memo)
    | none => (limit + 1, { memo with ends := memo.ends.insert start (limit + 1) })
  | levels + 1, start, memo =>
    match memo.ends[start]? with
    | some stop => (stop, memo)
    | none =>
      let search := labelEnd line limit (tokenEnd line limit levels)
      let (found, memo') := findAt line search true start limit memo
      let stop := (found.map Match.stop).getD (start + 1)
      (stop, { memo' with ends := memo'.ends.insert start stop })

/-! ### Tokens -/

/-- A line being read: the tokens so far, the text since the last of them, backwards, and the
    delimiters among them. -/
structure Reader where
  tokens : Array Token
  pending : List Char
  delimiters : Array Delimiter

namespace Reader

/-- Nothing has been read. -/
def empty : Reader := ⟨#[], [], #[]⟩

/-- Text as a token of its own. -/
def flush (reader : Reader) : Reader :=
  if reader.pending = [] then reader
  else { reader with
    tokens := reader.tokens.push (textToken reader.pending.reverse)
    pending := [] }

/-- Adds text. -/
def addText (reader : Reader) (text : List Char) : Reader :=
  { reader with pending := text.reverse ++ reader.pending }

/-- Adds tokens. -/
def addTokens (reader : Reader) (tokens : List Token) : Reader :=
  let flushed := reader.flush
  { flushed with tokens := tokens.foldl Array.push flushed.tokens }

/-- Adds a line break. Two spaces in front of it make it a hard one; spaces in front of it are
    dropped. -/
def addBreak (reader : Reader) : Reader :=
  match reader.pending with
  | ' ' :: ' ' :: rest =>
    { reader with pending := rest.dropWhile (· = ' ') }.addTokens
      [{ kind := "hardbreak", tag := "br" }]
  | ' ' :: rest =>
    { reader with pending := rest }.addTokens [{ kind := "softbreak", tag := "br" }]
  | _ => reader.addTokens [{ kind := "softbreak", tag := "br" }]

/-- Adds the delimiters of a run: `count` tokens of `width` marks each. -/
def addDelimiters (mark : Char) (width run : Nat) (able : Flanks) : (count : Nat) → Reader → Reader
  | 0, reader => reader
  | count + 1, reader =>
    addDelimiters mark width run able count { reader with
      tokens := reader.tokens.push (textToken (List.replicate width mark))
      delimiters := reader.delimiters.push
        ⟨mark, if width = 1 then run else 0, reader.tokens.size, able.opens, able.closes, none⟩ }

/-- Adds a run of marks. A mark that is left over of pairs comes first. -/
def addMarks (reader : Reader) (mark : Char) (width run : Nat) (able : Flanks) : Reader :=
  let flushed := reader.flush
  let first :=
    if run % width = 0 then flushed
    else { flushed with tokens := flushed.tokens.push (textToken [mark]) }
  addDelimiters mark width run able (run / width) first

/-- The tokens, with tags in place of paired marks. -/
def finish (reader : Reader) : List Token :=
  let flushed := reader.flush
  (resolveDelimiters flushed.delimiters flushed.tokens).toList

end Reader

/-- The attributes of a link or an image, whose address has the given name. -/
def targetAttributes (name : String) (target : LinkTarget) : List (String × Prose.Attribute) :=
  (name, .text (String.ofList target.address)) ::
    if target.title = [] then [] else [("title", .text (String.ofList target.title))]

def linkTokens (target : LinkTarget) (content : List Token) : List Token :=
  { kind := "link_open", tag := "a", nesting := 1, attributes := targetAttributes "href" target } ::
    content ++ [{ kind := "link_close", tag := "a", nesting := -1 }]

def imageToken (target : LinkTarget) (text : List Char) (content : List Token) : Token :=
  { kind := "image", tag := "img", attributes := targetAttributes "src" target
    content := String.ofList text, children := content }

/-- Reads a range of a line. `content` reads the content of a link, and `picture` that of an image;
    `search` finds the ends of labels. -/
def readRange (line : LineText) (limit : Nat) (search : LabelSearch)
    (content : Nat → Nat → Memo → List Token × Memo) (picture : List Char → List Token) :
    (fuel position : Nat) → Reader → Memo → List Token × Memo
  | 0, _, reader, memo => (reader.finish, memo)
  | fuel + 1, position, reader, memo =>
    if position ≥ limit then (reader.finish, memo)
    else
      match findAt line search false position limit memo with
      | (none, memo') =>
        readRange line limit search content picture fuel (position + 1)
          (reader.addText [line.charAt position]) memo'
      | (some ⟨found, stop⟩, memo') =>
        let go := readRange line limit search content picture fuel stop
        match found with
        | .chars text => go (reader.addText text) memo'
        | .tokens tokens => go (reader.addTokens tokens) memo'
        | .lineBreak => go reader.addBreak memo'
        | .marks mark width run able => go (reader.addMarks mark width run able) memo'
        | .image target text =>
          go (reader.addTokens [imageToken target text (picture text)]) memo'
        | .link target first last =>
          let (inner, memo'') := content first last memo'
          go (reader.addTokens (linkTokens target inner)) memo''

/-- The tokens of a range of a line, with so many levels of nesting left. Without a level left, all
    of it is text. -/
def rangeTokens (line : LineText) (picture : List Char → List Token) :
    (levels start limit : Nat) → Memo → List Token × Memo
  | 0, start, limit, memo => ((Reader.empty.addText (line.slice start limit)).finish, memo)
  | levels + 1, start, limit, memo =>
    readRange line limit (labelEnd line limit (tokenEnd line limit (levels + 1)))
      (rangeTokens line picture levels) picture (limit - start) start .empty memo

/-- The tokens of a line that is shorter than `bound`. -/
def boundedTokens (definitions : Definitions) : (bound : Nat) → List Char → List Token
  | 0, _ => []
  | bound + 1, text =>
    (rangeTokens ⟨text.toArray, definitions⟩ (boundedTokens definitions bound) deepestNesting 0
      text.length .empty).1

/-- The tokens of a line. -/
def inlineTokens (definitions : Definitions) (text : List Char) : List Token :=
  boundedTokens definitions (text.length + 1) text

end Bindery.CommonMark
