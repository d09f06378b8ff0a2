/-
Module: Bindery.Convert.Stage
Layer: Convert
Purpose: The stages of a conversion. A stage looks at one event at a time, remembers little (the
  depth of open chapters, of open code blocks, the authors seen so far), and replaces the event by
  no, one or several events. It leaves alone what is not its own.
Imports: Bindery.Event.Basic, Bindery.Markup.Literal, Bindery.Text.Blank
Main exports: Stage, Stage.name, Stage.all, Memory, Stage.replace, Stage.run, clampHeading
-/
import Bindery.Event.Basic
import Bindery.Markup.Literal
import Bindery.Text.Blank

namespace Bindery.Convert

open Markup (literal)

/-- The conversion stages. `strip` is for raw HTML. -/
inductive Stage where
  | title
  | authors
  | chapters
  | content
  | headings
  | paragraphs
  | softBreaks
  | hardBreaks
  | text
  | strong
  | emphasis
  | strikethrough
  | blockQuotes
  | lists
  | code
  | links
  | tables
  | stripHtml
deriving DecidableEq, Repr, Inhabited

def Stage.name : Stage → String
  | .title => "title"
  | .authors => "authors"
  | .chapters => "chapters"
  | .content => "content"
  | .headings => "headings"
  | .paragraphs => "paragraphs"
  | .softBreaks => "soft_breaks"
  | .hardBreaks => "hard_breaks"
  | .text => "text"
  | .strong => "strong"
  | .emphasis => "emphasis"
  | .strikethrough => "strikethrough"
  | .blockQuotes => "blockquotes"
  | .lists => "lists"
  | .code => "code"
  | .links => "links"
  | .tables => "tables"
  | .stripHtml => "strip_html"

def Stage.all : List Stage :=
  [.title, .authors, .chapters, .content, .headings, .paragraphs, .softBreaks, .hardBreaks, .text,
   .strong, .emphasis, .strikethrough, .blockQuotes, .lists, .code, .links, .tables, .stripHtml]

def Stage.ofName? (name : String) : Option Stage := Stage.all.find? (·.name = name)

/-- What a stage remembers between events. -/
structure Memory where
  authors : List String
  depth : Nat
  codeDepth : Nat
deriving DecidableEq, Repr, Inhabited

/-- Before the first event. -/
def Memory.initial : Memory := ⟨[], 0, 0⟩

/-- Heading levels saturate at 1 and at the deepest level. -/
def clampHeading (level : Int) : Int := max 1 (min level Typst.deepestHeading)

/-- A heading that appears everywhere. -/
def plainHeading (level : Int) : Typst.Tag := .heading level .included .included

/-- Replaces both ends of the prose containers that `convert` accepts. -/
def replaceTag (convert : Markdown.Tag → Option Typst.Tag) (event : Event) : Event :=
  match event with
  | .markdown (.start tag) =>
    match convert tag with
    | some target => .typst (.start target)
    | none => event
  | .markdown (.finish tag) =>
    match convert tag with
    | some target => .typst (.finish target)
    | none => event
  | _ => event

/-! ### What the stages do with prose containers -/

/-- Headings keep their level. -/
def headingTag : Markdown.Tag → Option Typst.Tag
  | .heading level => some (plainHeading level)
  | _ => none

/-- Lists and their items. -/
def listTag : Markdown.Tag → Option Typst.Tag
  | .list none => some (.bulletList none false)
  | .list (some start) => some (.numberedList start none false)
  | .item => some .item
  | _ => none

/-- Code blocks; a fence keeps its label if it has one. -/
def codeTag : Markdown.Tag → Option Typst.Tag
  | .codeBlock .indented => some (.codeBlock none .block)
  | .codeBlock (.fenced info) => some (.codeBlock (if info = "" then none else some info) .block)
  | _ => none

/-- Alignments of table columns. -/
def cellAlignment : Markdown.Alignment → Typst.Alignment
  | .none => .none
  | .left => .left
  | .center => .center
  | .right => .right

/-- Tables and what they are made of. -/
def tableTag : Markdown.Tag → Option Typst.Tag
  | .table alignments => some (.table (alignments.map cellAlignment))
  | .tableHead => some .tableHead
  | .tableRow => some .tableRow
  | .tableCell => some .tableCell
  | _ => none

/-- The target of a link, for the kinds of link that have one. -/
def linkTarget : Markdown.LinkKind → String → Option Typst.Tag
  | .inline, destination => some (.link .content destination)
  | .autolink, destination => some (.link .autolink destination)
  | .email, destination => some (.link .url ("mailto:" ++ destination))
  | _, _ => none

/-- Replaces one prose container by one target container. -/
def swapTag (source : Markdown.Tag) (target : Typst.Tag) (event : Event) : Event :=
  replaceTag (fun tag => if tag = source then some target else none) event

/-! ### What the stages do with other events -/

/-- Is the event a start of a code block, of prose or of the target? -/
def opensCode : Event → Bool
  | .markdown (.start (.codeBlock _)) => true
  | .typst (.start (.codeBlock _ _)) => true
  | _ => false

/-- Is the event a finish of a code block, of prose or of the target? -/
def closesCode : Event → Bool
  | .markdown (.finish (.codeBlock _)) => true
  | .typst (.finish (.codeBlock _ _)) => true
  | _ => false

/-- A display formula: apart from blanks around it, the text starts with `\[` and ends with `\]`. -/
def isDisplayFormula (text : String) : Bool :=
  let body := Text.trimList text.toList
  ['\\', '['].isPrefixOf body && ['\\', ']'].isSuffixOf body

/-- Moves an embedded heading down by `shift` levels. -/
def shiftHeading (shift : Nat) : Markdown.Event → Markdown.Event
  | .start (.heading level) => .start (.heading (clampHeading (level + shift)))
  | .finish (.heading level) => .finish (.heading (clampHeading (level + shift)))
  | event => event

def authorArray (authors : List String) : String :=
  "(" ++ ",".intercalate (authors.map literal) ++ ")"

/-- Authors are gathered until the list of authors ends, and become one document rule. -/
def replaceAuthors (memory : Memory) (event : Event) : List Event × Memory :=
  match event with
  | .book (.start .authorList) => ([], { memory with authors := [] })
  | .book (.author name) => ([], { memory with authors := memory.authors ++ [name] })
  | .book (.finish .authorList) =>
    (if memory.authors.isEmpty then []
      else [.typst (.documentSet "author" (authorArray memory.authors))], memory)
  | _ => ([event], memory)

/-- A chapter becomes a heading one level below the chapters around it, and ends with a weak page
    break. Headings in its own prose move down as far. -/
def replaceChapters (memory : Memory) (event : Event) : List Event × Memory :=
  match event with
  | .book (.start (.chapter _ name _ _)) =>
    let heading := plainHeading (clampHeading (1 + (memory.depth : Int)))
    ([.typst (.start heading), .typst (.text name), .typst (.finish heading)],
      { memory with depth := memory.depth + 1 })
  | .book (.finish (.chapter _ _ _ _)) =>
    ([.typst (.call none "pagebreak" ["weak: true"])], { memory with depth := memory.depth - 1 })
  | .book (.prose inner) =>
    ([.book (.prose (if memory.depth > 1 then shiftHeading (memory.depth - 1) inner else inner))],
      memory)
  | _ => ([event], memory)

/-- Text becomes target text. Outside code blocks, display formulas are dropped. -/
def replaceText (memory : Memory) (event : Event) : List Event × Memory :=
  if opensCode event then ([event], { memory with codeDepth := memory.codeDepth + 1 })
  else if closesCode event then ([event], { memory with codeDepth := memory.codeDepth - 1 })
  else match event with
    | .markdown (.text body) =>
      (if memory.codeDepth = 0 ∧ isDisplayFormula body then [] else [.typst (.text body)], memory)
    | _ => ([event], memory)

/-- Links of some kinds become target links; the others lose their markers. -/
def replaceLinks (event : Event) : List Event :=
  match event with
  | .markdown (.start (.link kind destination _)) =>
    ((linkTarget kind destination).map fun tag => Event.typst (.start tag)).toList
  | .markdown (.finish (.link kind destination _)) =>
    ((linkTarget kind destination).map fun tag => Event.typst (.finish tag)).toList
  | _ => [event]

/-- What a stage makes of one event, and what it remembers afterwards. -/
def Stage.replace (stage : Stage) (memory : Memory) (event : Event) : List Event × Memory :=
  match stage with
  | .title =>
    (match event with
      | .book (.title body) => [.typst (.documentSet "title" (literal body))]
      | _ => [event], memory)
  | .authors => replaceAuthors memory event
  | .chapters => replaceChapters memory event
  | .content =>
    (match event with
      | .book (.prose inner) => [.markdown inner]
      | _ => [event], memory)
  | .headings => ([replaceTag headingTag event], memory)
  | .paragraphs => ([swapTag .paragraph .paragraph event], memory)
  | .softBreaks =>
    (match event with
      | .markdown .softBreak => [.typst (.text " ")]
      | _ => [event], memory)
  | .hardBreaks =>
    (match event with
      | .markdown .hardBreak => [.typst .paragraphBreak]
      | _ => [event], memory)
  | .text => replaceText memory event
  | .strong => ([swapTag .strong .strong event], memory)
  | .emphasis => ([swapTag .emphasis .emphasis event], memory)
  | .strikethrough => ([swapTag .strikethrough .strikethrough event], memory)
  | .blockQuotes => ([swapTag .blockQuote (.quote .block .auto none) event], memory)
  | .lists => ([replaceTag listTag event], memory)
  | .code =>
    (match event with
      | .markdown (.code body) => [.typst (.code body)]
      | _ => [replaceTag codeTag event], memory)
  | .links => (replaceLinks event, memory)
  | .tables => ([replaceTag tableTag event], memory)
  | .stripHtml =>
    (match event with
      | .markdown (.html _) => []
      | _ => [event], memory)

/-- What a stage makes of a stream. -/
def Stage.run (stage : Stage) (memory : Memory) : List Event → List Event
  | [] => []
  | event :: rest =>
    let (replaced, next) := stage.replace memory event
    replaced ++ stage.run next rest

end Bindery.Convert
