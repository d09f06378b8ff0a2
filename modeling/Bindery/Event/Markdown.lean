/-
Module: Bindery.Event.Markdown
Layer: Event
Purpose: The prose dialect. A Markdown text is a flat sequence of events: containers are bracketed
  by a `start` and a `finish` that carry equal tags, everything else is a leaf.
Imports: none
Main exports: LinkKind, Alignment, CodeKind, Tag, Event
-/

namespace Bindery.Markdown

/-- How a link was written in the text. -/
inductive LinkKind where
  | inline
  | reference
  | referenceUnknown
  | collapsed
  | collapsedUnknown
  | shortcut
  | shortcutUnknown
  | autolink
  | email
deriving DecidableEq, Repr, Inhabited

/-- Horizontal alignment of a table column. -/
inductive Alignment where
  | none
  | left
  | center
  | right
deriving DecidableEq, Repr, Inhabited

/-- How a code block was marked: by indentation, or by a fence that may carry a label. -/
inductive CodeKind where
  | indented
  | fenced (info : String)
deriving DecidableEq, Repr, Inhabited

/-- Containers. The `start` of a list is its first number, and is absent from a bullet list. -/
inductive Tag where
  | paragraph
  | heading (level : Int)
  | blockQuote
  | codeBlock (kind : CodeKind)
  | list (start : Option Int)
  | item
  | emphasis
  | strong
  | strikethrough
  | link (kind : LinkKind) (destination title : String)
  | image (kind : LinkKind) (destination title : String)
  | table (alignments : List Alignment)
  | tableHead
  | tableRow
  | tableCell
deriving DecidableEq, Repr, Inhabited

/-- One step of a prose text. `code` is an inline code span, `rule` a thematic break. -/
inductive Event where
  | start (tag : Tag)
  | finish (tag : Tag)
  | text (text : String)
  | code (text : String)
  | html (text : String)
  | softBreak
  | hardBreak
  | rule
deriving DecidableEq, Repr, Inhabited

end Bindery.Markdown
