/-
Module: Bindery.Event.Typst
Layer: Event
Purpose: The target dialect: the elements of a Typst document as a flat sequence of events, with
  containers bracketed by a `start` and a `finish` that carry equal tags.
Imports: none
Main exports: Display, Bookmarks, Outline, ShowKind, LinkKind, QuoteKind, QuoteMarks, Alignment,
  Tag, Event, deepestHeading
-/

namespace Bindery.Typst

/-- Whether code stands in a block of its own or within a line. -/
inductive Display where
  | block
  | inline
deriving DecidableEq, Repr, Inhabited

/-- Whether an element appears among the bookmarks of the document. -/
inductive Bookmarks where
  | included
  | excluded
deriving DecidableEq, Repr, Inhabited

/-- Whether an element appears in the outline. -/
inductive Outline where
  | included
  | excluded
deriving DecidableEq, Repr, Inhabited

/-- A show rule either sets a property of what it selects or passes it through a function. -/
inductive ShowKind where
  | showSet
  | function
deriving DecidableEq, Repr, Inhabited

/-- A link shows its address, a content of its own, or is an address standing in the text. -/
inductive LinkKind where
  | url
  | content
  | autolink
deriving DecidableEq, Repr, Inhabited

/-- Whether a quotation stands in a block of its own or within a line. -/
inductive QuoteKind where
  | block
  | inline
deriving DecidableEq, Repr, Inhabited

/-- Whether a quotation is wrapped in double quotes. -/
inductive QuoteMarks where
  | wrap
  | bare
  | auto
deriving DecidableEq, Repr, Inhabited

/-- Horizontal alignment of a table column. -/
inductive Alignment where
  | left
  | center
  | right
  | none
deriving DecidableEq, Repr, Inhabited

/-- Containers. The `rule` of a show rule is an element, a key and a value. -/
inductive Tag where
  | paragraph
  | showRule (kind : ShowKind) (selector : String) (rule : Option (String × String × String))
      (function : Option String)
  | heading (level : Int) (outline : Outline) (bookmarks : Bookmarks)
  | codeBlock (fence : Option String) (display : Display)
  | bulletList (marker : Option String) (tight : Bool)
  | numberedList (start : Int) (pattern : Option String) (tight : Bool)
  | item
  | quote (kind : QuoteKind) (marks : QuoteMarks) (attribution : Option String)
  | emphasis
  | strong
  | strikethrough
  | link (kind : LinkKind) (destination : String)
  | table (alignments : List Alignment)
  | tableHead
  | tableRow
  | tableCell
deriving DecidableEq, Repr, Inhabited

/-- A straight line; each property that is absent keeps its default. -/
structure Line where
  start : Option (String × String)
  finish : Option (String × String)
  length : Option String
  angle : Option String
  stroke : Option String
deriving DecidableEq, Repr, Inhabited

/-- One step of a document. `raw` is markup that is written as it stands. -/
inductive Event where
  | start (tag : Tag)
  | finish (tag : Tag)
  | text (text : String)
  | code (text : String)
  | lineBreak
  | paragraphBreak
  | pageBreak
  | line (line : Line)
  | binding (lhs rhs : String)
  | call (target : Option String) (name : String) (args : List String)
  | documentCall (args : List String)
  | setRule (element key value : String)
  | documentSet (key value : String)
  | raw (text : String)
deriving DecidableEq, Repr, Inhabited

/-- Headings go no deeper than this level. -/
def deepestHeading : Int := 6

end Bindery.Typst
