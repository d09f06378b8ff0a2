/-
Module: Bindery.Event.Basic
Layer: Event
Purpose: One type for the events of all dialects, as they travel mixed through a conversion, and the
  dialect of each. A foreign value belongs to no dialect and is carried along untouched.
Imports: Bindery.Event.Book, Bindery.Event.Markdown, Bindery.Event.Typst
Main exports: Dialect, Event, Event.dialect, Tag, Bracket, Event.bracket
-/
import Bindery.Event.Book
import Bindery.Event.Markdown
import Bindery.Event.Typst

namespace Bindery

/-- The three families of events. -/
inductive Dialect where
  | book
  | markdown
  | typst
deriving DecidableEq, Repr, Inhabited

def Dialect.name : Dialect → String
  | .book => "book"
  | .markdown => "markdown"
  | .typst => "typst"

/-- An event of any dialect, or a foreign value. -/
inductive Event where
  | book (event : Book.Event)
  | markdown (event : Markdown.Event)
  | typst (event : Typst.Event)
  | foreign (text : String)
deriving DecidableEq, Repr, Inhabited

/-- The dialect of an event; a foreign value has none. -/
def Event.dialect : Event → Option Dialect
  | .book _ => some .book
  | .markdown _ => some .markdown
  | .typst _ => some .typst
  | .foreign _ => none

/-- A container tag of any dialect. Tags of two dialects are never equal. -/
inductive Tag where
  | book (tag : Book.Tag)
  | markdown (tag : Markdown.Tag)
  | typst (tag : Typst.Tag)
deriving DecidableEq, Repr, Inhabited

/-- What an event does to nesting: it opens a container, closes one, or neither. -/
inductive Bracket where
  | opening (tag : Tag)
  | closing (tag : Tag)
  | leaf
deriving DecidableEq, Repr, Inhabited

def Markdown.Event.bracket : Markdown.Event → Bracket
  | .start tag => .opening (.markdown tag)
  | .finish tag => .closing (.markdown tag)
  | _ => .leaf

/-- The bracket of a structural event. Embedded prose counts as the prose event it holds. -/
def Book.Event.bracket : Book.Event → Bracket
  | .start tag => .opening (.book tag)
  | .finish tag => .closing (.book tag)
  | .prose event => event.bracket
  | _ => .leaf

def Typst.Event.bracket : Typst.Event → Bracket
  | .start tag => .opening (.typst tag)
  | .finish tag => .closing (.typst tag)
  | _ => .leaf

/-- The bracket of an event of any dialect. A foreign value is a leaf. -/
def Event.bracket : Event → Bracket
  | .book event => event.bracket
  | .markdown event => event.bracket
  | .typst event => event.bracket
  | .foreign _ => .leaf

end Bindery
