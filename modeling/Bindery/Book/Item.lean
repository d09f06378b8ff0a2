/-
Module: Bindery.Book.Item
Layer: Book
Purpose: A book as a tree: its configuration and its items in order. Chapters nest.
Imports: Bindery.Path
Main exports: Chapter, Item, Config, Manuscript
-/
import Bindery.Path

namespace Bindery.Book

/-- A chapter apart from the chapters below it. `number` holds the position at every level. -/
structure Chapter where
  name : String
  content : String := ""
  source : Option Path := none
  number : Option (List Int) := none
deriving DecidableEq, Repr, Inhabited

/-- A chapter without a source is a draft. -/
def Chapter.isDraft (chapter : Chapter) : Bool := chapter.source.isNone

/-- An item of a book: a chapter with what is below it, a separator, the title of the part that
    starts here, or a foreign value. -/
inductive Item where
  | chapter (chapter : Chapter) (subItems : List Item)
  | separator
  | part (title : String)
  | foreign (text : String)
deriving Repr, Inhabited

mutual

/-- How many chapters an item holds, itself included. -/
def Item.chapterCount : Item → Nat
  | .chapter _ subItems => 1 + chapterCounts subItems
  | _ => 0

/-- How many chapters items hold. -/
def chapterCounts : List Item → Nat
  | [] => 0
  | item :: rest => item.chapterCount + chapterCounts rest

end

/-- What a book says about itself. `src` is the directory of its sources. -/
structure Config where
  title : Option String := none
  authors : List String := []
  src : String := "src"
  language : Option String := none
deriving DecidableEq, Repr, Inhabited

/-- A book: its directory, its configuration and its items. -/
structure Manuscript where
  root : Path
  config : Config := {}
  items : List Item := []
deriving Repr, Inhabited

end Bindery.Book
