/-
Module: Bindery.Book.Summary
Layer: Book
Purpose: The table of contents of a book, read from the tokens of its summary. Numbered chapters are
  the links of list items, nested as the items are; other chapters are links in plain paragraphs. A
  link without a target is a draft. The first heading of level 1 before any item is the title of the
  book; later ones start parts. Rules are separators.
Imports: Bindery.Book.Item, Bindery.Prose.Token, Bindery.Text.Blank, Bindery.Text.Percent
Main exports: SummaryFault, Summary, itemsOfTokens
-/
import Bindery.Book.Item
import Bindery.Prose.Token
import Bindery.Text.Blank
import Bindery.Text.Percent

namespace Bindery.Book

open Prose (Token)

/-- A list item that is closed without having been opened. -/
inductive SummaryFault where
  | unopenedItem
deriving DecidableEq, Repr

def SummaryFault.text : SummaryFault → String
  | .unopenedItem => "pop from empty list"

/-! ### Links -/

def isTextual (token : Token) : Bool :=
  token.kind = "text" || token.kind = "text_special" || token.kind = "code_inline"

/-- The text of tokens, trimmed. -/
def plainText (tokens : List Token) : String :=
  Text.trim (String.join ((tokens.filter isTextual).map Token.content))

/-- The path that an address names, if it is not blank. -/
def sourcePath? (address : String) : Option Path :=
  match Text.trim address with
  | "" => none
  | trimmed => some (Path.ofString (Text.unquote trimmed))

def firstLink? : List Token → Option Chapter
  | [] => none
  | token :: rest =>
    if token.kind = "link_open" then
      some {
        name := plainText (rest.takeWhile (·.kind ≠ "link_close"))
        source := sourcePath? (token.attributeText "href") }
    else firstLink? rest

/-! ### Building the tree -/

/-- A chapter whose list item is still open, with the chapters below it so far. -/
structure OpenChapter where
  chapter : Chapter
  subItems : List Item
deriving Repr

/-- The finished item. -/
def OpenChapter.close (opened : OpenChapter) : Item := .chapter opened.chapter opened.subItems

/-- A table of contents being read. `items` are finished; each open list item, innermost first, has
    its chapter once its link has been seen; `waiting` are the separators that came after the
    outermost open chapter; `numbered` counts the numbered chapters at top level; `heading` is the
    element of the heading that is open. -/
structure Summary where
  items : List Item
  opened : List (Option OpenChapter)
  waiting : List Item
  numbered : Nat
  titleSeen : Bool
  heading : Option String
deriving Repr

namespace Summary

/-- Nothing has been read. -/
def empty : Summary := ⟨[], [], [], 0, false, none⟩

/-- Adds a chapter below the innermost open one, if there is one. -/
def attach? (item : Item) : List (Option OpenChapter) → Option (List (Option OpenChapter))
  | [] => none
  | some parent :: outer =>
    some (some { parent with subItems := parent.subItems ++ [item] } :: outer)
  | none :: outer => (attach? item outer).map (none :: ·)

/-- The innermost open chapter. -/
def parent? (opened : List (Option OpenChapter)) : Option OpenChapter :=
  opened.findSome? id

/-- Adds an item at top level: after the outermost open chapter, if there is one. -/
def append (summary : Summary) (item : Item) : Summary :=
  match parent? summary.opened with
  | none => { summary with items := summary.items ++ [item] }
  | some _ => { summary with waiting := summary.waiting ++ [item] }

/-- Closes a list item. Its chapter goes below the chapter around it, or to the top level. -/
def closeItem (summary : Summary) : Except SummaryFault Summary :=
  match summary.opened with
  | [] => .error .unopenedItem
  | none :: outer => .ok { summary with opened := outer }
  | some chapter :: outer =>
    match attach? chapter.close outer with
    | some outer' => .ok { summary with opened := outer' }
    | none => .ok { summary with
        opened := outer, items := summary.items ++ chapter.close :: summary.waiting, waiting := [] }

/-- Opens the chapter of the innermost list item, numbered after its siblings. -/
def openChapter (summary : Summary) (outer : List (Option OpenChapter)) (chapter : Chapter) :
    Summary :=
  match parent? outer with
  | some parent =>
    let number := parent.chapter.number.getD [] ++ [(parent.subItems.length : Int) + 1]
    { summary with opened := some ⟨{ chapter with number := some number }, []⟩ :: outer }
  | none =>
    let number := summary.numbered + 1
    { summary with
      opened := some ⟨{ chapter with number := some [(number : Int)] }, []⟩ :: outer
      numbered := number }

/-- Takes in a chapter. Only the first link of a list item counts. -/
def addChapter (summary : Summary) (chapter : Chapter) : Summary :=
  match summary.opened with
  | [] => summary.append (.chapter chapter [])
  | some _ :: _ => summary
  | none :: outer => summary.openChapter outer chapter

/-- Takes in the text of a heading. -/
def addHeading (summary : Summary) (element : String) (title : String) : Summary :=
  if element ≠ "h1" ∨ !summary.opened.isEmpty then summary
  else if summary.items.isEmpty ∧ ¬ summary.titleSeen then { summary with titleSeen := true }
  else summary.append (.part title)

/-- Takes in a line of text. -/
def addLine (summary : Summary) (line : List Token) : Summary :=
  match summary.heading with
  | some element => summary.addHeading element (plainText line)
  | none =>
    match firstLink? line with
    | none => summary
    | some chapter => summary.addChapter chapter

/-- Takes in one token. -/
def step (summary : Summary) (token : Token) : Except SummaryFault Summary :=
  match token.kind with
  | "list_item_open" => .ok { summary with opened := none :: summary.opened }
  | "list_item_close" => summary.closeItem
  | "hr" => .ok (summary.append .separator)
  | "heading_open" => .ok { summary with heading := some token.tag }
  | "heading_close" => .ok { summary with heading := none }
  | "inline" => .ok (summary.addLine token.children)
  | _ => .ok summary

/-- The items at top level that open chapters end up in. `below` belongs to the innermost. -/
def closeAll (below : List Item) : List (Option OpenChapter) → List Item
  | [] => below
  | none :: outer => closeAll below outer
  | some opened :: outer => closeAll [.chapter opened.chapter (opened.subItems ++ below)] outer

/-- The items at top level, with everything closed that was left open. -/
def finish (summary : Summary) : List Item :=
  summary.items ++ closeAll [] summary.opened ++ summary.waiting

end Summary

/-- The items of a table of contents. -/
def itemsOfTokens (tokens : List Token) : Except SummaryFault (List Item) :=
  (tokens.foldlM Summary.step Summary.empty).map Summary.finish

end Bindery.Book
