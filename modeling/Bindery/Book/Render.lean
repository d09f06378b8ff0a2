/-
Module: Bindery.Book.Render
Layer: Book
Purpose: From texts to a document: the items of a summary, and the markup of a whole book, at once or in
  fragments as they come. What reads the summary and the prose is given from outside.
Imports: Bindery.Book.Events, Bindery.Book.Summary, Bindery.Convert.Pipeline, Bindery.Markup.Render,
  Bindery.Prose.OfText
Main exports: parseSummary, RenderBookFault, renderBook, markupFragments
-/
import Bindery.Book.Events
import Bindery.Book.Summary
import Bindery.Convert.Pipeline
import Bindery.Markup.Render
import Bindery.Prose.OfText

namespace Bindery.Book

/-- The items of a table of contents. -/
def parseSummary (parser : Prose.Parser) (text : String) : Except SummaryFault (List Item) :=
  itemsOfTokens (parser text)

/-- Why a book has no markup. -/
inductive RenderBookFault where
  | item (fault : ForeignItem)
  | event (fault : Markup.RenderFault)
deriving DecidableEq, Repr

/-- The markup of a book. -/
def renderBook (tokenizer : Tokenizer) (settings : Convert.Settings) (book : Manuscript) :
    Except RenderBookFault String :=
  match book.events tokenizer with
  | .error fault => .error (.item fault)
  | .ok events =>
    (Markup.markup (Convert.convertToTypst settings events)).mapError .event

/-- The markup of a book in fragments as they come, one an event. -/
def markupFragments (tokenizer : Tokenizer) (settings : Convert.Settings) (book : Manuscript) :
    Drained String RenderBookFault :=
  let source := book.eventStream tokenizer
  let rendered := Markup.fragments (Convert.convertToTypst settings source.items)
  ⟨rendered.items, (rendered.fault.map .event).or (source.fault.map .item)⟩

end Bindery.Book
