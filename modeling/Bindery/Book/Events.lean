/-
Module: Bindery.Book.Events
Layer: Book
Purpose: The structural events of a book: its root, its title and authors, and its items, with the
  prose of each chapter as a tokenizer gives it and with part boundaries repaired.
Imports: Bindery.Book.Item, Bindery.Book.Parts, Bindery.Stream.Drained, Bindery.Text.Quoted
Main exports: Tokenizer, ForeignItem, configEvents, itemEvents, eventsOfItems, Manuscript.events,
  Manuscript.eventStream
-/
import Bindery.Book.Item
import Bindery.Book.Parts
import Bindery.Stream.Drained
import Bindery.Text.Quoted

namespace Bindery.Book

/-- What turns the text of a chapter into prose events. -/
abbrev Tokenizer := String → List Markdown.Event

/-- An item that is no book item. -/
structure ForeignItem where
  shown : String
deriving DecidableEq, Repr

def ForeignItem.text (fault : ForeignItem) : String :=
  "Unsupported book item: " ++ Text.quoted fault.shown

/-- The title and the authors; an empty title and an empty list have no events. -/
def configEvents (config : Config) : List Event :=
  (match config.title with
    | none => []
    | some title => if title = "" then [] else [.title title]) ++
  if config.authors.isEmpty then []
  else .start .authorList :: config.authors.map Event.author ++ [.finish .authorList]

/-- The container of a chapter. It keeps the last number only. -/
def Chapter.tag (chapter : Chapter) : Tag :=
  .chapter (if chapter.isDraft then .draft else .active) chapter.name
    (chapter.source.map Source.path) (chapter.number.bind List.getLast?)

/-- The prose of a chapter; an empty text has none. -/
def contentEvents (tokenizer : Tokenizer) (content : String) : List Event :=
  if content = "" then []
  else .start (.content .markdown) :: (tokenizer content).map Event.prose ++
    [.finish (.content .markdown)]

def finishPart : Option String → List Event
  | none => []
  | some title => [.finish (.part (some title) none)]

/-- The events of items. A part lasts until the next title among its siblings; the last one is left
    open. `current` is the title of the part that is open. -/
def itemEvents (tokenizer : Tokenizer) (current : Option String) :
    List Item → Except ForeignItem (List Event)
  | [] => .ok []
  | .chapter chapter subItems :: rest =>
    match itemEvents tokenizer none subItems with
    | .error fault => .error fault
    | .ok below =>
      (itemEvents tokenizer current rest).map fun more =>
        .start chapter.tag :: contentEvents tokenizer chapter.content ++ below ++
          .finish chapter.tag :: more
  | .separator :: rest => (itemEvents tokenizer current rest).map (.separator :: ·)
  | .part title :: rest =>
    (itemEvents tokenizer (some title) rest).map fun more =>
      finishPart current ++ .start (.part (some title) none) :: more
  | .foreign shown :: _ => .error ⟨shown⟩

/-- The events of items, with part boundaries repaired. -/
def eventsOfItems (tokenizer : Tokenizer) (items : List Item) :
    Except ForeignItem (List Bindery.Event) :=
  (itemEvents tokenizer none items).map fun events => normalizeParts (events.map .book)

def Manuscript.events (tokenizer : Tokenizer) (book : Manuscript) :
    Except ForeignItem (List Bindery.Event) :=
  (eventsOfItems tokenizer book.items).map fun events =>
    .book (.root book.root) :: (configEvents book.config).map .book ++ events

/-- The events of a whole book as they come: no item is looked at before the root and the configuration
    have been given. -/
def Manuscript.eventStream (tokenizer : Tokenizer) (book : Manuscript) :
    Drained Bindery.Event ForeignItem :=
  let front := .book (.root book.root) :: (configEvents book.config).map .book
  match eventsOfItems tokenizer book.items with
  | .ok events => .done (front ++ events)
  | .error fault => ⟨front, some fault⟩

end Bindery.Book
