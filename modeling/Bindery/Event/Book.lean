/-
Module: Bindery.Event.Book
Layer: Event
Purpose: The structural dialect of a book: parts, chapters, authors, and prose embedded in a
  chapter. As in the prose dialect, `start` and `finish` bracket a container with equal tags.
Imports: Bindery.Path, Bindery.Event.Markdown
Main exports: ChapterStatus, ContentKind, Source, Tag, Event, Event.isPartStart, Event.isPartFinish
-/
import Bindery.Path
import Bindery.Event.Markdown

namespace Bindery.Book

/-- Whether a chapter has a text of its own. -/
inductive ChapterStatus where
  | active
  | draft
deriving DecidableEq, Repr, Inhabited

/-- The formats a chapter's content can be written in. -/
inductive ContentKind where
  | markdown
deriving DecidableEq, Repr, Inhabited

/-- Where the text of a chapter comes from. -/
inductive Source where
  | url (url : String)
  | path (path : Path)
deriving DecidableEq, Repr, Inhabited

/-- Containers. A part groups chapters, a chapter may hold further chapters, `content` holds the
    prose of the chapter around it, and an author list holds only authors. -/
inductive Tag where
  | part (title : Option String) (number : Option Int)
  | chapter (status : ChapterStatus) (name : String) (source : Option Source) (number : Option Int)
  | content (kind : ContentKind)
  | authorList
deriving DecidableEq, Repr, Inhabited

/-- One step of a book. `prose` embeds one event of the prose dialect. -/
inductive Event where
  | start (tag : Tag)
  | finish (tag : Tag)
  | root (path : Path)
  | title (text : String)
  | author (name : String)
  | separator
  | prose (event : Markdown.Event)
deriving DecidableEq, Repr, Inhabited

def Event.isPartStart : Event → Bool
  | .start (.part _ _) => true
  | _ => false

def Event.isPartFinish : Event → Bool
  | .finish (.part _ _) => true
  | _ => false

end Bindery.Book
