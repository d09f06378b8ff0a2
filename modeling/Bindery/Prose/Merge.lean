/-
Module: Bindery.Prose.Merge
Layer: Prose
Purpose: Runs of adjacent texts become one text. A stream that fails loses the run that it was in.
Imports: Bindery.Event.Markdown, Bindery.Stream.Drained
Main exports: mergeText, mergeDrained
-/
import Bindery.Event.Markdown
import Bindery.Stream.Drained

namespace Bindery.Prose

open Markdown (Event)

/-- The text event of a run, if there was one. -/
def flush : Option String → List Event
  | none => []
  | some run => [.text run]

/-- Joins runs of texts, the first of which continues `run`. -/
def mergeFrom (run : Option String) : List Event → List Event
  | [] => flush run
  | .text body :: rest => mergeFrom (some (run.getD "" ++ body)) rest
  | event :: rest => flush run ++ event :: mergeFrom none rest

/-- Joins every run of adjacent texts into one text. -/
def mergeText (events : List Event) : List Event := mergeFrom none events

def isText : Event → Bool
  | .text _ => true
  | _ => false

/-- The events without the run of texts at their end. -/
def dropLastRun (events : List Event) : List Event := (events.reverse.dropWhile isText).reverse

/-- Joins the runs of a stream that may fail. The run before the failure is lost. -/
def mergeDrained {ε : Type} (drained : Drained Event ε) : Drained Event ε :=
  match drained.fault with
  | none => .done (mergeText drained.items)
  | some fault => ⟨mergeText (dropLastRun drained.items), some fault⟩

end Bindery.Prose
