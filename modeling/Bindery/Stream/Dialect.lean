/-
Module: Bindery.Stream.Dialect
Layer: Stream
Purpose: Guards and filters on the dialect of events. A guard lets the events of one dialect pass
  and fails at the first event of another; a filter drops the others.
Imports: Bindery.Event.Debug, Bindery.Stream.Drained
Main exports: DialectFault, DialectFault.text, assertDialect, filterDialect
-/
import Bindery.Event.Debug
import Bindery.Stream.Drained

namespace Bindery

/-- The text of a broken invariant, with the stage that found it. -/
def faultText (stage message : String) : String := message ++ " (stage=" ++ stage ++ ")"

/-- An event that is not of the expected dialect. -/
structure DialectFault where
  expected : Dialect
  event : Event
deriving DecidableEq, Repr

namespace DialectFault

/-- What is wrong. -/
def message (fault : DialectFault) : String :=
  let found := match fault.event.dialect with
    | some dialect => dialect.name
    | none => "foreign"
  "Unexpected " ++ found ++ " event: " ++ fault.event.debug

/-- What is wrong, and the guard that found it. -/
def text (fault : DialectFault) : String :=
  faultText ("assert-" ++ fault.expected.name) fault.message

end DialectFault

/-- Passes the events of one dialect and fails at the first other event. -/
def assertDialect (dialect : Dialect) : List Event → Drained Event DialectFault
  | [] => .done []
  | event :: rest =>
    if event.dialect = some dialect then (assertDialect dialect rest).cons event
    else .failed ⟨dialect, event⟩

/-- Only the events of one dialect. -/
def filterDialect (dialect : Dialect) (events : List Event) : List Event :=
  events.filter fun event => event.dialect = some dialect

end Bindery
