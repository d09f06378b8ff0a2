/-
Module: Bindery.Stream.Balance
Layer: Stream
Purpose: The nesting check. A stream is balanced when every finish closes the innermost open
  container with an equal tag and nothing is left open. Embedded prose takes part.
Imports: Bindery.Stream.Dialect
Main exports: BalanceFault, BalanceFault.message, ensureBalanced, balanceFault?
-/
import Bindery.Stream.Dialect

namespace Bindery

/-- How nesting can be broken. -/
inductive BalanceFault where
  | unmatched (found : Tag)
  | mismatched (found expected : Tag)
  | unclosed (tags : List Tag)
deriving DecidableEq, Repr

namespace BalanceFault

/-- What is wrong. -/
def message : BalanceFault → String
  | .unmatched found =>
    "End without matching Start: " ++ Debug.record "End" [("tag", found.debug)]
  | .mismatched found expected =>
    "End tag " ++ found.debug ++ " does not match open tag " ++ expected.debug
  | .unclosed tags => "Unclosed tags at end of stream: " ++ Debug.list (tags.map Tag.debug)

/-- What is wrong, and the stage that found it. -/
def text (stage : String) (fault : BalanceFault) : String := faultText stage fault.message

end BalanceFault

/-- Passes a stream through while the containers in `stack`, innermost first, are open. -/
def balancedFrom (stack : List Tag) : List Event → Drained Event BalanceFault
  | [] => match stack with
    | [] => .done []
    | _ :: _ => .failed (.unclosed stack.reverse)
  | event :: rest =>
    match event.bracket with
    | .leaf => (balancedFrom stack rest).cons event
    | .opening tag => (balancedFrom (tag :: stack) rest).cons event
    | .closing tag =>
      match stack with
      | [] => .failed (.unmatched tag)
      | top :: below =>
        if top = tag then (balancedFrom below rest).cons event
        else .failed (.mismatched tag top)

/-- Passes a stream through and fails where its nesting breaks, at the latest at its end. -/
def ensureBalanced (events : List Event) : Drained Event BalanceFault := balancedFrom [] events

/-- The stage that a nesting check reports when none is named. -/
def balanceStage : String := "balance"

/-- The first break in the nesting of a complete stream. -/
def balanceFault? (events : List Event) : Option BalanceFault := (ensureBalanced events).fault

end Bindery
