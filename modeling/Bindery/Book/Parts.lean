/-
Module: Bindery.Book.Parts
Layer: Book
Purpose: Repair of part boundaries. Titles only sometimes mark where a part begins or ends; missing
  boundaries are added so that the whole sequence lies in parts. Nothing is removed or moved, and
  events of other dialects count as content. The repair is also told from the positions of the
  outermost boundaries, where positions that fit no sequence are a fault.
Imports: Bindery.Event.Basic, Bindery.Stream.Dialect
Main exports: isPartMarker, normalizeParts, Outermost, Outermost.of, PositionFault, repairAt
-/
import Bindery.Event.Basic
import Bindery.Stream.Dialect

namespace Bindery.Book

def startsPart : Bindery.Event → Bool
  | .book event => event.isPartStart
  | _ => false

def finishesPart : Bindery.Event → Bool
  | .book event => event.isPartFinish
  | _ => false

/-- Is the event a boundary of a part? -/
def isPartMarker (event : Bindery.Event) : Bool := startsPart event || finishesPart event

/-- The start of a part without title. -/
def untitledStart : Bindery.Event := .book (.start (.part none none))

/-- The finish of a part without title. -/
def untitledFinish : Bindery.Event := .book (.finish (.part none none))

/-- Opens the first part if a sequence only finishes it. -/
def openFirst (events : List Bindery.Event) : List Bindery.Event :=
  match events.find? isPartMarker with
  | some (.book (.finish tag)) => .book (.start tag) :: events
  | _ => events

/-- Finishes the last part if a sequence only opens it. -/
def closeLast (events : List Bindery.Event) : List Bindery.Event :=
  match events.reverse.find? isPartMarker with
  | some (.book (.start tag)) => events ++ [.book (.finish tag)]
  | _ => events

/-- Puts what comes before the first part into a part of its own. -/
def coverLeading (events : List Bindery.Event) : List Bindery.Event :=
  match events.span fun event => !startsPart event with
  | ([], _) => events
  | (leading, rest) => untitledStart :: leading ++ untitledFinish :: rest

/-- The sequence with the part boundaries that it lacks. -/
def normalizeParts (events : List Bindery.Event) : List Bindery.Event :=
  if !events.any isPartMarker then untitledStart :: events ++ [untitledFinish]
  else if events.any finishesPart then closeLast (openFirst events)
  else closeLast (coverLeading events)

/-! ### By position -/

/-- Where the outermost boundaries of parts stand in a sequence. -/
structure Outermost where
  firstStart : Option Nat
  firstFinish : Option Nat
  lastStart : Option Nat
  lastFinish : Option Nat
deriving DecidableEq, Repr

/-- The position of the last event that passes a test. -/
def lastIdx? (test : Bindery.Event → Bool) (events : List Bindery.Event) : Option Nat :=
  (events.reverse.findIdx? test).map fun behind => events.length - 1 - behind

/-- The outermost boundaries of a sequence, the first ones found from its front and the last ones
    from its back. -/
def Outermost.of (events : List Bindery.Event) : Outermost where
  firstStart := events.findIdx? startsPart
  firstFinish := events.findIdx? finishesPart
  lastStart := lastIdx? startsPart events
  lastFinish := lastIdx? finishesPart events

/-- Positions that no sequence has: a boundary was found from one side only. -/
structure PositionFault where
  found : Outermost
deriving DecidableEq, Repr

/-- The stage that reports such positions. -/
def partsStage : String := "normalize-parts"

/-- What is wrong, and the stage that found it. -/
def PositionFault.text (fault : PositionFault) : String :=
  let position := Debug.optional fun n : Nat => Debug.integer n
  faultText partsStage ("Inconsistent part marker positions " ++
    Debug.record "" [("first_start", position fault.found.firstStart),
      ("first_end", position fault.found.firstFinish), ("last_start", position fault.found.lastStart),
      ("last_end", position fault.found.lastFinish)])

/-- The other end of a container, given one of its ends. -/
def otherEnd : Bindery.Event → Bindery.Event
  | .book (.start tag) => .book (.finish tag)
  | .book (.finish tag) => .book (.start tag)
  | event => event

def otherEndAt (position : Nat) (events : List Bindery.Event) : List Bindery.Event :=
  (events[position]?.map otherEnd).toList

/-- Adds the boundaries that a sequence lacks if its outermost boundaries stand where they are said
    to stand. -/
def repairAt (found : Outermost) (events : List Bindery.Event) :
    Except PositionFault (List Bindery.Event) :=
  match found with
  | ⟨none, none, _, _⟩ => .ok (untitledStart :: events ++ [untitledFinish])
  | ⟨none, some firstFinish, none, some _⟩ => .ok (otherEndAt firstFinish events ++ events)
  | ⟨some firstStart, none, some lastStart, none⟩ =>
    if firstStart = 0 then .ok (events ++ otherEndAt lastStart events)
    else .ok (untitledStart :: events.take firstStart ++ untitledFinish :: events.drop firstStart ++
      otherEndAt lastStart events)
  | ⟨some firstStart, some firstFinish, some lastStart, some lastFinish⟩ =>
    let opening := if firstFinish < firstStart then otherEndAt firstFinish events else []
    let closing := if lastFinish < lastStart then otherEndAt lastStart events else []
    .ok (opening ++ events ++ closing)
  | inconsistent => .error ⟨inconsistent⟩

end Bindery.Book
