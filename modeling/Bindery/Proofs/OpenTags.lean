/-
Module: Bindery.Proofs.OpenTags
Layer: Proofs
Purpose: Which containers are open. In a balanced stream every event leads from open containers to open
  containers, and closes at most the innermost of them. So what is balanced by itself leaves open what is
  around it, and can be left out; every container that is open is closed later, behind a balanced piece, and
  was opened earlier, before one.
Imports: Bindery.Stream.Balance
Main exports: tagsAfter, openTags, Fits, balanced_cons_iff, balanced_append, foldl_tagsAfter_append,
  foldl_tagsAfter_of_balanced, fault_balancedFrom_append, exists_closing, LeavesOpen, LeavesOpen.step
-/
import Bindery.Stream.Balance

namespace Bindery

/-- The tags of the open containers after an event, innermost first. -/
def tagsAfter (stack : List Tag) (event : Event) : List Tag :=
  match event.bracket with
  | .opening tag => tag :: stack
  | .closing _ => stack.tail
  | .leaf => stack

/-- The tags of the containers that a stream leaves open, innermost first. -/
def openTags (events : List Event) : List Tag := events.foldl tagsAfter []

/-- May an event stand where the containers `stack` are open: is what it closes the innermost of them? -/
def Fits (stack : List Tag) (event : Event) : Prop :=
  ∀ tag, event.bracket = .closing tag → stack.head? = some tag

/-- A stream is balanced if its first event fits and the others are balanced after it. -/
theorem balanced_cons_iff {stack : List Tag} {event : Event} {rest : List Event} :
    (balancedFrom stack (event :: rest)).fault = none ↔
      Fits stack event ∧ (balancedFrom (tagsAfter stack event) rest).fault = none := by
  rw [balancedFrom, Fits, tagsAfter]
  cases event.bracket with
  | leaf => simp [Drained.cons]
  | opening tag => simp [Drained.cons]
  | closing tag =>
      cases stack with
      | nil => simp [Drained.failed]
      | cons top below =>
          by_cases same : top = tag
          · simp [same, Drained.cons]
          · simp [same, Drained.failed]

theorem balanced_append {stack : List Tag} {first second : List Event}
    (balanced : (balancedFrom stack (first ++ second)).fault = none) :
    (balancedFrom (first.foldl tagsAfter stack) second).fault = none := by
  induction first generalizing stack with
  | nil => exact balanced
  | cons event first ih => exact ih (balanced_cons_iff.mp balanced).2

/-- What is open further out does not matter to an event that fits what is open further in. -/
theorem tagsAfter_append {inner : List Tag} {event : Event} (fits : Fits inner event) (around : List Tag) :
    tagsAfter (inner ++ around) event = tagsAfter inner event ++ around := by
  unfold tagsAfter
  cases bracket : event.bracket with
  | leaf => rfl
  | opening tag => rfl
  | closing tag =>
      cases inner with
      | nil => cases fits tag bracket
      | cons top below => rfl

/-- What is open further out stays open under a piece of what closes the containers `inner`. -/
theorem foldl_tagsAfter_append {inner : List Tag} {first second : List Event} (around : List Tag)
    (balanced : (balancedFrom inner (first ++ second)).fault = none) :
    first.foldl tagsAfter (inner ++ around) = first.foldl tagsAfter inner ++ around := by
  induction first generalizing inner with
  | nil => rfl
  | cons event rest ih =>
      obtain ⟨fits, balancedRest⟩ := balanced_cons_iff.mp balanced
      rw [List.foldl_cons, List.foldl_cons, tagsAfter_append fits]
      exact ih balancedRest

/-- A piece that closes the containers `inner` leaves what is around them open. -/
theorem foldl_tagsAfter_of_balanced {inner : List Tag} {piece : List Event} (around : List Tag)
    (balanced : (balancedFrom inner piece).fault = none) :
    piece.foldl tagsAfter (inner ++ around) = around := by
  rw [← List.append_nil piece] at balanced
  have closed := balanced_append balanced
  rw [foldl_tagsAfter_append around balanced]
  cases left : piece.foldl tagsAfter inner with
  | nil => rfl
  | cons tag below =>
      rw [left] at closed
      cases closed

/-- What closes all containers of a piece of the stack can be left out of a stream. -/
theorem fault_balancedFrom_append {inner : List Tag} (outer : List Tag) {first : List Event}
    (rest : List Event) (closed : (balancedFrom inner first).fault = none) :
    (balancedFrom (inner ++ outer) (first ++ rest)).fault = (balancedFrom outer rest).fault := by
  induction first generalizing inner with
  | nil =>
      cases inner with
      | nil => rfl
      | cons tag below => cases closed
  | cons event first ih =>
      rw [List.cons_append, balancedFrom]
      rw [balancedFrom] at closed
      cases bracket : event.bracket with
      | leaf =>
          rw [bracket] at closed
          exact ih closed
      | opening tag =>
          rw [bracket] at closed
          exact ih closed
      | closing tag =>
          rw [bracket] at closed
          cases inner with
          | nil => cases closed
          | cons top below =>
              by_cases same : top = tag
              · simp only [same, if_true] at closed
                simpa [same, Drained.cons] using ih closed
              · simp [same, Drained.failed] at closed

/-- A balanced piece can be left out of a stream. -/
theorem fault_balancedFrom_balanced (stack : List Tag) {piece : List Event}
    (balanced : balanceFault? piece = none) (rest : List Event) :
    (balancedFrom stack (piece ++ rest)).fault = (balancedFrom stack rest).fault :=
  fault_balancedFrom_append stack rest balanced

/-- An open container is closed later, and what stands before its finish is balanced. -/
theorem exists_closing {inner around : List Tag} {tag : Tag} {events : List Event}
    (balanced : (balancedFrom (inner ++ tag :: around) events).fault = none) :
    ∃ inside closing behind, events = inside ++ closing :: behind ∧ closing.bracket = .closing tag ∧
      (balancedFrom inner inside).fault = none := by
  induction events generalizing inner with
  | nil => cases inner <;> cases balanced
  | cons event rest ih =>
      obtain ⟨fits, balancedRest⟩ := balanced_cons_iff.mp balanced
      by_cases closes : inner = [] ∧ ∃ tag, event.bracket = .closing tag
      · obtain ⟨rfl, closed, bracket⟩ := closes
        obtain rfl : tag = closed := Option.some.inj (fits closed bracket)
        exact ⟨[], event, rest, rfl, bracket, rfl⟩
      · have fitsInner : Fits inner event := by
          intro closed bracket
          cases inner with
          | nil => exact absurd ⟨rfl, closed, bracket⟩ closes
          | cons top below => exact fits closed bracket
        rw [tagsAfter_append fitsInner] at balancedRest
        obtain ⟨inside, closing, behind, rfl, bracket, balancedInside⟩ := ih balancedRest
        exact ⟨event :: inside, closing, behind, rfl, bracket,
          balanced_cons_iff.mpr ⟨fitsInner, balancedInside⟩⟩

/-! ### Where containers were opened -/

/-- A stream that leaves the containers `stack` open: behind the start of each, all that was opened later
    is closed, but for the containers further in. -/
inductive LeavesOpen : List Tag → List Event → Prop where
  | closed {piece : List Event} (balanced : balanceFault? piece = none) : LeavesOpen [] piece
  | opened {stack : List Tag} {tag : Tag} {before inside : List Event} {opening : Event}
      (leaves : LeavesOpen stack before) (opens : opening.bracket = .opening tag)
      (balanced : balanceFault? inside = none) : LeavesOpen (tag :: stack) (before ++ opening :: inside)

theorem balanced_append_balanced {first second : List Event} (balancedFirst : balanceFault? first = none)
    (balancedSecond : balanceFault? second = none) : balanceFault? (first ++ second) = none :=
  (fault_balancedFrom_balanced [] balancedFirst second).trans balancedSecond

/-- A balanced piece leaves open what is open. -/
theorem LeavesOpen.append {stack : List Tag} {events piece : List Event} (leaves : LeavesOpen stack events)
    (balanced : balanceFault? piece = none) : LeavesOpen stack (events ++ piece) := by
  cases leaves with
  | closed balancedBefore => exact .closed (balanced_append_balanced balancedBefore balanced)
  | opened leaves opens balancedInside =>
      rw [List.append_assoc]
      exact .opened leaves opens (balanced_append_balanced balancedInside balanced)

/-- An event that fits leads to the containers that are open after it. -/
theorem LeavesOpen.step {stack : List Tag} {events : List Event} {event : Event}
    (leaves : LeavesOpen stack events) (fits : Fits stack event) :
    LeavesOpen (tagsAfter stack event) (events ++ [event]) := by
  unfold tagsAfter
  cases bracket : event.bracket with
  | leaf =>
      apply leaves.append
      simp [balanceFault?, ensureBalanced, balancedFrom, bracket, Drained.cons, Drained.done]
  | opening tag => exact .opened leaves bracket rfl
  | closing tag =>
      have innermost := fits tag bracket
      cases leaves with
      | closed => cases innermost
      | opened leaves opens balancedInside =>
          cases innermost
          -- The container that is closed has become a balanced piece.
          rw [List.append_assoc]
          apply leaves.append
          have closes : (balancedFrom [tag] [event]).fault = none := by
            simp [balancedFrom, bracket, Drained.cons, Drained.done]
          rw [balanceFault?, ensureBalanced, List.cons_append, balancedFrom, opens]
          exact (fault_balancedFrom_balanced [tag] balancedInside [event]).trans closes

end Bindery
