/-
Module: Bindery.Proofs.NestingGrammar
Layer: Proofs
Purpose: The nesting check against a grammar. A stream is derivable if it is empty, a leaf before a derivable
  stream, or a container around a derivable stream before another one. The check passes exactly the derivable
  streams. It fails at the first finish that no derivable stream can continue with, and where every event can
  be continued but containers are left open, at the end.
Imports: Bindery.Proofs.OpenTags
Main exports: Derivable, Extendable, AllFit, balanced_iff_allFit, allFit_append, balancedFrom_append,
  allFit_or_split, closingFault, balancedFrom_of_not_fits, derivable_iff_balanced, extendable_iff_allFit,
  ensureBalanced_of_allFit, ensureBalanced_of_misfit, ensureBalanced_grammar
-/
import Bindery.Proofs.OpenTags

namespace Bindery

/-! ### The grammar -/

/-- The grammar S → empty | leaf S | start(t) S finish(t) S. An event stands in it for its bracket: embedded
    prose for the event that it holds, and a tag together with its dialect. -/
inductive Derivable : List Event → Prop where
  | empty : Derivable []
  | leaf {event : Event} {rest : List Event} (isLeaf : event.bracket = .leaf) (more : Derivable rest) :
      Derivable (event :: rest)
  | container {tag : Tag} {opening closing : Event} {inside rest : List Event}
      (opens : opening.bracket = .opening tag) (closes : closing.bracket = .closing tag)
      (inner : Derivable inside) (more : Derivable rest) :
      Derivable (opening :: inside ++ closing :: rest)

/-- Is there a derivable stream that begins like this? -/
def Extendable (events : List Event) : Prop := ∃ more, Derivable (events ++ more)

theorem Extendable.of_append {front after : List Event} (extendable : Extendable (front ++ after)) :
    Extendable front := by
  obtain ⟨more, derivable⟩ := extendable
  rw [List.append_assoc] at derivable
  exact ⟨after ++ more, derivable⟩

/-! ### What the check passes -/

/-- Does every event fit where the containers `stack` and what the events before it opened are open? -/
def AllFit (stack : List Tag) : List Event → Prop
  | [] => True
  | event :: rest => Fits stack event ∧ AllFit (tagsAfter stack event) rest

theorem allFit_append {stack : List Tag} {front after : List Event} :
    AllFit stack (front ++ after) ↔ AllFit stack front ∧ AllFit (front.foldl tagsAfter stack) after := by
  induction front generalizing stack with
  | nil => exact (and_iff_right trivial).symm
  | cons event front ih => rw [List.cons_append, AllFit, AllFit, ih, and_assoc, List.foldl_cons]

/-- A stream is balanced if every event fits and nothing is left open. -/
theorem balanced_iff_allFit {stack : List Tag} {events : List Event} :
    (balancedFrom stack events).fault = none ↔
      AllFit stack events ∧ events.foldl tagsAfter stack = [] := by
  induction events generalizing stack with
  | nil => cases stack <;> simp [balancedFrom, AllFit, Drained.done, Drained.failed]
  | cons event rest ih => rw [balanced_cons_iff, ih, AllFit, and_assoc, List.foldl_cons]

/-- An event that fits is passed. -/
theorem balancedFrom_cons {stack : List Tag} {event : Event} (fits : Fits stack event) (rest : List Event) :
    balancedFrom stack (event :: rest) = (balancedFrom (tagsAfter stack event) rest).cons event := by
  rw [balancedFrom, tagsAfter]
  cases bracket : event.bracket with
  | leaf => rfl
  | opening tag => rfl
  | closing tag =>
      cases stack with
      | nil => cases fits tag bracket
      | cons top below =>
          cases fits tag bracket
          simp

/-- The events that fit are passed, and the check goes on behind them. -/
theorem balancedFrom_append {stack : List Tag} {front : List Event} (fit : AllFit stack front)
    (after : List Event) :
    balancedFrom stack (front ++ after) =
      (balancedFrom (front.foldl tagsAfter stack) after).prepend front := by
  induction front generalizing stack with
  | nil => rfl
  | cons event front ih =>
      rw [List.cons_append, balancedFrom_cons fit.1, ih fit.2]
      rfl

/-- The fault of a finish that does not fit: nothing is open, or another container is innermost. -/
def closingFault (stack : List Tag) (tag : Tag) : BalanceFault :=
  match stack with
  | [] => .unmatched tag
  | top :: _ => .mismatched tag top

/-- An event that does not fit is a finish, and is not passed. -/
theorem balancedFrom_of_not_fits {stack : List Tag} {event : Event} (misfit : ¬ Fits stack event) :
    ∃ tag, event.bracket = .closing tag ∧
      ∀ rest, balancedFrom stack (event :: rest) = .failed (closingFault stack tag) := by
  obtain ⟨tag, misplaced⟩ := Classical.not_forall.mp misfit
  obtain ⟨closes, notInnermost⟩ := Classical.not_imp.mp misplaced
  refine ⟨tag, closes, fun rest => ?_⟩
  rw [balancedFrom, closes]
  cases stack with
  | nil => rfl
  | cons top below =>
      have other : top ≠ tag := fun same => notInnermost (congrArg some same)
      simp [other, closingFault]

/-- Either all events fit, or there is a first one that does not. -/
theorem allFit_or_split (stack : List Tag) (events : List Event) :
    AllFit stack events ∨ ∃ front event after, events = front ++ event :: after ∧ AllFit stack front ∧
      ¬ Fits (front.foldl tagsAfter stack) event := by
  induction events generalizing stack with
  | nil => exact .inl trivial
  | cons event rest ih =>
      by_cases fits : Fits stack event
      · rcases ih (tagsAfter stack event) with fit | ⟨front, misfit, after, rfl, fit, notFits⟩
        · exact .inl ⟨fits, fit⟩
        · exact .inr ⟨event :: front, misfit, after, rfl, ⟨fits, fit⟩, notFits⟩
      · exact .inr ⟨[], event, rest, rfl, trivial, fits⟩

/-! ### The check and the grammar -/

/-- What the grammar derives is balanced. -/
theorem balanced_of_derivable {events : List Event} (derivable : Derivable events) :
    balanceFault? events = none := by
  induction derivable with
  | empty => rfl
  | leaf isLeaf more balancedRest =>
      rw [balanceFault?, ensureBalanced, balancedFrom, isLeaf]
      exact balancedRest
  | @container tag opening closing inside rest opens closes inner more balancedInside balancedRest =>
      rw [balanceFault?, ensureBalanced, List.cons_append, balancedFrom, opens]
      refine (fault_balancedFrom_balanced [tag] balancedInside (closing :: rest)).trans ?_
      have fits : Fits [tag] closing := by
        intro closed isClosed
        rw [closes] at isClosed
        cases isClosed
        rfl
      rw [balancedFrom_cons fits, tagsAfter, closes]
      exact balancedRest

/-- What is balanced has a derivation: a container is cut at the finish that closes it. -/
theorem derivable_of_balanced : ∀ (events : List Event), balanceFault? events = none → Derivable events
  | [] => fun _ => .empty
  | event :: rest => by
      intro balanced
      obtain ⟨fits, balancedRest⟩ := balanced_cons_iff.mp balanced
      cases bracket : event.bracket with
      | leaf =>
          rw [tagsAfter, bracket] at balancedRest
          exact .leaf bracket (derivable_of_balanced rest balancedRest)
      | opening tag =>
          simp only [tagsAfter, bracket] at balancedRest
          obtain ⟨inside, closing, behind, rfl, closes, balancedInside⟩ :=
            @exists_closing [] [] tag rest balancedRest
          have balancedBehind : balanceFault? behind = none := by
            have stillOpen : inside.foldl tagsAfter [tag] = [tag] :=
              foldl_tagsAfter_of_balanced [tag] balancedInside
            have fromClosing := balanced_append balancedRest
            rw [stillOpen] at fromClosing
            have fromBehind := (balanced_cons_iff.mp fromClosing).2
            rwa [tagsAfter, closes] at fromBehind
          exact .container bracket closes (derivable_of_balanced inside balancedInside)
            (derivable_of_balanced behind balancedBehind)
      | closing tag => cases fits tag bracket
termination_by events => events.length
decreasing_by all_goals grind

theorem derivable_iff_balanced {events : List Event} :
    Derivable events ↔ balanceFault? events = none :=
  ⟨balanced_of_derivable, derivable_of_balanced events⟩

/-- Whether a stream is derivable can be computed, by the check. -/
instance (events : List Event) : Decidable (Derivable events) :=
  decidable_of_iff (balanceFault? events = none) derivable_iff_balanced.symm

/-- The finish of a container. -/
def finishOf : Tag → Event
  | .book tag => .book (.finish tag)
  | .markdown tag => .markdown (.finish tag)
  | .typst tag => .typst (.finish tag)

theorem bracket_finishOf (tag : Tag) : (finishOf tag).bracket = .closing tag := by
  cases tag <;> rfl

/-- Open containers are closed by their finishes, innermost first. -/
theorem balanced_map_finishOf (stack : List Tag) :
    (balancedFrom stack (stack.map finishOf)).fault = none := by
  induction stack with
  | nil => rfl
  | cons tag below ih =>
      rw [List.map_cons, balancedFrom, bracket_finishOf]
      simpa [Drained.cons] using ih

/-- A stream can be continued to a derivable one exactly if all its events fit. -/
theorem extendable_iff_allFit {events : List Event} : Extendable events ↔ AllFit [] events := by
  constructor
  · rintro ⟨more, derivable⟩
    have fit := (balanced_iff_allFit.mp (balanced_of_derivable derivable)).1
    exact (allFit_append.mp fit).1
  · intro fit
    refine ⟨(openTags events).map finishOf, derivable_of_balanced _ ?_⟩
    have closed := balanced_iff_allFit.mp (balanced_map_finishOf (openTags events))
    refine balanced_iff_allFit.mpr ⟨allFit_append.mpr ⟨fit, closed.1⟩, ?_⟩
    rw [List.foldl_append]
    exact closed.2

/-! ### How the check ends -/

/-- A stream whose events all fit is passed as a whole. The check fails at its end if something is open. -/
theorem ensureBalanced_of_allFit {events : List Event} (fit : AllFit [] events) :
    ensureBalanced events = ⟨events, (balancedFrom (openTags events) []).fault⟩ := by
  have passed := balancedFrom_append fit []
  rw [List.append_nil] at passed
  rw [ensureBalanced, passed, ← openTags, Drained.prepend]
  cases openTags events <;> simp [balancedFrom, Drained.done, Drained.failed]

/-- The check fails at the first event that does not fit. -/
theorem ensureBalanced_of_misfit {front : List Event} {event : Event} (fit : AllFit [] front)
    (misfit : ¬ Fits (openTags front) event) (after : List Event) :
    ∃ tag, event.bracket = .closing tag ∧
      ensureBalanced (front ++ event :: after) =
        ⟨front, some (closingFault (openTags front) tag)⟩ := by
  obtain ⟨tag, closes, fails⟩ := balancedFrom_of_not_fits misfit
  refine ⟨tag, closes, ?_⟩
  rw [ensureBalanced, balancedFrom_append fit, ← openTags, fails]
  simp [Drained.prepend, Drained.failed]

/-- The nesting check succeeds exactly on the derivable streams, and passes these unchanged. Of any other
    stream it gives what comes before the first finish that no derivable stream can continue with, and fails
    there; or if every beginning of the stream is one of a derivable stream, it gives the whole stream and
    fails at the end. -/
theorem ensureBalanced_grammar (events : List Event) :
    ((ensureBalanced events).fault = none ↔ Derivable events) ∧
      ((Derivable events ∧ ensureBalanced events = .done events) ∨
        (∃ front closing after tag, events = front ++ closing :: after ∧ closing.bracket = .closing tag ∧
          Extendable front ∧ ¬ Extendable (front ++ [closing]) ∧
          ensureBalanced events = ⟨front, some (closingFault (openTags front) tag)⟩) ∨
        (∀ front after, events = front ++ after → Extendable front) ∧
          ensureBalanced events = ⟨events, some (.unclosed (openTags events).reverse)⟩) := by
  refine ⟨derivable_iff_balanced.symm, ?_⟩
  rcases allFit_or_split [] events with fit | ⟨front, closing, after, rfl, fit, misfit⟩
  · have passed := ensureBalanced_of_allFit fit
    cases opened : openTags events with
    | nil =>
        rw [opened] at passed
        exact .inl ⟨derivable_iff_balanced.mpr (balanced_iff_allFit.mpr ⟨fit, opened⟩), passed⟩
    | cons tag below =>
        rw [opened] at passed
        refine .inr (.inr ⟨?_, passed⟩)
        rintro front after rfl
        exact (extendable_iff_allFit.mpr fit).of_append
  · obtain ⟨tag, closes, failed⟩ := ensureBalanced_of_misfit fit misfit after
    refine .inr (.inl ⟨front, closing, after, tag, rfl, closes, extendable_iff_allFit.mpr fit, ?_, failed⟩)
    rw [extendable_iff_allFit, allFit_append]
    exact fun fits => misfit fits.2.1

/-- An embedded start and a bare finish belong together; tags of two dialects never do. -/
example : Derivable [.book (.prose (.start .strong)), .markdown (.finish .strong)] ∧
    ¬ Derivable [.markdown (.start .strong), .typst (.finish .strong)] := by
  decide

end Bindery
