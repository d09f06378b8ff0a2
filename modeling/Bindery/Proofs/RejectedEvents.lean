/-
Module: Bindery.Proofs.RejectedEvents
Layer: Proofs
Purpose: What the renderer rejects. There are five ways for an event of the target to be out of place, given
  the containers that are open, and the renderer fails at the first such event, with the fault that belongs to
  it, and nowhere else. Of these faults two are breaks of nesting; in streams that have no others, the renderer
  and the nesting check give way at the same event.
Imports: Bindery.Proofs.NestingGrammar, Bindery.Proofs.RendererPlaces
Main exports: Rejected, Accepted, rejected_of_step, step_of_rejected, accepted_of_renders,
  renders_or_rejected, fragments_of_rejected, numbers_ne_nil, allFit_of_renders, brokenNesting?,
  ensureBalanced_of_renders, ensureBalanced_of_rejected, fragments_until_rejected
-/
import Bindery.Proofs.NestingGrammar
import Bindery.Proofs.RendererPlaces

namespace Bindery.Markup

/-- Why an event cannot be rendered where the containers `stack`, innermost first, are open: it is a finish
    while nothing or another container is innermost, an item that does not stand directly in a list, or the
    start of a show rule without the data that its kind needs. -/
inductive Rejected (stack : List Tag) : Typst.Event → RenderFault → Prop where
  | unmatched (tag : Typst.Tag) (nothingOpen : stack = []) : Rejected stack (.finish tag) (.unmatched tag)
  | mismatched {tag top : Typst.Tag} (innermost : stack.head? = some (.typst top)) (other : top ≠ tag) :
      Rejected stack (.finish tag) (.mismatched tag top)
  | itemOutsideList {enclosing : Option Typst.Tag} (innermost : stack.head? = enclosing.map .typst)
      (noList : ∀ tag, enclosing = some tag → isList tag = false) :
      Rejected stack (.start .item) (.itemOutsideList enclosing)
  | showWithoutRule (selector : String) (function : Option String) :
      Rejected stack (.start (.showRule .showSet selector none function))
        (.showWithoutRule (.showRule .showSet selector none function))
  | showWithoutFunction (selector : String) (rule : Option (String × String × String)) :
      Rejected stack (.start (.showRule .function selector rule none))
        (.showWithoutFunction (.showRule .function selector rule none))

/-- Is no event of the stream rejected where it stands? -/
def Accepted (events : List Typst.Event) : Prop :=
  ∀ front event after fault, events = front ++ event :: after →
    ¬ Rejected (openTags (front.map .typst)) event fault

def RenderFault.isNesting : RenderFault → Bool
  | .unmatched _ => true
  | .mismatched _ _ => true
  | _ => false

theorem isInvariant_of_rejected {stack : List Tag} {event : Typst.Event} {fault : RenderFault}
    (rejected : Rejected stack event fault) : fault.isInvariant = true := by
  cases rejected <;> rfl

section Steps

variable {state : Renderer} {tag : Typst.Tag} {event : Typst.Event} {fault : RenderFault}

/-! ### One event -/

/-- An item without a marker does not stand directly in a list. -/
theorem rejected_of_itemMarker (failed : state.itemMarker = .error fault) :
    Rejected (state.opened.map .typst) (.start .item) fault := by
  unfold Renderer.itemMarker at failed
  split at failed
  · cases failed
  · split at failed <;> cases failed
  · next notBullets notNumbered =>
      cases failed
      refine .itemOutsideList List.head?_map ?_
      intro tag innermost
      cases tag with
      | bulletList marker tight => exact absurd innermost (notBullets marker tight)
      | numberedList start pattern tight => exact absurd innermost (notNumbered start pattern tight)
      | _ => rfl

/-- A container that cannot be entered is an item out of place or an incomplete show rule. -/
theorem rejected_of_enter (failed : state.enter tag = .error fault) :
    Rejected (state.opened.map .typst) (.start tag) fault := by
  cases tag with
  | item => exact rejected_of_itemMarker failed
  | showRule kind selector rule function =>
      cases kind with
      | showSet =>
          cases rule <;> cases failed
          exact .showWithoutRule selector function
      | function =>
          cases function <;> cases failed
          exact .showWithoutFunction selector rule
  | link kind destination => cases kind <;> cases failed
  | _ => cases failed

/-- An event that the renderer fails at is rejected. -/
theorem rejected_of_step (failed : state.stepTypst event = .error fault) :
    Rejected (state.opened.map .typst) event fault := by
  cases event with
  | start tag =>
      simp only [Renderer.stepTypst] at failed
      cases entered : state.enter tag with
      | error cause =>
          rw [entered] at failed
          cases failed
          exact rejected_of_enter entered
      | ok entry =>
          rw [entered] at failed
          cases failed
  | finish tag =>
      simp only [Renderer.stepTypst] at failed
      cases opened : state.opened with
      | nil =>
          rw [opened] at failed
          cases failed
          exact .unmatched tag rfl
      | cons top below =>
          rw [opened] at failed
          by_cases same : top = tag
          · simp [same] at failed
          · simp only [same, if_false] at failed
            cases failed
            exact .mismatched rfl same
  | _ => cases failed

/-- The renderer fails at an event that is rejected, with the fault that belongs to it. -/
theorem step_of_rejected (rejected : Rejected (state.opened.map .typst) event fault) :
    state.stepTypst event = .error fault := by
  cases rejected with
  | unmatched tag nothingOpen => simp [Renderer.stepTypst, List.map_eq_nil_iff.mp nothingOpen]
  | @mismatched tag top innermost other =>
      rw [List.head?_map] at innermost
      obtain ⟨first, head, same⟩ := Option.map_eq_some_iff.mp innermost
      cases same
      obtain ⟨below, opened⟩ := List.head?_eq_some_iff.mp head
      simp [Renderer.stepTypst, opened, other]
  | @itemOutsideList enclosing innermost noList =>
      have enclosed : state.opened.head? = enclosing := by
        rw [List.head?_map] at innermost
        exact Option.map_injective (fun _ _ => Tag.typst.inj) innermost
      have noMarker : state.itemMarker = .error (.itemOutsideList enclosing) := by
        rw [Renderer.itemMarker, enclosed]
        cases enclosing with
        | none => rfl
        | some tag =>
            cases tag with
            | bulletList marker tight => cases noList _ rfl
            | numberedList start pattern tight => cases noList _ rfl
            | _ => rfl
      simp [Renderer.stepTypst, Renderer.enter, noMarker, Except.map]
  | showWithoutRule selector function => rfl
  | showWithoutFunction selector rule => rfl

end Steps

/-! ### A whole stream -/

section Streams

variable {state last : Renderer} {stream : List Event} {events front : List Typst.Event} {event : Typst.Event}
  {written : List String} {fault : RenderFault}

/-- What a rendering has open is what its stream leaves open, so that an event is rejected behind it exactly
    if the renderer fails there. -/
theorem step_eq_error_iff (renders : Renders .initial (front.map .typst) written last) :
    last.step (.typst event) = .error fault ↔ Rejected (openTags (front.map .typst)) event fault := by
  rw [← renders.openTags]
  constructor
  · intro failed
    exact rejected_of_step failed
  · intro rejected
    exact step_of_rejected rejected

/-- In a stream that is rendered no event is rejected. -/
theorem accepted_of_renders (renders : Renders .initial (events.map .typst) written last) :
    Accepted events := by
  rintro front event after fault rfl rejected
  rw [List.map_append, List.map_cons] at renders
  obtain ⟨_, middle, fragment, next, rendersFront, stepped, _⟩ := renders.at_event
  have failed := (step_eq_error_iff rendersFront).mpr rejected
  rw [stepped] at failed
  cases failed

/-- A stream is rendered, or there is a first event in it that is rejected. -/
theorem renders_or_rejected (events : List Typst.Event) :
    (∃ written last, Renders .initial (events.map .typst) written last) ∨
      ∃ front event after written last fault, events = front ++ event :: after ∧
        Renders .initial (front.map .typst) written last ∧
        Rejected (openTags (front.map .typst)) event fault := by
  rcases renders_or_fails .initial (events.map .typst) with rendered |
    ⟨front, failing, after, written, last, fault, split, renders, failed⟩
  · exact .inl rendered
  · obtain ⟨before, behind, rfl, rfl, splitBehind⟩ := List.map_eq_append_iff.mp split
    obtain ⟨event, rest, rfl, rfl, rfl⟩ := List.map_eq_cons_iff.mp splitBehind
    exact .inr ⟨before, event, rest, written, last, fault, rfl, renders,
      (step_eq_error_iff renders).mp failed⟩

/-- The renderer stops at an event that is rejected. -/
theorem fragments_of_rejected (renders : Renders .initial (front.map .typst) written last)
    (rejected : Rejected (openTags (front.map .typst)) event fault) (after : List Typst.Event) :
    fragments ((front ++ event :: after).map .typst) = ⟨written, some fault⟩ := by
  rw [List.map_append, List.map_cons]
  exact renders.run_fails ((step_eq_error_iff renders).mpr rejected)

/-- Wherever the innermost container is a list, there is a number for it. -/
theorem numbers_ne_nil (renders : Renders .initial stream written last) {list : Typst.Tag}
    {around : List Typst.Tag} (opened : last.opened = list :: around) (listed : isList list = true) :
    last.numbers ≠ [] := by
  have counted := (renders.sound sound_initial).lists
  rw [opened, List.countP_cons_of_pos listed] at counted
  intro noNumbers
  rw [noNumbers] at counted
  cases counted

/-! ### The nesting check beside the renderer -/

/-- In a stream that is rendered every event fits. -/
theorem allFit_of_renders (renders : Renders state stream written last) :
    AllFit (state.opened.map .typst) stream := by
  induction renders with
  | nil state => trivial
  | cons step _ ih =>
      obtain ⟨fits, opened⟩ := opened_of_step step
      rw [opened] at ih
      exact ⟨fits, ih⟩

/-- The fault of the renderer for nesting that a finish breaks. Containers left open are no fault for it. -/
def brokenNesting? : BalanceFault → Option RenderFault
  | .unmatched (.typst found) => some (.unmatched found)
  | .mismatched (.typst found) (.typst expected) => some (.mismatched found expected)
  | _ => none

/-- A finish that is rejected does not fit, and the check has the fault of the renderer for it. -/
theorem misfit_of_rejected {stack : List Tag} (rejected : Rejected stack event fault)
    (nesting : fault.isNesting = true) :
    ∃ tag, (Event.typst event).bracket = .closing tag ∧ ¬ Fits stack (.typst event) ∧
      brokenNesting? (closingFault stack tag) = some fault := by
  cases rejected with
  | unmatched tag nothingOpen =>
      subst nothingOpen
      refine ⟨.typst tag, rfl, ?_, rfl⟩
      intro fits
      cases fits (.typst tag) rfl
  | @mismatched tag top innermost other =>
      obtain ⟨below, rfl⟩ := List.head?_eq_some_iff.mp innermost
      refine ⟨.typst tag, rfl, ?_, rfl⟩
      intro fits
      cases fits (.typst tag) rfl
      exact other rfl
  | itemOutsideList => cases nesting
  | showWithoutRule => cases nesting
  | showWithoutFunction => cases nesting

/-- The check passes what is rendered as a whole. At most it misses the finish of some containers. -/
theorem ensureBalanced_of_renders (renders : Renders .initial stream written last) :
    ∃ end?, ensureBalanced stream = ⟨stream, end?⟩ ∧ end?.bind brokenNesting? = none := by
  refine ⟨_, ensureBalanced_of_allFit (allFit_of_renders renders), ?_⟩
  cases openTags stream <;> rfl

/-- The check fails with the renderer at a finish that is rejected. -/
theorem ensureBalanced_of_rejected (renders : Renders .initial (front.map .typst) written last)
    (rejected : Rejected (openTags (front.map .typst)) event fault) (nesting : fault.isNesting = true)
    (after : List Typst.Event) :
    ∃ broken, ensureBalanced ((front ++ event :: after).map .typst) = ⟨front.map .typst, some broken⟩ ∧
      brokenNesting? broken = some fault := by
  obtain ⟨tag, closes, misfit, same⟩ := misfit_of_rejected rejected nesting
  obtain ⟨tag', closes', failed⟩ :=
    ensureBalanced_of_misfit (allFit_of_renders renders) misfit (after.map .typst)
  obtain rfl : tag = tag' := Bracket.closing.inj (closes.symm.trans closes')
  rw [List.map_append, List.map_cons]
  exact ⟨_, failed, same⟩

end Streams

/-- A stream of target events is either rendered, with one fragment an event, and none of its events is
    rejected; or it has a first event that is rejected, and the renderer gives the fragments of what comes
    before this and fails there with the fault that belongs to it, which is a broken invariant. On the way
    there is a number for the innermost container whenever this is a list. And if only finishes are rejected,
    the nesting check gives way at the same event with the same fault, but for containers left open. -/
theorem fragments_until_rejected (events : List Typst.Event) :
    ((Accepted events ∧ ∃ written, written.length = events.length ∧
          fragments (events.map .typst) = .done written) ∨
        ∃ front event after written fault, events = front ++ event :: after ∧ Accepted front ∧
          Rejected (openTags (front.map .typst)) event fault ∧ fault.isInvariant = true ∧
          written.length = front.length ∧ fragments (front.map .typst) = .done written ∧
          fragments (events.map .typst) = ⟨written, some fault⟩) ∧
      (∀ front after written state, events = front ++ after →
        Renders .initial (front.map .typst) written state →
          ∀ list around, state.opened = list :: around → isList list = true → state.numbers ≠ []) ∧
      ((∀ front event after fault, events = front ++ event :: after → Accepted front →
          Rejected (openTags (front.map .typst)) event fault → fault.isNesting = true) →
        (fragments (events.map .typst)).items.length = (ensureBalanced (events.map .typst)).items.length ∧
          (fragments (events.map .typst)).fault =
            (ensureBalanced (events.map .typst)).fault.bind brokenNesting?) := by
  have numbered : ∀ front after written state, events = front ++ after →
      Renders .initial (front.map .typst) written state →
        ∀ list around, state.opened = list :: around → isList list = true → state.numbers ≠ [] := by
    intro front after written state _ renders list around opened listed
    exact numbers_ne_nil renders opened listed
  rcases renders_or_rejected events with ⟨written, last, renders⟩ |
    ⟨front, event, after, written, last, fault, rfl, renders, rejected⟩
  · have sameLength : written.length = events.length := by rw [renders.length_eq, List.length_map]
    refine ⟨.inl ⟨accepted_of_renders renders, written, sameLength, renders.run⟩, numbered, ?_⟩
    intro _
    obtain ⟨end?, passed, noBreak⟩ := ensureBalanced_of_renders renders
    rw [fragments, renders.run, passed]
    exact ⟨renders.length_eq, noBreak.symm⟩
  · have accepted := accepted_of_renders renders
    have stopped := fragments_of_rejected renders rejected after
    have sameLength : written.length = front.length := by rw [renders.length_eq, List.length_map]
    refine ⟨.inr ⟨front, event, after, written, fault, rfl, accepted, rejected,
      isInvariant_of_rejected rejected, sameLength, renders.run, stopped⟩, numbered, ?_⟩
    intro onlyFinishes
    have nesting := onlyFinishes front event after fault rfl accepted rejected
    obtain ⟨broken, failed, sameFault⟩ := ensureBalanced_of_rejected renders rejected nesting after
    rw [stopped, failed]
    exact ⟨renders.length_eq, sameFault.symm⟩

/-- Strong text whose finish is that of emphasis. -/
def crossedFinish : List Typst.Event := [.start .strong, .text "a", .finish .emphasis, .text "b"]

theorem fragments_until_rejected_crossedFinish :
    fragments (crossedFinish.map .typst) = ⟨["#strong[", "a"], some (.mismatched .emphasis .strong)⟩ ∧
      (ensureBalanced (crossedFinish.map .typst)).items.length = 2 ∧
      (ensureBalanced (crossedFinish.map .typst)).fault.bind brokenNesting? =
        some (.mismatched .emphasis .strong) := by
  have stopped : fragments (crossedFinish.map .typst) =
      ⟨["#strong[", "a"], some (.mismatched .emphasis .strong)⟩ := by decide
  have onlyFinishes : ∀ front event after fault, crossedFinish = front ++ event :: after →
      Accepted front → Rejected (openTags (front.map .typst)) event fault → fault.isNesting = true := by
    intro front event after fault split _ rejected
    have member : event ∈ crossedFinish := by simp [split]
    cases rejected with
    | unmatched => rfl
    | mismatched => rfl
    | _ => simp [crossedFinish] at member
  obtain ⟨_, _, beside⟩ := fragments_until_rejected crossedFinish
  obtain ⟨sameLength, sameFault⟩ := beside onlyFinishes
  rw [stopped] at sameLength sameFault
  exact ⟨stopped, sameLength.symm, sameFault.symm⟩

end Bindery.Markup
