/-
Module: Bindery.Proofs.RendererState
Layer: Proofs
Purpose: What the renderer accepts, and what it remembers. Its open tags are the stack of the strict
  nesting machine, and it renders every stream of target events that the machine lets through. Its
  counters are functions of the open tags, so that once everything is closed it is as it was before
  its first event.
Imports: Bindery.Markup.Render, Bindery.Proofs.Nesting, Bindery.Proofs.StageRun (isCodeTarget)
Main exports: Renders, Renders.append, Renders.markup, Renderer.frames, enter_of_step, leave_of_step,
  step_cases, step_of_apply, renders_of_nestFrom, Renderer.Sound, enter_opened, Renders.sound,
  renders_closed
-/
import Bindery.Markup.Render
import Bindery.Proofs.Nesting
import Bindery.Proofs.StageRun

namespace Bindery.Markup

open Bindery.Convert (isCodeTarget)

/-! ### Rendering that succeeds -/

/-- A renderer gives fragments for a stream, one an event, and is in another state afterwards. -/
inductive Renders : Renderer → List Event → List String → Renderer → Prop where
  | nil (state : Renderer) : Renders state [] [] state
  | cons {state next last : Renderer} {event : Event} {rest : List Event} {fragment : String}
      {fragments : List String} (step : state.step event = .ok (fragment, next))
      (more : Renders next rest fragments last) :
      Renders state (event :: rest) (fragment :: fragments) last

theorem Renders.append {state middle last : Renderer} {first second : List Event}
    {fragments more : List String} (rendersFirst : Renders state first fragments middle)
    (rendersSecond : Renders middle second more last) :
    Renders state (first ++ second) (fragments ++ more) last := by
  induction rendersFirst with
  | nil state => exact rendersSecond
  | cons step _ ih => exact .cons step (ih rendersSecond)

theorem Renders.run {state last : Renderer} {events : List Event} {fragments : List String}
    (renders : Renders state events fragments last) : state.run events = .done fragments := by
  induction renders with
  | nil state => rfl
  | cons step _ ih =>
      rw [Renderer.run, step]
      simp only [ih]
      rfl

/-- A stream that is rendered from the start has a markup. -/
theorem Renders.markup {last : Renderer} {events : List Event} {fragments : List String}
    (renders : Renders .initial events fragments last) :
    Markup.markup events = .ok (String.join fragments) := by
  rw [Markup.markup, Markup.fragments, renders.run]
  rfl

/-- What a renderer gives is one fragment and one state. -/
theorem eq_of_ok {result : Except RenderFault (String × Renderer)} {fragment fragment' : String}
    {next next' : Renderer} (made : result = .ok (fragment, next))
    (made' : result = .ok (fragment', next')) : fragment = fragment' ∧ next = next' := by
  rw [made] at made'
  exact Prod.mk.inj (Except.ok.inj made')

/-! ### What is accepted -/

def targetFrame (tag : Typst.Tag) : Frame := ⟨.typst tag, false⟩

def Renderer.frames (state : Renderer) : List Frame := state.opened.map targetFrame

theorem targetFrame_injective {first second : Typst.Tag}
    (same : targetFrame first = targetFrame second) : first = second := by
  cases same
  rfl

/-- An item in a list gets a marker. -/
theorem itemMarker_of_fits {state : Renderer}
    (fits : (targetFrame .item).fits state.frames = true) :
    ∃ marker inner, state.itemMarker = .ok (marker, inner) ∧ inner.opened = state.opened := by
  rcases state with ⟨opened, codeDepth, bareLinks, numbers⟩
  cases opened with
  | nil => cases fits
  | cons top below =>
      have inList : roleOfTarget top = .list .target := by
        simpa [Frame.fits, Frame.role, roleOfTarget, targetFrame, Renderer.frames] using fits
      unfold roleOfTarget at inList
      split at inList
      · exact ⟨_, _, rfl, rfl⟩
      · cases numbers with
        | nil => exact ⟨_, _, rfl, rfl⟩
        | cons number rest => cases number <;> exact ⟨_, _, rfl, rfl⟩
      · cases inList
      · cases inList
      · cases inList
      · cases inList

/-- A container that fits is entered. -/
theorem enter_of_fits {state : Renderer} {tag : Typst.Tag}
    (fits : (targetFrame tag).fits state.frames = true) :
    ∃ fragment inner, state.enter tag = .ok (fragment, inner) ∧ inner.opened = state.opened := by
  cases tag with
  | item => exact itemMarker_of_fits fits
  | showRule kind selector rule function =>
      cases kind with
      | showSet =>
          cases rule with
          | none => cases fits
          | some rule => exact ⟨_, _, rfl, rfl⟩
      | function =>
          cases function with
          | none => cases rule <;> cases fits
          | some body => exact ⟨_, _, rfl, rfl⟩
  | link kind destination => cases kind <;> exact ⟨_, _, rfl, rfl⟩
  | _ => exact ⟨_, _, rfl, rfl⟩

theorem leave_opened (state : Renderer) (tag : Typst.Tag) :
    (state.leave tag).2.opened = state.opened := by
  cases tag with
  | link kind destination => cases kind <;> rfl
  | _ => rfl

/-- The innermost container can be closed. -/
theorem step_finish {state : Renderer} {top : Typst.Tag} {below : List Typst.Tag}
    (opened : state.opened = top :: below) :
    state.step (.typst (.finish top)) = .ok ({ state with opened := below }.leave top) := by
  simp only [Renderer.step, Renderer.stepTypst, opened, if_true]

/-- The step over a start enters the container and puts it on the stack. -/
theorem enter_of_step {state next : Renderer} {tag : Typst.Tag} {fragment : String}
    (stepped : state.step (.typst (.start tag)) = .ok (fragment, next)) :
    ∃ inner, state.enter tag = .ok (fragment, inner) ∧
      { inner with opened := tag :: inner.opened } = next := by
  simp only [Renderer.step, Renderer.stepTypst] at stepped
  cases entered : state.enter tag with
  | error fault =>
      rw [entered] at stepped
      cases stepped
  | ok entry =>
      rw [entered] at stepped
      cases stepped
      exact ⟨entry.2, rfl, rfl⟩

/-- The step over a finish takes the container, the innermost one, off the stack and leaves it. -/
theorem leave_of_step {state next : Renderer} {tag : Typst.Tag} {fragment : String}
    (stepped : state.step (.typst (.finish tag)) = .ok (fragment, next)) :
    ∃ below, state.opened = tag :: below ∧ { state with opened := below }.leave tag = (fragment, next) := by
  cases opened : state.opened with
  | nil => simp [Renderer.step, Renderer.stepTypst, opened] at stepped
  | cons top below =>
      by_cases same : top = tag
      · subst same
        rw [step_finish opened] at stepped
        exact ⟨below, rfl, Except.ok.inj stepped⟩
      · simp [Renderer.step, Renderer.stepTypst, opened, same] at stepped

/-- All that a step can be: it enters a container, it leaves the innermost one, or it changes nothing. -/
theorem step_cases {state next : Renderer} {event : Event} {fragment : String}
    (stepped : state.step event = .ok (fragment, next)) :
    (∃ tag inner, event = .typst (.start tag) ∧ state.enter tag = .ok (fragment, inner) ∧
        { inner with opened := tag :: inner.opened } = next) ∨
      (∃ tag below, event = .typst (.finish tag) ∧ state.opened = tag :: below ∧
        { state with opened := below }.leave tag = (fragment, next)) ∨
      (event.bracket = .leaf ∧ state = next) := by
  cases event with
  | book | markdown | foreign => cases stepped
  | typst inner =>
      cases inner with
      | start tag =>
          obtain ⟨inner, entered, isNext⟩ := enter_of_step stepped
          exact .inl ⟨tag, inner, rfl, entered, isNext⟩
      | finish tag =>
          obtain ⟨below, opened, left⟩ := leave_of_step stepped
          exact .inr (.inl ⟨tag, below, rfl, opened, left⟩)
      | _ =>
          cases stepped
          exact .inr (.inr ⟨rfl, rfl⟩)

/-- The renderer follows the strict machine. -/
theorem step_of_apply {state : Renderer} {event : Event} {stack : List Frame}
    (target : event.dialect = some .typst) (step : event.move.apply true state.frames = some stack) :
    ∃ fragment next, state.step event = .ok (fragment, next) ∧ next.frames = stack := by
  cases event with
  | book | markdown | foreign => cases target
  | typst inner =>
      cases inner with
      | start tag =>
          rcases apply_opens step with ⟨rfl, fits⟩
          obtain ⟨fragment, inner, entered, opened⟩ := enter_of_fits (fits rfl)
          refine ⟨fragment, { inner with opened := tag :: inner.opened }, ?_, ?_⟩
          · simp only [Renderer.step, Renderer.stepTypst, entered]
            rfl
          · simp only [Renderer.frames, opened, List.map_cons]
            rfl
      | finish tag =>
          have closed : state.frames = targetFrame tag :: stack := apply_closes step
          cases opened : state.opened with
          | nil => simp [Renderer.frames, opened] at closed
          | cons top below =>
              rw [Renderer.frames, opened, List.map_cons] at closed
              rcases List.cons.inj closed with ⟨sameTop, sameBelow⟩
              obtain rfl := targetFrame_injective sameTop
              have left := leave_opened { state with opened := below } top
              exact ⟨_, _, step_finish opened, (congrArg (List.map targetFrame) left).trans sameBelow⟩
      | _ => exact ⟨_, _, rfl, Option.some.inj step⟩

/-- A stream of target events that the strict machine lets through is rendered. -/
theorem renders_of_nestFrom {state : Renderer} {events : List Event} {stack : List Frame}
    (target : ∀ event ∈ events, event.dialect = some .typst)
    (nested : nestFrom true state.frames events = some stack) :
    ∃ fragments last, Renders state events fragments last ∧ last.frames = stack := by
  induction events generalizing state with
  | nil => exact ⟨[], state, .nil state, Option.some.inj nested⟩
  | cons event rest ih =>
      rcases Option.bind_eq_some_iff.mp nested with ⟨middle, step, nestedRest⟩
      obtain ⟨fragment, next, stepped, frames⟩ := step_of_apply (target event List.mem_cons_self) step
      subst frames
      obtain ⟨fragments, last, renders, lastFrames⟩ :=
        ih (fun other member => target other (List.mem_cons_of_mem _ member)) nestedRest
      exact ⟨fragment :: fragments, last, .cons stepped renders, lastFrames⟩

/-! ### What is remembered -/

/-- Is the container a link that shows its address? -/
def isBareLink : Typst.Tag → Bool
  | .link kind _ => isBare kind
  | _ => false

/-- The counters of a renderer are those of its open tags. -/
structure Renderer.Sound (state : Renderer) : Prop where
  code : state.codeDepth = state.opened.countP isCodeTarget
  links : state.bareLinks = state.opened.countP isBareLink
  lists : state.numbers.length = state.opened.countP isList

theorem sound_initial : Renderer.initial.Sound := ⟨rfl, rfl, rfl⟩

/-- A sound renderer with nothing open is as it was before its first event. -/
theorem eq_initial_of_sound {state : Renderer} (sound : state.Sound) (closed : state.opened = []) :
    state = .initial := by
  rcases sound with ⟨code, links, lists⟩
  rcases state with ⟨opened, codeDepth, bareLinks, numbers⟩
  simp only at closed
  subst closed
  obtain rfl : codeDepth = 0 := code
  obtain rfl : bareLinks = 0 := links
  obtain rfl : numbers = [] := List.length_eq_zero_iff.mp lists
  rfl

/-- A marker changes at most the number of the next item. -/
theorem itemMarker_counts {state inner : Renderer} {marker : String}
    (marked : state.itemMarker = .ok (marker, inner)) :
    inner.opened = state.opened ∧ inner.codeDepth = state.codeDepth ∧
      inner.bareLinks = state.bareLinks ∧ inner.numbers.length = state.numbers.length := by
  unfold Renderer.itemMarker at marked
  split at marked
  · cases marked
    exact ⟨rfl, rfl, rfl, rfl⟩
  · split at marked
    · next numbers =>
        cases marked
        exact ⟨rfl, rfl, rfl, by simp [numbers]⟩
    · cases marked
      exact ⟨rfl, rfl, rfl, rfl⟩
  · cases marked

/-- Entering a container opens nothing by itself: its tag is put on the stack afterwards. -/
theorem enter_opened {state inner : Renderer} {tag : Typst.Tag} {fragment : String}
    (entered : state.enter tag = .ok (fragment, inner)) : inner.opened = state.opened := by
  cases tag with
  | item => exact (itemMarker_counts entered).1
  | showRule kind selector rule function =>
      cases kind <;> cases rule <;> cases function <;> cases entered <;> rfl
  | link kind destination => cases kind <;> cases entered <;> rfl
  | _ =>
      cases entered
      rfl

/-- Entering a container raises the counters of its kind by one. -/
theorem enter_counts {state inner : Renderer} {tag : Typst.Tag} {fragment : String}
    (entered : state.enter tag = .ok (fragment, inner)) :
    inner.codeDepth = state.codeDepth + (if isCodeTarget tag then 1 else 0) ∧
      inner.bareLinks = state.bareLinks + (if isBareLink tag then 1 else 0) ∧
      inner.numbers.length = state.numbers.length + (if isList tag then 1 else 0) := by
  cases tag with
  | item => exact (itemMarker_counts entered).2
  | showRule kind selector rule function =>
      cases kind <;> cases rule <;> cases function <;> cases entered <;> exact ⟨rfl, rfl, rfl⟩
  | link kind destination => cases kind <;> cases entered <;> exact ⟨rfl, rfl, rfl⟩
  | _ =>
      cases entered
      exact ⟨rfl, rfl, rfl⟩

/-- A tag that has been entered is counted. -/
theorem sound_enter {state inner : Renderer} {tag : Typst.Tag} {fragment : String}
    (sound : state.Sound) (entered : state.enter tag = .ok (fragment, inner)) :
    Renderer.Sound { inner with opened := tag :: inner.opened } := by
  have opened := enter_opened entered
  obtain ⟨code, links, lists⟩ := enter_counts entered
  constructor
  · simp [opened, code, sound.code, List.countP_cons]
  · simp [opened, links, sound.links, List.countP_cons]
  · simp [opened, lists, sound.lists, List.countP_cons]

/-- A tag that has been left is not counted any more. -/
theorem sound_leave {state : Renderer} {tag : Typst.Tag} {below : List Typst.Tag}
    (sound : state.Sound) (opened : state.opened = tag :: below) :
    Renderer.Sound ({ state with opened := below }.leave tag).2 := by
  rcases sound with ⟨code, links, lists⟩
  rw [opened] at code links lists
  cases tag with
  | link kind destination =>
      cases kind
      all_goals
        constructor
        · simp [code, isCodeTarget, Renderer.leave, isBare]
        · simp [links, isBareLink, Renderer.leave, isBare, List.countP_cons]
        · simp [lists, isList, Renderer.leave, isBare]
  | _ =>
      constructor
      · simp [code, isCodeTarget, Renderer.leave, List.countP_cons]
      · simp [links, isBareLink, Renderer.leave]
      · simp [lists, isList, Renderer.leave, List.countP_cons]

/-- The counters stay those of the open tags. -/
theorem sound_step {state next : Renderer} {event : Event} {fragment : String} (sound : state.Sound)
    (stepped : state.step event = .ok (fragment, next)) : next.Sound := by
  rcases step_cases stepped with ⟨tag, inner, rfl, entered, rfl⟩ | ⟨tag, below, rfl, opened, left⟩ | ⟨_, rfl⟩
  · exact sound_enter sound entered
  · have soundBelow := sound_leave sound opened
    rwa [left] at soundBelow
  · exact sound

theorem Renders.sound {state last : Renderer} {events : List Event} {fragments : List String}
    (renders : Renders state events fragments last) (sound : state.Sound) : last.Sound := by
  induction renders with
  | nil state => exact sound
  | cons step _ ih => exact ih (sound_step sound step)

/-- A complete stream of target events that the strict machine lets through is rendered, and leaves the
    renderer as it was before its first event. -/
theorem renders_closed {events : List Event}
    (target : ∀ event ∈ events, event.dialect = some .typst)
    (nested : nestFrom true [] events = some []) :
    ∃ fragments, Renders .initial events fragments .initial := by
  have started : nestFrom true Renderer.initial.frames events = some [] := nested
  obtain ⟨fragments, last, renders, closed⟩ := renders_of_nestFrom target started
  have opened : last.opened = [] := List.map_eq_nil_iff.mp closed
  rw [eq_initial_of_sound (renders.sound sound_initial) opened] at renders
  exact ⟨fragments, renders⟩

end Bindery.Markup
