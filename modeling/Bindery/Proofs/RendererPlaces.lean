/-
Module: Bindery.Proofs.RendererPlaces
Layer: Proofs
Purpose: Every fragment in its place. A rendering can be cut before any event: what was rendered so far is a
  rendering of its own, and the event is rendered from where it ends. The open tags of the renderer are those
  that the stream has left open, so that each of them has its start in the stream, with a balanced piece
  behind it where nothing further in is open.
Imports: Bindery.Proofs.OpenTags, Bindery.Proofs.RendererState
Main exports: Renders.cut, Renders.at_event, renders_of_fragments, Renders.run_append, renders_or_fails,
  Renders.run_fails, opened_of_step, Renders.opened, openCount, Renders.countP_opened, Renders.opened_below,
  Renders.opened_of_balanced, Renders.leavesOpen
-/
import Bindery.Proofs.OpenTags
import Bindery.Proofs.RendererState

namespace Bindery.Markup

section Places

variable {state last : Renderer} {events : List Event} {written : List String}

/-! ### Cutting a rendering -/

theorem Renders.length_eq (renders : Renders state events written last) :
    written.length = events.length := by
  induction renders with
  | nil => rfl
  | cons _ _ ih => simp [ih]

/-- A rendering of two pieces is a rendering of the first, and from where it ends one of the second. -/
theorem Renders.cut {first second : List Event} (renders : Renders state (first ++ second) written last) :
    ∃ front middle behind, written = front ++ behind ∧
      Renders state first front middle ∧ Renders middle second behind last := by
  induction first generalizing state written with
  | nil => exact ⟨[], state, written, rfl, .nil state, renders⟩
  | cons event first ih =>
      cases renders with
      | cons step more =>
          obtain ⟨front, middle, behind, rfl, rendersFirst, rendersSecond⟩ := ih more
          exact ⟨_ :: front, middle, behind, rfl, .cons step rendersFirst, rendersSecond⟩

/-- The fragment of an event stands as far behind as the event, and is what the renderer gives for the event
    after what comes before it. -/
theorem Renders.at_event {front after : List Event} {event : Event}
    (renders : Renders state (front ++ event :: after) written last) :
    ∃ before middle fragment next, Renders state front before middle ∧
      middle.step event = .ok (fragment, next) ∧ written[front.length]? = some fragment := by
  obtain ⟨before, middle, behind, rfl, rendersFront, rendersBehind⟩ := renders.cut
  cases rendersBehind with
  | cons step _ =>
      refine ⟨before, middle, _, _, rendersFront, step, ?_⟩
      simp [← rendersFront.length_eq]

/-- A renderer that gives fragments for a whole stream renders it. -/
theorem renders_of_run (ran : state.run events = .done written) :
    ∃ last, Renders state events written last := by
  induction events generalizing state written with
  | nil =>
      cases ran
      exact ⟨state, .nil state⟩
  | cons event rest ih =>
      rw [Renderer.run] at ran
      cases step : state.step event with
      | error fault =>
          rw [step] at ran
          cases ran
      | ok made =>
          obtain ⟨fragment, next⟩ := made
          rw [step] at ran
          obtain ⟨isWritten, noFault⟩ := Drained.mk.inj ran
          have ranRest : next.run rest = .done (next.run rest).items := by
            rw [Drained.done, ← noFault]
          obtain ⟨last, more⟩ := ih ranRest
          rw [← isWritten]
          exact ⟨last, .cons step more⟩

theorem renders_of_fragments (rendered : fragments events = .done written) :
    ∃ last, Renders .initial events written last := renders_of_run rendered

/-- What was rendered stays, and the renderer goes on from where it has got to. -/
theorem Renders.run_append {first : List Event} (renders : Renders state first written last)
    (second : List Event) : state.run (first ++ second) = (last.run second).prepend written := by
  induction renders with
  | nil state => rfl
  | cons step _ ih =>
      rw [List.cons_append, Renderer.run, step]
      simp only [ih]
      rfl

/-- Either a stream is rendered, or there is a first event that cannot be rendered. -/
theorem renders_or_fails (state : Renderer) (events : List Event) :
    (∃ written last, Renders state events written last) ∨
      ∃ front event after written middle fault, events = front ++ event :: after ∧
        Renders state front written middle ∧ middle.step event = .error fault := by
  induction events generalizing state with
  | nil => exact .inl ⟨[], state, .nil state⟩
  | cons event rest ih =>
      cases step : state.step event with
      | error fault => exact .inr ⟨[], event, rest, [], state, fault, rfl, .nil state, step⟩
      | ok made =>
          rcases ih made.2 with ⟨written, last, renders⟩ |
            ⟨front, failing, after, written, middle, fault, rfl, renders, fails⟩
          · exact .inl ⟨_, last, .cons step renders⟩
          · exact .inr ⟨event :: front, failing, after, _, middle, fault, rfl, .cons step renders, fails⟩

/-- The renderer stops at an event that it cannot render. -/
theorem Renders.run_fails {front after : List Event} {event : Event} {fault : RenderFault}
    (renders : Renders state front written last) (fails : last.step event = .error fault) :
    state.run (front ++ event :: after) = ⟨written, some fault⟩ := by
  rw [renders.run_append, Renderer.run, fails]
  simp [Drained.prepend, Drained.failed]

/-! ### The open tags -/

/-- An event that is rendered closes at most the innermost open tag, and leaves open what the stream
    does. -/
theorem opened_of_step {next : Renderer} {event : Event} {fragment : String}
    (stepped : state.step event = .ok (fragment, next)) :
    Fits (state.opened.map .typst) event ∧
      next.opened.map .typst = tagsAfter (state.opened.map .typst) event := by
  rcases step_cases stepped with ⟨tag, inner, rfl, entered, rfl⟩ | ⟨tag, below, rfl, opened, left⟩ |
    ⟨leaf, rfl⟩
  · constructor
    · intro _ closes
      cases closes
    · simp [enter_opened entered, tagsAfter, Event.bracket, Typst.Event.bracket]
  · have sameBelow : next.opened = below := by
      have afterwards := leave_opened { state with opened := below } tag
      rwa [left] at afterwards
    constructor
    · intro _ closes
      cases closes
      simp [opened]
    · simp [sameBelow, opened, tagsAfter, Event.bracket, Typst.Event.bracket]
  · constructor
    · intro _ closes
      rw [leaf] at closes
      cases closes
    · simp [tagsAfter, leaf]

/-- The renderer has open what the stream has left open. -/
theorem Renders.opened (renders : Renders state events written last) :
    last.opened.map .typst = events.foldl tagsAfter (state.opened.map .typst) := by
  induction renders with
  | nil state => rfl
  | cons step _ ih => rw [ih, (opened_of_step step).2, List.foldl_cons]

theorem Renders.openTags (renders : Renders .initial events written last) :
    last.opened.map .typst = Bindery.openTags events := renders.opened

/-- How many containers of a kind a stream leaves open. -/
def openCount (kind : Typst.Tag → Bool) (events : List Event) : Nat :=
  (openTags events).countP fun
    | .typst tag => kind tag
    | _ => false

theorem Renders.countP_opened (renders : Renders .initial events written last)
    (kind : Typst.Tag → Bool) : last.opened.countP kind = openCount kind events := by
  rw [openCount, ← renders.openTags, List.countP_map]
  rfl

/-- Before the end of a balanced piece, the tags that were open before it are still open. -/
theorem Renders.opened_below {rest : List Event} (renders : Renders state events written last)
    (balanced : balanceFault? (events ++ rest) = none) :
    ∃ inner, last.opened = inner ++ state.opened := by
  have opened : last.opened.map .typst = events.foldl tagsAfter [] ++ state.opened.map .typst := by
    rw [renders.opened]
    exact foldl_tagsAfter_append (state.opened.map .typst) balanced
  obtain ⟨inner, below, split, _, same⟩ := List.map_eq_append_iff.mp opened
  obtain rfl : below = state.opened := (List.map_inj_right fun _ _ => Tag.typst.inj).mp same
  exact ⟨inner, split⟩

/-- A balanced piece leaves the renderer with the tags that were open before it. -/
theorem Renders.opened_of_balanced (renders : Renders state events written last)
    (balanced : balanceFault? events = none) : last.opened = state.opened := by
  apply (List.map_inj_right fun _ _ => Tag.typst.inj).mp
  rw [renders.opened]
  exact foldl_tagsAfter_of_balanced (state.opened.map .typst) balanced

/-- Each tag that the renderer has open has its start in the stream. -/
theorem Renders.leavesOpen (renders : Renders .initial events written last) :
    LeavesOpen (last.opened.map .typst) events := by
  have behind {state last : Renderer} {before events : List Event} {written : List String}
      (renders : Renders state events written last)
      (leaves : LeavesOpen (state.opened.map .typst) before) :
      LeavesOpen (last.opened.map .typst) (before ++ events) := by
    induction renders generalizing before with
    | nil state => rwa [List.append_nil]
    | cons step _ ih =>
        obtain ⟨fits, opened⟩ := opened_of_step step
        have leavesNext := leaves.step fits
        rw [← opened] at leavesNext
        rw [← List.singleton_append, ← List.append_assoc]
        exact ih leavesNext
  have nothingOpen : LeavesOpen [] [] := .closed rfl
  exact behind renders nothingOpen

end Places

end Bindery.Markup
