/-
Module: Bindery.Proofs.RendererCounters
Layer: Proofs
Purpose: The counters of the renderer are those of its open tags, wherever a stream has got to. For every
  open list, in the order of the stack, there is the number of its next item. So fences widen by one backtick
  for every code block around them, alike at both ends of a block; text is suppressed exactly while a link
  that shows its address is open, and written as it is exactly while a code block is.
Imports: Bindery.Proofs.ItemMarkers, Bindery.Proofs.RendererPlaces, Mathlib.Data.List.Forall2
Main exports: IsNumberOf, Renderer.Numbered, numbered_step, Renders.numbered, step_codeStart,
  step_codeFinish, step_text, step_code, counters_of_renders
-/
import Bindery.Proofs.ItemMarkers
import Bindery.Proofs.RendererPlaces
import Mathlib.Data.List.Forall2

namespace Bindery.Markup

open Bindery.Convert (isCodeTarget)

/-! ### The numbers of the open lists -/

/-- Is the number that of the next item of the list, after some items? -/
def IsNumberOf (list : Typst.Tag) (number : Option Int) : Prop := ∃ items, number = writtenNumber list items

/-- There is one number for every open list, in the order of the stack. -/
def Renderer.Numbered (state : Renderer) : Prop :=
  List.Forall₂ IsNumberOf (state.opened.filter isList) state.numbers

section Steps

variable {state next last : Renderer} {tag : Typst.Tag} {fragment : String}

/-- A marker leaves every list a number: the innermost one goes on to its next item. -/
theorem numbered_itemMarker (numbered : state.Numbered)
    (marked : state.itemMarker = .ok (fragment, next)) : next.Numbered := by
  obtain ⟨sameTail, list, around, opened, listed⟩ := itemMarker_below marked
  have split := numbered
  rw [Renderer.Numbered, opened, List.filter_cons_of_pos listed] at split
  generalize numbersEq : state.numbers = numbers at split
  cases split with
  | cons own others =>
      obtain ⟨items, rfl⟩ := own
      have within : WithinList list items [] state := ⟨⟨around, opened⟩, [], _, numbersEq, rfl⟩
      obtain ⟨next', marked', sameOpened, _, own, outer, counted, noList⟩ :=
        itemMarker_of_withinList listed within
      obtain ⟨_, rfl⟩ := eq_of_ok marked' marked
      obtain rfl : own = [] := List.length_eq_zero_iff.mp noList
      rw [List.nil_append] at counted
      rw [counted, numbersEq, List.tail_cons, List.tail_cons] at sameTail
      rw [Renderer.Numbered, sameOpened, opened, List.filter_cons_of_pos listed, counted, sameTail]
      exact .cons ⟨items + 1, rfl⟩ others

/-- A list that is entered gets the number of its first item. -/
theorem numbered_enter (numbered : state.Numbered) (entered : state.enter tag = .ok (fragment, next)) :
    Renderer.Numbered { next with opened := tag :: next.opened } := by
  by_cases item : tag = .item
  · subst item
    have marked : next.Numbered := numbered_itemMarker numbered entered
    exact marked
  · have numbers := enter_numbers item entered
    unfold Renderer.Numbered
    rw [numbers, enter_opened entered]
    cases listed : isList tag with
    | true =>
        rw [List.filter_cons_of_pos listed]
        exact .cons ⟨0, rfl⟩ numbered
    | false =>
        rw [List.filter_cons_of_neg (by simp [listed])]
        exact numbered

/-- A list that is left takes its number with it. -/
theorem numbered_leave {below : List Typst.Tag} (numbered : state.Numbered)
    (opened : state.opened = tag :: below) :
    Renderer.Numbered ({ state with opened := below }.leave tag).2 := by
  unfold Renderer.Numbered at numbered ⊢
  rw [opened] at numbered
  rw [leave_numbers, leave_opened]
  cases listed : isList tag with
  | true =>
      rw [List.filter_cons_of_pos listed] at numbered
      simp only [if_true]
      generalize state.numbers = numbers at numbered
      cases numbered with
      | cons _ others => exact others
  | false =>
      rw [List.filter_cons_of_neg (by simp [listed])] at numbered
      exact numbered

/-- The numbers stay those of the open lists. -/
theorem numbered_step {event : Event} (numbered : state.Numbered)
    (stepped : state.step event = .ok (fragment, next)) : next.Numbered := by
  rcases step_cases stepped with ⟨tag, inner, rfl, entered, rfl⟩ | ⟨tag, below, rfl, opened, left⟩ | ⟨_, rfl⟩
  · exact numbered_enter numbered entered
  · have numberedBelow := numbered_leave numbered opened
    rwa [left] at numberedBelow
  · exact numbered

theorem Renders.numbered {events : List Event} {written : List String}
    (renders : Renders state events written last) (numbered : state.Numbered) : last.Numbered := by
  induction renders with
  | nil => exact numbered
  | cons step _ ih => exact ih (numbered_step numbered step)

/-! ### What the counters decide -/

def fenceInside (depth : Nat) : String := repeated (6 + depth) '\x60'

theorem step_codeStart (sound : state.Sound) (label : Option String) (display : Typst.Display) :
    ∃ inner, state.step (.typst (.start (.codeBlock label display))) =
        .ok (fenceInside (state.opened.countP isCodeTarget) ++ label.getD "" ++ "\n", inner) ∧
      inner.opened = .codeBlock label display :: state.opened := by
  rw [← sound.code]
  exact ⟨_, rfl, rfl⟩

/-- A code block is closed with the fence that it was opened with: it does not count as one around itself. -/
theorem step_codeFinish (sound : state.Sound) {label : Option String} {display : Typst.Display}
    {below : List Typst.Tag} (opened : state.opened = .codeBlock label display :: below) :
    ∃ outer, state.step (.typst (.finish (.codeBlock label display))) =
      .ok (fenceInside (below.countP isCodeTarget) ++ "\n", outer) := by
  have depth : state.codeDepth = below.countP isCodeTarget + 1 := by
    rw [sound.code, opened]
    exact List.countP_cons_of_pos rfl
  rw [step_finish opened]
  simp [Renderer.leave, Renderer.fence, depth, fenceInside, fenceWidth]

/-- Some container of a kind is open exactly if their number is not zero. -/
theorem countP_ne_zero_iff_any (p : Typst.Tag → Bool) (opened : List Typst.Tag) :
    opened.countP p ≠ 0 ↔ opened.any p = true := by
  simp [List.countP_eq_zero]

theorem step_text (sound : state.Sound) (body : String) :
    state.step (.typst (.text body)) =
      .ok (if state.opened.any isBareLink then "" else if state.opened.any isCodeTarget then body
        else escapeText body, state) := by
  simp only [Renderer.step, Renderer.stepTypst, Renderer.textFragment, sound.links, sound.code,
    countP_ne_zero_iff_any]

theorem step_code (sound : state.Sound) (body : String) :
    state.step (.typst (.code body)) =
      .ok (if state.opened.any isBareLink then "" else inlineCode body, state) := by
  simp only [Renderer.step, Renderer.stepTypst, Renderer.codeFragment, sound.links,
    countP_ne_zero_iff_any]

/-- Both ends of a code block are rendered with one fence, whatever is rendered between them. -/
theorem step_codeFinish_of_renders {inner : Renderer} {inside : List Event} {pieces : List String}
    {label : Option String} {display : Typst.Display} (sound : state.Sound)
    (opened : state.step (.typst (.start (.codeBlock label display))) = .ok (fragment, inner))
    (balanced : balanceFault? inside = none) (renders : Renders inner inside pieces last) :
    last.opened = .codeBlock label display :: state.opened ∧
      ∃ outer, last.step (.typst (.finish (.codeBlock label display))) =
        .ok (fenceInside (state.opened.countP isCodeTarget) ++ "\n", outer) := by
  obtain ⟨inner', opened', openedInner⟩ := step_codeStart sound label display
  obtain ⟨_, rfl⟩ := eq_of_ok opened' opened
  have openedLast := (renders.opened_of_balanced balanced).trans openedInner
  have soundLast : last.Sound := renders.sound (sound_step sound opened)
  exact ⟨openedLast, step_codeFinish soundLast openedLast⟩

end Steps

/-! ### At every point of a stream -/

/-- Wherever a stream has got to, the open tags of the renderer are those of the stream, and its counters are
    those of its open tags: how many are code blocks, how many are links that show their address, and a number
    for each list, in order. So the two fences of a code block inside k others have 6 + k backticks both; text
    and inline code are suppressed if a link that shows its address is open, and only then; and text that is
    not suppressed is written as it is if a code block is open, and escaped otherwise. -/
theorem counters_of_renders {events : List Event} {written : List String} {state : Renderer}
    (renders : Renders .initial events written state) :
    state.opened.map .typst = openTags events ∧
      state.codeDepth = state.opened.countP isCodeTarget ∧
      state.bareLinks = state.opened.countP isBareLink ∧
      List.Forall₂ IsNumberOf (state.opened.filter isList) state.numbers ∧
      (∀ label display, ∃ inner,
        state.step (.typst (.start (.codeBlock label display))) =
          .ok (fenceInside (state.opened.countP isCodeTarget) ++ label.getD "" ++ "\n", inner) ∧
        ∀ inside pieces last, balanceFault? inside = none → Renders inner inside pieces last →
          last.opened = .codeBlock label display :: state.opened ∧
            ∃ outer, last.step (.typst (.finish (.codeBlock label display))) =
              .ok (fenceInside (state.opened.countP isCodeTarget) ++ "\n", outer)) ∧
      (∀ body, state.step (.typst (.text body)) =
        .ok (if state.opened.any isBareLink then "" else if state.opened.any isCodeTarget then body
          else escapeText body, state)) ∧
      ∀ body, state.step (.typst (.code body)) =
        .ok (if state.opened.any isBareLink then "" else inlineCode body, state) := by
  have sound : state.Sound := renders.sound sound_initial
  have numbered : state.Numbered := renders.numbered .nil
  refine ⟨renders.openTags, sound.code, sound.links, numbered, ?fences, step_text sound, step_code sound⟩
  case fences =>
    intro label display
    obtain ⟨inner, opened, _⟩ := step_codeStart sound label display
    refine ⟨inner, opened, ?_⟩
    intro inside pieces last balanced rendersInside
    exact step_codeFinish_of_renders sound opened balanced rendersInside

/-- A code block in the second item of a list from three, and a link that shows its address in it. -/
def codeInItem : List Event :=
  [.start (.numberedList 3 none false), .start .item, .finish .item, .start .item,
    .start (.codeBlock none .block), .start (.link .autolink "a")].map .typst

theorem counters_of_renders_codeInItem :
    ∃ state, Renders .initial codeInItem ["", "3. ", "\n", "4. ", "``````\n", "#link(\"a\")"] state ∧
      state.codeDepth = 1 ∧ state.bareLinks = 1 ∧ state.numbers.length = 1 ∧
        (∀ body, state.step (.typst (.text body)) = .ok ("", state)) ∧
          ∃ inner, state.step (.typst (.start (.codeBlock none .block))) = .ok ("```````\n", inner) := by
  have rendered : fragments codeInItem =
      .done ["", "3. ", "\n", "4. ", "``````\n", "#link(\"a\")"] := by decide
  obtain ⟨state, renders⟩ := renders_of_fragments rendered
  obtain ⟨same, code, links, numbered, fences, text, _⟩ := counters_of_renders renders
  have opened : state.opened = [.link .autolink "a", .codeBlock none .block, .item,
      .numberedList 3 none false] := by
    apply (List.map_inj_right fun _ _ => Tag.typst.inj).mp
    exact same
  rw [opened] at code links numbered fences text
  obtain ⟨inner, fence, _⟩ := fences none .block
  exact ⟨state, renders, code, links, numbered.length_eq.symm, text, inner, fence⟩

end Bindery.Markup
