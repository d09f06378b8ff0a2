/-
Module: Bindery.Proofs.ListMarkers
Layer: Proofs
Purpose: The fragments of lists and items, in their places. In a stream that is rendered, every item stands
  directly in a list that the stream has left open. It is indented by two spaces for every open list but the
  innermost, and has the marker of its list and of its place among the items directly in it, whatever lists
  were opened and closed inside those. A list starts on a new line exactly if it stands directly in an item.
Imports: Bindery.Proofs.ItemMarkers, Bindery.Proofs.RendererPlaces
Main exports: itemIndent_of_renders, exists_list_of_item, step_listStart, markers_of_fragments
-/
import Bindery.Proofs.ItemMarkers
import Bindery.Proofs.RendererPlaces

namespace Bindery.Markup

section Pieces

variable {state last : Renderer} {events : List Event} {written : List String} {list : Typst.Tag}

/-- An item is indented by two spaces for every open list but the innermost. -/
theorem itemIndent_of_renders (renders : Renders .initial events written last) :
    last.itemIndent = repeated (2 * (openCount isList events - 1)) ' ' := by
  rw [Renderer.itemIndent, ← List.countP_eq_length_filter, renders.countP_opened]

/-- What opens a container of the target is its start. -/
theorem eq_start_of_opens {event : Event} {tag : Typst.Tag} (opens : event.bracket = .opening (.typst tag)) :
    event = .typst (.start tag) := by
  cases event with
  | book inner =>
      cases inner with
      | prose inner => cases inner <;> cases opens
      | _ => cases opens
  | markdown inner => cases inner <;> cases opens
  | foreign text => cases opens
  | typst inner =>
      cases inner with
      | start other =>
          cases opens
          rfl
      | _ => cases opens

/-- An item that is rendered stands directly in a list that the stream has left open. -/
theorem exists_list_of_item {next : Renderer} {fragment : String}
    (renders : Renders .initial events written last)
    (stepped : last.step (.typst (.start .item)) = .ok (fragment, next)) :
    ∃ list before inside, isList list = true ∧ events = before ++ .typst (.start list) :: inside ∧
      balanceFault? inside = none := by
  obtain ⟨inner, entered, _⟩ := enter_of_step stepped
  obtain ⟨_, list, around, opened, listed⟩ := itemMarker_below entered
  have leaves := renders.leavesOpen
  rw [opened] at leaves
  cases leaves with
  | opened _ opens balanced =>
      obtain rfl := eq_start_of_opens opens
      exact ⟨list, _, _, listed, rfl, balanced⟩

/-- A list starts on a new line exactly if it stands directly in an item. -/
theorem step_listStart (listed : isList list = true) (state : Renderer) :
    ∃ next, state.step (.typst (.start list)) =
      .ok (if state.opened.head? = some .item then "\n" else "", next) := by
  cases list with
  | bulletList marker tight => exact ⟨_, rfl⟩
  | numberedList start pattern tight => exact ⟨_, rfl⟩
  | _ => cases listed

end Pieces

/-- In a stream that is rendered, every item stands directly in an open list. The item after k others in it
    has two spaces for every other open list and the marker of the list for k; and a list starts with a line
    break if it stands directly in an item, and with nothing otherwise. -/
theorem markers_of_fragments {events : List Event} {written : List String}
    (rendered : fragments events = .done written) :
    (∀ front after, events = front ++ .typst (.start .item) :: after →
      ∃ list before inside, isList list = true ∧ front = before ++ .typst (.start list) :: inside ∧
        balanceFault? inside = none) ∧
      (∀ list before inside front after, isList list = true → balanceFault? inside = none →
        front = before ++ .typst (.start list) :: inside →
        events = front ++ .typst (.start .item) :: after →
          written[front.length]? = some (repeated (2 * (openCount isList front - 1)) ' ' ++
            markerOf list (itemsFrom 0 inside))) ∧
        ∀ list front after, isList list = true → events = front ++ .typst (.start list) :: after →
          written[front.length]? =
            some (if (openTags front).head? = some (.typst .item) then "\n" else "") := by
  obtain ⟨last, renders⟩ := renders_of_fragments rendered
  refine ⟨?listed, ?marked, ?started⟩
  case listed =>
    rintro front after rfl
    obtain ⟨_, middle, _, _, rendersFront, stepped, _⟩ := renders.at_event
    exact exists_list_of_item rendersFront stepped
  case marked =>
    rintro list before inside front after listed balanced isFront rfl
    obtain ⟨_, middle, fragment, next, rendersFront, stepped, place⟩ := renders.at_event
    have indent := itemIndent_of_renders rendersFront
    have fromList := rendersFront
    rw [isFront] at fromList
    obtain ⟨_, outside, _, _, _, rendersList⟩ := fromList.cut
    obtain ⟨next', marked⟩ := step_item_of_renders listed rendersList balanced
    obtain ⟨same, _⟩ := eq_of_ok marked stepped
    rw [place, ← same, indent]
  case started =>
    rintro list front after listed rfl
    obtain ⟨_, middle, fragment, next, rendersFront, stepped, place⟩ := renders.at_event
    obtain ⟨next', started⟩ := step_listStart listed middle
    obtain ⟨same, _⟩ := eq_of_ok started stepped
    rw [place, ← same, ← rendersFront.openTags]
    cases opened : middle.opened with
    | nil => rfl
    | cons top below => simp

/-- A list from minus one with two items, the first of which holds a list of bullets. -/
def belowZero : List Event :=
  [.start (.numberedList (-1) none false), .start .item, .start (.bulletList none false), .start .item,
    .finish .item, .finish (.bulletList none false), .finish .item, .start .item, .finish .item,
    .finish (.numberedList (-1) none false)].map .typst

theorem markers_of_fragments_belowZero :
    ∃ written, fragments belowZero = .done written ∧
      written[7]? = some (repeated (2 * (openCount isList (belowZero.take 7) - 1)) ' ' ++
        markerOf (.numberedList (-1) none false) (itemsFrom 0 ((belowZero.take 7).drop 1))) ∧
      written[7]? = some "0. " ∧
      written[2]? = some (if (openTags (belowZero.take 2)).head? = some (.typst .item) then "\n" else "") ∧
      written[2]? = some "\n" := by
  have rendered : fragments belowZero =
      .done ["", "-1. ", "\n", "  - ", "\n", "", "\n", "0. ", "\n", ""] := by decide
  obtain ⟨_, marked, started⟩ := markers_of_fragments rendered
  have second := marked (.numberedList (-1) none false) [] ((belowZero.take 7).drop 1) (belowZero.take 7)
    (belowZero.drop 8) rfl (by decide) rfl rfl
  have bullets := started (.bulletList none false) (belowZero.take 2) (belowZero.drop 3) rfl rfl
  exact ⟨_, rendered, second, rfl, bullets, rfl⟩

end Bindery.Markup
