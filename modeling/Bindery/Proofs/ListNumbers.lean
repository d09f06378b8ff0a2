/-
Module: Bindery.Proofs.ListNumbers
Layer: Proofs
Purpose: An ordered list keeps its number from its tokens to its markup. The walk gives the list the number
  that its opening token asks for, the list stage hands it on, and the renderer counts the items directly in
  the list from there, or leaves this to Typst if the number is one. The only number that is lost is zero
  given as an integer: it counts as absent, and the list starts from one.
Imports: Bindery.Proofs.ItemMarkers, Bindery.Proofs.TokenBalance
Main exports: exists_walk_append, walk_around, exists_walk_around, exists_walk_orderedList, run_lists,
  itemsFrom_run_lists, orderedList_numbers
-/
import Bindery.Proofs.ItemMarkers
import Bindery.Proofs.TokenBalance

namespace Bindery.Prose

open Bindery.Convert (Memory Stage listTag replaceTag run_cons)
open Bindery.Markup (Renders renders_of_nestFrom step_item_of_renders targetFrame targetFrame_injective)

/-! ### The walk around containers -/

theorem Walk.andThen_of_ok {walk : Walk} {state : Walker} (outcome : walk.outcome = .ok state)
    (next : Walker → Walk) : walk.andThen next = (next state).prepend walk.events := by
  rw [Walk.andThen, outcome]

theorem Walk.prepend_append (walk : Walk) (first second : List Markdown.Event) :
    walk.prepend (first ++ second) = (walk.prepend second).prepend first := by
  simp only [Walk.prepend, List.append_assoc]

section Around

variable {strict : Bool} {names names' : List String} {inner : List (Option Markdown.Tag)}
  {opening closing : Token} {inside : List Token}

/-- Over nested tokens in front of others, the walk has nested events and goes on with the others. They need
    not be the events of the tokens alone: a table looks ahead for its alignments. -/
theorem exists_walk_append {tokens : List Token} (base : List (Option Markdown.Tag)) (inHead : Bool)
    (behind : List Token) (named : Named names inner)
    (nested : openedFrom strict names tokens = some names') :
    ∃ events inner' inHead', Named names' inner' ∧
      (∀ stack, nestFrom strict (framesOf inner ++ stack) (events.map .markdown) =
        some (framesOf inner' ++ stack)) ∧
        Walker.walk ⟨inner ++ base, inHead⟩ (tokens ++ behind) =
          (Walker.walk ⟨inner' ++ base, inHead'⟩ behind).prepend events := by
  induction tokens generalizing names inner inHead with
  | nil =>
      cases nested
      exact ⟨[], inner, inHead, named, fun _ => rfl, rfl⟩
  | cons token rest ih =>
      rw [openedFrom] at nested
      obtain ⟨middle, openedFirst, openedRest⟩ := Option.bind_eq_some_iff.mp nested
      let first := Walker.step ⟨inner ++ base, inHead⟩ (rest ++ behind) token
      obtain ⟨inner₁, inHead₁, outcome, named₁, nestedFirst⟩ :=
        leads_step strict token names middle inner base inHead (rest ++ behind) named openedFirst
      obtain ⟨events, inner₂, inHead₂, named₂, nestedRest, walked⟩ := ih inHead₁ named₁ openedRest
      refine ⟨first.events ++ events, inner₂, inHead₂, named₂, fun stack => ?_, ?_⟩
      · rw [List.map_append, nestFrom_append, nestedFirst, Option.bind_some, nestedRest]
      · rw [List.cons_append, Walker.walk, Walk.andThen_of_ok outcome, walked, Walk.prepend_append]

/-- The walk over a container goes on from what is walked inside it. -/
theorem walk_around (state : Walker) (behind : List Token) {tag : Option Markdown.Tag} {inHead : Bool}
    {between : List Markdown.Event} (opens : opening.nesting = 1) (closes : closing.nesting = -1)
    (opened : openedTag (state.inHead || opening.containerName = "thead") opening
      (inside ++ closing :: behind) = .ok tag)
    (walked : Walker.walk ⟨tag :: state.opened, state.inHead || opening.containerName = "thead"⟩
      (inside ++ closing :: behind) =
        (Walker.walk ⟨tag :: state.opened, inHead⟩ (closing :: behind)).prepend between) :
    state.walk (opening :: inside ++ closing :: behind) =
      (Walker.walk ⟨state.opened, if closing.kind = "thead_close" then false else inHead⟩ behind).prepend
        ((tag.map Markdown.Event.start).toList ++ between ++ (tag.map Markdown.Event.finish).toList) := by
  have enters : state.step (inside ++ closing :: behind) opening =
      ⟨(tag.map Markdown.Event.start).toList,
        .ok ⟨tag :: state.opened, state.inHead || opening.containerName = "thead"⟩⟩ := by
    rw [step_of_opens opens, Walker.enter]
    simp only [opened]
  have leaves : (Walker.mk (tag :: state.opened) inHead).step behind closing =
      ⟨(tag.map Markdown.Event.finish).toList,
        .ok ⟨state.opened, if closing.kind = "thead_close" then false else inHead⟩⟩ := by
    rw [step_of_closes closes]
    rfl
  rw [List.cons_append, Walker.walk, enters, Walk.andThen_of_ok rfl, walked, Walker.walk, leaves,
    Walk.andThen_of_ok rfl, Walk.prepend_append, Walk.prepend_append]

/-- Around nested tokens, the walk starts and finishes the container that it opens, and goes on with what
    was open before. -/
theorem exists_walk_around (state : Walker) (behind : List Token) {tag : Option Markdown.Tag}
    (opens : opening.nesting = 1) (closes : closing.nesting = -1)
    (opened : openedTag (state.inHead || opening.containerName = "thead") opening
      (inside ++ closing :: behind) = .ok tag)
    (nested : openedFrom strict [] inside = some []) :
    ∃ (between : List Markdown.Event) (next : Walker),
      nestFrom strict [] (between.map .markdown) = some [] ∧ next.opened = state.opened ∧
      state.walk (opening :: inside ++ closing :: behind) = (next.walk behind).prepend
        ((tag.map Markdown.Event.start).toList ++ between ++ (tag.map Markdown.Event.finish).toList) := by
  obtain ⟨between, _, inHead, nothing, nestedBetween, walked⟩ :=
    exists_walk_append (tag :: state.opened) (state.inHead || opening.containerName = "thead")
      (closing :: behind) .nil nested
  cases nothing
  simp only [List.nil_append] at walked
  exact ⟨between, ⟨state.opened, if closing.kind = "thead_close" then false else inHead⟩,
    nestedBetween [], rfl, walk_around state behind opens closes opened walked⟩

def listAround (number : Int) (between : List Markdown.Event) : List Markdown.Event :=
  .start (.list (some number)) :: between ++ [.finish (.list (some number))]

/-- An ordered list of the target around what it holds. -/
def enumAround (number : Int) (between : List Event) : List Event :=
  .typst (.start (.numberedList number none false)) :: between ++
    [.typst (.finish (.numberedList number none false))]

/-- Around nested tokens, the walk starts and finishes a list with the number that it gets. -/
theorem exists_walk_orderedList (state : Walker) (behind : List Token) {start : Int}
    (kind : opening.kind = "ordered_list_open") (opens : opening.nesting = 1)
    (closes : closing.nesting = -1) (asks : askedStart? opening = some start)
    (nested : openedFrom strict [] inside = some []) :
    ∃ (between : List Markdown.Event) (next : Walker),
      nestFrom strict [] (between.map .markdown) = some [] ∧ next.opened = state.opened ∧
      state.walk (opening :: inside ++ closing :: behind) =
        (next.walk behind).prepend (listAround (keptStart opening start) between) := by
  have isList : opening.containerName = "ordered_list" := by
    rw [Token.containerName, kind]
    decide
  have opened : openedTag (state.inHead || opening.containerName = "thead") opening
      (inside ++ closing :: behind) = .ok (some (.list (some (keptStart opening start)))) := by
    rw [openedTag, isList]
    simp only [listStart_of_askedStart? asks]
    rfl
  exact exists_walk_around state behind opens closes opened nested

end Around

/-- A list keeps the number that it asks for unless this is zero, given as an integer. -/
theorem keptStart_eq_iff {token : Token} {start : Int} (asks : askedStart? token = some start) :
    keptStart token start = start ↔ token.attributes.lookup "start" ≠ some (.number 0) := by
  unfold keptStart
  split
  · next zero =>
      rw [askedStart?, zero] at asks
      cases asks
      simp [zero]
  · next notZero => exact iff_of_true rfl notZero

/-! ### The list stage -/

/-- The list stage replaces one event at a time. -/
theorem run_lists (memory : Memory) (events : List Event) :
    Stage.lists.run memory events = events.map (replaceTag listTag) := by
  induction events with
  | nil => rfl
  | cons event rest ih =>
      rw [run_cons, List.map_cons]
      exact congrArg (_ :: ·) ih

/-- The list stage hands on the number of a list. -/
theorem run_lists_around (memory : Memory) (number : Int) (between : List Markdown.Event) :
    Stage.lists.run memory ((listAround number between).map .markdown) =
      enumAround number (Stage.lists.run memory (between.map .markdown)) := by
  simp only [run_lists, listAround, List.map_cons, List.map_append, List.map_nil]
  rfl

/-- Items are items before and after the list stage. -/
theorem itemsFrom_run_lists (memory : Memory) (depth : Nat) (events : List Markdown.Event) :
    itemsFrom depth (Stage.lists.run memory (events.map .markdown)) =
      itemsFrom depth (events.map .markdown) := by
  rw [run_lists, List.map_map]
  induction events generalizing depth with
  | nil => rfl
  | cons event rest ih =>
      rw [List.map_cons, List.map_cons, itemsFrom, itemsFrom]
      cases event with
      | start tag =>
          cases tag with
          | list start => cases start <;> exact congrArg _ (ih _)
          | _ => exact congrArg _ (ih _)
      | finish tag =>
          cases tag with
          | list start => cases start <;> exact ih _
          | _ => exact ih _
      | _ => exact ih _

/-! ### From token to markup -/

/-- The list that an opening token asks to number from `start` is walked, converted and rendered with one
    number, from which the items directly in the list count on, whatever is opened and closed inside them.
    The number is `start`, unless this is zero and an integer. -/
theorem orderedList_numbers {opening closing : Token} {inside : List Token} {start : Int}
    (kind : opening.kind = "ordered_list_open") (opens : opening.nesting = 1)
    (closes : closing.nesting = -1) (asks : askedStart? opening = some start)
    (nested : openedFrom false [] inside = some []) :
    ∃ number : Int, number = keptStart opening start ∧
      (number = start ↔ opening.attributes.lookup "start" ≠ some (.number 0)) ∧
      (∀ (state : Walker) (behind : List Token), ∃ (between : List Markdown.Event) (next : Walker),
        balanceFault? (between.map .markdown) = none ∧ next.opened = state.opened ∧
          state.walk (opening :: inside ++ closing :: behind) =
            (next.walk behind).prepend (listAround number between)) ∧
        (∀ (memory : Memory) (between : List Markdown.Event),
          Stage.lists.run memory ((listAround number between).map .markdown) =
            enumAround number (Stage.lists.run memory (between.map .markdown)) ∧
          ∀ depth, itemsFrom depth (Stage.lists.run memory (between.map .markdown)) =
            itemsFrom depth (between.map .markdown)) ∧
          ∀ state before fragments last,
            Renders state (.typst (.start (.numberedList number none false)) :: before) fragments last →
            balanceFault? before = none →
              ∃ next, last.step (.typst (.start .item)) = .ok (last.itemIndent ++
                (if number = 1 then "+ " else toString (number + (itemsFrom 0 before : Int)) ++ ". "),
                next) := by
  refine ⟨keptStart opening start, rfl, keptStart_eq_iff asks, ?walked, ?converted, ?rendered⟩
  case walked =>
    intro state behind
    obtain ⟨between, next, nestedBetween, opened, walked⟩ :=
      exists_walk_orderedList state behind kind opens closes asks nested
    exact ⟨between, next, balanced_of_nestFrom nestedBetween, opened, walked⟩
  case converted =>
    intro memory between
    exact ⟨run_lists_around memory _ between, fun depth => itemsFrom_run_lists memory depth between⟩
  case rendered =>
    intro state before fragments last renders balanced
    exact step_item_of_renders rfl renders balanced

/-- The opening of a list that asks for a number. -/
def listOpening (start : Int) : Token :=
  { kind := "ordered_list_open", nesting := 1, attributes := [("start", .number start)] }

def listClosing : Token := { kind := "ordered_list_close", nesting := -1 }

/-- Two items of a list, the first of which holds a list from seven and a bullet list. -/
def itemsWithLists : List Token :=
  [{ kind := "list_item_open", nesting := 1 }, listOpening 7, { kind := "list_item_open", nesting := 1 },
   { kind := "list_item_close", nesting := -1 }, listClosing, { kind := "bullet_list_open", nesting := 1 },
   { kind := "list_item_open", nesting := 1 }, { kind := "list_item_close", nesting := -1 },
   { kind := "bullet_list_close", nesting := -1 }, { kind := "list_item_close", nesting := -1 },
   { kind := "list_item_open", nesting := 1 }, { kind := "list_item_close", nesting := -1 }]

def renderedItems : List Event :=
  [.start .item, .start (.numberedList 7 none false), .start .item, .finish .item,
    .finish (.numberedList 7 none false), .start (.bulletList none false), .start .item, .finish .item,
    .finish (.bulletList none false), .finish .item, .start .item, .finish .item].map .typst

/-- After two items of a list from three, the next one gets the number five. -/
theorem orderedList_numbers_fifth :
    ((listOpening 3).kind = "ordered_list_open" ∧ (listOpening 3).nesting = 1 ∧ listClosing.nesting = -1 ∧
        askedStart? (listOpening 3) = some 3 ∧ openedFrom false [] itemsWithLists = some []) ∧
      (∃ between next, Walker.initial.walk (listOpening 3 :: itemsWithLists ++ [listClosing]) =
        (Walker.walk next []).prepend (listAround 3 between)) ∧
      (∀ memory between, Stage.lists.run memory ((listAround 3 between).map .markdown) =
        enumAround 3 (Stage.lists.run memory (between.map .markdown))) ∧
      ∃ fragments last next,
        Renders .initial (.typst (.start (.numberedList 3 none false)) :: renderedItems) fragments last ∧
          last.step (.typst (.start .item)) = .ok ("5. ", next) := by
  have kind : (listOpening 3).kind = "ordered_list_open" := rfl
  have opens : (listOpening 3).nesting = 1 := rfl
  have closes : listClosing.nesting = -1 := rfl
  have asks : askedStart? (listOpening 3) = some 3 := rfl
  have nested : openedFrom false [] itemsWithLists = some [] := by decide
  obtain ⟨number, _, kept, walked, converted, rendered⟩ :=
    orderedList_numbers kind opens closes asks nested
  obtain rfl : number = 3 := kept.mpr (by decide)
  obtain ⟨between, next, _, _, whole⟩ := walked .initial []
  have list : nestFrom true Markup.Renderer.initial.frames
      (.typst (.start (.numberedList 3 none false)) :: renderedItems) =
        some [targetFrame (.numberedList 3 none false)] := by decide
  obtain ⟨fragments, last, renders, frames⟩ := renders_of_nestFrom (by decide) list
  obtain ⟨tag, opened, isList⟩ := List.map_eq_singleton_iff.mp frames
  rw [targetFrame_injective isList] at opened
  have noIndent : last.itemIndent = "" := by
    rw [Markup.Renderer.itemIndent, opened]
    rfl
  obtain ⟨after, fifth⟩ := rendered .initial renderedItems fragments last renders (by decide)
  rw [noIndent] at fifth
  exact ⟨⟨kind, opens, closes, asks, nested⟩, ⟨between, next, whole⟩,
    fun memory between => (converted memory between).1, fragments, last, after, renders, fifth⟩

/-- Zero given as an integer counts as absent: the list starts from one. -/
theorem eventsOfTokens_listFromZero :
    askedStart? (listOpening 0) = some 0 ∧
      eventsOfTokens [listOpening 0, listClosing] = .done (listAround 1 []) ∧
        eventsOfTokens [listOpening 0, listClosing] ≠ .done (listAround 0 []) := by
  decide

end Bindery.Prose
