/-
Module: Bindery.Proofs.ItemMarkers
Layer: Proofs
Purpose: How items are numbered. An item belongs to the list directly around it, and is the k-th if k items
  have been opened there before. While a list is open, the renderer keeps its next number below those of the
  lists inside it: whatever is opened and closed in an item, the next item of the list goes on from the
  number of items opened directly in it.
Imports: Bindery.Proofs.RendererState
Main exports: itemsFrom, writtenNumber, markerOf, WithinList, withinList_step, withinList_of_renders,
  step_item_of_renders
-/
import Bindery.Proofs.RendererState

namespace Bindery

/-! ### Items of a list -/

/-- Is the container an item of a list, of prose or of the target? -/
def isItem : Tag → Bool
  | .markdown .item => true
  | .typst .item => true
  | _ => false

theorem isItem_typst (tag : Typst.Tag) : isItem (.typst tag) = true ↔ tag = .item := by
  cases tag <;> simp [isItem]

/-- How many items are opened outside all containers, `depth` of which are open at first. -/
def itemsFrom (depth : Nat) : List Event → Nat
  | [] => 0
  | event :: rest =>
    match event.bracket with
    | .leaf => itemsFrom depth rest
    | .opening tag => (if depth = 0 ∧ isItem tag then 1 else 0) + itemsFrom (depth + 1) rest
    | .closing _ => itemsFrom (depth - 1) rest

namespace Markup

/-- The number that is written for an item in a list after as many others. A bullet has none, and items from
    one on are counted where the markup is typeset. -/
def writtenNumber (list : Typst.Tag) (items : Nat) : Option Int :=
  match list with
  | .numberedList start _ _ => if start = 1 then none else some (start + items)
  | _ => none

theorem writtenNumber_auto (pattern : Option String) (tight : Bool) (items : Nat) :
    writtenNumber (.numberedList 1 pattern tight) items = none := rfl

theorem writtenNumber_explicit {start : Int} (explicit : start ≠ 1) (pattern : Option String)
    (tight : Bool) (items : Nat) :
    writtenNumber (.numberedList start pattern tight) items = some (start + items) := if_neg explicit

def markerOf (list : Typst.Tag) (items : Nat) : String :=
  match list with
  | .numberedList start _ _ => if start = 1 then "+ " else toString (start + (items : Int)) ++ ". "
  | _ => "- "

/-! ### Inside a list -/

/-- In a list, in which as many items have been opened, the containers `inner` are open, and the next number
    of the list is below those of the lists among them. -/
structure WithinList (list : Typst.Tag) (items : Nat) (inner : List Typst.Tag) (state : Renderer) :
    Prop where
  opened : ∃ around, state.opened = inner ++ list :: around
  numbers : ∃ own outer, state.numbers = own ++ writtenNumber list items :: outer ∧
    own.length = inner.countP isList

section Steps

variable {list tag : Typst.Tag} {items : Nat} {inner : List Typst.Tag} {state next : Renderer}
  {fragment : String}

/-- An item directly in the list gets the marker of its number, and is counted. -/
theorem itemMarker_of_withinList (isList : isList list = true)
    (within : WithinList list items [] state) :
    ∃ next, state.itemMarker = .ok (state.itemIndent ++ markerOf list items, next) ∧
      next.opened = state.opened ∧ WithinList list (items + 1) [] next := by
  obtain ⟨⟨around, opened⟩, own, outer, numbers, noList⟩ := within
  obtain rfl : own = [] := List.length_eq_zero_iff.mp noList
  rw [List.nil_append] at opened numbers
  unfold Renderer.itemMarker
  rw [opened, numbers, List.head?_cons]
  cases list with
  | bulletList marker tight =>
      exact ⟨state, rfl, opened, ⟨around, opened⟩, [], outer, numbers, rfl⟩
  | numberedList start pattern tight =>
      by_cases auto : start = 1
      · subst auto
        rw [writtenNumber_auto] at numbers ⊢
        exact ⟨state, rfl, opened, ⟨around, opened⟩, [], outer, numbers, rfl⟩
      · rw [writtenNumber_explicit auto]
        simp only [markerOf, if_neg auto, String.append_assoc]
        refine ⟨_, rfl, rfl, ⟨around, rfl⟩, [], outer, ?_, rfl⟩
        rw [writtenNumber_explicit auto, Int.natCast_succ, ← Int.add_assoc]
        rfl
  | _ => cases isList

/-- A marker changes at most the number of the innermost container, which is a list. -/
theorem itemMarker_below {marker : String} (marked : state.itemMarker = .ok (marker, next)) :
    next.numbers.tail = state.numbers.tail ∧
      ∃ top around, state.opened = top :: around ∧ isList top = true := by
  unfold Renderer.itemMarker at marked
  cases opened : state.opened with
  | nil =>
      rw [opened] at marked
      cases marked
  | cons top around =>
      rw [opened] at marked
      cases top with
      | bulletList marker tight =>
          cases marked
          exact ⟨rfl, _, _, rfl, rfl⟩
      | numberedList start pattern tight =>
          simp only [List.head?_cons] at marked
          split at marked
          · next numbers =>
              cases marked
              rw [numbers]
              exact ⟨rfl, _, _, rfl, rfl⟩
          · cases marked
            exact ⟨rfl, _, _, rfl, rfl⟩
      | _ => cases marked

/-- An item in a list inside the list leaves the next number of the list alone. -/
theorem withinList_of_itemMarker {top : Typst.Tag} {marker : String}
    (within : WithinList list items (top :: inner) state)
    (marked : state.itemMarker = .ok (marker, next)) : WithinList list items (top :: inner) next := by
  obtain ⟨⟨around, opened⟩, own, outer, numbers, lists⟩ := within
  obtain ⟨sameOpened, _, _, sameLength⟩ := itemMarker_counts marked
  obtain ⟨sameTail, _, _, innermost, isList⟩ := itemMarker_below marked
  obtain rfl := (List.cons.inj (opened.symm.trans innermost)).1
  rw [List.countP_cons_of_pos isList] at lists
  cases own with
  | nil => cases lists
  | cons number own =>
      rw [numbers] at sameLength sameTail
      cases changed : next.numbers with
      | nil =>
          rw [changed] at sameLength
          cases sameLength
      | cons number' rest =>
          rw [changed] at sameTail
          refine ⟨⟨around, sameOpened.trans opened⟩, number' :: own, outer, ?_, ?_⟩
          · exact changed.trans (congrArg (number' :: ·) sameTail)
          · exact lists.trans (List.countP_cons_of_pos isList).symm

/-- Entering a list puts the number of its first item in front; entering anything else but an item leaves the
    numbers alone. -/
theorem enter_numbers (noItem : tag ≠ .item) (entered : state.enter tag = .ok (fragment, next)) :
    next.numbers = if isList tag then writtenNumber tag 0 :: state.numbers else state.numbers := by
  cases tag with
  | item => exact absurd rfl noItem
  | numberedList start pattern tight =>
      cases entered
      by_cases auto : start = 1
      · simp [auto, isList, writtenNumber_auto]
      · simp [auto, isList, writtenNumber_explicit]
  | showRule kind selector rule function =>
      cases kind <;> cases rule <;> cases function <;> cases entered <;> rfl
  | link kind destination => cases kind <;> cases entered <;> rfl
  | _ =>
      cases entered
      rfl

/-- Leaving a list takes its number away; leaving anything else leaves the numbers alone. -/
theorem leave_numbers (state : Renderer) (tag : Typst.Tag) :
    (state.leave tag).2.numbers = if isList tag then state.numbers.tail else state.numbers := by
  cases tag with
  | link kind destination => cases kind <;> rfl
  | _ => rfl

/-- A container that is opened inside the list has its own number if it is a list, and is counted if it is an
    item directly in the list. -/
theorem withinList_enter (listed : isList list = true) (within : WithinList list items inner state)
    (entered : state.enter tag = .ok (fragment, next)) :
    WithinList list (items + if inner = [] ∧ tag = .item then 1 else 0) (tag :: inner)
      { next with opened := tag :: next.opened } := by
  by_cases item : tag = .item
  · subst item
    have opens {items : Nat} (marked : WithinList list items inner next) :
        WithinList list items (.item :: inner) { next with opened := .item :: next.opened } := by
      obtain ⟨⟨around, opened⟩, numbers⟩ := marked
      exact ⟨⟨around, congrArg (Typst.Tag.item :: ·) opened⟩, numbers⟩
    cases inner with
    | nil =>
        obtain ⟨next', marked, _, counted⟩ := itemMarker_of_withinList listed within
        obtain ⟨_, rfl⟩ := eq_of_ok marked entered
        exact opens counted
    | cons top inner => exact opens (withinList_of_itemMarker within entered)
  · obtain ⟨⟨around, opened⟩, own, outer, numbers, lists⟩ := within
    have changed := enter_numbers item entered
    rw [if_neg fun direct => item direct.2]
    refine ⟨⟨around, congrArg (tag :: ·) ((enter_opened entered).trans opened)⟩, ?_⟩
    cases isList : isList tag with
    | true =>
        rw [isList, if_pos rfl] at changed
        refine ⟨writtenNumber tag 0 :: own, outer, ?_, ?_⟩
        · simp [changed, numbers]
        · rw [List.countP_cons_of_pos isList, List.length_cons, lists]
    | false =>
        rw [isList, if_neg Bool.false_ne_true] at changed
        refine ⟨own, outer, changed.trans numbers, ?_⟩
        rw [List.countP_cons_of_neg (by simp [isList]), lists]

/-- A container that is closed inside the list takes its number with it if it is a list. -/
theorem withinList_leave {below : List Typst.Tag} (within : WithinList list items (tag :: inner) state)
    (opened : state.opened = tag :: below) :
    WithinList list items inner ({ state with opened := below }.leave tag).2 := by
  obtain ⟨⟨around, openedInner⟩, own, outer, numbers, lists⟩ := within
  have below_eq : below = inner ++ list :: around := (List.cons.inj (opened.symm.trans openedInner)).2
  refine ⟨⟨around, (leave_opened _ tag).trans below_eq⟩, ?_⟩
  rw [leave_numbers]
  cases isList : isList tag with
  | true =>
      rw [List.countP_cons_of_pos isList] at lists
      cases own with
      | nil => cases lists
      | cons number own => exact ⟨own, outer, congrArg List.tail numbers, Nat.succ.inj lists⟩
  | false =>
      rw [List.countP_cons_of_neg (by simp [isList])] at lists
      exact ⟨own, outer, numbers, lists⟩

/-- A list that has just been opened has no items. -/
theorem withinList_start (listed : isList list = true) (entered : state.enter list = .ok (fragment, next)) :
    WithinList list 0 [] { next with opened := list :: next.opened } := by
  have noItem : list ≠ .item := by
    rintro rfl
    cases listed
  have numbered := enter_numbers noItem entered
  rw [listed, if_pos rfl] at numbered
  exact ⟨⟨next.opened, rfl⟩, [], state.numbers, numbered, rfl⟩

/-- One event that stays inside the list: its next number stays in its place, and its items are counted. -/
theorem withinList_step (listed : isList list = true) (within : WithinList list items inner state)
    {event : Event} {rest : List Event}
    (balanced : (balancedFrom (inner.map .typst) (event :: rest)).fault = none)
    (stepped : state.step event = .ok (fragment, next)) :
    ∃ items' inner', WithinList list items' inner' next ∧
      (balancedFrom (inner'.map .typst) rest).fault = none ∧
        items' + itemsFrom inner'.length rest = items + itemsFrom inner.length (event :: rest) := by
  rw [balancedFrom] at balanced
  rw [itemsFrom]
  rcases step_cases stepped with ⟨tag, inner', rfl, entered, rfl⟩ | ⟨tag, below, rfl, opened, left⟩ |
    ⟨leaf, rfl⟩
  · refine ⟨_, tag :: inner, withinList_enter listed within entered, balanced, ?_⟩
    simp only [Event.bracket, Typst.Event.bracket, List.length_cons, List.length_eq_zero_iff,
      isItem_typst, Nat.add_assoc]
  · cases inner with
    | nil => cases balanced
    | cons top inner =>
        simp only [Event.bracket, Typst.Event.bracket, List.map_cons, Tag.typst.injEq] at balanced
        split at balanced
        · next same =>
            subst same
            have withinBelow := withinList_leave within opened
            rw [left] at withinBelow
            exact ⟨items, inner, withinBelow, balanced, rfl⟩
        · cases balanced
  · rw [leaf] at balanced ⊢
    exact ⟨items, inner, within, balanced, rfl⟩

/-- While events stay inside the list, its next number counts the items directly in it. -/
theorem withinList_of_renders {last : Renderer} {events : List Event} {fragments : List String}
    (listed : isList list = true) (within : WithinList list items inner state)
    (balanced : (balancedFrom (inner.map .typst) events).fault = none)
    (renders : Renders state events fragments last) :
    WithinList list (items + itemsFrom inner.length events) [] last := by
  induction renders generalizing items inner with
  | nil state =>
      cases inner with
      | nil => exact within
      | cons top below => cases balanced
  | cons stepped _ ih =>
      obtain ⟨items', inner', within', balanced', counted⟩ := withinList_step listed within balanced stepped
      rw [← counted]
      exact ih within' balanced'

/-- The item that follows in a list gets the marker of its number: that of the list and, on top, how many
    items have been opened directly in it. -/
theorem step_item_of_renders {last : Renderer} {before : List Event} {fragments : List String}
    (listed : isList list = true)
    (renders : Renders state (.typst (.start list) :: before) fragments last)
    (balanced : balanceFault? before = none) :
    ∃ next, last.step (.typst (.start .item)) =
      .ok (last.itemIndent ++ markerOf list (itemsFrom 0 before), next) := by
  cases renders with
  | cons stepped more =>
      obtain ⟨inner, entered, rfl⟩ := enter_of_step stepped
      have started := withinList_of_renders listed (withinList_start listed entered) balanced more
      rw [Nat.zero_add] at started
      obtain ⟨next, marked, _⟩ := itemMarker_of_withinList listed started
      simp only [Renderer.step, Renderer.stepTypst, Renderer.enter, marked]
      exact ⟨_, rfl⟩

end Steps

end Markup

end Bindery
