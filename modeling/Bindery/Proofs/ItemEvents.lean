/-
Module: Bindery.Proofs.ItemEvents
Layer: Proofs
Purpose: The shape of the events of items. Items that stand where a summary puts them always have
  events: each chapter and each separator is a block of its own, no block holds a boundary of a part,
  and below a chapter there is no boundary at all.
Imports: Bindery.Book.Events
Main exports: Item.isPlaced, placed, Unmarked, chapterBlock, itemEvents_chapter,
  exists_itemEvents_below, exists_block, itemEvents_part, Emits, exists_emits
-/
import Bindery.Book.Events

namespace Bindery.Book

mutual

/-- Does an item stand where a summary puts it? Part titles stand only at the top, and foreign values
    nowhere. -/
def Item.isPlaced (top : Bool) : Item → Bool
  | .chapter _ subItems => placed false subItems
  | .separator => true
  | .part _ => top
  | .foreign _ => false

/-- Do all items stand where a summary puts them? -/
def placed (top : Bool) : List Item → Bool
  | [] => true
  | item :: rest => item.isPlaced top && placed top rest

end

def Item.isPartTitle : Item → Bool
  | .part _ => true
  | _ => false

/-- No event is a boundary of a part. -/
def Unmarked (events : List Event) : Prop :=
  ∀ event ∈ events, event.isPartStart = false ∧ event.isPartFinish = false

/-- The events of a chapter around the events of what is below it. -/
def chapterBlock (tokenizer : Tokenizer) (chapter : Chapter) (below : List Event) : List Event :=
  .start chapter.tag :: contentEvents tokenizer chapter.content ++ below ++ [.finish chapter.tag]

/-! ### Blocks without boundaries -/

theorem Unmarked.append {first second : List Event} (unmarkedFirst : Unmarked first)
    (unmarkedSecond : Unmarked second) : Unmarked (first ++ second) := by
  intro event member
  rcases List.mem_append.mp member with inFirst | inSecond
  · exact unmarkedFirst event inFirst
  · exact unmarkedSecond event inSecond

/-- Between its ends, the prose of a chapter is embedded. -/
theorem mem_contentEvents {tokenizer : Tokenizer} {content : String} {event : Event}
    (member : event ∈ contentEvents tokenizer content) :
    event = .start (.content .markdown) ∨ (∃ prose, event = .prose prose) ∨
      event = .finish (.content .markdown) := by
  unfold contentEvents at member
  split at member
  · cases member
  · simp only [List.cons_append, List.mem_cons, List.mem_append, List.mem_map, List.not_mem_nil,
      or_false] at member
    rcases member with opens | ⟨prose, _, rfl⟩ | closes
    · exact .inl opens
    · exact .inr (.inl ⟨prose, rfl⟩)
    · exact .inr (.inr closes)

/-- No tokenizer can bring in a boundary. -/
theorem unmarked_contentEvents (tokenizer : Tokenizer) (content : String) :
    Unmarked (contentEvents tokenizer content) := by
  intro event member
  rcases mem_contentEvents member with rfl | ⟨prose, rfl⟩ | rfl
  · exact ⟨rfl, rfl⟩
  · exact ⟨rfl, rfl⟩
  · exact ⟨rfl, rfl⟩

/-- A chapter consists of its ends, its prose and what is below it. -/
theorem mem_chapterBlock {tokenizer : Tokenizer} {chapter : Chapter} {below : List Event} {event : Event} :
    event ∈ chapterBlock tokenizer chapter below ↔
      event = .start chapter.tag ∨ event ∈ contentEvents tokenizer chapter.content ∨ event ∈ below ∨
        event = .finish chapter.tag := by
  simp [chapterBlock]

theorem unmarked_chapterBlock (tokenizer : Tokenizer) (chapter : Chapter) {below : List Event}
    (unmarkedBelow : Unmarked below) : Unmarked (chapterBlock tokenizer chapter below) := by
  have ends : ∀ event ∈ [Event.start chapter.tag, .finish chapter.tag],
      event.isPartStart = false ∧ event.isPartFinish = false := by
    simp [Chapter.tag, Event.isPartStart, Event.isPartFinish]
  intro event member
  rcases mem_chapterBlock.mp member with rfl | inContent | inBelow | rfl
  · exact ends _ (by simp)
  · exact unmarked_contentEvents tokenizer chapter.content event inContent
  · exact unmarkedBelow event inBelow
  · exact ends _ (by simp)

/-! ### One item after the other -/

/-- A chapter adds its block in front of what follows. -/
theorem itemEvents_chapter {tokenizer : Tokenizer} {subItems : List Item} {below : List Event}
    (ok : itemEvents tokenizer none subItems = .ok below) (current : Option String)
    (chapter : Chapter) (rest : List Item) :
    itemEvents tokenizer current (.chapter chapter subItems :: rest) =
      (itemEvents tokenizer current rest).map (chapterBlock tokenizer chapter below ++ ·) := by
  simp [itemEvents, ok, chapterBlock]

/-- Items below a chapter have events, none of them a boundary. -/
theorem exists_itemEvents_below (tokenizer : Tokenizer) :
    ∀ (items : List Item) (current : Option String), placed false items = true →
      ∃ events, itemEvents tokenizer current items = .ok events ∧ Unmarked events
  | [], _, _ => ⟨[], by simp [itemEvents], by simp [Unmarked]⟩
  | .chapter chapter subItems :: rest, current, isPlaced => by
      simp only [placed, Item.isPlaced, Bool.and_eq_true] at isPlaced
      obtain ⟨below, okBelow, unmarkedBelow⟩ :=
        exists_itemEvents_below tokenizer subItems none isPlaced.1
      obtain ⟨more, okMore, unmarkedMore⟩ :=
        exists_itemEvents_below tokenizer rest current isPlaced.2
      refine ⟨chapterBlock tokenizer chapter below ++ more, ?_,
        (unmarked_chapterBlock tokenizer chapter unmarkedBelow).append unmarkedMore⟩
      rw [itemEvents_chapter okBelow, okMore]
      rfl
  | .separator :: rest, current, isPlaced => by
      simp only [placed, Item.isPlaced, Bool.true_and] at isPlaced
      obtain ⟨more, okMore, unmarkedMore⟩ :=
        exists_itemEvents_below tokenizer rest current isPlaced
      refine ⟨.separator :: more, by rw [itemEvents, okMore]; rfl, ?_⟩
      intro event member
      rcases List.mem_cons.mp member with rfl | inMore
      · exact ⟨rfl, rfl⟩
      · exact unmarkedMore event inMore
  | .part _ :: _, _, isPlaced => by simp [placed, Item.isPlaced] at isPlaced
  | .foreign _ :: _, _, isPlaced => by simp [placed, Item.isPlaced] at isPlaced

/-- An item that is no title adds a block of its own in front of what follows. -/
theorem exists_block (tokenizer : Tokenizer) {item : Item} {rest : List Item}
    (isPlaced : placed true (item :: rest) = true) (noTitle : item.isPartTitle = false) :
    ∃ block, block ≠ [] ∧ Unmarked block ∧ ∀ current,
      itemEvents tokenizer current (item :: rest) =
        (itemEvents tokenizer current rest).map (block ++ ·) := by
  cases item with
  | chapter chapter subItems =>
      simp only [placed, Item.isPlaced, Bool.and_eq_true] at isPlaced
      obtain ⟨below, okBelow, unmarkedBelow⟩ :=
        exists_itemEvents_below tokenizer subItems none isPlaced.1
      exact ⟨chapterBlock tokenizer chapter below, by simp [chapterBlock],
        unmarked_chapterBlock tokenizer chapter unmarkedBelow,
        fun current => itemEvents_chapter okBelow current chapter rest⟩
  | separator =>
      exact ⟨[.separator], by simp, by simp [Unmarked, Event.isPartStart, Event.isPartFinish],
        fun current => by rw [itemEvents]; rfl⟩
  | part title => simp [Item.isPartTitle] at noTitle
  | foreign shown => simp [placed, Item.isPlaced] at isPlaced

/-- What follows an item is placed if the whole is. -/
theorem placed_tail {item : Item} {rest : List Item} (isPlaced : placed true (item :: rest) = true) :
    placed true rest = true := by
  simp only [placed, Bool.and_eq_true] at isPlaced
  exact isPlaced.2

/-- A title finishes the part that is open and starts the next. -/
theorem itemEvents_part (tokenizer : Tokenizer) (current : Option String) (title : String)
    {rest : List Item} {more : List Event}
    (ok : itemEvents tokenizer (some title) rest = .ok more) :
    itemEvents tokenizer current (.part title :: rest) =
      .ok (finishPart current ++ .start (.part (some title) none) :: more) := by
  rw [itemEvents, ok]
  rfl

/-! ### Success -/

theorem exists_of_bind_ok {α β ε : Type} {outcome : Except ε α} {next : α → Except ε β} {result : β}
    (ok : outcome.bind next = .ok result) : ∃ value, outcome = .ok value ∧ next value = .ok result := by
  cases outcome with
  | error fault => cases ok
  | ok value => exact ⟨value, rfl, ok⟩

theorem exists_of_map_ok {α β ε : Type} {outcome : Except ε α} {change : α → β} {result : β}
    (ok : outcome.map change = .ok result) : ∃ value, outcome = .ok value ∧ change value = result := by
  cases outcome with
  | error fault => cases ok
  | ok value => exact ⟨value, rfl, Except.ok.inj ok⟩

/-- Items have events, in the part whose title is open. -/
inductive Emits (tokenizer : Tokenizer) : Option String → List Item → List Event → Prop where
  | nil (current : Option String) : Emits tokenizer current [] []
  | chapter {current : Option String} (chapter : Chapter) {subItems rest : List Item}
      {below more : List Event} (inner : Emits tokenizer none subItems below)
      (behind : Emits tokenizer current rest more) :
      Emits tokenizer current (.chapter chapter subItems :: rest)
        (chapterBlock tokenizer chapter below ++ more)
  | separator {current : Option String} {rest : List Item} {more : List Event}
      (behind : Emits tokenizer current rest more) :
      Emits tokenizer current (.separator :: rest) (.separator :: more)
  | part {current : Option String} (title : String) {rest : List Item} {more : List Event}
      (behind : Emits tokenizer (some title) rest more) :
      Emits tokenizer current (.part title :: rest)
        (finishPart current ++ .start (.part (some title) none) :: more)

theorem Emits.itemEvents {tokenizer : Tokenizer} {current : Option String} {items : List Item}
    {events : List Event} (emits : Emits tokenizer current items events) :
    itemEvents tokenizer current items = .ok events := by
  induction emits with
  | nil current => rw [Book.itemEvents]
  | chapter chapter _ _ okBelow okMore =>
      rw [itemEvents_chapter okBelow, okMore]
      rfl
  | separator _ okMore =>
      rw [Book.itemEvents, okMore]
      rfl
  | part title _ okMore => exact itemEvents_part tokenizer _ title okMore

theorem emits_of_itemEvents {tokenizer : Tokenizer} : ∀ {items : List Item} {current : Option String}
    {events : List Event}, itemEvents tokenizer current items = .ok events →
      Emits tokenizer current items events
  | [], current, events, ok => by
      rw [itemEvents] at ok
      rw [← Except.ok.inj ok]
      exact .nil current
  | .chapter chapter subItems :: rest, current, events, ok => by
      cases okBelow : itemEvents tokenizer none subItems with
      | error fault => simp [itemEvents, okBelow] at ok
      | ok below =>
          rw [itemEvents_chapter okBelow] at ok
          obtain ⟨more, okMore, rfl⟩ := exists_of_map_ok ok
          exact .chapter chapter (emits_of_itemEvents okBelow) (emits_of_itemEvents okMore)
  | .separator :: rest, current, events, ok => by
      rw [itemEvents] at ok
      obtain ⟨more, okMore, rfl⟩ := exists_of_map_ok ok
      exact .separator (emits_of_itemEvents okMore)
  | .part title :: rest, current, events, ok => by
      rw [itemEvents] at ok
      obtain ⟨more, okMore, rfl⟩ := exists_of_map_ok ok
      exact .part title (emits_of_itemEvents okMore)
  | .foreign _ :: _, _, _, ok => by simp [itemEvents] at ok

/-- Items that stand where a summary puts them have events. -/
theorem exists_emits (tokenizer : Tokenizer) :
    ∀ {top : Bool} {items : List Item} (current : Option String), placed top items = true →
      ∃ events, Emits tokenizer current items events
  | _, [], current, _ => ⟨[], .nil current⟩
  | _, .chapter chapter _ :: _, current, isPlaced => by
      simp only [placed, Item.isPlaced, Bool.and_eq_true] at isPlaced
      obtain ⟨_, inner⟩ := exists_emits tokenizer none isPlaced.1
      obtain ⟨_, behind⟩ := exists_emits tokenizer current isPlaced.2
      exact ⟨_, .chapter chapter inner behind⟩
  | _, .separator :: _, current, isPlaced => by
      simp only [placed, Bool.and_eq_true] at isPlaced
      obtain ⟨_, behind⟩ := exists_emits tokenizer current isPlaced.2
      exact ⟨_, .separator behind⟩
  | _, .part title :: _, _, isPlaced => by
      simp only [placed, Bool.and_eq_true] at isPlaced
      obtain ⟨_, behind⟩ := exists_emits tokenizer (some title) isPlaced.2
      exact ⟨_, .part title behind⟩
  | _, .foreign _ :: _, _, isPlaced => by simp [placed, Item.isPlaced] at isPlaced

end Bindery.Book
