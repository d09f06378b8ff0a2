/-
Module: Bindery.Proofs.PartCoverage
Layer: Proofs
Purpose: When the events of items lie in parts. Every event between two boundaries has to be inside
  exactly one part. What stands before the first title gets a part of its own only as long as no
  title finishes another; from the second title on it is left outside. The main theorem gives the
  exact condition.
Imports: Bindery.Proofs.ItemEvents, Mathlib.Data.List.TakeDrop
Main exports: coveredFrom, leadingItems, titleCount, covered_eventsOfItems_iff
-/
import Bindery.Proofs.ItemEvents
import Mathlib.Data.List.TakeDrop

namespace Bindery.Book

/-- The number of open parts after an event. -/
def partDepth (depth : Int) (event : Bindery.Event) : Int :=
  if startsPart event then depth + 1 else if finishesPart event then depth - 1 else depth

/-- Does every event that is no boundary lie in exactly one part, with `depth` parts open before?
    Boundaries alternate between one and no open part, and none is open at the end. -/
def coveredFrom (depth : Int) : List Bindery.Event → Bool
  | [] => depth = 0
  | event :: rest =>
    partDepth depth event = (if finishesPart event then 0 else 1) &&
      coveredFrom (partDepth depth event) rest

/-- The items before the first title. -/
def leadingItems (items : List Item) : List Item := items.takeWhile fun item => !item.isPartTitle

/-- How many titles there are at top level. -/
def titleCount (items : List Item) : Nat := items.countP Item.isPartTitle

/-! ### Sequences of boundaries and blocks -/

theorem marker_of_unmarked {block : List Event} (unmarked : Unmarked block) :
    ∀ event ∈ block.map Bindery.Event.book,
      startsPart event = false ∧ finishesPart event = false := by
  intro event member
  rcases List.mem_map.mp member with ⟨inner, inBlock, rfl⟩
  exact unmarked inner inBlock

theorem find?_marker_of_unmarked {block : List Event} (unmarked : Unmarked block) :
    (block.map Bindery.Event.book).find? isPartMarker = none := by
  rw [List.find?_eq_none]
  intro event member
  obtain ⟨noStart, noFinish⟩ := marker_of_unmarked unmarked event member
  simp [isPartMarker, noStart, noFinish]

/-- A block inside a part does not matter. -/
theorem coveredFrom_block {block : List Event} (unmarked : Unmarked block)
    (rest : List Bindery.Event) :
    coveredFrom 1 (block.map .book ++ rest) = coveredFrom 1 rest := by
  induction block with
  | nil => rfl
  | cons event block ih =>
      obtain ⟨noStart, noFinish⟩ := marker_of_unmarked unmarked (.book event) (by simp)
      have unmarkedBlock : Unmarked block := fun other member =>
        unmarked other (List.mem_cons_of_mem _ member)
      simp [coveredFrom, partDepth, noStart, noFinish, ih unmarkedBlock]

/-- A block outside every part is not covered, whatever follows. -/
theorem coveredFrom_outside {block : List Event} (unmarked : Unmarked block) (inhabited : block ≠ [])
    (rest : List Bindery.Event) : coveredFrom 0 (block.map .book ++ rest) = false := by
  cases block with
  | nil => exact absurd rfl inhabited
  | cons event block =>
      obtain ⟨noStart, noFinish⟩ := marker_of_unmarked unmarked (.book event) (by simp)
      simp [coveredFrom, partDepth, noStart, noFinish]

@[simp] theorem coveredFrom_start (title : Option String) (rest : List Bindery.Event) :
    coveredFrom 0 (.book (.start (.part title none)) :: rest) = coveredFrom 1 rest := by
  simp [coveredFrom, partDepth, startsPart, finishesPart, Event.isPartStart, Event.isPartFinish]

@[simp] theorem coveredFrom_finish (title : Option String) (rest : List Bindery.Event) :
    coveredFrom 1 (.book (.finish (.part title none)) :: rest) = coveredFrom 0 rest := by
  simp [coveredFrom, partDepth, startsPart, finishesPart, Event.isPartStart, Event.isPartFinish]

/-! ### After the first title -/

def titledStart (title : String) : Event := .start (.part (some title) none)

/-- Events in a part with a title: whatever boundaries are among them, a part is open after them, and
    the last boundary up to there is its start. -/
structure WithinPart (title : String) (events : List Event) : Prop where
  covered : ∀ rest, coveredFrom 1 (events.map .book ++ rest) = coveredFrom 1 rest
  lastOpens : ∃ last, ((titledStart title :: events).map .book).reverse.find? isPartMarker =
    some (.book (.start (.part last none)))

theorem WithinPart.nil (title : String) : WithinPart title [] := ⟨fun _ => rfl, some title, rfl⟩

theorem WithinPart.block {title : String} {block more : List Event} (unmarked : Unmarked block)
    (within : WithinPart title more) : WithinPart title (block ++ more) := by
  have noMarker : (block.map Bindery.Event.book).reverse.find? isPartMarker = none := by
    rw [← List.map_reverse]
    exact find?_marker_of_unmarked fun event member => unmarked event (List.mem_reverse.mp member)
  refine ⟨fun rest => ?_, ?_⟩
  · rw [List.map_append, List.append_assoc, coveredFrom_block unmarked, within.covered]
  · rcases within.lastOpens with ⟨last, found⟩
    refine ⟨last, ?_⟩
    simpa [List.find?_append, noMarker] using found

theorem WithinPart.part {title : String} (current : String) {more : List Event}
    (within : WithinPart title more) :
    WithinPart current (finishPart (some current) ++ titledStart title :: more) := by
  refine ⟨fun rest => ?_, ?_⟩
  · simp [finishPart, titledStart, within.covered]
  · rcases within.lastOpens with ⟨last, found⟩
    refine ⟨last, ?_⟩
    rw [← List.cons_append, List.map_append, List.reverse_append, List.find?_append, found]
    rfl

/-- After a title, the events stay within parts, and there is a finish among them exactly if there
    is a further title. -/
theorem exists_withinPart (tokenizer : Tokenizer) (title : String) {items : List Item}
    (isPlaced : placed true items = true) :
    ∃ events, itemEvents tokenizer (some title) items = .ok events ∧ WithinPart title events ∧
      events.any Event.isPartFinish = items.any Item.isPartTitle := by
  induction items generalizing title with
  | nil => exact ⟨[], by simp [itemEvents], .nil title, rfl⟩
  | cons item rest ih =>
      cases isTitle : item.isPartTitle with
      | false =>
          obtain ⟨block, _, unmarked, adds⟩ := exists_block tokenizer isPlaced isTitle
          obtain ⟨more, ok, within, finishes⟩ := ih title (placed_tail isPlaced)
          have noFinish : block.any Event.isPartFinish = false := by
            simpa using fun event member => (unmarked event member).2
          refine ⟨block ++ more, by rw [adds, ok]; rfl, within.block unmarked, ?_⟩
          rw [List.any_append, noFinish, finishes, List.any_cons, isTitle]
      | true =>
          cases item with
          | part next =>
              obtain ⟨more, ok, within, _⟩ := ih next (placed_tail isPlaced)
              refine ⟨_, itemEvents_part tokenizer (some title) next ok, within.part title, ?_⟩
              simp [finishPart, Event.isPartFinish, Item.isPartTitle]
          | chapter => simp [Item.isPartTitle] at isTitle
          | separator => simp [Item.isPartTitle] at isTitle
          | foreign => simp [Item.isPartTitle] at isTitle

/-! ### Before the first title -/

/-- The items before the first title add a block, which is empty only if there are none. -/
theorem exists_leadingBlock (tokenizer : Tokenizer) {items : List Item}
    (isPlaced : placed true items = true) :
    ∃ block, Unmarked block ∧ (block = [] ↔ leadingItems items = []) ∧ ∀ current,
      itemEvents tokenizer current items =
        (itemEvents tokenizer current (items.dropWhile fun item => !item.isPartTitle)).map
          (block ++ ·) := by
  induction items with
  | nil => exact ⟨[], by simp [Unmarked], by simp [leadingItems], fun _ => by simp [itemEvents, Except.map]⟩
  | cons item rest ih =>
      cases isTitle : item.isPartTitle with
      | false =>
          obtain ⟨block, inhabited, unmarked, adds⟩ := exists_block tokenizer isPlaced isTitle
          obtain ⟨more, unmarkedMore, _, addsMore⟩ := ih (placed_tail isPlaced)
          refine ⟨block ++ more, unmarked.append unmarkedMore, ?_, fun current => ?_⟩
          · simp [leadingItems, isTitle, inhabited]
          · rw [adds, addsMore, List.dropWhile_cons_of_pos (by simp [isTitle])]
            cases itemEvents tokenizer current (rest.dropWhile fun item => !item.isPartTitle) <;>
              simp [Except.map]
      | true =>
          refine ⟨[], by simp [Unmarked], by simp [leadingItems, isTitle], fun current => ?_⟩
          rw [List.dropWhile_cons_of_neg (by simp [isTitle])]
          cases itemEvents tokenizer current (item :: rest) <;> simp [Except.map]

/-- After the items before the first title comes nothing or a title. -/
theorem dropWhile_eq_nil_or_part (items : List Item) :
    (items.dropWhile fun item => !item.isPartTitle) = [] ∨
      ∃ title rest, (items.dropWhile fun item => !item.isPartTitle) = .part title :: rest := by
  induction items with
  | nil => exact .inl rfl
  | cons item rest ih =>
      cases item with
      | part title => exact .inr ⟨title, rest, by simp [Item.isPartTitle]⟩
      | chapter => simpa [Item.isPartTitle] using ih
      | separator => simpa [Item.isPartTitle] using ih
      | foreign => simpa [Item.isPartTitle] using ih

theorem titleCount_eq (items : List Item) :
    titleCount items = titleCount (items.dropWhile fun item => !item.isPartTitle) := by
  induction items with
  | nil => rfl
  | cons item rest ih =>
      cases item <;> simp_all [titleCount, Item.isPartTitle]

theorem placed_dropWhile {items : List Item} (isPlaced : placed true items = true) :
    placed true (items.dropWhile fun item => !item.isPartTitle) = true := by
  induction items with
  | nil => exact isPlaced
  | cons item rest ih =>
      rw [List.dropWhile_cons]
      split
      · exact ih (placed_tail isPlaced)
      · exact isPlaced

/-! ### The repair -/

/-- The events of a block, a title and what follows it. -/
def aroundTitle (block : List Event) (title : String) (events : List Event) :
    List Bindery.Event :=
  block.map .book ++ .book (titledStart title) :: events.map .book

/-- The last part is finished at the very end, whatever stands before its title. -/
theorem closeLast_of_lastOpens (before : List Bindery.Event) {title : String} {events : List Event}
    {last : Option String}
    (found : ((titledStart title :: events).map Bindery.Event.book).reverse.find? isPartMarker =
      some (.book (.start (.part last none)))) :
    closeLast (before ++ .book (titledStart title) :: events.map .book) =
      before ++ .book (titledStart title) :: events.map .book ++
        [.book (.finish (.part last none))] := by
  rw [List.map_cons] at found
  rw [closeLast, List.reverse_append, List.find?_append, found]
  rfl

/-- A first boundary that is a start needs no start in front. -/
theorem openFirst_aroundTitle {block : List Event} (unmarked : Unmarked block) (title : String)
    (events : List Event) :
    openFirst (aroundTitle block title events) = aroundTitle block title events := by
  have isStart : isPartMarker (.book (titledStart title)) = true := rfl
  rw [openFirst, aroundTitle, List.find?_append, find?_marker_of_unmarked unmarked,
    List.find?_cons_of_pos isStart]
  rfl

/-- What stands before the first start of a part is the block before the title. -/
theorem span_aroundTitle {block : List Event} (unmarked : Unmarked block) (title : String)
    (events : List Event) :
    (aroundTitle block title events).span (fun event => !startsPart event) =
      (block.map .book, aroundTitle [] title events) := by
  have leads : ∀ event ∈ block.map Bindery.Event.book, (!startsPart event) = true := by
    intro event member
    simp [(marker_of_unmarked unmarked event member).1]
  have stops : startsPart (.book (titledStart title)) = true := rfl
  rw [List.span_eq_takeWhile_dropWhile, aroundTitle, List.takeWhile_append_of_pos leads,
    List.dropWhile_append_of_pos leads]
  simp [aroundTitle, stops]

/-- A block before the first title gets a part of its own. -/
theorem coverLeading_aroundTitle {block : List Event} (unmarked : Unmarked block)
    (inhabited : block ≠ []) (title : String) (events : List Event) :
    coverLeading (aroundTitle block title events) =
      untitledStart :: block.map .book ++ untitledFinish :: aroundTitle [] title events := by
  rw [coverLeading, span_aroundTitle unmarked]
  cases block with
  | nil => exact absurd rfl inhabited
  | cons event block => rfl

theorem coverLeading_nil (title : String) (events : List Event) :
    coverLeading (aroundTitle [] title events) = aroundTitle [] title events := by
  rw [coverLeading, span_aroundTitle (by simp [Unmarked])]
  rfl

theorem any_finishesPart_aroundTitle {block : List Event} (unmarked : Unmarked block)
    (title : String) (events : List Event) :
    (aroundTitle block title events).any finishesPart = events.any Event.isPartFinish := by
  have noFinish : (block.map Bindery.Event.book).any finishesPart = false := by
    rw [List.any_eq_false]
    intro event member
    simp [(marker_of_unmarked unmarked event member).2]
  rw [aroundTitle, List.any_append, noFinish, List.any_cons, List.any_map]
  rfl

theorem any_isPartMarker_aroundTitle (block : List Event) (title : String) (events : List Event) :
    (aroundTitle block title events).any isPartMarker = true := by
  rw [aroundTitle, List.any_append, List.any_cons]
  simp [isPartMarker, startsPart, titledStart, Event.isPartStart]

/-! ### Coverage after the repair -/

/-- Without titles, one part without title covers everything. -/
theorem covered_without_titles {block : List Event} (unmarked : Unmarked block) :
    coveredFrom 0 (normalizeParts (block.map .book)) = true := by
  have noMarker : (block.map Bindery.Event.book).any isPartMarker = false := by
    have none := find?_marker_of_unmarked unmarked
    rw [List.find?_eq_none] at none
    simpa using none
  rw [normalizeParts, noMarker]
  simp only [Bool.not_false, if_true, List.cons_append, untitledStart, untitledFinish,
    coveredFrom_start, coveredFrom_block unmarked, coveredFrom_finish]
  rfl

/-- The parts from the first title on are covered once the last one is finished. -/
theorem covered_from_title {title : String} {events : List Event} (within : WithinPart title events)
    (last : Option String) :
    coveredFrom 0 (.book (titledStart title) :: events.map .book ++
      [.book (.finish (.part last none))]) = true := by
  rw [titledStart, List.cons_append, coveredFrom_start, within.covered, coveredFrom_finish]
  rfl

/-- With one title, what stands before it is covered as well. -/
theorem covered_with_one_title {block : List Event} (unmarked : Unmarked block) {title : String}
    {events : List Event} (within : WithinPart title events)
    (noFinish : events.any Event.isPartFinish = false) :
    coveredFrom 0 (normalizeParts (aroundTitle block title events)) = true := by
  rcases within.lastOpens with ⟨last, found⟩
  rw [normalizeParts, any_isPartMarker_aroundTitle, any_finishesPart_aroundTitle unmarked, noFinish]
  simp only [Bool.not_true, Bool.false_eq_true, if_false]
  by_cases empty : block = []
  · subst empty
    rw [coverLeading_nil, aroundTitle, closeLast_of_lastOpens _ found]
    exact covered_from_title within last
  · have close := closeLast_of_lastOpens
      (untitledStart :: block.map .book ++ [untitledFinish]) found
    rw [coverLeading_aroundTitle unmarked empty, aroundTitle, List.map_nil, List.nil_append,
      List.append_cons, close, List.append_assoc, List.append_assoc, List.cons_append,
      untitledStart, coveredFrom_start, coveredFrom_block unmarked, List.cons_append,
      List.nil_append, untitledFinish, coveredFrom_finish]
    exact covered_from_title within last

/-- With more titles, what stands before the first is covered only if there is nothing. -/
theorem covered_with_titles_iff {block : List Event} (unmarked : Unmarked block) {title : String}
    {events : List Event} (within : WithinPart title events)
    (finishes : events.any Event.isPartFinish = true) :
    coveredFrom 0 (normalizeParts (aroundTitle block title events)) = true ↔ block = [] := by
  rcases within.lastOpens with ⟨last, found⟩
  rw [normalizeParts, any_isPartMarker_aroundTitle, any_finishesPart_aroundTitle unmarked, finishes]
  simp only [Bool.not_true, Bool.false_eq_true, if_false, if_true]
  rw [openFirst_aroundTitle unmarked, aroundTitle, closeLast_of_lastOpens _ found]
  constructor
  · intro covered
    by_contra inhabited
    rw [List.append_assoc, coveredFrom_outside unmarked inhabited] at covered
    exact absurd covered (by decide)
  · rintro rfl
    exact covered_from_title within last

/-- The events of items lie in parts exactly if nothing stands before the first title, or at most one
    title follows. -/
theorem covered_eventsOfItems_iff (tokenizer : Tokenizer) (items : List Item)
    (isPlaced : placed true items = true) :
    ∃ events, eventsOfItems tokenizer items = .ok events ∧
      (coveredFrom 0 events = true ↔ leadingItems items = [] ∨ titleCount items ≤ 1) := by
  obtain ⟨block, unmarked, blockNil, adds⟩ := exists_leadingBlock tokenizer isPlaced
  have count := titleCount_eq items
  rcases dropWhile_eq_nil_or_part items with noTitle | ⟨title, rest, fromTitle⟩
  · rw [noTitle] at count
    refine ⟨normalizeParts (block.map .book), ?_, ?_⟩
    · rw [eventsOfItems, adds, noTitle]
      simp [itemEvents, Except.map]
    · have few : titleCount items ≤ 1 := by rw [count]; decide
      simp [covered_without_titles unmarked, few]
  · have placedRest : placed true rest = true := placed_tail (fromTitle ▸ placed_dropWhile isPlaced)
    obtain ⟨more, ok, within, finishes⟩ := exists_withinPart tokenizer title placedRest
    refine ⟨normalizeParts (aroundTitle block title more), ?_, ?_⟩
    · rw [eventsOfItems, adds, fromTitle, itemEvents_part tokenizer none title ok]
      simp [Except.map, finishPart, aroundTitle, titledStart]
    · have countRest : titleCount items = titleCount rest + 1 := by
        rw [count, fromTitle]
        exact List.countP_cons_of_pos rfl
      cases hasMore : rest.any Item.isPartTitle with
      | false =>
          have few : titleCount items ≤ 1 := by
            have none : titleCount rest = 0 := by
              simpa [titleCount, List.countP_eq_zero] using hasMore
            omega
          simp [covered_with_one_title unmarked within (finishes.trans hasMore), few]
      | true =>
          have many : ¬ titleCount items ≤ 1 := by
            have some : 0 < titleCount rest := by
              simpa [titleCount, List.countP_pos_iff] using hasMore
            omega
          rw [covered_with_titles_iff unmarked within (finishes.trans hasMore), blockNil]
          simp [many]

/-- A draft before two parts. -/
def prefaceAndTwoParts : List Item :=
  [.chapter { name := "Preface" } [], .part "First", .part "Second"]

/-- The draft before two parts lies in neither. -/
theorem preface_before_two_parts_uncovered :
    placed true prefaceAndTwoParts = true ∧
      ∃ events, eventsOfItems (fun _ => []) prefaceAndTwoParts = .ok events ∧
        (coveredFrom 0 events = true ↔
          leadingItems prefaceAndTwoParts = [] ∨ titleCount prefaceAndTwoParts ≤ 1) ∧
        coveredFrom 0 events = false := by
  obtain ⟨events, ok, covered⟩ :=
    covered_eventsOfItems_iff (fun _ => []) prefaceAndTwoParts (by decide)
  refine ⟨by decide, events, ok, covered, ?_⟩
  rw [Bool.eq_false_iff, ne_eq, covered]
  rintro (noLeading | fewTitles)
  · simp [prefaceAndTwoParts, leadingItems, Item.isPartTitle] at noLeading
  · exact absurd fewTitles (by decide)

end Bindery.Book
