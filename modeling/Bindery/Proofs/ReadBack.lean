/-
Module: Bindery.Proofs.ReadBack
Layer: Proofs
Purpose: The tree of a book survives in its events. A reader of structural events keeps the chapters that
  are open, innermost first, and adds every item below the innermost; a titled start of a part is a part
  title, and the other boundaries of parts say nothing. Reading the events of items gives the items back,
  with the prose of each chapter in place of its text: neither flattening the tree nor repairing the parts
  loses, doubles or moves anything.
Imports: Bindery.Proofs.PartCoverage, Bindery.Proofs.PartInsertion
Main exports: ReadChapter, ReadItem, Reading, readItems, outlines, Reads, exists_reads,
  readItems_eventsOfItems
-/
import Bindery.Proofs.PartCoverage
import Bindery.Proofs.PartInsertion

namespace Bindery.Book

/-! ### The reader -/

/-- A chapter as its events show it: of its number the last component, and prose in place of its text. -/
structure ReadChapter where
  status : ChapterStatus
  name : String
  source : Option Path
  number : Option Int
  prose : Option (List Markdown.Event)
deriving DecidableEq, Repr

/-- An item as its events show it. -/
inductive ReadItem where
  | chapter (chapter : ReadChapter) (below : List ReadItem)
  | separator
  | part (title : String)
deriving Repr

/-- What has been read: the items at top level that are complete, and the open chapters, innermost first,
    each with the items below it so far. -/
structure Reading where
  items : List ReadItem
  opened : List (ReadChapter × List ReadItem)
deriving Repr

namespace Reading

/-- Nothing has been read. -/
def empty : Reading := ⟨[], []⟩

/-- Adds items below the innermost open chapter, or at top level. -/
def add (reading : Reading) (items : List ReadItem) : Reading :=
  match reading.opened with
  | [] => { reading with items := reading.items ++ items }
  | (chapter, below) :: outer => { reading with opened := (chapter, below ++ items) :: outer }

/-- The path of a source, if the source is a path. -/
def pathOf? : Option Source → Option (Option Path)
  | none => some none
  | some (.path path) => some (some path)
  | some (.url _) => none

def openChapter (reading : Reading) (status : ChapterStatus) (name : String)
    (source : Option Source) (number : Option Int) : Option Reading :=
  (pathOf? source).map fun path =>
    { reading with opened := (⟨status, name, path, number, none⟩, []) :: reading.opened }

/-- Closes the innermost chapter, which has to have the tag that closes it. -/
def closeChapter (reading : Reading) (status : ChapterStatus) (name : String)
    (source : Option Source) (number : Option Int) : Option Reading :=
  match reading.opened with
  | [] => none
  | (chapter, below) :: outer =>
    if chapter.status = status ∧ chapter.name = name ∧ pathOf? source = some chapter.source ∧
        chapter.number = number then
      some ({ reading with opened := outer }.add [.chapter chapter below])
    else none

/-- Changes the prose of the innermost chapter. -/
def updateProse (reading : Reading)
    (update : Option (List Markdown.Event) → Option (List Markdown.Event)) : Option Reading :=
  match reading.opened with
  | [] => none
  | (chapter, below) :: outer =>
    (update chapter.prose).map fun prose =>
      { reading with opened := ({ chapter with prose := some prose }, below) :: outer }

/-- Reads one event. Configuration and bare prose do not belong to items. -/
def step (reading : Reading) : Bindery.Event → Option Reading
  | .book (.start (.part none _)) => some reading
  | .book (.start (.part (some title) _)) => some (reading.add [.part title])
  | .book (.finish (.part _ _)) => some reading
  | .book .separator => some (reading.add [.separator])
  | .book (.start (.chapter status name source number)) =>
    reading.openChapter status name source number
  | .book (.finish (.chapter status name source number)) =>
    reading.closeChapter status name source number
  | .book (.start (.content _)) =>
    reading.updateProse fun prose => if prose.isNone then some [] else none
  | .book (.prose event) => reading.updateProse fun prose => prose.map (· ++ [event])
  | .book (.finish (.content _)) => some reading
  | _ => none

end Reading

/-- The items that events show, unless the events are not those of items. -/
def readItems (events : List Bindery.Event) : Option (List ReadItem) :=
  match events.foldlM Reading.step .empty with
  | some ⟨items, []⟩ => some items
  | _ => none

/-! ### What there is to read -/

/-- What is to be read of a chapter. Its prose is absent exactly if its text is empty. -/
def Chapter.outline (tokenizer : Tokenizer) (chapter : Chapter) : ReadChapter where
  status := if chapter.isDraft then .draft else .active
  name := chapter.name
  source := chapter.source
  number := chapter.number.bind List.getLast?
  prose := if chapter.content = "" then none else some (tokenizer chapter.content)

mutual

/-- What is to be read of an item; of a foreign value nothing. -/
def Item.outline (tokenizer : Tokenizer) : Item → List ReadItem
  | .chapter chapter subItems => [.chapter (chapter.outline tokenizer) (outlines tokenizer subItems)]
  | .separator => [.separator]
  | .part title => [.part title]
  | .foreign _ => []

/-- What is to be read of items. -/
def outlines (tokenizer : Tokenizer) : List Item → List ReadItem
  | [] => []
  | item :: rest => item.outline tokenizer ++ outlines tokenizer rest

end

/-! ### Reading pieces -/

/-- Wherever they stand, the events are read as these items. -/
def Reads (events : List Event) (items : List ReadItem) : Prop :=
  ∀ reading : Reading, (events.map .book).foldlM Reading.step reading = some (reading.add items)

theorem add_nil (reading : Reading) : reading.add [] = reading := by
  rcases reading with ⟨items, _ | ⟨⟨chapter, below⟩, outer⟩⟩ <;> simp [Reading.add]

theorem add_add (reading : Reading) (first second : List ReadItem) :
    (reading.add first).add second = reading.add (first ++ second) := by
  rcases reading with ⟨items, _ | ⟨⟨chapter, below⟩, outer⟩⟩ <;> simp [Reading.add]

theorem Reads.nil : Reads [] [] := fun reading => congrArg some (add_nil reading).symm

theorem Reads.append {first second : List Event} {items more : List ReadItem}
    (readsFirst : Reads first items) (readsSecond : Reads second more) :
    Reads (first ++ second) (items ++ more) := by
  intro reading
  rw [List.map_append, List.foldlM_append, readsFirst]
  change (second.map Bindery.Event.book).foldlM Reading.step (reading.add items) = _
  rw [readsSecond, add_add]

/-! ### Pieces of the events of items -/

/-- Prose is read behind the prose of the chapter that is open. -/
theorem read_prose (written : List Markdown.Event) (chapter : ReadChapter) (items : List ReadItem)
    (below : List ReadItem) (outer : List (ReadChapter × List ReadItem)) (before : List Markdown.Event) :
    ((written.map Event.prose).map Bindery.Event.book).foldlM Reading.step
        ⟨items, ({ chapter with prose := some before }, below) :: outer⟩ =
      some ⟨items, ({ chapter with prose := some (before ++ written) }, below) :: outer⟩ := by
  induction written generalizing before with
  | nil => simp
  | cons event written ih =>
      have step : Reading.step ⟨items, ({ chapter with prose := some before }, below) :: outer⟩
          (.book (.prose event)) =
            some ⟨items, ({ chapter with prose := some (before ++ [event]) }, below) :: outer⟩ := rfl
      rw [List.map_cons, List.map_cons, List.foldlM_cons, step]
      exact (ih (before ++ [event])).trans (by rw [List.append_assoc]; rfl)

/-- The content of a chapter is read into the chapter that is open, which has no prose yet. -/
theorem read_contentEvents (tokenizer : Tokenizer) (content : String) (chapter : ReadChapter)
    (noProse : chapter.prose = none) (items : List ReadItem) (below : List ReadItem)
    (outer : List (ReadChapter × List ReadItem)) :
    ((contentEvents tokenizer content).map Bindery.Event.book).foldlM Reading.step
        ⟨items, (chapter, below) :: outer⟩ =
      some ⟨items, ({ chapter with
        prose := if content = "" then none else some (tokenizer content) }, below) :: outer⟩ := by
  by_cases empty : content = ""
  · simp [contentEvents, empty, ← noProse]
  · have opens : Reading.step ⟨items, (chapter, below) :: outer⟩
        (.book (.start (.content .markdown))) =
          some ⟨items, ({ chapter with prose := some [] }, below) :: outer⟩ := by
      simp [Reading.step, Reading.updateProse, noProse]
    have closes (reading : Reading) :
        Reading.step reading (.book (.finish (.content .markdown))) = some reading := rfl
    simp only [contentEvents, empty, if_false, List.map_cons, List.map_append, List.cons_append,
      List.foldlM_cons, List.foldlM_append, opens, Option.bind_eq_bind, Option.bind_some, read_prose,
      List.nil_append, closes]
    rfl

theorem pathOf?_map_path (source : Option Path) : Reading.pathOf? (source.map .path) = some source := by
  cases source <;> rfl

/-- The start of a chapter opens it, without prose. -/
theorem step_start_chapter (reading : Reading) (tokenizer : Tokenizer) (chapter : Chapter) :
    reading.step (.book (.start chapter.tag)) =
      some ⟨reading.items,
        ({ chapter.outline tokenizer with prose := none }, []) :: reading.opened⟩ := by
  simp [Reading.step, Chapter.tag, Reading.openChapter, pathOf?_map_path, Chapter.outline]

/-- The finish of a chapter adds it, with what is below it, to what is around it. -/
theorem step_finish_chapter (reading : Reading) (tokenizer : Tokenizer) (chapter : Chapter)
    (below : List ReadItem) :
    Reading.step ⟨reading.items, (chapter.outline tokenizer, below) :: reading.opened⟩
        (.book (.finish chapter.tag)) =
      some (reading.add [.chapter (chapter.outline tokenizer) below]) := by
  simp [Reading.step, Chapter.tag, Reading.closeChapter, pathOf?_map_path, Chapter.outline]

/-- A chapter with what is below it is read as one item. -/
theorem Reads.chapterBlock {below : List Event} {belowItems : List ReadItem}
    (readsBelow : Reads below belowItems) (tokenizer : Tokenizer) (chapter : Chapter) :
    Reads (chapterBlock tokenizer chapter below)
      [.chapter (chapter.outline tokenizer) belowItems] := by
  intro reading
  have content := read_contentEvents tokenizer chapter.content
    { chapter.outline tokenizer with prose := none } rfl reading.items [] reading.opened
  -- With its prose in place, the open chapter is all that there is to read of it.
  have whole : ({ chapter.outline tokenizer with
      prose := if chapter.content = "" then none else some (tokenizer chapter.content) } : ReadChapter) =
        chapter.outline tokenizer := rfl
  have inside := readsBelow ⟨reading.items, (chapter.outline tokenizer, []) :: reading.opened⟩
  simp only [Book.chapterBlock, List.map_append, List.map_cons, List.map_nil, List.cons_append,
    List.foldlM_cons, List.foldlM_append, step_start_chapter reading tokenizer, Option.bind_eq_bind,
    Option.bind_some]
  rw [content, Option.bind_some, whole, inside]
  simp [Reading.add, step_finish_chapter]

theorem Reads.separator : Reads [.separator] [.separator] := fun _ => rfl

/-- A title is read from the start of its part; the finish of the part before says nothing. -/
theorem Reads.title (current : Option String) (title : String) :
    Reads (finishPart current ++ [titledStart title]) [.part title] := by
  cases current <;> exact fun _ => rfl

/-- Items that stand where a summary puts them have events, and these are read as the items. -/
theorem exists_reads (tokenizer : Tokenizer) :
    ∀ (items : List Item) (top : Bool) (current : Option String), placed top items = true →
      ∃ events, itemEvents tokenizer current items = .ok events ∧
        Reads events (outlines tokenizer items)
  | [], _, _, _ => ⟨[], by simp [itemEvents], by simpa [outlines] using Reads.nil⟩
  | .chapter chapter subItems :: rest, top, current, isPlaced => by
      simp only [placed, Item.isPlaced, Bool.and_eq_true] at isPlaced
      obtain ⟨below, okBelow, readsBelow⟩ := exists_reads tokenizer subItems false none isPlaced.1
      obtain ⟨more, okMore, readsMore⟩ := exists_reads tokenizer rest top current isPlaced.2
      refine ⟨chapterBlock tokenizer chapter below ++ more, ?_, ?_⟩
      · rw [itemEvents_chapter okBelow, okMore]
        rfl
      · rw [outlines, Item.outline]
        exact (readsBelow.chapterBlock tokenizer chapter).append readsMore
  | .separator :: rest, top, current, isPlaced => by
      simp only [placed, Item.isPlaced, Bool.true_and] at isPlaced
      obtain ⟨more, okMore, readsMore⟩ := exists_reads tokenizer rest top current isPlaced
      refine ⟨.separator :: more, by rw [itemEvents, okMore]; rfl, ?_⟩
      rw [outlines, Item.outline]
      exact Reads.separator.append readsMore
  | .part title :: rest, top, current, isPlaced => by
      simp only [placed, Bool.and_eq_true] at isPlaced
      obtain ⟨more, okMore, readsMore⟩ := exists_reads tokenizer rest top (some title) isPlaced.2
      refine ⟨_, itemEvents_part tokenizer current title okMore, ?_⟩
      rw [outlines, Item.outline, List.append_cons]
      exact (Reads.title current title).append readsMore
  | .foreign _ :: _, _, _, isPlaced => by simp [placed, Item.isPlaced] at isPlaced

/-! ### The repair of parts -/

/-- An event from which nothing is read can stand anywhere. -/
theorem read_insert {event : Bindery.Event} (mute : ∀ reading, Reading.step reading event = some reading)
    (start : Reading) (before behind : List Bindery.Event) :
    (before ++ event :: behind).foldlM Reading.step start =
      (before ++ behind).foldlM Reading.step start := by
  rw [List.foldlM_append, List.foldlM_append]
  congr 1
  funext next
  rw [List.foldlM_cons, mute next]
  rfl

/-- A reader overlooks the boundaries that the repair puts in. -/
theorem overlooks_read (start : Reading) :
    Overlooks fun events => events.foldlM Reading.step start where
  untitledStart := read_insert (fun _ => rfl) start
  finish _ _ := read_insert (fun _ => rfl) start

/-- The first boundary of a part in the events of items is no finish, so that no start is put in front
    of it: a start with its title would be read as a title that is not there. -/
theorem openFirst_itemEvents {tokenizer : Tokenizer} {items : List Item} {events : List Event}
    (isPlaced : placed true items = true) (ok : itemEvents tokenizer none items = .ok events) :
    openFirst (events.map .book) = events.map .book := by
  obtain ⟨block, unmarked, -, adds⟩ := exists_leadingBlock tokenizer isPlaced
  rw [adds] at ok
  rcases dropWhile_eq_nil_or_part items with noTitle | ⟨title, rest, fromTitle⟩
  · rw [noTitle] at ok
    obtain rfl : block = events := by simpa [itemEvents, Except.map] using ok
    rw [openFirst, find?_marker_of_unmarked unmarked]
  · have placedRest : placed true rest = true := placed_tail (fromTitle ▸ placed_dropWhile isPlaced)
    obtain ⟨more, okMore, -⟩ := exists_withinPart tokenizer title placedRest
    rw [fromTitle, itemEvents_part tokenizer none title okMore] at ok
    obtain rfl : block ++ titledStart title :: more = events := by
      simpa [Except.map, finishPart, titledStart] using ok
    rw [List.map_append]
    exact openFirst_aroundTitle unmarked title more

/-- Reading the events of items gives the items back. -/
theorem readItems_eventsOfItems (tokenizer : Tokenizer) (items : List Item)
    (isPlaced : placed true items = true) :
    ∃ events, eventsOfItems tokenizer items = .ok events ∧
      readItems events = some (outlines tokenizer items) := by
  obtain ⟨events, ok, reads⟩ := exists_reads tokenizer items true none isPlaced
  have repaired := (overlooks_read .empty).normalizeParts
    (congrArg (List.foldlM Reading.step .empty) (openFirst_itemEvents isPlaced ok))
  refine ⟨normalizeParts (events.map .book), by rw [eventsOfItems, ok]; rfl, ?_⟩
  rw [readItems, repaired, reads]
  simp [Reading.add, Reading.empty]

/-- A draft before two parts, and a chapter below a chapter. -/
def guide : List Item :=
  [.chapter { name := "Preface" } [], .part "First",
   .chapter { name := "One", content := "1", source := some ⟨.current, ["one.md"]⟩, number := some [1] }
     [.chapter { name := "Deep", source := some ⟨.current, ["deep.md"]⟩, number := some [1, 4] } [],
      .separator],
   .part "Second", .separator]

theorem readItems_eventsOfItems_guide :
    placed true guide = true ∧
      ∃ events, eventsOfItems (fun text => [.text text]) guide = .ok events ∧
        readItems events = some
          [.chapter ⟨.draft, "Preface", none, none, none⟩ [], .part "First",
           .chapter ⟨.active, "One", some ⟨.current, ["one.md"]⟩, some 1, some [.text "1"]⟩
             [.chapter ⟨.active, "Deep", some ⟨.current, ["deep.md"]⟩, some 4, none⟩ [], .separator],
           .part "Second", .separator] := by
  have isPlaced : placed true guide = true := by decide
  obtain ⟨events, ok, reads⟩ := readItems_eventsOfItems (fun text => [.text text]) guide isPlaced
  exact ⟨isPlaced, events, ok, reads.trans (by
    simp [guide, outlines, Item.outline, Chapter.outline, Chapter.isDraft])⟩

end Bindery.Book
