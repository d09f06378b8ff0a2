/-
Module: Bindery.Proofs.BookNesting
Layer: Proofs
Purpose: The structural events of a book are balanced. Between the boundaries of parts, items make events
  that are nested by themselves; the last title leaves its part open, which the repair finishes, and what
  stands before the first title stands outside or in a part of its own. So the whole is balanced however
  many titles there are and wherever they stand, as long as every text becomes balanced prose.
Imports: Bindery.Proofs.ChainNesting, Bindery.Proofs.PartCoverage, Bindery.Proofs.SummaryShape,
  Mathlib.Data.List.Induction
Main exports: contents, unfilled, Nested, partAfter, exists_nested_itemEvents, frame_of_last_start,
  exists_nested_eventsOfItems, events_balanced
-/
import Bindery.Proofs.ChainNesting
import Bindery.Proofs.PartCoverage
import Bindery.Proofs.SummaryShape
import Mathlib.Data.List.Induction

namespace Bindery.Book

mutual

/-- The texts of the chapters of an item. -/
def Item.contents : Item → List String
  | .chapter chapter subItems => chapter.content :: Book.contents subItems
  | _ => []

/-- The texts of the chapters of items. -/
def contents : List Item → List String
  | [] => []
  | item :: rest => item.contents ++ contents rest

end

mutual

/-- An item without the texts of its chapters. -/
def Item.unfilled : Item → Item
  | .chapter chapter subItems => .chapter { chapter with content := "" } (Book.unfilled subItems)
  | item => item

/-- Items without the texts of their chapters. Items that are the same without texts are the same but for
    their texts. -/
def unfilled : List Item → List Item
  | [] => []
  | item :: rest => item.unfilled :: unfilled rest

end

/-- Where items belong does not depend on texts. -/
theorem placed_unfilled : ∀ (top : Bool) (items : List Item),
    placed top (unfilled items) = placed top items
  | _, [] => by simp [unfilled]
  | top, .chapter _ subItems :: rest => by
      simp [unfilled, Item.unfilled, placed, Item.isPlaced, placed_unfilled false subItems,
        placed_unfilled top rest]
  | top, .separator :: rest | top, .part _ :: rest | top, .foreign _ :: rest => by
      simp [unfilled, Item.unfilled, placed, Item.isPlaced, placed_unfilled top rest]

/-! ### Pieces that are nested by themselves -/

/-- Events that are nested by themselves, wherever they stand. -/
def Nested (events : List Event) : Prop := nestFrom false [] (events.map .book) = some []

theorem Nested.anywhere {events : List Event} (nested : Nested events) (around : List Frame) :
    nestFrom false around (events.map .book) = some around := by
  simpa using nestFrom_append_stack around nested

theorem Nested.nil : Nested [] := rfl

theorem Nested.append {first second : List Event} (nestedFirst : Nested first)
    (nestedSecond : Nested second) : Nested (first ++ second) := by
  rw [Nested, List.map_append, nestFrom_append, nestedFirst]
  exact nestedSecond

/-- Between the start and the finish of a container may be what is nested. -/
theorem Nested.enclose {inner : List Event} (nested : Nested inner) (tag : Tag) :
    Nested (.start tag :: inner ++ [.finish tag]) := by
  have opens : (Bindery.Event.book (.start tag)).move.apply false [] =
      some [⟨.book tag, false⟩] := rfl
  rw [Nested, List.map_append, List.map_cons, List.cons_append, nestFrom, opens, Option.bind_some,
    nestFrom_append, nested.anywhere]
  exact (nestFrom_singleton false _ _).trans (apply_closes_cons false ⟨.book tag, false⟩ [])

/-- Events that open and close nothing are nested. -/
theorem nested_of_leaves {events : List Event} (leaves : ∀ event ∈ events, event.bracket = .leaf) :
    Nested events := by
  induction events with
  | nil => exact .nil
  | cons event rest ih =>
      have leaf : (Bindery.Event.book event).move = .stays :=
        move_of_leaf (leaves event List.mem_cons_self)
      rw [Nested, List.map_cons, nestFrom, leaf]
      exact ih fun other member => leaves other (List.mem_cons_of_mem _ member)

/-! ### Prose -/

/-- Balanced prose is nested when it is embedded. -/
theorem nested_prose {prose : List Markdown.Event}
    (balanced : balanceFault? (prose.map .markdown) = none) : Nested (prose.map .prose) := by
  have sameStream : (prose.map Event.prose).map Bindery.Event.book =
      prose.map fun event => .book (.prose event) := List.map_map
  rw [Nested, sameStream]
  have embedded : ∀ event ∈ prose.map (fun event => Bindery.Event.book (.prose event)),
      event.isEmbedded = true := by
    intro event member
    obtain ⟨inner, _, rfl⟩ := List.mem_map.mp member
    rfl
  -- Embedding changes no bracket.
  have sameBrackets : (prose.map fun event => Bindery.Event.book (.prose event)).map Bindery.Event.bracket =
      (prose.map Bindery.Event.markdown).map Bindery.Event.bracket := by
    rw [List.map_map, List.map_map]
    rfl
  exact nestFrom_of_uniform ((fault_balancedFrom_congr sameBrackets).trans balanced) embedded

theorem nested_contentEvents {tokenizer : Tokenizer} {content : String}
    (balanced : balanceFault? ((tokenizer content).map .markdown) = none) :
    Nested (contentEvents tokenizer content) := by
  unfold contentEvents
  split
  · exact .nil
  · exact (nested_prose balanced).enclose (.content .markdown)

/-! ### Items -/

def partAfter (current : Option String) : List Item → Option String
  | [] => current
  | .part title :: rest => partAfter (some title) rest
  | _ :: rest => partAfter current rest

/-- What the part with a title adds to the open containers. -/
def partFrames (current : Option String) : List Frame :=
  (current.map fun title => ⟨.book (.part (some title) none), false⟩).toList

/-- Where there are no titles, the part stays the same. -/
theorem partAfter_of_placed (current : Option String) {items : List Item}
    (isPlaced : placed false items = true) : partAfter current items = current := by
  induction items with
  | nil => rfl
  | cons item rest ih =>
      simp only [placed, Bool.and_eq_true] at isPlaced
      cases item with
      | part => simp [Item.isPlaced] at isPlaced
      | _ => exact ih isPlaced.2

/-- A title leaves some part open. -/
theorem partAfter_isSome (title : String) (items : List Item) :
    (partAfter (some title) items).isSome = true := by
  induction items generalizing title with
  | nil => rfl
  | cons item rest ih => cases item <;> exact ih _

/-- A title replaces the part that is open. -/
theorem nestFrom_title (current : Option String) (title : String) :
    nestFrom false (partFrames current)
        ((finishPart current ++ [Event.start (.part (some title) none)]).map .book) =
      some (partFrames (some title)) := by
  cases current with
  | none => rfl
  | some before =>
      have closes : (Bindery.Event.book (.finish (.part (some before) none))).move.apply false
          (partFrames (some before)) = some [] := apply_closes_cons false _ []
      rw [finishPart, List.singleton_append, List.map_cons, nestFrom, closes]
      rfl

/-- Items leave nothing open but the part of the last title, whatever part was open before. -/
theorem exists_nested_itemEvents (tokenizer : Tokenizer) : ∀ (items : List Item) (top : Bool)
    (current : Option String), placed top items = true →
    (∀ content ∈ contents items, balanceFault? ((tokenizer content).map .markdown) = none) →
    ∃ events, itemEvents tokenizer current items = .ok events ∧
      nestFrom false (partFrames current) (events.map .book) =
        some (partFrames (partAfter current items))
  | [], _, current, _, _ => ⟨[], by rw [itemEvents], rfl⟩
  | .chapter chapter subItems :: rest, top, current, isPlaced, balanced => by
      simp only [placed, Item.isPlaced, Bool.and_eq_true] at isPlaced
      simp only [contents, Item.contents, List.cons_append, List.forall_mem_cons,
        List.forall_mem_append] at balanced
      obtain ⟨below, okBelow, nestedBelow⟩ :=
        exists_nested_itemEvents tokenizer subItems false none isPlaced.1 balanced.2.1
      rw [partAfter_of_placed none isPlaced.1] at nestedBelow
      have nested : Nested (chapterBlock tokenizer chapter below) :=
        ((nested_contentEvents balanced.1).append nestedBelow).enclose chapter.tag
      obtain ⟨more, okMore, nestedMore⟩ :=
        exists_nested_itemEvents tokenizer rest top current isPlaced.2 balanced.2.2
      refine ⟨chapterBlock tokenizer chapter below ++ more, ?_, ?_⟩
      · rw [itemEvents_chapter okBelow, okMore]
        rfl
      · rw [List.map_append, nestFrom_append, nested.anywhere]
        exact nestedMore
  | .separator :: rest, top, current, isPlaced, balanced => by
      simp only [placed, Item.isPlaced, Bool.true_and] at isPlaced
      simp only [contents, Item.contents, List.nil_append] at balanced
      obtain ⟨more, okMore, nestedMore⟩ :=
        exists_nested_itemEvents tokenizer rest top current isPlaced balanced
      exact ⟨.separator :: more, by rw [itemEvents, okMore]; rfl, nestedMore⟩
  | .part title :: rest, top, current, isPlaced, balanced => by
      simp only [placed, Bool.and_eq_true] at isPlaced
      simp only [contents, Item.contents, List.nil_append] at balanced
      obtain ⟨more, okMore, nestedMore⟩ :=
        exists_nested_itemEvents tokenizer rest top (some title) isPlaced.2 balanced
      refine ⟨_, itemEvents_part tokenizer current title okMore, ?_⟩
      rw [List.append_cons, List.map_append, nestFrom_append, nestFrom_title]
      exact nestedMore
  | .foreign _ :: _, _, _, isPlaced, _ => by simp [placed, Item.isPlaced] at isPlaced

/-- Items in a row make the events of the first and then, in the part that is open there, those of the
    others. -/
theorem Emits.append {tokenizer : Tokenizer} {current : Option String} {first second : List Item}
    {events more : List Event} (emits : Emits tokenizer current first events)
    (emitsMore : Emits tokenizer (partAfter current first) second more) :
    Emits tokenizer current (first ++ second) (events ++ more) := by
  induction emits with
  | nil current => exact emitsMore
  | chapter chapter inner _ _ ihBehind =>
      rw [List.cons_append, List.append_assoc]
      exact .chapter chapter inner (ihBehind emitsMore)
  | separator _ ih => exact .separator (ih emitsMore)
  | part title _ ih =>
      rw [List.cons_append, List.append_assoc]
      exact .part title (ih emitsMore)

theorem contents_append (first second : List Item) :
    contents (first ++ second) = contents first ++ contents second := by
  induction first with
  | nil => simp [contents]
  | cons item rest ih => simp [contents, ih]

/-- Before the first title there are no titles. -/
theorem placed_leadingItems {items : List Item} (isPlaced : placed true items = true) :
    placed false (leadingItems items) = true := by
  induction items with
  | nil => simp [leadingItems, placed]
  | cons item rest ih =>
      simp only [placed, Bool.and_eq_true] at isPlaced
      cases item with
      | part => simp [leadingItems, Item.isPartTitle, placed]
      | chapter | separator =>
          have placedItem := isPlaced.1
          have placedRest := ih isPlaced.2
          simp_all [leadingItems, Item.isPartTitle, placed, Item.isPlaced]
      | foreign => simp [Item.isPlaced] at isPlaced

/-! ### Boundaries of parts -/

/-- Is the container a part? -/
def isPartFrame (frame : Frame) : Bool :=
  match frame.tag with
  | .book (.part _ _) => true
  | _ => false

/-- Only its start and its finish open and close a structural container. -/
theorem event_of_move {event : Bindery.Event} {tag : Tag} {embedded : Bool}
    (move : event.move = .opens ⟨.book tag, embedded⟩ ∨
      event.move = .closes ⟨.book tag, embedded⟩) :
    event = .book (.start tag) ∨ event = .book (.finish tag) := by
  cases event with
  | book inner =>
      cases inner with
      | prose inner =>
          cases inner <;> simp [Bindery.Event.move, Bindery.Event.bracket, Event.bracket,
            Markdown.Event.bracket] at move
      | _ => simp_all [Bindery.Event.move, Bindery.Event.bracket, Event.bracket]
  | markdown inner =>
      cases inner <;> simp [Bindery.Event.move, Bindery.Event.bracket, Markdown.Event.bracket] at move
  | typst inner =>
      cases inner <;> simp [Bindery.Event.move, Bindery.Event.bracket, Typst.Event.bracket] at move
  | foreign text => simp [Bindery.Event.move, Bindery.Event.bracket] at move

/-- An event that is no boundary of a part opens and closes no part. -/
theorem noPart_of_move {event : Bindery.Event} (noMarker : isPartMarker event = false)
    {frame : Frame} (move : event.move = .opens frame ∨ event.move = .closes frame) :
    isPartFrame frame = false := by
  rcases frame with ⟨tag, embedded⟩
  rw [Bool.eq_false_iff]
  intro isPart
  unfold isPartFrame at isPart
  split at isPart
  · next title number isTag =>
      obtain rfl : tag = .book (.part title number) := isTag
      rcases event_of_move move with rfl | rfl <;> cases noMarker
  · cases isPart

/-- If the last boundary of a stream is the start of a part, this part is the innermost one that the
    stream leaves open. -/
theorem frame_of_last_start {stack stack' : List Frame} {events : List Bindery.Event} {tag : Tag}
    (nested : nestFrom false stack events = some stack')
    (last : events.reverse.find? isPartMarker = some (.book (.start tag))) :
    stack'.find? isPartFrame = some ⟨.book tag, false⟩ := by
  induction events using List.reverseRecOn generalizing stack' with
  | nil => cases last
  | append_singleton before event ih =>
      rw [nestFrom_append, Option.bind_eq_some_iff] at nested
      obtain ⟨middle, nestedBefore, step⟩ := nested
      rw [nestFrom_singleton] at step
      rw [List.reverse_append, List.reverse_singleton, List.singleton_append] at last
      cases marker : isPartMarker event with
      | true =>
          rw [List.find?_cons_of_pos marker] at last
          obtain rfl := Option.some.inj last
          rw [(apply_opens step).1]
          cases tag with
          | part => rfl
          | _ => cases marker
      | false =>
          rw [List.find?_cons_of_neg (by simp [marker])] at last
          have before := ih nestedBefore last
          cases move : event.move with
          | stays =>
              rw [move] at step
              rwa [← Option.some.inj step]
          | opens frame =>
              rw [move] at step
              rw [(apply_opens step).1,
                List.find?_cons_of_neg (by simp [noPart_of_move marker (.inl move)])]
              exact before
          | closes frame =>
              rw [move] at step
              rwa [apply_closes step,
                List.find?_cons_of_neg (by simp [noPart_of_move marker (.inr move)])] at before

/-! ### The repair -/

/-- What stands before the first title stays outside parts, or gets a part of its own; behind the last
    event the last part is finished. -/
theorem exists_normalizeParts_aroundTitle {block : List Event} (unmarked : Unmarked block)
    (nested : Nested block) {title last : String} {events : List Event}
    (found : ((titledStart title :: events).map Bindery.Event.book).reverse.find? isPartMarker =
      some (.book (.start (.part (some last) none)))) :
    ∃ front, Nested front ∧ normalizeParts (aroundTitle block title events) =
      (front ++ titledStart title :: events ++ [Event.finish (.part (some last) none)]).map .book := by
  rw [normalizeParts, any_isPartMarker_aroundTitle]
  simp only [Bool.not_true, Bool.false_eq_true, if_false]
  split
  · refine ⟨block, nested, ?_⟩
    rw [openFirst_aroundTitle unmarked, aroundTitle, closeLast_of_lastOpens _ found]
    simp
  · by_cases empty : block = []
    · subst empty
      refine ⟨[], .nil, ?_⟩
      rw [coverLeading_nil, aroundTitle, closeLast_of_lastOpens _ found]
      simp
    · refine ⟨_, nested.enclose (.part none none), ?_⟩
      have close := closeLast_of_lastOpens
        (untitledStart :: block.map .book ++ [untitledFinish]) found
      rw [coverLeading_aroundTitle unmarked empty, aroundTitle, List.map_nil, List.nil_append,
        List.append_cons, close]
      simp [untitledStart, untitledFinish]

/-- Events that start with a title and leave the part of the last title open. -/
theorem nestFrom_from_title {title last : String} {events : List Event}
    (nested : nestFrom false (partFrames (some title)) (events.map .book) =
      some (partFrames (some last))) :
    nestFrom false [] ((titledStart title :: events).map .book) = some (partFrames (some last)) := by
  have opens : (Bindery.Event.book (titledStart title)).move.apply false [] =
      some (partFrames (some title)) := rfl
  rw [List.map_cons, nestFrom, opens, Option.bind_some, nested]

/-- The part that is left open is the one that the last boundary starts. -/
theorem WithinPart.last_start {title last : String} {events : List Event}
    (within : WithinPart title events)
    (nested : nestFrom false (partFrames (some title)) (events.map .book) =
      some (partFrames (some last))) :
    ((titledStart title :: events).map Bindery.Event.book).reverse.find? isPartMarker =
      some (.book (.start (.part (some last) none))) := by
  obtain ⟨title', found⟩ := within.lastOpens
  have innermost := frame_of_last_start (nestFrom_from_title nested) found
  have same : title' = some last := by simpa [partFrames, isPartFrame] using innermost.symm
  rw [found, same]

/-- The part of the last title is finished by the repair. -/
theorem nested_from_title {title last : String} {front events : List Event}
    (nestedFront : Nested front)
    (nested : nestFrom false (partFrames (some title)) (events.map .book) =
      some (partFrames (some last))) :
    Nested (front ++ titledStart title :: events ++ [.finish (.part (some last) none)]) := by
  rw [Nested, List.map_append, List.map_append, nestFrom_append, nestFrom_append, nestedFront,
    Option.bind_some, nestFrom_from_title nested, Option.bind_some]
  exact (nestFrom_singleton false _ _).trans (apply_closes_cons false _ [])

/-- The events of items that stand where they belong are nested. -/
theorem exists_nested_eventsOfItems (tokenizer : Tokenizer) {items : List Item}
    (isPlaced : placed true items = true)
    (balanced : ∀ content ∈ contents items,
      balanceFault? ((tokenizer content).map .markdown) = none) :
    ∃ events : List Event, eventsOfItems tokenizer items = .ok (events.map .book) ∧ Nested events := by
  have split : leadingItems items ++ items.dropWhile (fun item => !item.isPartTitle) = items :=
    List.takeWhile_append_dropWhile
  have placedLeading := placed_leadingItems isPlaced
  have balancedPieces := balanced
  rw [← split, contents_append, List.forall_mem_append] at balancedPieces
  obtain ⟨block, okBlock, unmarked⟩ := exists_itemEvents_below tokenizer _ none placedLeading
  have nestedBlock : Nested block := by
    obtain ⟨events, ok, nested⟩ :=
      exists_nested_itemEvents tokenizer _ false none placedLeading balancedPieces.1
    obtain rfl := Except.ok.inj (okBlock.symm.trans ok)
    rwa [partAfter_of_placed none placedLeading] at nested
  rcases dropWhile_eq_nil_or_part items with noTitle | ⟨title, rest, fromTitle⟩
  · rw [noTitle, List.append_nil] at split
    refine ⟨_, ?_, nestedBlock.enclose (.part none none)⟩
    have noMarker : (block.map Bindery.Event.book).any isPartMarker = false := by
      have none := find?_marker_of_unmarked unmarked
      rw [List.find?_eq_none] at none
      simpa using none
    rw [← split, eventsOfItems, okBlock]
    simp [Except.map, normalizeParts, noMarker, untitledStart, untitledFinish]
  · rw [fromTitle] at split balancedPieces
    have placedRest : placed true rest = true := placed_tail (fromTitle ▸ placed_dropWhile isPlaced)
    obtain ⟨more, okMore, within, _⟩ := exists_withinPart tokenizer title placedRest
    have nestedMore : nestFrom false (partFrames (some title)) (more.map .book) =
        some (partFrames (partAfter (some title) rest)) := by
      obtain ⟨events, ok, nested⟩ := exists_nested_itemEvents tokenizer rest true (some title)
        placedRest (by simpa [contents, Item.contents] using balancedPieces.2)
      obtain rfl := Except.ok.inj (okMore.symm.trans ok)
      exact nested
    obtain ⟨last, isLast⟩ := Option.isSome_iff_exists.mp (partAfter_isSome title rest)
    rw [isLast] at nestedMore
    have found := within.last_start nestedMore
    obtain ⟨front, nestedFront, repaired⟩ :=
      exists_normalizeParts_aroundTitle unmarked nestedBlock found
    refine ⟨_, ?_, nested_from_title nestedFront nestedMore⟩
    have okItems : itemEvents tokenizer none items = .ok (block ++ titledStart title :: more) := by
      have emitsRest : Emits tokenizer (partAfter none (leadingItems items)) (.part title :: rest)
          (titledStart title :: more) := by
        rw [partAfter_of_placed none placedLeading]
        exact .part title (emits_of_itemEvents okMore)
      rw [← split]
      exact ((emits_of_itemEvents okBlock).append emitsRest).itemEvents
    have around : (block ++ titledStart title :: more).map Bindery.Event.book =
        aroundTitle block title more := List.map_append
    rw [eventsOfItems, okItems, ← repaired, ← around]
    rfl

/-! ### Whole books -/

theorem nested_configEvents (config : Config) : Nested (configEvents config) := by
  unfold configEvents
  apply Nested.append
  · split
    · exact .nil
    · split
      · exact .nil
      · exact nested_of_leaves (by simp [Event.bracket])
  · split
    · exact .nil
    · exact (nested_of_leaves (by simp [Event.bracket])).enclose .authorList

/-- The events of a book are balanced, whatever texts its chapters have, if each of them becomes balanced
    prose: the tokens of the table of contents put titles and separators in any number and order. -/
theorem events_balanced {tokens : List Prose.Token} {parsed items : List Item}
    (accepted : itemsOfTokens tokens = .ok parsed) (filled : unfilled items = unfilled parsed)
    {tokenizer : Tokenizer}
    (balanced : ∀ content ∈ contents items, balanceFault? ((tokenizer content).map .markdown) = none)
    (root : Path) (config : Config) :
    ∃ events, Manuscript.events tokenizer ⟨root, config, items⟩ = .ok events ∧
      balanceFault? events = none := by
  have isPlaced : placed true items = true := by
    rw [← placed_unfilled, filled, placed_unfilled]
    exact placed_of_itemsOfTokens accepted
  obtain ⟨events, ok, nested⟩ := exists_nested_eventsOfItems tokenizer isPlaced balanced
  have nestedRoot : Nested [.root root] := nested_of_leaves (by simp [Event.bracket])
  have whole := (nestedRoot.append (nested_configEvents config)).append nested
  refine ⟨([Event.root root] ++ configEvents config ++ events).map .book, ?_,
    balanced_of_nestFrom whole⟩
  simp [Manuscript.events, ok, Except.map]

/-- A line that is a link to a chapter or, without an address, to a draft. -/
def linkTo (address name : String) : Prose.Token where
  kind := "inline"
  children := [{ kind := "link_open", attributes := [("href", .text address)] },
    { kind := "text", content := name }, { kind := "link_close" }]

/-- A draft before two parts, of which the second is empty, with a chapter in a chapter and a rule. -/
def twoParts : List Prose.Token :=
  [linkTo "" "Preface", { kind := "heading_open", tag := "h1" },
   { kind := "inline", children := [{ kind := "text", content := "First" }] },
   { kind := "heading_close" }, { kind := "list_item_open" }, linkTo "a.md" "Outer",
   { kind := "list_item_open" }, linkTo "b.md" "Inner", { kind := "list_item_close" },
   { kind := "list_item_close" }, { kind := "hr" }, { kind := "heading_open", tag := "h1" },
   { kind := "inline", children := [{ kind := "text", content := "Second" }] },
   { kind := "heading_close" }]

/-- The items of the two parts, with given texts. -/
def twoPartsWith (outer inner : String) : List Item :=
  [.chapter { name := "Preface" } [], .part "First",
   .chapter { name := "Outer", content := outer, source := some ⟨.current, ["a.md"]⟩,
              number := some [1] }
     [.chapter { name := "Inner", content := inner, source := some ⟨.current, ["b.md"]⟩,
                 number := some [1, 1] } []],
   .separator, .part "Second"]

def oneParagraph : Tokenizer := fun content =>
  [.start .paragraph, .text content, .finish .paragraph]

theorem events_balanced_twoParts :
    (itemsOfTokens twoParts = .ok (twoPartsWith "" "") ∧
      unfilled (twoPartsWith "a" "b") = unfilled (twoPartsWith "" "") ∧
      ∀ content ∈ contents (twoPartsWith "a" "b"),
        balanceFault? ((oneParagraph content).map .markdown) = none) ∧
      ∃ events, Manuscript.events oneParagraph
          ⟨⟨.current, []⟩, { title := some "T", authors := ["Ann"] }, twoPartsWith "a" "b"⟩ = .ok events ∧
        balanceFault? events = none := by
  have accepted : itemsOfTokens twoParts = .ok (twoPartsWith "" "") := by rfl
  have filled : unfilled (twoPartsWith "a" "b") = unfilled (twoPartsWith "" "") := by
    simp [twoPartsWith, unfilled, Item.unfilled]
  have balanced : ∀ content ∈ contents (twoPartsWith "a" "b"),
      balanceFault? ((oneParagraph content).map .markdown) = none := by
    intro content _
    rfl
  exact ⟨⟨accepted, filled, balanced⟩, events_balanced accepted filled balanced _ _⟩

end Bindery.Book
