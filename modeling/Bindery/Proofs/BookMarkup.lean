/-
Module: Bindery.Proofs.BookMarkup
Layer: Proofs
Purpose: The markup of a book, chapter by chapter. It is the markup of the configuration followed by the
  markups of the items one after the other. The markup of a chapter is made from its name, its text, its
  depth and what is below it alone: neither the chapters around it or beside it nor the parts of the book
  change it, whatever makes prose of texts.
Imports: Bindery.Book.Render, Bindery.CommonMark.Block, Bindery.Proofs.ItemEvents,
  Bindery.Proofs.StreamPieces
Main exports: wellNested, chapterHeading, proseMarkup, itemsMarkup, exists_yields_items,
  renderBook_eq_append
-/
import Bindery.Book.Render
import Bindery.CommonMark.Block
import Bindery.Proofs.ItemEvents
import Bindery.Proofs.StreamPieces

namespace Bindery.Book

open Bindery.Convert Bindery.Markup
open Prose (eventsOfText)

/-! ### Books with nested prose -/

/-- Is prose nested, with every item directly inside a list? -/
def nestedProse (prose : List Markdown.Event) : Bool :=
  (balanceFault? (prose.map .markdown)).isNone && itemsInLists [] (prose.map .markdown)

section Nested

variable (tokenizer : Tokenizer)

mutual

/-- Is an item a book item with nested prose, and everything below it too? -/
def Item.isWellNested : Item → Bool
  | .chapter chapter subItems => nestedProse (tokenizer chapter.content) && wellNested subItems
  | .separator => true
  | .part _ => true
  | .foreign _ => false

/-- Are all items book items with nested prose? -/
def wellNested : List Item → Bool
  | [] => true
  | item :: rest => item.isWellNested && wellNested rest

end

end Nested

/-- Nested prose passes the strict machine. -/
theorem nestFrom_of_nestedProse {prose : List Markdown.Event} (nested : nestedProse prose = true) :
    nestFrom true [] (prose.map .markdown) = some [] := by
  simp only [nestedProse, Bool.and_eq_true, Option.isNone_iff_eq_none] at nested
  have bare : ∀ event ∈ prose.map Event.markdown, event.isSource false = true := by
    intro event member
    rcases List.mem_map.mp member with ⟨inner, _, rfl⟩
    rfl
  exact nestFrom_of_balanced bare nested.1 nested.2

/-! ### The markup of a chapter -/

section Markup

variable (tokenizer : Tokenizer) (settings : Settings)

/-- The line that starts a chapter `depth` levels below the top. -/
def chapterHeading (depth : Nat) (name : String) : String :=
  if settings.isEnabled .chapters then
    repeated (min (1 + depth) 6) '=' ++ " " ++ escapeText name ++ "\n"
  else ""

/-- The line that ends a chapter. -/
def chapterEnd : String :=
  if settings.isEnabled .chapters then "#pagebreak(weak: true)\n" else ""

/-- The markup of the prose of a chapter by itself, with its headings moved down by `depth` levels. -/
def proseMarkup (depth : Nat) (content : String) : Except RenderFault String :=
  if settings.isEnabled .content && content ≠ "" then
    Markup.markup (convertToTypst settings ((moved settings depth (tokenizer content)).map .markdown))
  else .ok ""

mutual

/-- The markup of an item by itself, `depth` levels below the top. -/
def Item.markup (depth : Nat) : Item → Except RenderFault String
  | .chapter chapter subItems => do
    let prose ← proseMarkup tokenizer settings depth chapter.content
    let below ← itemsMarkup (depth + 1) subItems
    return chapterHeading settings depth chapter.name ++ prose ++ below ++ chapterEnd settings
  | .separator => return ""
  | .part _ => return ""
  | .foreign _ => return ""

/-- The markups of items by themselves, one after the other. -/
def itemsMarkup (depth : Nat) : List Item → Except RenderFault String
  | [] => return ""
  | item :: rest => do
    let first ← item.markup depth
    let others ← itemsMarkup depth rest
    return first ++ others

end

end Markup

/-! ### The pieces of a chapter -/

variable {tokenizer : Tokenizer} {settings : Settings}

theorem renders_heading (level : Int) (name : String) :
    Renders .initial
      [.typst (.start (plainHeading level)), .typst (.text name), .typst (.finish (plainHeading level))]
      [repeated level.toNat '=' ++ " ", escapeText name, "\n"] .initial :=
  .cons rfl (.cons rfl (.cons (step_finish rfl) (.nil _)))

/-- A chapter stands one level below the chapters around it, but not below the deepest. -/
theorem toNat_clampHeading (depth : Nat) :
    (clampHeading (1 + (depth : Int))).toNat = min (1 + depth) 6 := by
  unfold clampHeading Typst.deepestHeading
  omega

/-- The start of a chapter yields its heading. -/
theorem yields_chapterStart (settings : Settings) (memory : Memory) (chapter : Chapter) :
    Yields settings memory [.book (.start chapter.tag)]
      (chapterHeading settings memory.depth chapter.name)
      { memory with depth := memory.depth + 1 } := by
  let heading := plainHeading (clampHeading (1 + (memory.depth : Int)))
  have structural : Stage.chapters ∈ Stage.structural := by decide
  have replaced : Stage.chapters.replace memory (.book (.start chapter.tag)) =
      ([.typst (.start heading), .typst (.text chapter.name), .typst (.finish heading)],
        { memory with depth := memory.depth + 1 }) := rfl
  have plain : ∀ target ∈ [Event.typst (.start heading), .typst (.text chapter.name),
      .typst (.finish heading)], isPlainTarget target = true := by
    simp [isPlainTarget, opensCode, closesCode, plainHeading, heading]
  have renders := renders_heading (clampHeading (1 + (memory.depth : Int))) chapter.name
  have yields : Yields settings memory [.book (.start chapter.tag)] _ _ :=
    yields_structural structural rfl replaced plain renders
  have line : String.join [repeated (min (1 + memory.depth) 6) '=' ++ " ", escapeText chapter.name,
      "\n"] = repeated (min (1 + memory.depth) 6) '=' ++ " " ++ escapeText chapter.name ++ "\n" := by
    simp [String.join_cons, String.append_assoc]
  rw [toNat_clampHeading, line] at yields
  exact yields

/-- The finish of a chapter yields a page break. -/
theorem yields_chapterFinish (settings : Settings) (memory : Memory) (chapter : Chapter) :
    Yields settings memory [.book (.finish chapter.tag)] (chapterEnd settings)
      { memory with depth := memory.depth - 1 } := by
  have structural : Stage.chapters ∈ Stage.structural := by decide
  have replaced : Stage.chapters.replace memory (.book (.finish chapter.tag)) =
      ([.typst (.call none "pagebreak" ["weak: true"])],
        { memory with depth := memory.depth - 1 }) := rfl
  have plain : ∀ target ∈ [Event.typst (.call none "pagebreak" ["weak: true"])],
      isPlainTarget target = true := by
    simp [isPlainTarget, opensCode, closesCode]
  have renders : Renders .initial [.typst (.call none "pagebreak" ["weak: true"])]
      ["#pagebreak(weak: true)\n"] .initial := .cons rfl (.nil _)
  exact yields_structural structural rfl replaced plain renders

/-- The prose of a chapter yields its markup. -/
theorem exists_yields_content (settings : Settings) (memory : Memory) {depth : Nat}
    (below : memory.depth = depth + 1) (outside : memory.codeDepth = 0) {content : String}
    (nested : nestedProse (tokenizer content) = true) :
    ∃ text, proseMarkup tokenizer settings depth content = .ok text ∧
      Yields settings memory ((contentEvents tokenizer content).map .book) text memory := by
  by_cases empty : content = ""
  · refine ⟨"", ?_, ?_⟩
    · simp [proseMarkup, empty]
    · rw [contentEvents, if_pos empty]
      exact yields_nil settings memory
  · have nestedStream := nestFrom_of_nestedProse nested
    obtain ⟨target, leads⟩ := targetFrom_prose settings below outside nestedStream
    obtain ⟨text, okText, yieldsProse⟩ : ∃ text, proseMarkup tokenizer settings depth content = .ok text ∧
        Yields settings memory (embedded (tokenizer content)) text memory := by
      by_cases unwraps : settings.isEnabled .content = true
      · obtain ⟨fragments, renders⟩ :=
          renders_convertToTypst settings (nestFrom_moved settings depth nestedStream)
        refine ⟨String.join fragments, ?_, leads, fragments, ?_, rfl⟩
        · simp [proseMarkup, unwraps, empty, renders.markup]
        · rw [target, if_pos unwraps]
          exact renders
      · refine ⟨"", ?_, leads, [], ?_, rfl⟩
        · simp [proseMarkup, unwraps]
        · rw [target, if_neg unwraps]
          exact .nil _
    have marker (event : Event) (unowned : ownerOfBook event = none) :
        Yields settings memory [.book event] "" memory := yields_unowned settings memory unowned
    have yields := ((marker (.start (.content .markdown)) rfl).append yieldsProse).append
      (marker (.finish (.content .markdown)) rfl)
    refine ⟨text, okText, ?_⟩
    simpa [contentEvents, empty, embedded, Function.comp_def] using yields

/-- An item that yields its markup in front of items that yield theirs. -/
theorem itemsMarkup_cons {depth : Nat} {item : Item} {rest : List Item} {first others : String}
    (okFirst : item.markup tokenizer settings depth = .ok first)
    (okOthers : itemsMarkup tokenizer settings depth rest = .ok others) :
    itemsMarkup tokenizer settings depth (item :: rest) = .ok (first ++ others) := by
  rw [itemsMarkup, okFirst, okOthers]
  rfl

theorem markup_chapter {depth : Nat} {chapter : Chapter} {subItems : List Item} {prose below : String}
    (okProse : proseMarkup tokenizer settings depth chapter.content = .ok prose)
    (okBelow : itemsMarkup tokenizer settings (depth + 1) subItems = .ok below) :
    (Item.chapter chapter subItems).markup tokenizer settings depth =
      .ok (chapterHeading settings depth chapter.name ++ prose ++ below ++ chapterEnd settings) := by
  rw [Item.markup, okProse, okBelow]
  rfl

/-- A chapter yields its markup if what is below it does, and leaves no trace. -/
theorem exists_yields_chapter (settings : Settings) {memory : Memory} (outside : memory.codeDepth = 0)
    {chapter : Chapter} (nested : nestedProse (tokenizer chapter.content) = true)
    {subItems : List Item} {below : List Event} {belowText : String}
    (okBelow : itemsMarkup tokenizer settings (memory.depth + 1) subItems = .ok belowText)
    (yieldsBelow : Yields settings { memory with depth := memory.depth + 1 } (below.map .book) belowText
      { memory with depth := memory.depth + 1 }) :
    ∃ text, (Item.chapter chapter subItems).markup tokenizer settings memory.depth = .ok text ∧
      Yields settings memory ((chapterBlock tokenizer chapter below).map .book) text memory := by
  obtain ⟨prose, okProse, yieldsProse⟩ := exists_yields_content settings
    { memory with depth := memory.depth + 1 } rfl outside nested
  have started := yields_chapterStart settings memory chapter
  have finished := yields_chapterFinish settings { memory with depth := memory.depth + 1 } chapter
  have yields := ((started.append yieldsProse).append yieldsBelow).append finished
  refine ⟨_, markup_chapter okProse okBelow, ?_⟩
  simpa [chapterBlock] using yields

/-- The finish of the part that is open yields nothing. -/
theorem yields_finishPart (settings : Settings) (memory : Memory) (current : Option String) :
    Yields settings memory ((finishPart current).map .book) "" memory := by
  cases current with
  | none => exact yields_nil settings memory
  | some title => exact yields_unowned settings memory rfl

/-- Items yield their markups one after the other, wherever they stand, and leave no trace. -/
theorem exists_yields_items (settings : Settings) :
    ∀ (items : List Item) (current : Option String) (memory : Memory), memory.codeDepth = 0 →
      wellNested tokenizer items = true →
      ∃ events text, itemEvents tokenizer current items = .ok events ∧
        itemsMarkup tokenizer settings memory.depth items = .ok text ∧
          Yields settings memory (events.map .book) text memory
  | [] => by
      intro current memory _ _
      refine ⟨[], "", ?_, ?_, yields_nil settings memory⟩
      · rw [itemEvents]
      · rw [itemsMarkup]
        rfl
  | .chapter chapter subItems :: rest => by
      intro current memory outside nested
      simp only [wellNested, Item.isWellNested, Bool.and_eq_true] at nested
      rcases nested with ⟨⟨nestedContent, nestedBelow⟩, nestedRest⟩
      obtain ⟨below, belowText, okBelow, okBelowText, yieldsBelow⟩ :=
        exists_yields_items settings subItems none { memory with depth := memory.depth + 1 }
          outside nestedBelow
      obtain ⟨text, okText, yieldsChapter⟩ :=
        exists_yields_chapter settings outside nestedContent okBelowText yieldsBelow
      obtain ⟨more, moreText, okMore, okMoreText, yieldsMore⟩ :=
        exists_yields_items settings rest current memory outside nestedRest
      refine ⟨chapterBlock tokenizer chapter below ++ more, text ++ moreText, ?_,
        itemsMarkup_cons okText okMoreText, ?_⟩
      · rw [itemEvents_chapter okBelow, okMore]
        rfl
      · rw [List.map_append]
        exact yieldsChapter.append yieldsMore
  | .separator :: rest => by
      intro current memory outside nested
      simp only [wellNested, Item.isWellNested, Bool.true_and] at nested
      obtain ⟨more, text, okMore, okText, yields⟩ :=
        exists_yields_items settings rest current memory outside nested
      refine ⟨.separator :: more, "" ++ text, ?_, itemsMarkup_cons ?_ okText, ?_⟩
      · rw [itemEvents, okMore]
        rfl
      · rw [Item.markup]
        rfl
      · exact (yields_unowned settings memory rfl).append yields
  | .part title :: rest => by
      intro current memory outside nested
      simp only [wellNested, Item.isWellNested, Bool.true_and] at nested
      obtain ⟨more, text, okMore, okText, yields⟩ :=
        exists_yields_items settings rest (some title) memory outside nested
      have started : Yields settings memory [.book (.start (.part (some title) none))] "" memory :=
        yields_unowned settings memory rfl
      have titled := ((yields_finishPart settings memory current).append started).append yields
      refine ⟨finishPart current ++ .start (.part (some title) none) :: more, "" ++ text,
        itemEvents_part tokenizer current title okMore, itemsMarkup_cons ?_ okText, ?_⟩
      · rw [Item.markup]
        rfl
      · simpa using titled
  | .foreign _ :: _ => by
      intro _ _ _ nested
      simp [wellNested, Item.isWellNested] at nested

/-! ### The configuration -/

/-- Is the event one of a title or of authors? -/
def isConfigEvent : Event → Bool
  | .title _ => true
  | .author _ => true
  | .start .authorList => true
  | .finish .authorList => true
  | _ => false

def isDocumentRule : Bindery.Event → Bool
  | .typst (.documentSet _ _) => true
  | _ => false

/-- The stages of the configuration make document rules of it, and remember neither chapters nor code
    blocks. -/
theorem exists_stage_of_configEvent (memory : Memory) {event : Event}
    (isConfig : isConfigEvent event = true) :
    ∃ stage ∈ Stage.structural, ownerOfBook event = some stage ∧
      (∀ target ∈ (stage.replace memory (.book event)).1, isDocumentRule target = true) ∧
        (stage.replace memory (.book event)).2.depth = memory.depth ∧
          (stage.replace memory (.book event)).2.codeDepth = memory.codeDepth := by
  cases event with
  | title body =>
      refine ⟨.title, by decide, rfl, fun target member => ?_, rfl, rfl⟩
      rw [List.mem_singleton.mp member]
      rfl
  | author name =>
      exact ⟨.authors, by decide, rfl, fun _ member => absurd member List.not_mem_nil, rfl, rfl⟩
  | start tag =>
      cases tag with
      | authorList =>
          exact ⟨.authors, by decide, rfl, fun _ member => absurd member List.not_mem_nil, rfl, rfl⟩
      | _ => cases isConfig
  | finish tag =>
      cases tag with
      | authorList =>
          refine ⟨.authors, by decide, rfl, fun target member => ?_, rfl, rfl⟩
          simp only [Stage.replace, replaceAuthors] at member
          split at member
          · cases member
          · rw [List.mem_singleton.mp member]
            rfl
      | _ => cases isConfig
  | _ => cases isConfig

/-- Document rules are rendered, and open nothing. -/
theorem exists_renders_of_rules {targets : List Bindery.Event}
    (rules : ∀ target ∈ targets, isDocumentRule target = true) :
    ∃ fragments, Renders .initial targets fragments .initial := by
  induction targets with
  | nil => exact ⟨[], .nil _⟩
  | cons target rest ih =>
      obtain ⟨fragments, renders⟩ := ih fun other member => rules other (List.mem_cons_of_mem _ member)
      have rule := rules target List.mem_cons_self
      unfold isDocumentRule at rule
      split at rule
      · exact ⟨_, .cons rfl renders⟩
      · cases rule

/-- A configuration yields a text, and no chapter and no code block is open after it. -/
theorem exists_yields_config (settings : Settings) (memory : Memory) {events : List Event}
    (isConfig : ∀ event ∈ events, isConfigEvent event = true) :
    ∃ text next, Yields settings memory (events.map .book) text next ∧ next.depth = memory.depth ∧
      next.codeDepth = memory.codeDepth := by
  induction events generalizing memory with
  | nil => exact ⟨"", memory, yields_nil settings memory, rfl, rfl⟩
  | cons event rest ih =>
      obtain ⟨stage, structural, owned, rules, sameDepth, sameCode⟩ :=
        exists_stage_of_configEvent memory (isConfig event List.mem_cons_self)
      have plain : ∀ target ∈ (stage.replace memory (.book event)).1, isPlainTarget target = true := by
        intro target member
        have rule := rules target member
        unfold isDocumentRule at rule
        split at rule
        · rfl
        · cases rule
      rcases exists_renders_of_rules rules with ⟨fragments, renders⟩
      have yields : Yields settings memory [.book event] _ _ :=
        yields_structural structural owned rfl plain renders
      obtain ⟨more, next, yieldsRest, sameDepth', sameCode'⟩ :=
        ih _ fun other member => isConfig other (List.mem_cons_of_mem _ member)
      exact ⟨_, next, yields.append yieldsRest, sameDepth'.trans sameDepth,
        sameCode'.trans sameCode⟩

theorem isConfigEvent_configEvents (config : Config) :
    ∀ event ∈ configEvents config, isConfigEvent event = true := by
  intro event member
  unfold configEvents at member
  rcases List.mem_append.mp member with inTitle | inAuthors
  · split at inTitle
    · cases inTitle
    · split at inTitle
      · cases inTitle
      · rw [List.mem_singleton.mp inTitle]
        rfl
  · split at inAuthors
    · cases inAuthors
    · simp only [List.cons_append, List.mem_cons, List.mem_append, List.mem_map, List.not_mem_nil,
        or_false] at inAuthors
      rcases inAuthors with rfl | ⟨name, _, rfl⟩ | rfl
      · rfl
      · rfl
      · rfl

/-! ### Whole books -/

/-- Whatever makes prose of texts, a book with nested prose is rendered as its configuration, and then its
    items one after the other, each by itself. -/
theorem renderBook_eq_append (tokenizer : Tokenizer) (settings : Settings) (book : Manuscript)
    (nested : wellNested tokenizer book.items = true) :
    ∃ head body,
      Markup.markup (convertToTypst settings ((configEvents book.config).map .book)) = .ok head ∧
        itemsMarkup tokenizer settings 0 book.items = .ok body ∧
          renderBook tokenizer settings book = .ok (head ++ body) := by
  obtain ⟨head, middle, yieldsConfig, atTop, outside⟩ :=
    exists_yields_config settings .initial (isConfigEvent_configEvents book.config)
  obtain ⟨events, body, okEvents, okBody, yieldsItems⟩ :=
    exists_yields_items settings book.items none middle outside nested
  rw [atTop] at okBody
  refine ⟨head, body, yieldsConfig.markup, okBody, ?_⟩
  -- The boundaries of parts are repaired behind the configuration, so that the pieces in front of them
  -- can be put together first.
  have root : Yields settings .initial [.book (.root book.root)] "" .initial :=
    yields_unowned settings .initial rfl
  have front := root.append yieldsConfig
  have okBook : book.events tokenizer = .ok ([.book (.root book.root)] ++
      (configEvents book.config).map .book ++ normalizeParts (events.map .book)) := by
    rw [Manuscript.events, eventsOfItems, okEvents]
    rfl
  have whole := (front.append yieldsItems).markup
  rw [String.empty_append] at whole
  rw [renderBook, okBook]
  simp only [convertToTypst_normalizeParts front.leads, whole]
  rfl

/-- A book with a chapter in a chapter, a list, a part that starts in the middle, and a draft. -/
def handbook : Manuscript where
  root := ⟨.current, ["handbook"]⟩
  config := { title := some "Handbook", authors := ["Ann", "Bo"] }
  items :=
    [.chapter { name := "Guide", content := "# Start\n\n- a *b*\n" }
      [.chapter { name := "More", content := "# End\n" } []],
     .part "Rest", .separator, .chapter { name := "Notes" } []]

theorem renderBook_eq_append_handbook :
    wellNested (eventsOfText CommonMark.documentTokens) handbook.items = true ∧
      ∃ head body,
        Markup.markup (convertToTypst .everything ((configEvents handbook.config).map .book)) =
            .ok head ∧
          itemsMarkup (eventsOfText CommonMark.documentTokens) .everything 0 handbook.items = .ok body ∧
            renderBook (eventsOfText CommonMark.documentTokens) .everything handbook =
              .ok (head ++ body) := by
  have nested : wellNested (eventsOfText CommonMark.documentTokens) handbook.items = true := by
    decide +kernel
  exact ⟨nested, renderBook_eq_append _ .everything handbook nested⟩

end Bindery.Book
