/-
Module: Bindery.Proofs.HeadingPlaces
Layer: Proofs
Purpose: The lines of headings in a book. Every piece of a book stands where nothing is open and leaves
  nothing open, so that the document of the whole book is laid out. A heading of a chapter or of its text
  then starts a line, except directly in an item behind content of a line, where no line feed is written in
  front of it; and it ends the line that it is on, with other line feeds inside it exactly for breaks and for
  line feeds that are shown.
Imports: Bindery.Proofs.BlockNesting, Bindery.Proofs.LoadedBook, Bindery.Proofs.ProseLayout
Main exports: HeadingLine, exists_heading_line, LaidOut, laidOut_of_emits, headings_of_book
-/
import Bindery.Proofs.BlockNesting
import Bindery.Proofs.LoadedBook
import Bindery.Proofs.ProseLayout

namespace Bindery.Markup

/-! ### Headings of a document -/

/-- Cutting a list of document events cuts what they are made of. -/
theorem exists_map_typst {targets : List Typst.Event} {before behind : List Event} {event : Typst.Event}
    (split : targets.map .typst = before ++ .typst event :: behind) :
    ∃ front back, targets = front ++ event :: back ∧
      before = front.map .typst ∧ behind = back.map .typst := by
  obtain ⟨front, others, rfl, rfl, isOthers⟩ := List.map_eq_append_iff.mp split
  obtain ⟨first, back, rfl, isEvent, rfl⟩ := List.map_eq_cons_iff.mp isOthers
  cases isEvent
  exact ⟨front, back, rfl, rfl, rfl⟩

/-- How a heading stands on its line, with `before` in front of it and `inside` between its ends, for which
    `front` and `content` are written: a line starts in front of it unless it is behind content of a line, and
    a line feed is written inside it only where something in it goes on to another line. -/
structure HeadingLine (before inside : List Event) (heading : Typst.Tag) (front content : List String) :
    Prop where
  front_length : front.length = before.length
  content_length : content.length = inside.length
  unstarted : startsLine (lastWritten before front) = false ↔ BehindContent before front
  broken : '\n' ∈ (String.join content).toList ↔
    ∃ first event last, inside = first ++ .typst event :: last ∧
      breaksLine (openCount isBareLink (before ++ .typst (.start heading) :: first) ≠ 0) event = true

/-- Inside a container, a line feed is written for what goes on to another line there, and for nothing
    else. -/
theorem mem_join_iff_inside {before : List Event} {inside : List Typst.Event} {front content : List String}
    {heading : Typst.Tag} {marker : String} {outer inner last : Renderer}
    (rendersFront : Renders .initial before front outer)
    (start : outer.step (.typst (.start heading)) = .ok (marker, inner))
    (rendersInside : Renders inner (inside.map .typst) content last)
    (contents : ∀ event ∈ inside, isLineContent event = true) :
    '\n' ∈ (String.join content).toList ↔
      ∃ first event last, inside.map .typst = first ++ .typst event :: last ∧
        breaksLine (openCount isBareLink (before ++ .typst (.start heading) :: first) ≠ 0) event = true := by
  have sound := sound_step (rendersFront.sound sound_initial) start
  have bare {first : List Event} {pieces : List String} {here : Renderer}
      (rendersFirst : Renders inner first pieces here) :
      decide (openCount isBareLink (before ++ .typst (.start heading) :: first) ≠ 0) =
        here.opened.any isBareLink := by
    have whole := rendersFront.append (.cons start rendersFirst)
    rw [← whole.countP_opened, Bool.eq_iff_iff, decide_eq_true_eq]
    exact countP_ne_zero_iff_any isBareLink here.opened
  rw [mem_join_iff rendersInside sound contents]
  constructor
  · rintro ⟨first, event, behind, pieces, here, rfl, rendersFirst, breaks⟩
    refine ⟨first.map .typst, event, behind.map .typst, List.map_append, ?_⟩
    rwa [bare rendersFirst]
  · rintro ⟨first, event, behind, split, breaks⟩
    obtain ⟨first, back, rfl, rfl, rfl⟩ := exists_map_typst split
    rw [List.map_append] at rendersInside
    obtain ⟨pieces, here, _, -, rendersFirst, -⟩ := rendersInside.cut
    refine ⟨first, event, back, pieces, here, rfl, rendersFirst, ?_⟩
    rwa [bare rendersFirst] at breaks

/-- A heading in a document that is laid out has its equals signs, a line feed at its end, and its line. -/
theorem exists_heading_line {targets : List Typst.Event} {final : Spot} {written : List String}
    {state : Renderer} (laidOut : Spot.initial.through targets = some final) (closed : final.opened = [])
    (renders : Renders .initial (targets.map .typst) written state)
    {before behind : List Event} {level : Int} {outline : Typst.Outline} {bookmarks : Typst.Bookmarks}
    (split : targets.map .typst = before ++ .typst (.start (.heading level outline bookmarks)) :: behind) :
    ∃ front content rest inside after,
      written = front ++ (repeated level.toNat '=' ++ " ") :: (content ++ "\n" :: rest) ∧
      behind = inside ++ .typst (.finish (.heading level outline bookmarks)) :: after ∧
      HeadingLine before inside (.heading level outline bookmarks) front content := by
  obtain ⟨earlier, later, rfl, rfl, rfl⟩ := exists_map_typst split
  have laidOutAll := laidOut
  rw [through_append, Option.bind_eq_some_iff] at laidOut
  obtain ⟨spot, -, laidOutHeading⟩ := laidOut
  rw [through_cons, Option.bind_eq_some_iff] at laidOutHeading
  obtain ⟨next, allowed, laidOutBehind⟩ := laidOutHeading
  obtain ⟨-, -, rfl⟩ := after_start allowed
  have nothing : ∀ other ∈ ([] : List Typst.Tag), isLineTag other = true := nofun
  obtain ⟨inside, after, rfl, contents⟩ := exists_finish_of_line rfl nothing laidOutBehind closed
  -- The fragments are cut where the events are: in front of the heading, and in front of its finish.
  rw [List.map_append, List.map_cons, List.map_append, List.map_cons] at renders
  obtain ⟨front, outer, more, rfl, rendersFront, rendersMore⟩ := renders.cut
  obtain ⟨plain, place⟩ := heading_place laidOutAll rendersFront
  cases rendersMore with
  | @cons _ inner _ _ _ marker _ start rendersInner =>
      obtain ⟨content, last, finish, rfl, rendersInside, rendersFinish⟩ := rendersInner.cut
      cases rendersFinish with
      | @cons _ _ _ _ _ ending rest leaves _ =>
          obtain ⟨entering, entered, -⟩ := enter_of_step start
          obtain ⟨below, -, left⟩ := leave_of_step leaves
          have isMarker : marker = repeated level.toNat '=' ++ " " := by
            cases entered
            rw [headingStart, plain, if_pos rfl]
          have isEnding : ending = "\n" := by
            rw [Renderer.leave, plain, if_pos rfl] at left
            exact (congrArg Prod.fst left).symm
          subst isMarker isEnding
          refine ⟨front, content, rest, inside.map .typst, after.map .typst, rfl, ?_, ?_⟩
          · rw [List.map_append, List.map_cons]
          · exact ⟨rendersFront.length_eq, rendersInside.length_eq, place,
              mem_join_iff_inside rendersFront start rendersInside contents⟩

end Bindery.Markup

namespace Bindery.Book

open Bindery.Convert (Memory convertToTypst convertToTypst_eq_targetFrom convertToTypst_normalizeParts
  pass_append targetFrom_pass)
open Bindery.Markup (BehindContent HeadingLine Spot fragments lastWritten repeated startsLine through_append)
open Prose (Laid eventsOfText)

/-! ### Pieces of a book -/

/-- Do events stand where nothing is open and leave nothing open, whatever is remembered before them? -/
def LaidOut (events : List Event) : Prop :=
  ∀ memory : Memory, Spot.initial.through (Convert.pass memory events) = some .initial

theorem laidOut_nil : LaidOut [] := fun _ => rfl

theorem LaidOut.append {first second : List Event} (laidFirst : LaidOut first) (laidSecond : LaidOut second) :
    LaidOut (first ++ second) := by
  intro memory
  rw [pass_append, through_append, laidFirst memory, Option.bind_some]
  exact laidSecond _

/-- What is no prose stands outside of all containers: a chapter starts with a heading around its name. -/
theorem laidOut_structural {event : Event} (structural : ∀ inner, event ≠ .prose inner) :
    LaidOut [event] := by
  intro memory
  rw [Convert.pass, Convert.pass, List.append_nil]
  cases event with
  | prose inner => exact absurd rfl (structural inner)
  | start tag =>
      cases tag with
      | chapter status name source number =>
          simp [Convert.translate, Convert.plainHeading, Spot.through, Spot.after, Spot.initial, Spot.takes,
            Spot.held, Spot.takesHeading, Spot.isHeading, Spot.entered, Spot.left, Markup.standing,
            Markup.holding]
      | _ => rfl
  | finish tag =>
      cases tag with
      | chapter status name source number => rfl
      | authorList =>
          rw [Convert.translate]
          dsimp only
          split
          · rfl
          · rfl
      | _ => rfl
  | _ => rfl

/-- The configuration stands outside of all containers. -/
theorem laidOut_of_config {events : List Event} (isConfig : ∀ event ∈ events, isConfigEvent event = true) :
    LaidOut events := by
  induction events with
  | nil => exact laidOut_nil
  | cons event rest ih =>
      have first : LaidOut [event] := by
        apply laidOut_structural
        rintro inner rfl
        cases isConfig _ List.mem_cons_self
      exact first.append (ih fun other member => isConfig other (List.mem_cons_of_mem _ member))

theorem laidOut_separator : LaidOut [.separator] := laidOut_structural nofun

theorem laidOut_partStart (title : String) : LaidOut [.start (.part (some title) none)] :=
  laidOut_structural nofun

theorem laidOut_finishPart (current : Option String) : LaidOut (finishPart current) := by
  cases current with
  | none => exact laidOut_nil
  | some title => exact laidOut_structural nofun

/-- The ends of a container go around what leaves nothing open. -/
theorem LaidOut.enclose {inner : List Event} (laidInner : LaidOut inner) (tag : Tag) :
    LaidOut (.start tag :: inner ++ [.finish tag]) := by
  have starts : LaidOut [.start tag] := laidOut_structural nofun
  have ends : LaidOut [.finish tag] := laidOut_structural nofun
  exact (starts.append laidInner).append ends

variable {parser : Prose.Parser}

/-- The prose of a chapter leaves nothing open. -/
theorem laidOut_contentEvents {content : String} (laid : Laid .flow (parser content)) :
    LaidOut (contentEvents (eventsOfText parser) content) := by
  have prose : LaidOut ((eventsOfText parser content).map .prose) := Prose.through_eventsOfText laid
  unfold contentEvents
  split
  · exact laidOut_nil
  · exact prose.enclose (.content .markdown)

theorem laidOut_chapterBlock {chapter : Chapter} (laid : Laid .flow (parser chapter.content))
    {below : List Event} (laidBelow : LaidOut below) :
    LaidOut (chapterBlock (eventsOfText parser) chapter below) := by
  rw [chapterBlock, List.cons_append]
  exact ((laidOut_contentEvents laid).append laidBelow).enclose chapter.tag

/-- The items of a book leave nothing open, chapter by chapter. -/
theorem laidOut_of_emits {current : Option String} {items : List Item} {events : List Event}
    (emits : Emits (eventsOfText parser) current items events)
    (laid : ∀ content ∈ contents items, Laid .flow (parser content)) : LaidOut events := by
  induction emits with
  | nil current => exact laidOut_nil
  | chapter chapter _ _ laidBelow laidMore =>
      simp only [contents, Item.contents, List.cons_append, List.forall_mem_cons,
        List.forall_mem_append] at laid
      exact (laidOut_chapterBlock laid.1 (laidBelow laid.2.1)).append (laidMore laid.2.2)
  | separator _ laidMore => exact laidOut_separator.append (laidMore laid)
  | @part current title _ _ _ laidMore =>
      exact (laidOut_finishPart current).append ((laidOut_partStart title).append (laidMore laid))

/-- Items that have events have nested prose. -/
theorem wellNested_of_emits {current : Option String} {items : List Item} {events : List Event}
    (emits : Emits (eventsOfText parser) current items events)
    (laid : ∀ content ∈ contents items, Laid .flow (parser content)) :
    wellNested (eventsOfText parser) items = true := by
  induction emits with
  | nil => rw [wellNested]
  | chapter chapter _ _ nestedBelow nestedMore =>
      simp only [contents, Item.contents, List.cons_append, List.forall_mem_cons,
        List.forall_mem_append] at laid
      have nested : nestedProse (eventsOfText parser chapter.content) = true :=
        nestedProse_of_nestFrom (Prose.nestFrom_eventsOfText laid.1.nest)
      rw [wellNested, Item.isWellNested, nested, nestedBelow laid.2.1, nestedMore laid.2.2]
      rfl
  | separator _ nestedMore | part _ _ nestedMore =>
      rw [wellNested, Item.isWellNested, nestedMore laid]
      rfl

/-! ### Books -/

/-- The document of a book is laid out, and it is rendered to its end. -/
theorem exists_layout {book : Manuscript}
    (laid : ∀ content ∈ contents book.items, Laid .flow (parser content)) {events : List Bindery.Event}
    (given : book.events (eventsOfText parser) = .ok events) :
    ∃ targets written, convertToTypst .everything events = targets.map .typst ∧
      Spot.initial.through targets = some .initial ∧
      Markup.Renders .initial (targets.map .typst) written .initial := by
  obtain ⟨itemsGiven, okItems, rfl⟩ := exists_of_map_ok given
  obtain ⟨items, okEvents, rfl⟩ := exists_of_map_ok okItems
  have emits := emits_of_itemEvents okEvents
  obtain ⟨head, middle, yieldsFront, outside⟩ := exists_yields_front .everything book
  obtain ⟨others, body, okOthers, -, yieldsItems⟩ :=
    exists_yields_items .everything book.items none middle outside
      (wellNested_of_emits emits laid)
  obtain rfl : items = others := Except.ok.inj (okEvents.symm.trans okOthers)
  have isDocument : convertToTypst .everything
      (.book (.root book.root) :: (configEvents book.config).map .book ++ normalizeParts (items.map .book)) =
        (Convert.pass .initial (.root book.root :: configEvents book.config ++ items)).map .typst := by
    rw [convertToTypst_normalizeParts yieldsFront.leads, convertToTypst_eq_targetFrom, ← targetFrom_pass,
      List.map_append, List.map_cons]
  have root : LaidOut [.root book.root] := laidOut_structural nofun
  have front := root.append (laidOut_of_config (isConfigEvent_configEvents book.config))
  obtain ⟨written, renders, -⟩ := (yieldsFront.append yieldsItems).renders
  rw [← convertToTypst_eq_targetFrom, ← convertToTypst_normalizeParts yieldsFront.leads,
    isDocument] at renders
  have whole : LaidOut (.root book.root :: configEvents book.config ++ items) :=
    front.append (laidOut_of_emits emits laid)
  exact ⟨_, written, isDocument, whole .initial, renders⟩

/-- The headings of a book, those of chapters and those in their texts. Each has its equals signs and a line
    feed at its end. A line starts in front of it, except directly in an item behind content of a line that
    was not ended: there none does. Between its two ends a line feed is written exactly if it holds a break,
    or a text, code or an address with a line feed that is shown. -/
theorem headings_of_book (parser : Prose.Parser) {book : Manuscript}
    (laid : ∀ content ∈ contents book.items, Laid .flow (parser content)) {events : List Bindery.Event}
    (given : book.events (eventsOfText parser) = .ok events) :
    ∃ written, fragments (convertToTypst .everything events) = .done written ∧
      renderBook (eventsOfText parser) .everything book = .ok (String.join written) ∧
      ∀ before level outline bookmarks behind,
        convertToTypst .everything events =
            before ++ .typst (.start (.heading level outline bookmarks)) :: behind →
          ∃ front content rest inside after,
            written = front ++ (repeated level.toNat '=' ++ " ") :: (content ++ "\n" :: rest) ∧
            behind = inside ++ .typst (.finish (.heading level outline bookmarks)) :: after ∧
            HeadingLine before inside (.heading level outline bookmarks) front content := by
  obtain ⟨targets, written, isDocument, laidOut, renders⟩ := exists_layout laid given
  have closed : Spot.initial.opened = [] := rfl
  refine ⟨written, ?_, ?_, ?_⟩
  · rw [isDocument]
    exact renders.run
  · rw [renderBook, given]
    simp only [isDocument, renders.markup]
    rfl
  · intro before level outline bookmarks behind split
    rw [isDocument] at split
    exact Markup.exists_heading_line laidOut closed renders split

/-- A book with a heading in an item of a tight list, behind the text of the item. -/
def shoppingList : Manuscript where
  root := ⟨.current, ["shopping"]⟩
  config := {}
  items := [.chapter { name := "C", content := "- a\n  # b\n" } []]

/-- Its document in front of the heading in the item. -/
def aboveHeading : List Bindery.Event :=
  [.typst (.start (.heading 1 .included .included)), .typst (.text "C"),
    .typst (.finish (.heading 1 .included .included)), .typst (.start (.bulletList none false)),
    .typst (.start .item), .typst (.text "a")]

/-- Its document behind the start of the heading in the item. -/
def belowHeading : List Bindery.Event :=
  [.typst (.text "b"), .typst (.finish (.heading 1 .included .included)), .typst (.finish .item),
    .typst (.finish (.bulletList none false)), .typst (.call none "pagebreak" ["weak: true"])]

/-- The equals sign of that heading stands behind the text, on one line with it. -/
theorem headings_of_book_shoppingList :
    ∃ events, shoppingList.events (eventsOfText CommonMark.documentTokens) = .ok events ∧
      convertToTypst .everything events =
        aboveHeading ++ .typst (.start (.heading 1 .included .included)) :: belowHeading ∧
      ∃ front rest, renderBook (eventsOfText CommonMark.documentTokens) .everything shoppingList =
          .ok (String.join (front ++ "= " :: rest)) ∧
        front = ["= ", "C", "\n", "", "- ", "a"] ∧ BehindContent aboveHeading front ∧
          startsLine (lastWritten aboveHeading front) = false := by
  have prose : eventsOfText CommonMark.documentTokens "- a\n  # b\n" =
      [.start (.list none), .start .item, .text "a", .start (.heading 1), .text "b", .finish (.heading 1),
        .finish .item, .finish (.list none)] := by decide +kernel
  obtain ⟨events, given, isDocument⟩ : ∃ events,
      shoppingList.events (eventsOfText CommonMark.documentTokens) = .ok events ∧
      convertToTypst .everything events =
        aboveHeading ++ .typst (.start (.heading 1 .included .included)) :: belowHeading := by
    simp only [shoppingList, Manuscript.events, eventsOfItems, itemEvents, contentEvents, prose, Except.map]
    refine ⟨_, rfl, ?_⟩
    decide +kernel
  obtain ⟨written, done, rendered, headings⟩ :=
    headings_of_book CommonMark.documentTokens (fun content _ => CommonMark.laid_documentTokens content)
      given
  obtain ⟨front, content, rest, inside, after, rfl, -, line⟩ := headings _ _ _ _ _ isDocument
  have isFront : front = ["= ", "C", "\n", "", "- ", "a"] := by
    have explicit : fragments
        (aboveHeading ++ .typst (.start (.heading 1 .included .included)) :: belowHeading) =
        .done (["= ", "C", "\n", "", "- ", "a"] ++
          ["= ", "b", "\n", "\n", "", "#pagebreak(weak: true)\n"]) := by decide +kernel
    rw [isDocument, explicit] at done
    exact (List.append_inj_left (congrArg Drained.items done) line.front_length.symm).symm
  have noStart : startsLine (lastWritten aboveHeading front) = false := by
    rw [isFront]
    decide
  exact ⟨events, given, isDocument, front, content ++ "\n" :: rest, rendered, isFront,
    line.unstarted.mp noStart, noStart⟩

end Bindery.Book
