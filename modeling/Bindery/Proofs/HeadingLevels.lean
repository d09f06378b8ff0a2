/-
Module: Bindery.Proofs.HeadingLevels
Layer: Proofs
Purpose: Heading levels follow the nesting of chapters. In a balanced book the chapter stage counts the
  chapters around each event, so what follows a piece is converted as it would be inside as many chapters
  as the piece leaves open. A chapter becomes a heading one level below the chapters around it; a heading of
  its prose moves down by one level less than there are chapters around it, alike at both of its ends, and
  none goes below the deepest level.
Imports: Bindery.Proofs.OpenTags, Bindery.Proofs.StageMemory, Bindery.Proofs.StageNesting
Main exports: chaptersAround, headed, headed_append, headed_chapter, levelInside, exists_headed_heading,
  headed_levels
-/
import Bindery.Proofs.OpenTags
import Bindery.Proofs.StageMemory
import Bindery.Proofs.StageNesting

namespace Bindery.Convert

/-! ### Chapters around an event -/

/-- Is the container a chapter? -/
def isChapterTag : Tag → Bool
  | .book (.chapter _ _ _ _) => true
  | _ => false

/-- How many chapters are open after structural events. -/
def chaptersAround (before : List Book.Event) : Nat :=
  ((before.map Event.book).foldl tagsAfter []).countP isChapterTag

/-- In a balanced stream the chapter stage counts the chapters that are open. -/
theorem depth_replaceChapters {memory : Memory} {stack : List Tag} {event : Book.Event}
    (counts : memory.depth = stack.countP isChapterTag) (fits : Fits stack (.book event)) :
    (replaceChapters memory (.book event)).2.depth = (tagsAfter stack (.book event)).countP isChapterTag := by
  cases event with
  | start tag =>
      cases tag with
      | chapter => exact (congrArg (· + 1) counts).trans (List.countP_cons_of_pos rfl).symm
      | _ => exact counts
  | finish tag =>
      obtain ⟨below, rfl⟩ := List.head?_eq_some_iff.mp (fits (.book tag) rfl)
      cases tag with
      | chapter => exact congrArg (· - 1) (counts.trans (List.countP_cons_of_pos rfl))
      | _ => exact counts
  | prose inner =>
      cases inner with
      | finish tag =>
          obtain ⟨below, rfl⟩ := List.head?_eq_some_iff.mp (fits (.markdown tag) rfl)
          exact counts
      | _ => exact counts
  | _ => exact counts

/-- What the chapter stage has counted after a piece of a balanced stream. -/
theorem depth_after {memory : Memory} {stack : List Tag} {first : List Book.Event} {rest : List Event}
    (counts : memory.depth = stack.countP isChapterTag)
    (balanced : (balancedFrom stack (first.map .book ++ rest)).fault = none) :
    (Stage.chapters.after memory (first.map .book)).depth =
      ((first.map Event.book).foldl tagsAfter stack).countP isChapterTag := by
  induction first generalizing memory stack with
  | nil => exact counts
  | cons event first ih =>
      obtain ⟨fits, balancedRest⟩ := balanced_cons_iff.mp balanced
      exact ih (depth_replaceChapters counts fits) balancedRest

/-! ### Piece by piece -/

/-- What the stages of chapters, embedded prose and headings make of structural events that stand inside
    `depth` chapters. -/
def headed (depth : Nat) (events : List Book.Event) : List Event :=
  convertFrom ⟨[], depth, 0⟩ [.chapters, .content, .headings] (events.map .book)

/-- Behind a piece, events are converted as they would be inside the chapters that it leaves open. -/
theorem headed_append {depth depth' : Nat} {first : List Book.Event}
    (leads : (Stage.chapters.after ⟨[], depth, 0⟩ (first.map .book)).depth = depth')
    (second : List Book.Event) :
    headed depth (first ++ second) = headed depth first ++ headed depth' second := by
  have pieces : Leads [.chapters, .content, .headings] ⟨[], depth, 0⟩ (first.map .book) ⟨[], depth', 0⟩ :=
    ⟨leads, trivial, trivial, trivial⟩
  rw [headed, List.map_append]
  exact convertFrom_append pieces (second.map .book)

theorem headed_cons (depth : Nat) (event : Book.Event) (rest : List Book.Event) :
    headed depth (event :: rest) =
      headed depth [event] ++ headed (replaceChapters ⟨[], depth, 0⟩ (.book event)).2.depth rest :=
  @headed_append depth _ [event] rfl rest

def headingAround (level : Int) (between : List Event) : List Event :=
  .typst (.start (plainHeading level)) :: between ++ [.typst (.finish (plainHeading level))]

/-- A level that is positive is only capped. -/
theorem clampHeading_of_pos {level : Int} (positive : 1 ≤ level) : clampHeading level = min level 6 := by
  rw [clampHeading, Typst.deepestHeading]
  omega

/-- A chapter becomes a heading around its name. -/
theorem headed_chapter (depth : Nat) (status : Book.ChapterStatus) (name : String)
    (source : Option Book.Source) (number : Option Int) :
    headed depth [.start (.chapter status name source number)] =
      headingAround (min (1 + depth) 6) [.typst (.text name)] := by
  rw [← clampHeading_of_pos (by omega)]
  rfl

/-- Prose moves down if it is a heading, and is unwrapped. -/
theorem headed_prose (depth : Nat) (inner : Markdown.Event) :
    headed depth [.prose inner] = [replaceTag headingTag (.markdown (lowered (depth - 1) inner))] := by
  rw [headed, List.map_singleton, convertFrom_cons, run_singleton, Stage.replace, replaceChapters_prose]
  rfl

/-- What opens and closes nothing is no heading, and does not move. -/
theorem lowered_leaf {depth : Nat} {inner : Markdown.Event} (leaf : inner.bracket = .leaf) :
    lowered depth inner = inner := by
  cases inner with
  | start | finish => cases leaf
  | _ => exact ite_self _

def IsLevel (level : Int) : Prop := 1 ≤ level ∧ level ≤ 6

instance (level : Int) : Decidable (IsLevel level) := inferInstanceAs (Decidable (1 ≤ level ∧ level ≤ 6))

/-- The level of a heading inside chapters: it moves down once for every chapter but the innermost. -/
def levelInside (depth : Nat) (level : Int) : Int :=
  match depth with
  | 0 => level
  | around + 1 => min (level + around) 6

/-- A heading of prose moves down as far as its level says. -/
theorem loweredTag_heading {level : Int} (inRange : IsLevel level) (depth : Nat) :
    loweredTag (depth - 1) (.heading level) = .heading (levelInside depth level) := by
  obtain ⟨positive, capped⟩ := inRange
  rw [loweredTag, Markdown.Tag.heading.injEq]
  cases depth with
  | zero => rfl
  | succ around =>
      rw [Nat.add_sub_cancel, levelInside]
      split
      · exact clampHeading_of_pos (by omega)
      · omega

theorem headed_headingStart {level : Int} (inRange : IsLevel level) (depth : Nat) :
    headed depth [.prose (.start (.heading level))] =
      [.typst (.start (plainHeading (levelInside depth level)))] := by
  rw [headed_prose, lowered_start, loweredTag_heading inRange]
  rfl

theorem headed_headingFinish {level : Int} (inRange : IsLevel level) (depth : Nat) :
    headed depth [.prose (.finish (.heading level))] =
      [.typst (.finish (plainHeading (levelInside depth level)))] := by
  rw [headed_prose, lowered_finish, loweredTag_heading inRange]
  rfl

/-! ### Levels -/

/-- The level of a heading of prose, at either of its ends. -/
def proseLevel? : Book.Event → Option Int
  | .prose (.start (.heading level)) => some level
  | .prose (.finish (.heading level)) => some level
  | _ => none

/-- The level of a heading of the target, at either of its ends. -/
def targetLevel? : Event → Option Int
  | .typst (.start (.heading level _ _)) => some level
  | .typst (.finish (.heading level _ _)) => some level
  | _ => none

theorem isLevel_levelInside {level : Int} (inRange : IsLevel level) (depth : Nat) :
    IsLevel (levelInside depth level) := by
  obtain ⟨positive, capped⟩ := inRange
  cases depth with
  | zero => exact ⟨positive, capped⟩
  | succ around =>
      rw [levelInside]
      constructor <;> omega

/-- Bare prose becomes a heading of the level that it has. -/
theorem targetLevel?_replaceTag (inner : Markdown.Event) :
    targetLevel? (replaceTag headingTag (.markdown inner)) = proseLevel? (.prose inner) := by
  cases inner with
  | start tag | finish tag => cases tag <;> rfl
  | _ => rfl

/-- The level of a heading of prose inside chapters. -/
theorem proseLevel?_lowered {inner : Markdown.Event} (depth : Nat)
    (inRange : ∀ level ∈ proseLevel? (.prose inner), IsLevel level) :
    proseLevel? (.prose (lowered (depth - 1) inner)) =
      (proseLevel? (.prose inner)).map (levelInside depth) := by
  cases inner with
  | start tag =>
      rw [lowered_start]
      cases tag with
      | heading level =>
          rw [loweredTag_heading (inRange level rfl)]
          rfl
      | _ => rfl
  | finish tag =>
      rw [lowered_finish]
      cases tag with
      | heading level =>
          rw [loweredTag_heading (inRange level rfl)]
          rfl
      | _ => rfl
  | _ =>
      rw [lowered_leaf rfl]
      rfl

/-- What one event becomes has only headings with levels, if its own level is one. -/
theorem isLevel_of_headed_singleton {depth : Nat} {event : Book.Event}
    (inRange : ∀ level ∈ proseLevel? event, IsLevel level) :
    ∀ made ∈ headed depth [event], ∀ level ∈ targetLevel? made, IsLevel level := by
  intro made member level isHeading
  have single {other : Event} (only : made ∈ [other]) : level ∈ targetLevel? other := by
    rwa [List.mem_singleton.mp only] at isHeading
  cases event with
  | start tag =>
      cases tag with
      | chapter status name source number =>
          have inside : IsLevel (min (1 + depth) 6) := by constructor <;> omega
          rw [headed_chapter] at member
          simp only [headingAround, List.cons_append, List.nil_append, List.mem_cons, List.not_mem_nil,
            or_false] at member
          rcases member with rfl | rfl | rfl
          · cases isHeading
            exact inside
          · cases isHeading
          · cases isHeading
            exact inside
      | _ => cases single member
  | finish tag => cases tag <;> cases single member
  | prose inner =>
      rw [headed_prose] at member
      have moved := single member
      rw [targetLevel?_replaceTag, proseLevel?_lowered depth inRange] at moved
      obtain ⟨original, isOriginal, rfl⟩ := Option.map_eq_some_iff.mp moved
      exact isLevel_levelInside (inRange original isOriginal) depth
  | _ => cases single member

/-- The headings of a book have levels if those of its prose have. -/
theorem isLevel_of_headed {events : List Book.Event} (depth : Nat)
    (inRange : ∀ event ∈ events, ∀ level ∈ proseLevel? event, IsLevel level) :
    ∀ made ∈ headed depth events, ∀ level ∈ targetLevel? made, IsLevel level := by
  induction events generalizing depth with
  | nil => simp [headed, convertFrom]
  | cons event rest ih =>
      intro made member
      rw [headed_cons, List.mem_append] at member
      rcases member with inFirst | inRest
      · exact isLevel_of_headed_singleton (inRange event List.mem_cons_self) made inFirst
      · exact ih _ (fun other isOther => inRange other (List.mem_cons_of_mem _ isOther)) made inRest

/-! ### Chapters and headings in their places -/

/-- What closes a container of prose in a book is its embedded finish. -/
theorem eq_finish_of_bracket {event : Book.Event} {tag : Markdown.Tag}
    (closes : (Event.book event).bracket = .closing (.markdown tag)) : event = .prose (.finish tag) := by
  cases event with
  | prose inner =>
      cases inner with
      | finish tag =>
          cases closes
          rfl
      | _ => cases closes
  | _ => cases closes

/-- Behind a piece of a balanced book, events are converted as inside the chapters around them. -/
theorem headed_behind {before behind : List Book.Event}
    (balanced : balanceFault? ((before ++ behind).map .book) = none) :
    headed 0 (before ++ behind) = headed 0 before ++ headed (chaptersAround before) behind := by
  rw [balanceFault?, ensureBalanced, List.map_append] at balanced
  exact headed_append (depth_after rfl balanced) behind

/-- Prose has no part in counting chapters. -/
theorem headed_cons_prose (depth : Nat) (inner : Markdown.Event) (rest : List Book.Event) :
    headed depth (.prose inner :: rest) = headed depth [.prose inner] ++ headed depth rest :=
  headed_cons depth (.prose inner) rest

/-- A heading of prose has its finish behind what it holds, and its two ends are converted alike. -/
theorem exists_headed_heading {stack : List Tag} {level : Int} (inRange : IsLevel level)
    {rest : List Book.Event}
    (balanced : (balancedFrom stack ((.prose (.start (.heading level)) :: rest).map .book)).fault = none) :
    ∃ inside behind, rest = inside ++ .prose (.finish (.heading level)) :: behind ∧
      balanceFault? (inside.map .book) = none ∧
        headed (stack.countP isChapterTag) (.prose (.start (.heading level)) :: rest) =
          headingAround (levelInside (stack.countP isChapterTag) level)
              (headed (stack.countP isChapterTag) inside) ++
            headed (stack.countP isChapterTag) behind := by
  let opened : List Tag := .markdown (.heading level) :: stack
  have balancedRest : (balancedFrom ([] ++ opened) (rest.map .book)).fault = none :=
    (balanced_cons_iff.mp balanced).2
  obtain ⟨between, closing, after, split, closes, balancedInside⟩ := exists_closing balancedRest
  obtain ⟨inside, tail, rfl, rfl, isTail⟩ := List.map_eq_append_iff.mp split
  obtain ⟨finish, behind, rfl, rfl, rfl⟩ := List.map_eq_cons_iff.mp isTail
  obtain rfl := eq_finish_of_bracket closes
  refine ⟨inside, behind, rfl, balancedInside, ?_⟩
  -- The chapters that are opened inside the heading are also closed there.
  have leads : (Stage.chapters.after ⟨[], opened.countP isChapterTag, 0⟩ (inside.map .book)).depth =
      opened.countP isChapterTag := by
    have closed : (inside.map Event.book).foldl tagsAfter opened = opened :=
      foldl_tagsAfter_of_balanced opened balancedInside
    rw [List.map_append] at balancedRest
    have counted : (Stage.chapters.after ⟨[], opened.countP isChapterTag, 0⟩ (inside.map .book)).depth =
        ((inside.map Event.book).foldl tagsAfter opened).countP isChapterTag := depth_after rfl balancedRest
    rwa [closed] at counted
  have sameDepth : opened.countP isChapterTag = stack.countP isChapterTag := List.countP_cons_of_neg nofun
  rw [sameDepth] at leads
  rw [headed_cons_prose, headed_headingStart inRange, headed_append leads, headed_cons_prose,
    headed_headingFinish inRange]
  simp only [headingAround, List.cons_append, List.nil_append, List.append_assoc]

/-- In a balanced book with proper headings, every chapter becomes a heading around its name, one level below
    the chapters around it, and every heading of prose keeps both of its ends and moves down once for every
    chapter around its own. All levels stay within the six, and no chapter is left open. -/
theorem headed_levels {events : List Book.Event} (balanced : balanceFault? (events.map .book) = none)
    (inRange : ∀ event ∈ events, ∀ level ∈ proseLevel? event, IsLevel level) :
    (∀ before status name source number behind,
      events = before ++ .start (.chapter status name source number) :: behind →
        headed 0 events = headed 0 before ++
          headingAround (min (1 + chaptersAround before) 6) [.typst (.text name)] ++
            headed (chaptersAround before + 1) behind) ∧
      (∀ before level rest, events = before ++ .prose (.start (.heading level)) :: rest →
        ∃ inside behind, rest = inside ++ .prose (.finish (.heading level)) :: behind ∧
          balanceFault? (inside.map .book) = none ∧
            headed 0 events = headed 0 before ++
              headingAround (levelInside (chaptersAround before) level)
                (headed (chaptersAround before) inside) ++
              headed (chaptersAround before) behind) ∧
        (∀ made ∈ headed 0 events, ∀ level ∈ targetLevel? made, IsLevel level) ∧
          (Stage.chapters.after .initial (events.map .book)).depth = 0 := by
  refine ⟨?chapter, ?heading, isLevel_of_headed 0 inRange, ?closed⟩
  case chapter =>
    rintro before status name source number behind rfl
    rw [headed_behind balanced, headed_cons, headed_chapter, List.append_assoc]
    rfl
  case heading =>
    rintro before level rest rfl
    have inRangeStart : IsLevel level := inRange (.prose (.start (.heading level))) (by simp) level rfl
    have behindBefore := balanced
    rw [balanceFault?, ensureBalanced, List.map_append] at behindBefore
    obtain ⟨inside, behind, split, balancedInside, made⟩ :=
      exists_headed_heading inRangeStart (balanced_append behindBefore)
    refine ⟨inside, behind, split, balancedInside, ?_⟩
    rw [headed_behind balanced, List.append_assoc]
    exact congrArg (headed 0 before ++ ·) made
  case closed =>
    have whole : (balancedFrom [] (events.map .book ++ [])).fault = none := by rwa [List.append_nil]
    have closed : (events.map Event.book).foldl tagsAfter [] = [] := foldl_tagsAfter_of_balanced [] balanced
    rw [depth_after rfl whole, closed]
    rfl

/-- A heading outside chapters, a chapter with one of its own, and a chapter in it with a deep one. -/
def headingsInChapters : List Book.Event :=
  [.prose (.start (.heading 3)), .prose (.finish (.heading 3)),
   .start (.chapter .active "Outer" none none), .start (.content .markdown),
   .prose (.start (.heading 2)), .prose (.text "Own"), .prose (.finish (.heading 2)),
   .finish (.content .markdown), .start (.chapter .active "Inner" none (some 1)),
   .start (.content .markdown), .prose (.start (.heading 6)), .prose (.finish (.heading 6)),
   .finish (.content .markdown), .finish (.chapter .active "Inner" none (some 1)),
   .finish (.chapter .active "Outer" none none)]

theorem headed_levels_headingsInChapters :
    (balanceFault? (headingsInChapters.map .book) = none ∧
        ∀ event ∈ headingsInChapters, ∀ level ∈ proseLevel? event, IsLevel level) ∧
      headed 0 headingsInChapters = headed 0 (headingsInChapters.take 8) ++
        headingAround 2 [.typst (.text "Inner")] ++ headed 2 (headingsInChapters.drop 9) ∧
      (∃ inside behind, headed 0 headingsInChapters = headed 0 (headingsInChapters.take 4) ++
        headingAround 2 (headed 1 inside) ++ headed 1 behind) ∧
      (∃ inside behind, headed 0 headingsInChapters = headed 0 (headingsInChapters.take 10) ++
        headingAround 6 (headed 2 inside) ++ headed 2 behind) ∧
      (∀ made ∈ headed 0 headingsInChapters, ∀ level ∈ targetLevel? made, IsLevel level) ∧
      (Stage.chapters.after .initial (headingsInChapters.map .book)).depth = 0 := by
  have balanced : balanceFault? (headingsInChapters.map .book) = none := by decide
  have inRange : ∀ event ∈ headingsInChapters, ∀ level ∈ proseLevel? event, IsLevel level := by decide
  obtain ⟨chapter, heading, levels, closed⟩ := headed_levels balanced inRange
  obtain ⟨own, behindOwn, _, _, madeOwn⟩ := heading (headingsInChapters.take 4) 2 _ rfl
  obtain ⟨deep, behindDeep, _, _, madeDeep⟩ := heading (headingsInChapters.take 10) 6 _ rfl
  exact ⟨⟨balanced, inRange⟩, chapter (headingsInChapters.take 8) _ "Inner" _ _ _ rfl,
    ⟨own, behindOwn, madeOwn⟩, ⟨deep, behindDeep, madeDeep⟩, levels, closed⟩

end Bindery.Convert
