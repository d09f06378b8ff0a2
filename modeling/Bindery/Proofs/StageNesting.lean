/-
Module: Bindery.Proofs.StageNesting
Layer: Proofs
Purpose: Stages keep nesting. What a stage does to the two ends of a container is a reframing of the
  stack: it maps the container, or drops it. The chapter stage moves an embedded heading by the number
  of open chapters, which is the same at both of its ends.
Imports: Bindery.Proofs.Nesting, Bindery.Proofs.StageRun
Main exports: lowered, Stage.frame, reframing_frame, nestFrom_replace, nestFrom_run,
  nestFrom_convertEagerly
-/
import Bindery.Proofs.Nesting
import Bindery.Proofs.StageRun

namespace Bindery.Convert

/-! ### What stages do to containers -/

/-- A container with its tag converted, if it is one of bare prose. -/
def retag (convert : Markdown.Tag → Option Typst.Tag) (frame : Frame) : Frame :=
  match frame with
  | ⟨.markdown tag, false⟩ =>
    match convert tag with
    | some target => ⟨.typst target, false⟩
    | none => frame
  | _ => frame

/-- A prose event with its heading moved down by `depth` levels, capped at the deepest. At the top,
    headings stay as they are. -/
def lowered (depth : Nat) (inner : Markdown.Event) : Markdown.Event :=
  if depth > 0 then shiftHeading depth inner else inner

/-- A prose container moved down by `depth` levels if it is a heading. -/
def loweredTag (depth : Nat) : Markdown.Tag → Markdown.Tag
  | .heading level => .heading (if depth > 0 then clampHeading (level + depth) else level)
  | tag => tag

/-- A container after the chapter stage, inside `depth` chapters. -/
def chapterFrame (depth : Nat) (frame : Frame) : Option Frame :=
  match frame with
  | ⟨.book (.chapter _ _ _ _), _⟩ => none
  | ⟨.markdown tag, true⟩ => some ⟨.markdown (loweredTag (depth - 1) tag), true⟩
  | _ => some frame

/-- A container after the link stage. -/
def linkFrame (frame : Frame) : Option Frame :=
  match frame with
  | ⟨.markdown (.link kind destination _), false⟩ =>
    (linkTarget kind destination).map fun target => ⟨.typst target, false⟩
  | _ => some frame

/-- A container after a stage, unless the stage drops it. -/
def Stage.frame (stage : Stage) (depth : Nat) (frame : Frame) : Option Frame :=
  match stage with
  | .authors => if frame.tag = .book .authorList then none else some frame
  | .chapters => chapterFrame depth frame
  | .content => some ⟨frame.tag, false⟩
  | .links => linkFrame frame
  | .title | .softBreaks | .hardBreaks | .text | .stripHtml => some frame
  | stage => some (retag stage.target frame)

def Stage.family (stage : Stage) (kind : Family) : Family :=
  match stage, kind with
  | .content, .embedded => .prose
  | .lists, .prose => .target
  | _, kind => kind

/-! ### The stages are reframings -/

theorem within_of_fixed {family : Family → Family} {role : Role}
    (fixed : ∀ kind, family kind = kind) : role.within family = role := by
  cases role with
  | list kind | item kind => simp [Role.within, fixed]
  | faulty | plain => rfl

/-- The lists and items of the target stay where they are. -/
theorem within_roleOfTarget (stage : Stage) (tag : Typst.Tag) :
    (roleOfTarget tag).within stage.family = roleOfTarget tag := by
  have fixed : stage.family .target = .target := by cases stage <;> rfl
  unfold roleOfTarget
  split <;> simp [Role.within, fixed]

/-- Only the list stage converts lists and items, and no stage makes a show rule. -/
theorem plain_of_target {stage : Stage} (noList : stage ≠ .lists) {tag : Markdown.Tag}
    {target : Typst.Tag} (converted : stage.target tag = some target) :
    roleOfProse false tag = .plain ∧ roleOfTarget target = .plain := by
  cases converts_of_target converted with
  | bulletList | numberedList | item => exact absurd rfl noList
  | _ => exact ⟨rfl, rfl⟩

theorem role_retag {stage : Stage} (noList : stage ≠ .lists) (frame : Frame) :
    (retag stage.target frame).role = frame.role := by
  unfold retag
  split
  · next tag =>
      split
      · next target converted =>
          rcases plain_of_target noList converted with ⟨plainTag, plainTarget⟩
          exact plainTarget.trans plainTag.symm
      · rfl
  · rfl

theorem role_listFrame (frame : Frame) :
    (retag listTag frame).role = frame.role.within Stage.lists.family := by
  rcases frame with ⟨tag, embedded⟩
  cases tag with
  | book tag => rfl
  | typst tag => exact (within_roleOfTarget .lists tag).symm
  | markdown tag =>
      cases embedded with
      | true => cases tag <;> rfl
      | false =>
          cases tag with
          | list start => cases start <;> rfl
          | _ => rfl

theorem role_unwrapped (frame : Frame) :
    (Frame.mk frame.tag false).role = frame.role.within Stage.content.family := by
  rcases frame with ⟨tag, embedded⟩
  cases tag with
  | book tag => rfl
  | typst tag => exact (within_roleOfTarget .content tag).symm
  | markdown tag => cases embedded <;> cases tag <;> rfl

theorem role_chapterFrame {depth : Nat} {frame frame' : Frame}
    (mapped : chapterFrame depth frame = some frame') : frame'.role = frame.role := by
  unfold chapterFrame at mapped
  split at mapped
  · cases mapped
  · next tag =>
      rw [← Option.some.inj mapped]
      cases tag <;> rfl
  · rw [Option.some.inj mapped]

theorem role_linkFrame {frame frame' : Frame} (mapped : linkFrame frame = some frame') :
    frame'.role = frame.role := by
  unfold linkFrame at mapped
  split at mapped
  · next kind destination title =>
      rcases Option.map_eq_some_iff.mp mapped with ⟨target, found, rfl⟩
      have converted : Stage.links.target (.link kind destination title) = some target := found
      exact (plain_of_target (by decide) converted).2
  · rw [Option.some.inj mapped]

theorem role_frame {stage : Stage} {depth : Nat} {frame frame' : Frame}
    (mapped : stage.frame depth frame = some frame') :
    frame'.role = frame.role.within stage.family := by
  have unchanged (same : frame'.role = frame.role) (fixed : ∀ kind, stage.family kind = kind) :
      frame'.role = frame.role.within stage.family := by rw [same, within_of_fixed fixed]
  have container (noList : stage ≠ .lists) (retagged : some (retag stage.target frame) = some frame')
      (fixed : ∀ kind, stage.family kind = kind) : frame'.role = frame.role.within stage.family := by
    rw [← Option.some.inj retagged] at unchanged ⊢
    exact unchanged (role_retag noList frame) fixed
  cases stage with
  | authors =>
      simp only [Stage.frame] at mapped
      split at mapped
      · cases mapped
      · exact unchanged (congrArg Frame.role (Option.some.inj mapped).symm) fun _ => rfl
  | chapters => exact unchanged (role_chapterFrame mapped) fun _ => rfl
  | links => exact unchanged (role_linkFrame mapped) fun _ => rfl
  | content => rw [← Option.some.inj mapped, role_unwrapped]
  | lists =>
      exact (congrArg Frame.role (Option.some.inj mapped)).symm.trans (role_listFrame frame)
  | headings | paragraphs | strong | emphasis | strikethrough | blockQuotes | code | tables =>
      exact container (by decide) mapped fun _ => rfl
  | title | softBreaks | hardBreaks | text | stripHtml =>
      exact unchanged (congrArg Frame.role (Option.some.inj mapped).symm) fun _ => rfl

/-- No stage drops a list. -/
theorem frame_isSome_of_list (stage : Stage) (depth : Nat) {frame : Frame} {kind : Family}
    (isList : frame.role = .list kind) : (stage.frame depth frame).isSome = true := by
  cases stage with
  | authors =>
      simp only [Stage.frame]
      split
      · next authorList =>
          rw [Frame.role, authorList] at isList
          cases isList
      · rfl
  | chapters =>
      simp only [Stage.frame, chapterFrame]
      split
      · cases isList
      · rfl
      · rfl
  | links =>
      simp only [Stage.frame, linkFrame]
      split
      · cases isList
      · rfl
  | _ => rfl

/-- A chapter is dropped by the chapter stage, and any other container is no chapter around others. -/
theorem frame_steady (stage : Stage) (frame : Frame) (below : List Frame) :
    stage.frame (chapterDepth (frame :: below)) frame = stage.frame (chapterDepth below) frame := by
  cases stage with
  | chapters =>
      cases isChapter : frame.isChapter with
      | false =>
          have same : chapterDepth (frame :: below) = chapterDepth below :=
            List.countP_cons_of_neg (by simp [isChapter])
          rw [same]
      | true =>
          rcases frame with ⟨tag, embedded⟩
          simp only [Frame.isChapter] at isChapter
          split at isChapter
          · rfl
          · cases isChapter
  | _ => rfl

theorem reframing_frame (stage : Stage) : Reframing stage.frame stage.family where
  role mapped := role_frame mapped
  list _ isList _ := frame_isSome_of_list stage _ isList
  steady := frame_steady stage

/-! ### One event -/

theorem through_some (move : Move) : move.through some = move := by
  cases move <;> rfl

/-- Converting containers of prose is a reframing. -/
theorem move_replaceTag (convert : Markdown.Tag → Option Typst.Tag) (event : Event) :
    (replaceTag convert event).move = event.move.through (some ∘ retag convert) := by
  cases event with
  | markdown inner =>
      cases inner with
      | start tag | finish tag =>
          cases converted : convert tag with
          | none =>
              simp only [replaceTag, converted]
              simp [Event.move, Event.bracket, Markdown.Event.bracket, Event.isEmbedded, Move.through,
                retag, converted]
          | some target =>
              simp only [replaceTag, converted]
              simp [Event.move, Event.bracket, Markdown.Event.bracket, Typst.Event.bracket,
                Event.isEmbedded, Move.through, retag, converted]
      | _ => rfl
  | book inner =>
      cases inner with
      | prose inner => cases inner <;> rfl
      | _ => rfl
  | typst inner => cases inner <;> rfl
  | foreign text => rfl

theorem nestFrom_replaceAuthors (strict : Bool) (stack : List Frame) (memory : Memory)
    (event : Event) :
    nestFrom strict stack (replaceAuthors memory event).1 =
      (event.move.through (Stage.authors.frame memory.depth)).apply strict stack := by
  cases event with
  | markdown inner => cases inner <;> exact nestFrom_singleton strict stack _
  | typst inner => cases inner <;> exact nestFrom_singleton strict stack _
  | foreign text => rfl
  | book inner =>
      cases inner with
      | start tag =>
          cases tag with
          | authorList => rfl
          | _ => exact nestFrom_singleton strict stack _
      | finish tag =>
          cases tag with
          | authorList =>
              simp only [replaceAuthors]
              split <;> rfl
          | _ => exact nestFrom_singleton strict stack _
      | prose inner => cases inner <;> exact nestFrom_singleton strict stack _
      | _ => rfl

/-- A heading that is opened and closed leaves everything as it was. -/
theorem nestFrom_heading (strict : Bool) (stack : List Frame) (level : Int) (name : String) :
    nestFrom strict stack
        [.typst (.start (plainHeading level)), .typst (.text name),
          .typst (.finish (plainHeading level))] = some stack := by
  have opens : (Event.typst (.start (plainHeading level))).move.apply strict stack =
      some (⟨.typst (plainHeading level), false⟩ :: stack) := apply_opens_of_fits fun _ => rfl
  have stays (inner : List Frame) :
      (Event.typst (.text name)).move.apply strict inner = some inner := rfl
  have closes : (Event.typst (.finish (plainHeading level))).move.apply strict
      (⟨.typst (plainHeading level), false⟩ :: stack) = some stack := apply_closes_cons strict _ stack
  simp only [nestFrom, opens, stays, closes, Option.bind_some]

theorem lowered_start (depth : Nat) (tag : Markdown.Tag) :
    lowered depth (.start tag) = .start (loweredTag depth tag) := by
  unfold lowered
  cases tag with
  | heading level => by_cases deep : depth > 0 <;> simp [deep, shiftHeading, loweredTag]
  | _ => exact ite_self _

theorem lowered_finish (depth : Nat) (tag : Markdown.Tag) :
    lowered depth (.finish tag) = .finish (loweredTag depth tag) := by
  unfold lowered
  cases tag with
  | heading level => by_cases deep : depth > 0 <;> simp [deep, shiftHeading, loweredTag]
  | _ => exact ite_self _

/-- Inside chapters, embedded headings are moved down by one level less than there are chapters. -/
theorem replaceChapters_prose (memory : Memory) (inner : Markdown.Event) :
    replaceChapters memory (.book (.prose inner)) =
      ([.book (.prose (lowered (memory.depth - 1) inner))], memory) := by
  simp only [replaceChapters, lowered, gt_iff_lt, Nat.sub_pos_iff_lt]

theorem move_lowered_embedded (depth : Nat) (inner : Markdown.Event) :
    (Event.book (.prose (lowered (depth - 1) inner))).move =
      (Event.book (.prose inner)).move.through (chapterFrame depth) := by
  cases inner with
  | start tag => rw [lowered_start]; rfl
  | finish tag => rw [lowered_finish]; rfl
  | _ =>
      unfold lowered
      split <;> rfl

theorem nestFrom_replaceChapters (strict : Bool) (stack : List Frame) (memory : Memory)
    (event : Event) :
    nestFrom strict stack (replaceChapters memory event).1 =
      (event.move.through (chapterFrame memory.depth)).apply strict stack := by
  cases event with
  | markdown inner => cases inner <;> exact nestFrom_singleton strict stack _
  | typst inner => cases inner <;> exact nestFrom_singleton strict stack _
  | foreign text => rfl
  | book inner =>
      cases inner with
      | start tag =>
          cases tag with
          | chapter status name source number => exact nestFrom_heading strict stack _ name
          | _ => exact nestFrom_singleton strict stack _
      | finish tag =>
          cases tag with
          | chapter status name source number => rfl
          | _ => exact nestFrom_singleton strict stack _
      | prose inner => rw [replaceChapters_prose, nestFrom_singleton, move_lowered_embedded]
      | _ => rfl

theorem nestFrom_replaceLinks (strict : Bool) (stack : List Frame) (event : Event) :
    nestFrom strict stack (replaceLinks event) =
      (event.move.through linkFrame).apply strict stack := by
  cases event with
  | typst inner => cases inner <;> exact nestFrom_singleton strict stack _
  | foreign text => rfl
  | book inner =>
      cases inner with
      | prose inner =>
          cases inner with
          | start tag | finish tag => cases tag <;> exact nestFrom_singleton strict stack _
          | _ => rfl
      | _ => exact nestFrom_singleton strict stack _
  | markdown inner =>
      cases inner with
      | start tag | finish tag =>
          cases tag with
          | link kind destination title =>
              cases found : linkTarget kind destination with
              | none =>
                  simp [replaceLinks, found, Event.move, Event.bracket, Markdown.Event.bracket,
                    Event.isEmbedded, Move.through, linkFrame, nestFrom, Move.apply]
              | some target =>
                  simp [replaceLinks, found, Event.move, Event.bracket, Markdown.Event.bracket,
                    Typst.Event.bracket, Event.isEmbedded, Move.through, linkFrame,
                    nestFrom_singleton]
          | _ => exact nestFrom_singleton strict stack _
      | _ => rfl

theorem nestFrom_replaceText (strict : Bool) (stack : List Frame) (memory : Memory)
    (event : Event) :
    nestFrom strict stack (replaceText memory event).1 = event.move.apply strict stack := by
  unfold replaceText
  split
  · exact nestFrom_singleton strict stack event
  · split
    · exact nestFrom_singleton strict stack event
    · split
      · split <;> rfl
      · exact nestFrom_singleton strict stack event

theorem nestFrom_unwrap (strict : Bool) (stack : List Frame) (memory : Memory) (event : Event) :
    nestFrom strict stack (Stage.content.replace memory event).1 =
      (event.move.through (Stage.content.frame memory.depth)).apply strict stack := by
  cases event with
  | markdown inner => cases inner <;> exact nestFrom_singleton strict stack _
  | typst inner => cases inner <;> exact nestFrom_singleton strict stack _
  | foreign text => rfl
  | book inner =>
      cases inner with
      | prose inner => cases inner <;> exact nestFrom_singleton strict stack _
      | _ => exact nestFrom_singleton strict stack _

/-- What stands in place of an event does to the open containers what the event did, with its container
    mapped or dropped. -/
theorem nestFrom_replace (stage : Stage) (strict : Bool) (stack : List Frame) (memory : Memory)
    (event : Event) :
    nestFrom strict stack (stage.replace memory event).1 =
      (event.move.through (stage.frame memory.depth)).apply strict stack := by
  have container (convert : Markdown.Tag → Option Typst.Tag) :
      nestFrom strict stack [replaceTag convert event] =
        (event.move.through (some ∘ retag convert)).apply strict stack := by
    rw [nestFrom_singleton, move_replaceTag]
  have unchanged : nestFrom strict stack [event] =
      (event.move.through some).apply strict stack := by
    rw [nestFrom_singleton, through_some]
  cases stage with
  | authors => exact nestFrom_replaceAuthors strict stack memory event
  | chapters => exact nestFrom_replaceChapters strict stack memory event
  | links => exact nestFrom_replaceLinks strict stack event
  | text =>
      exact (nestFrom_replaceText strict stack memory event).trans
        (congrArg (Move.apply strict stack) (through_some event.move).symm)
  | headings | paragraphs | strong | emphasis | strikethrough | blockQuotes | lists | tables =>
      exact container _
  | code =>
      simp only [Stage.replace]
      split
      · rfl
      · exact container _
  | content => exact nestFrom_unwrap strict stack memory event
  | title | softBreaks | hardBreaks | stripHtml =>
      simp only [Stage.replace]
      split
      · rfl
      · exact unchanged

/-! ### Whole streams -/

/-- What the chapter stage remembers is the number of open chapters. -/
def Counts (stage : Stage) (memory : Memory) (stack : List Frame) : Prop :=
  stage = .chapters → memory.depth = chapterDepth stack

theorem counts_initial (stage : Stage) : Counts stage .initial [] := fun _ => rfl

theorem frame_of_counts {stage : Stage} {memory : Memory} {stack : List Frame}
    (counts : Counts stage memory stack) :
    stage.frame memory.depth = stage.frame (chapterDepth stack) := by
  cases stage with
  | chapters => rw [counts rfl]
  | _ => rfl

/-- Only the events of the chapter stage itself open or close chapters. -/
theorem noChapter_of_unowned {event : Event} (unowned : owner event ≠ some .chapters) {frame : Frame}
    (move : event.move = .opens frame ∨ event.move = .closes frame) : frame.isChapter = false := by
  have ofProse {embedded : Bool} {bracket : Bracket} {inner : Markdown.Event}
      (same : bracket = inner.bracket) {tag : Tag}
      (bracketed : bracket = .opening tag ∨ bracket = .closing tag) :
      (Frame.mk tag embedded).isChapter = false := by
    subst same
    cases inner with
    | start inner | finish inner =>
        rcases bracketed with equal | equal <;> cases equal
        rfl
    | _ => simp [Markdown.Event.bracket] at bracketed
  rcases frame with ⟨tag, embedded⟩
  have bracketed : event.bracket = .opening tag ∨ event.bracket = .closing tag := by
    unfold Event.move at move
    split at move <;> simp_all
  cases event with
  | markdown inner => exact ofProse rfl bracketed
  | foreign text => simp [Event.bracket] at bracketed
  | typst inner =>
      cases inner with
      | start inner | finish inner =>
          rcases bracketed with equal | equal <;> cases equal
          rfl
      | _ => simp [Event.bracket, Typst.Event.bracket] at bracketed
  | book inner =>
      cases inner with
      | prose inner => exact ofProse rfl bracketed
      | start inner | finish inner =>
          cases inner with
          | chapter => exact absurd rfl unowned
          | _ =>
              rcases bracketed with equal | equal <;> cases equal
              rfl
      | _ => simp [Event.bracket, Book.Event.bracket] at bracketed

theorem chapterDepth_of_unowned {strict : Bool} {stack stack' : List Frame} {event : Event}
    (unowned : owner event ≠ some .chapters) (step : event.move.apply strict stack = some stack') :
    chapterDepth stack' = chapterDepth stack := by
  cases move : event.move with
  | stays => rw [move] at step; rw [Option.some.inj step]
  | opens frame =>
      rw [move] at step
      rw [(apply_opens step).1]
      exact List.countP_cons_of_neg (by simp [noChapter_of_unowned unowned (.inl move)])
  | closes frame =>
      rw [move] at step
      rw [apply_closes step]
      exact (List.countP_cons_of_neg (by simp [noChapter_of_unowned unowned (.inr move)])).symm

theorem counts_replace {stage : Stage} {strict : Bool} {memory : Memory} {stack stack' : List Frame}
    {event : Event} (counts : Counts stage memory stack)
    (step : event.move.apply strict stack = some stack') :
    Counts stage (stage.replace memory event).2 stack' := by
  rintro rfl
  have depth := counts rfl
  by_cases owned : owner event = some .chapters
  · cases event with
    | book inner =>
        cases inner with
        | start tag =>
            cases tag with
            | chapter =>
                rw [(apply_opens step).1]
                exact (congrArg (· + 1) depth).trans (List.countP_cons_of_pos rfl).symm
            | _ => cases owned
        | finish tag =>
            cases tag with
            | chapter =>
                rw [apply_closes step] at depth
                exact congrArg (· - 1) (depth.trans (List.countP_cons_of_pos rfl))
            | _ => cases owned
        | _ => cases owned
    | markdown inner =>
        cases inner with
        | start tag | finish tag => cases tag <;> cases owned
        | _ => cases owned
    | typst | foreign => cases owned
  · have unwatched : Stage.chapters.watches event = false := by simp [Stage.watches, owned]
    rw [replace_memory_of_unwatched memory unwatched, depth, chapterDepth_of_unowned owned step]

/-- A stage keeps nesting: after a stream, the open containers are those of the stream, each mapped or
    dropped. -/
theorem nestFrom_run {stage : Stage} {strict : Bool} {memory : Memory} {stack stack' : List Frame}
    {events : List Event} (counts : Counts stage memory stack)
    (nested : nestFrom strict stack events = some stack') :
    nestFrom strict (reframe stage.frame stack) (stage.run memory events) =
      some (reframe stage.frame stack') := by
  induction events generalizing memory stack with
  | nil =>
      obtain rfl : stack = stack' := Option.some.inj nested
      rfl
  | cons event rest ih =>
      rcases Option.bind_eq_some_iff.mp nested with ⟨middle, step, nestedRest⟩
      have stepStage := apply_through (reframing_frame stage) step
      rw [run_cons, nestFrom_append, nestFrom_replace, frame_of_counts counts, stepStage]
      exact ih (counts_replace counts step) nestedRest

/-- Stages one after the other keep a complete stream nested. -/
theorem nestFrom_convertEagerly {strict : Bool} (stages : List Stage) {events : List Event}
    (nested : nestFrom strict [] events = some []) :
    nestFrom strict [] (convertEagerly stages events) = some [] := by
  induction stages generalizing events with
  | nil => exact nested
  | cons stage rest ih => exact ih (nestFrom_run (counts_initial stage) nested)

end Bindery.Convert
