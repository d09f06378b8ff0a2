/-
Module: Bindery.Proofs.ChapterProse
Layer: Proofs
Purpose: The prose of a chapter is converted by itself. Embedded in chapters, it is moved down and
  unwrapped, and from there on the stages see what they would see of bare prose whose headings have been
  moved down beforehand. Nested prose closes every code block that it opens, so that no stage remembers
  anything of it.
Imports: Bindery.Proofs.PartRepair, Bindery.Proofs.RenderSafety
Main exports: nestFrom_lowered, foldl_codeDepthAfter_of_nestFrom, embedded, moved,
  convertToTypst_bare, targetFrom_prose
-/
import Bindery.Proofs.PartRepair
import Bindery.Proofs.RenderSafety

namespace Bindery.Convert

/-! ### Moving headings down -/

/-- A container of prose moved down by `depth` levels if it is a heading. -/
def loweredFrame (depth : Nat) (frame : Frame) : Frame :=
  match frame with
  | ⟨.markdown tag, embedded⟩ => ⟨.markdown (loweredTag depth tag), embedded⟩
  | _ => frame

theorem role_loweredFrame (depth : Nat) (frame : Frame) :
    (loweredFrame depth frame).role = frame.role := by
  rcases frame with ⟨tag, embedded⟩
  cases tag with
  | markdown tag => cases tag <;> rfl
  | _ => rfl

theorem reframing_loweredFrame (depth : Nat) :
    Reframing (fun _ frame => some (loweredFrame depth frame)) id where
  role mapped := by
    next frame frame' =>
      rw [← Option.some.inj mapped, role_loweredFrame]
      cases frame.role <;> rfl
  list _ _ _ := rfl
  steady _ _ := rfl

theorem move_lowered (depth : Nat) (inner : Markdown.Event) :
    (Event.markdown (lowered depth inner)).move =
      (Event.markdown inner).move.through fun frame => some (loweredFrame depth frame) := by
  cases inner with
  | start tag => rw [lowered_start]; rfl
  | finish tag => rw [lowered_finish]; rfl
  | _ =>
      unfold lowered
      split <;> rfl

/-- Moving headings down keeps nesting. -/
theorem nestFrom_lowered {strict : Bool} (depth : Nat) {prose : List Markdown.Event}
    (nested : nestFrom strict [] (prose.map .markdown) = some []) :
    nestFrom strict [] (prose.map fun inner => .markdown (lowered depth inner)) = some [] := by
  rw [List.map_eq_flatMap]
  refine nestFrom_flatMap (reframing_loweredFrame depth) (fun inner stack => ?_) nested
  rw [nestFrom_singleton, move_lowered]

/-! ### Open code blocks -/

/-- Is the container a code block that stages count? -/
def isCodeFrame (frame : Frame) : Bool :=
  match frame with
  | ⟨.markdown tag, false⟩ => isCodeTag tag
  | ⟨.typst tag, _⟩ => isCodeTarget tag
  | _ => false

/-- What an event opens and closes is what it counts for. -/
theorem codeDepthAfter_of_move (depth : Nat) (event : Event) :
    codeDepthAfter depth event =
      match event.move with
      | .opens frame => if isCodeFrame frame then depth + 1 else depth
      | .closes frame => if isCodeFrame frame then depth - 1 else depth
      | .stays => depth := by
  cases event with
  | markdown inner =>
      cases inner with
      | start tag => exact codeDepthAfter_start depth tag
      | finish tag => exact codeDepthAfter_finish depth tag
      | _ => rfl
  | typst inner =>
      cases inner with
      | start tag => exact codeDepthAfter_targetStart depth tag
      | finish tag => exact codeDepthAfter_targetFinish depth tag
      | _ => rfl
  | book inner =>
      cases inner with
      | prose inner => cases inner <;> rfl
      | _ => rfl
  | foreign text => rfl

/-- The count of open code blocks is that of the machine. -/
theorem foldl_codeDepthAfter_of_nestFrom {strict : Bool} {stack stack' : List Frame}
    {events : List Event} (nested : nestFrom strict stack events = some stack') :
    events.foldl codeDepthAfter (stack.countP isCodeFrame) = stack'.countP isCodeFrame := by
  induction events generalizing stack with
  | nil => rw [Option.some.inj nested]; rfl
  | cons event rest ih =>
      rcases Option.bind_eq_some_iff.mp nested with ⟨middle, step, nestedRest⟩
      have counted : codeDepthAfter (stack.countP isCodeFrame) event =
          middle.countP isCodeFrame := by
        rw [codeDepthAfter_of_move]
        cases move : event.move with
        | stays =>
            rw [move] at step
            rw [Option.some.inj step]
        | opens frame =>
            rw [move] at step
            rw [(apply_opens step).1, List.countP_cons]
            cases code : isCodeFrame frame <;> simp [code]
        | closes frame =>
            rw [move] at step
            rw [apply_closes step, List.countP_cons]
            cases code : isCodeFrame frame <;> simp [code]
      rw [List.foldl_cons, counted]
      exact ih nestedRest

/-- No stage but the one that unwraps prose changes the count of open code blocks. -/
theorem foldl_codeDepthAfter_run {stage : Stage} (wraps : stage ≠ .content) (memory : Memory)
    (depth : Nat) (events : List Event) :
    (stage.run memory events).foldl codeDepthAfter depth = events.foldl codeDepthAfter depth := by
  induction events generalizing memory depth with
  | nil => rfl
  | cons event rest ih =>
      rw [run_cons, List.foldl_append, foldl_codeDepthAfter_replace wraps, ih, List.foldl_cons]

/-! ### Prose through the stages -/

def embedded (prose : List Markdown.Event) : List Event :=
  prose.map fun inner => .book (.prose inner)

/-- Prose of a chapter `depth` levels below the top, with the headings where the settings want them. -/
def moved (settings : Settings) (depth : Nat) (prose : List Markdown.Event) : List Markdown.Event :=
  if settings.isEnabled .chapters then prose.map (lowered depth) else prose

theorem nestFrom_moved {strict : Bool} (settings : Settings) (depth : Nat)
    {prose : List Markdown.Event} (nested : nestFrom strict [] (prose.map .markdown) = some []) :
    nestFrom strict [] ((moved settings depth prose).map .markdown) = some [] := by
  unfold moved
  split
  · rw [List.map_map]
    exact nestFrom_lowered depth nested
  · exact nested

/-- The chapter stage moves embedded headings down, and remembers nothing of prose. -/
theorem run_chapters_embedded (memory : Memory) (prose : List Markdown.Event) :
    Stage.chapters.run memory (embedded prose) =
        embedded (prose.map (lowered (memory.depth - 1))) ∧
      Stage.chapters.after memory (embedded prose) = memory := by
  induction prose with
  | nil => exact ⟨rfl, rfl⟩
  | cons inner rest ih =>
      have replaced : Stage.chapters.replace memory (.book (.prose inner)) =
          ([.book (.prose (lowered (memory.depth - 1) inner))], memory) := by
        rw [Stage.replace, replaceChapters_prose]
      rcases ih with ⟨runRest, afterRest⟩
      simp only [embedded, List.map_cons, run_cons, after_cons, replaced] at runRest afterRest ⊢
      rw [runRest, afterRest]
      exact ⟨rfl, rfl⟩

/-- The unwrapped prose is bare. -/
theorem run_content_embedded (memory : Memory) (prose : List Markdown.Event) :
    Stage.content.run memory (embedded prose) = prose.map .markdown := by
  induction prose with
  | nil => rfl
  | cons inner rest ih => exact congrArg (Event.markdown inner :: ·) ih

/-- A stage that may be left out, and remembers nothing of a piece. -/
theorem convertFrom_optional (enabled : Stage → Bool) {stage : Stage} {memory : Memory}
    {events : List Event} (unchanged : stage.after memory events = memory) :
    convertFrom memory ([stage].filter enabled) events =
        (if enabled stage then stage.run memory events else events) ∧
      Leads ([stage].filter enabled) memory events memory := by
  by_cases runs : enabled stage = true
  · rw [if_pos runs, List.filter_cons_of_pos runs]
    refine ⟨rfl, ?_, trivial⟩
    rw [unchanged]
    exact agrees_refl stage memory
  · rw [if_neg runs, List.filter_cons_of_neg runs]
    exact ⟨rfl, trivial⟩

/-- The structural stages do no more to embedded prose than to move its headings. -/
theorem convertFrom_structural (settings : Settings) (memory : Memory)
    (prose : List Markdown.Event) :
    convertFrom memory (Stage.structural.filter settings.isEnabled) (embedded prose) =
        embedded (moved settings (memory.depth - 1) prose) ∧
      Leads (Stage.structural.filter settings.isEnabled) memory (embedded prose) memory := by
  have quiet : Stage.title.Quiet (embedded prose) ∧ Stage.authors.Quiet (embedded prose) := by
    constructor
    all_goals
      intro event member
      rcases List.mem_map.mp member with ⟨inner, _, rfl⟩
      exact ⟨rfl, rfl⟩
  obtain ⟨titlePasses, titleUnchanged⟩ := run_of_quiet memory quiet.1
  obtain ⟨authorsPass, authorsUnchanged⟩ := run_of_quiet memory quiet.2
  obtain ⟨chaptersMove, chaptersUnchanged⟩ := run_chapters_embedded memory prose
  obtain ⟨title, leadsTitle⟩ := convertFrom_optional settings.isEnabled titleUnchanged
  obtain ⟨authors, leadsAuthors⟩ := convertFrom_optional settings.isEnabled authorsUnchanged
  obtain ⟨chapters, leadsChapters⟩ := convertFrom_optional settings.isEnabled chaptersUnchanged
  rw [titlePasses, ite_self] at title
  rw [authorsPass, ite_self] at authors
  rw [chaptersMove] at chapters
  have oneByOne : Stage.structural.filter settings.isEnabled =
      [Stage.title].filter settings.isEnabled ++
        ([Stage.authors].filter settings.isEnabled ++ [Stage.chapters].filter settings.isEnabled) := by
    rw [← List.filter_append, ← List.filter_append]
    rfl
  rw [oneByOne]
  constructor
  · rw [convertFrom_stages, convertFrom_stages, title, authors, chapters, moved]
    split <;> rfl
  · apply leads_stages leadsTitle
    rw [title]
    apply leads_stages leadsAuthors
    rw [authors]
    exact leadsChapters

/-- The stages for prose read nothing but the count of open code blocks. -/
theorem agrees_of_forProse {stage : Stage} (member : stage ∈ Stage.forProse) {first second : Memory}
    (same : first.codeDepth = second.codeDepth) : stage.Agrees first second := by
  cases stage with
  | authors | chapters => exact absurd member (by decide)
  | text => exact same
  | _ => exact trivial

/-- The stages for prose remember nothing of bare prose but the count of open code blocks. -/
theorem leads_forProse {stages : List Stage} (forProse : ∀ stage ∈ stages, stage ∈ Stage.forProse.tail)
    (memory : Memory) (events : List Event) :
    Leads stages memory events
      { memory with codeDepth := events.foldl codeDepthAfter memory.codeDepth } := by
  induction stages generalizing events with
  | nil => exact trivial
  | cons stage later ih =>
      have member := forProse stage List.mem_cons_self
      have wraps : stage ≠ .content := by
        rintro rfl
        exact absurd member (by decide)
      constructor
      · cases stage with
        | text =>
            rw [after_text]
            exact agrees_refl .text _
        | authors | chapters => exact absurd member (by decide)
        | _ => exact trivial
      · have leadsLater := ih (fun other inLater => forProse other (List.mem_cons_of_mem _ inLater))
          (stage.run memory events)
        rwa [foldl_codeDepthAfter_run wraps] at leadsLater

/-- Bare prose concerns neither the structural stages nor the one that unwraps. -/
theorem quiet_bare {stage : Stage} (notForProse : stage ∉ Stage.forProse.tail)
    (prose : List Markdown.Event) : stage.Quiet (prose.map .markdown) := by
  intro event member
  rcases List.mem_map.mp member with ⟨inner, _, rfl⟩
  have unowned : ∀ other ∉ Stage.forProse.tail, owner (.markdown inner) ≠ some other := by
    intro other notLater owned
    exact notLater (forProse_of_ownerOfProse owned)
  constructor
  · have noContent := unowned .content (by decide)
    simp [Stage.touches, unowned stage notForProse, noContent]
  · cases stage with
    | text => exact absurd (by decide) notForProse
    | authors | chapters => simp [Stage.watches, unowned _ notForProse]
    | _ => rfl

/-- The stages that run if prose is unwrapped. -/
theorem selectedStages_of_unwraps {settings : Settings}
    (unwraps : settings.isEnabled .content = true) :
    settings.selectedStages = Stage.structural.filter settings.isEnabled ++
      .content :: Stage.forProse.tail.filter settings.isEnabled := by
  rw [Settings.selectedStages, if_pos unwraps, Stage.forProse, List.filter_cons_of_pos unwraps]
  rfl

/-- Bare prose is converted by the stages for prose alone. -/
theorem convertToTypst_bare {settings : Settings} (unwraps : settings.isEnabled .content = true)
    (prose : List Markdown.Event) :
    convertToTypst settings (prose.map .markdown) = filterDialect .typst
      (convertFrom .initial (Stage.forProse.tail.filter settings.isEnabled) (prose.map .markdown)) := by
  have quiet : ∀ stage ∈ Stage.structural.filter settings.isEnabled,
      stage.Quiet (prose.map .markdown) := by
    intro stage member
    have structural : stage ∈ Stage.structural := (List.mem_filter.mp member).1
    apply quiet_bare
    revert structural
    cases stage <;> decide
  have passes := (convertFrom_of_quiet .initial quiet).1
  have passesUnwrapping := (run_of_quiet .initial (quiet_bare (by decide : Stage.content ∉ _) prose)).1
  rw [convertToTypst_eq_targetFrom, targetFrom, selectedStages_of_unwraps unwraps,
    convertFrom_stages, passes, convertFrom_cons, passesUnwrapping]

/-- The prose of a chapter becomes what it becomes by itself, with its headings moved down beforehand,
    and leaves no trace. -/
theorem targetFrom_prose (settings : Settings) {memory : Memory} {depth : Nat}
    (below : memory.depth = depth + 1) (outside : memory.codeDepth = 0)
    {prose : List Markdown.Event} (nested : nestFrom true [] (prose.map .markdown) = some []) :
    targetFrom settings memory (embedded prose) =
        (if settings.isEnabled .content then
          convertToTypst settings ((moved settings depth prose).map .markdown) else []) ∧
      Leads settings.selectedStages memory (embedded prose) memory := by
  obtain ⟨moves, leads⟩ := convertFrom_structural settings memory prose
  rw [below, Nat.add_sub_cancel] at moves
  by_cases unwraps : settings.isEnabled .content = true
  · have nestedMoved := nestFrom_moved settings depth nested
    have closed : ((moved settings depth prose).map Event.markdown).foldl codeDepthAfter
        memory.codeDepth = memory.codeDepth := by
      rw [outside]
      exact foldl_codeDepthAfter_of_nestFrom nestedMoved
    have forProse : ∀ stage ∈ Stage.forProse.tail.filter settings.isEnabled,
        stage ∈ Stage.forProse.tail := fun stage member => (List.mem_filter.mp member).1
    have fresh : ∀ stage ∈ Stage.forProse.tail.filter settings.isEnabled,
        stage.Agrees memory .initial := by
      intro stage member
      exact agrees_of_forProse (List.mem_of_mem_tail (forProse stage member)) outside
    rw [if_pos unwraps, convertToTypst_bare unwraps, targetFrom, selectedStages_of_unwraps unwraps]
    constructor
    · rw [convertFrom_stages, moves, convertFrom_cons, run_content_embedded,
        convertFrom_of_agrees fresh]
    · apply leads_stages leads
      rw [moves]
      constructor
      · exact trivial
      · have leadsProse := leads_forProse forProse memory
          ((moved settings depth prose).map Event.markdown)
        rw [closed] at leadsProse
        rwa [run_content_embedded]
  · rw [if_neg unwraps]
    have selected : settings.selectedStages = Stage.structural.filter settings.isEnabled := by
      rw [Settings.selectedStages, if_neg unwraps, List.append_nil]
    rw [targetFrom, selected, moves]
    refine ⟨?_, leads⟩
    rw [filterDialect, List.filter_eq_nil_iff]
    intro event member
    rcases List.mem_map.mp member with ⟨inner, _, rfl⟩
    exact Bool.false_ne_true

end Bindery.Convert
