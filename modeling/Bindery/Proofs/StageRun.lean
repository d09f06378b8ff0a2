/-
Module: Bindery.Proofs.StageRun
Layer: Proofs
Purpose: How a stage runs over a stream, and which events it leaves alone. A run over two streams in a
  row is a run over the first and, with what is remembered then, over the second. What a stage puts in
  place of an event of its own has no owner any more, unless the stage unwraps prose. Besides its own
  events a stage sees only the code blocks that the text stage counts and the embedded headings that the
  chapter stage moves.
Imports: Bindery.Proofs.StageOwner
Main exports: Stage.after, run_append, Stage.touches, Stage.watches, replace_of_untouched,
  run_of_untouched, replace_memory_of_unwatched, run_of_quiet, owner_of_replaced, codeDepthAfter,
  foldl_codeDepthAfter_replace
-/
import Bindery.Proofs.StageOwner

namespace Bindery.Convert

/-! ### Runs -/

def Stage.after (stage : Stage) (memory : Memory) : List Event → Memory
  | [] => memory
  | event :: rest => stage.after (stage.replace memory event).2 rest

@[simp] theorem run_nil (stage : Stage) (memory : Memory) : stage.run memory [] = [] := rfl

@[simp] theorem after_nil (stage : Stage) (memory : Memory) : stage.after memory [] = memory := rfl

theorem run_cons (stage : Stage) (memory : Memory) (event : Event) (rest : List Event) :
    stage.run memory (event :: rest) =
      (stage.replace memory event).1 ++ stage.run (stage.replace memory event).2 rest := rfl

theorem after_cons (stage : Stage) (memory : Memory) (event : Event) (rest : List Event) :
    stage.after memory (event :: rest) = stage.after (stage.replace memory event).2 rest := rfl

theorem run_singleton (stage : Stage) (memory : Memory) (event : Event) :
    stage.run memory [event] = (stage.replace memory event).1 := by
  rw [run_cons, run_nil, List.append_nil]

theorem after_singleton (stage : Stage) (memory : Memory) (event : Event) :
    stage.after memory [event] = (stage.replace memory event).2 := rfl

theorem run_append (stage : Stage) (memory : Memory) (first second : List Event) :
    stage.run memory (first ++ second) =
      stage.run memory first ++ stage.run (stage.after memory first) second := by
  induction first generalizing memory with
  | nil => rfl
  | cons event rest ih => rw [List.cons_append, run_cons, ih, run_cons, after_cons, List.append_assoc]

theorem after_append (stage : Stage) (memory : Memory) (first second : List Event) :
    stage.after memory (first ++ second) = stage.after (stage.after memory first) second := by
  induction first generalizing memory with
  | nil => rfl
  | cons event rest ih => rw [List.cons_append, after_cons, ih, after_cons]

/-! ### Touching and watching -/

/-- May a stage put something else in place of an event? Besides its own events the chapter stage
    moves embedded headings. -/
def Stage.touches (stage : Stage) (event : Event) : Bool :=
  owner event = some stage || stage = .chapters && owner event = some .content

/-- May an event change what a stage remembers? -/
def Stage.watches (stage : Stage) (event : Event) : Bool :=
  match stage with
  | .authors => owner event = some .authors
  | .chapters => owner event = some .chapters
  | .text => opensCode event || closesCode event
  | _ => false

/-! ### What a stage leaves alone -/

/-- A conversion of containers leaves an event alone that the stage does not own. -/
theorem replaceTag_of_unowned {stage : Stage} {event : Event} (unowned : owner event ≠ some stage) :
    replaceTag stage.target event = event := by
  unfold replaceTag
  split
  · next tag => rw [target_of_unowned unowned]
  · next tag => rw [target_of_unowned unowned]
  · rfl

theorem replaceLinks_of_unowned {event : Event} (unowned : owner event ≠ some .links) :
    replaceLinks event = [event] := by
  unfold replaceLinks
  split
  · exact absurd rfl unowned
  · exact absurd rfl unowned
  · rfl

theorem replaceText_of_unowned {event : Event} (memory : Memory)
    (unowned : owner event ≠ some .text) : (replaceText memory event).1 = [event] := by
  unfold replaceText
  split
  · rfl
  · split
    · rfl
    · split
      · exact absurd rfl unowned
      · rfl

theorem replaceAuthors_of_unowned {event : Event} (memory : Memory)
    (unowned : owner event ≠ some .authors) : replaceAuthors memory event = ([event], memory) := by
  unfold replaceAuthors
  split
  · exact absurd rfl unowned
  · exact absurd rfl unowned
  · exact absurd rfl unowned
  · rfl

theorem replaceChapters_of_unowned {event : Event} (memory : Memory)
    (noChapter : owner event ≠ some .chapters) (noProse : owner event ≠ some .content) :
    replaceChapters memory event = ([event], memory) := by
  unfold replaceChapters
  split
  · exact absurd rfl noChapter
  · exact absurd rfl noChapter
  · exact absurd rfl noProse
  · rfl

/-- A stage leaves an event alone that it does not touch. -/
theorem replace_of_untouched {stage : Stage} {event : Event} (memory : Memory)
    (untouched : stage.touches event = false) : (stage.replace memory event).1 = [event] := by
  have unowned : owner event ≠ some stage := by
    simp only [Stage.touches, Bool.or_eq_false_iff, decide_eq_false_iff_not] at untouched
    exact untouched.1
  have container : [replaceTag stage.target event] = [event] := by
    rw [replaceTag_of_unowned unowned]
  cases stage with
  | headings | paragraphs | strong | emphasis | strikethrough | blockQuotes | lists | tables =>
      exact container
  | authors => exact congrArg Prod.fst (replaceAuthors_of_unowned memory unowned)
  | chapters =>
      have noProse : owner event ≠ some .content := by
        simpa [Stage.touches, unowned] using untouched
      exact congrArg Prod.fst (replaceChapters_of_unowned memory unowned noProse)
  | text => exact replaceText_of_unowned memory unowned
  | links => exact replaceLinks_of_unowned unowned
  | code =>
      simp only [Stage.replace]
      split
      · exact absurd rfl unowned
      · exact container
  | title | content | softBreaks | hardBreaks | stripHtml =>
      simp only [Stage.replace]
      split
      · exact absurd rfl unowned
      · rfl

/-- A stream that a stage does not touch passes unchanged, whatever the stage counts in it. -/
theorem run_of_untouched {stage : Stage} {events : List Event} (memory : Memory)
    (untouched : ∀ event ∈ events, stage.touches event = false) :
    stage.run memory events = events := by
  induction events generalizing memory with
  | nil => rfl
  | cons event rest ih =>
      rw [run_cons, replace_of_untouched memory (untouched event List.mem_cons_self),
        ih _ fun other member => untouched other (List.mem_cons_of_mem _ member)]
      rfl

/-- A stage remembers nothing new after an event that it does not watch. -/
theorem replace_memory_of_unwatched {stage : Stage} {event : Event} (memory : Memory)
    (unwatched : stage.watches event = false) : (stage.replace memory event).2 = memory := by
  cases stage with
  | authors =>
      have unowned : owner event ≠ some .authors := by simpa [Stage.watches] using unwatched
      exact congrArg Prod.snd (replaceAuthors_of_unowned memory unowned)
  | chapters =>
      have unowned : owner event ≠ some .chapters := by simpa [Stage.watches] using unwatched
      simp only [Stage.replace, replaceChapters]
      split
      · exact absurd rfl unowned
      · exact absurd rfl unowned
      · rfl
      · rfl
  | text =>
      simp only [Stage.watches, Bool.or_eq_false_iff] at unwatched
      simp only [Stage.replace, replaceText, unwatched, Bool.false_eq_true, if_false]
      split <;> rfl
  | _ => rfl

/-- Is a stage neither changing nor remembering any event of a stream? -/
def Stage.Quiet (stage : Stage) (events : List Event) : Prop :=
  ∀ event ∈ events, stage.touches event = false ∧ stage.watches event = false

/-- A stage lets a stream through in which it does nothing. -/
theorem run_of_quiet {stage : Stage} {events : List Event} (memory : Memory)
    (quiet : stage.Quiet events) :
    stage.run memory events = events ∧ stage.after memory events = memory := by
  induction events with
  | nil => exact ⟨rfl, rfl⟩
  | cons event rest ih =>
      obtain ⟨untouched, unwatched⟩ := quiet event List.mem_cons_self
      obtain ⟨runRest, afterRest⟩ := ih fun other member => quiet other (List.mem_cons_of_mem _ member)
      rw [run_cons, after_cons, replace_of_untouched memory untouched,
        replace_memory_of_unwatched memory unwatched, runRest, afterRest]
      exact ⟨rfl, rfl⟩

/-! ### What a stage leaves behind -/

theorem owner_replaceTag (convert : Markdown.Tag → Option Typst.Tag) (event : Event) :
    owner (replaceTag convert event) = none ∨ owner (replaceTag convert event) = owner event := by
  unfold replaceTag
  split
  · split
    · exact .inl rfl
    · exact .inr rfl
  · split
    · exact .inl rfl
    · exact .inr rfl
  · exact .inr rfl

theorem owner_replaceLinks {event replaced : Event} (member : replaced ∈ replaceLinks event) :
    owner replaced = none ∨ owner replaced = owner event := by
  unfold replaceLinks at member
  split at member
  · obtain ⟨target, _, rfl⟩ := by simpa using member
    exact .inl rfl
  · obtain ⟨target, _, rfl⟩ := by simpa using member
    exact .inl rfl
  · exact .inr (congrArg owner (List.mem_singleton.mp member))

theorem owner_replaceAuthors {memory : Memory} {event replaced : Event}
    (member : replaced ∈ (replaceAuthors memory event).1) :
    owner replaced = none ∨ owner replaced = owner event := by
  unfold replaceAuthors at member
  split at member
  · simp at member
  · simp at member
  · split at member
    · simp at member
    · exact .inl (congrArg owner (List.mem_singleton.mp member))
  · exact .inr (congrArg owner (List.mem_singleton.mp member))

theorem owner_replaceChapters {memory : Memory} {event replaced : Event}
    (member : replaced ∈ (replaceChapters memory event).1) :
    owner replaced = none ∨ owner replaced = owner event := by
  unfold replaceChapters at member
  split at member
  · simp only [List.mem_cons, List.not_mem_nil, or_false] at member
    rcases member with rfl | rfl | rfl
    · exact .inl rfl
    · exact .inl rfl
    · exact .inl rfl
  · exact .inl (congrArg owner (List.mem_singleton.mp member))
  · rw [List.mem_singleton.mp member]
    exact .inr rfl
  · exact .inr (congrArg owner (List.mem_singleton.mp member))

theorem owner_replaceText {memory : Memory} {event replaced : Event}
    (member : replaced ∈ (replaceText memory event).1) :
    owner replaced = none ∨ owner replaced = owner event := by
  unfold replaceText at member
  split at member
  · exact .inr (congrArg owner (List.mem_singleton.mp member))
  · split at member
    · exact .inr (congrArg owner (List.mem_singleton.mp member))
    · split at member
      · split at member
        · simp at member
        · exact .inl (congrArg owner (List.mem_singleton.mp member))
      · exact .inr (congrArg owner (List.mem_singleton.mp member))

/-- What stands in place of an event has no owner or the owner of the event, unless prose has been
    unwrapped. -/
theorem owner_of_replaced {stage : Stage} (wraps : stage ≠ .content) {memory : Memory}
    {event replaced : Event} (member : replaced ∈ (stage.replace memory event).1) :
    owner replaced = none ∨ owner replaced = owner event := by
  have same {other : Event} (single : replaced ∈ [other]) : owner replaced = owner other :=
    congrArg owner (List.mem_singleton.mp single)
  have container (single : replaced ∈ [replaceTag stage.target event]) :
      owner replaced = none ∨ owner replaced = owner event := by
    rw [same single]
    exact owner_replaceTag stage.target event
  cases stage with
  | authors => exact owner_replaceAuthors member
  | chapters => exact owner_replaceChapters member
  | content => exact absurd rfl wraps
  | text => exact owner_replaceText member
  | links => exact owner_replaceLinks member
  | headings | paragraphs | strong | emphasis | strikethrough | blockQuotes | lists | tables =>
      exact container member
  | code =>
      simp only [Stage.replace] at member
      split at member
      · exact .inl (same member)
      · exact container member
  | stripHtml =>
      simp only [Stage.replace] at member
      split at member
      · simp at member
      · exact .inr (same member)
  | title | softBreaks | hardBreaks =>
      simp only [Stage.replace] at member
      split at member
      · exact .inl (same member)
      · exact .inr (same member)

/-! ### Open code blocks -/

/-- The number of open code blocks after an event. -/
def codeDepthAfter (depth : Nat) (event : Event) : Nat :=
  if opensCode event then depth + 1 else if closesCode event then depth - 1 else depth

theorem replaceText_memory (memory : Memory) (event : Event) :
    (replaceText memory event).2 =
      { memory with codeDepth := codeDepthAfter memory.codeDepth event } := by
  unfold replaceText codeDepthAfter
  split
  · rfl
  · split
    · rfl
    · split <;> rfl

/-- What the text stage remembers is the number of open code blocks. -/
theorem after_text (memory : Memory) (events : List Event) :
    Stage.text.after memory events =
      { memory with codeDepth := events.foldl codeDepthAfter memory.codeDepth } := by
  induction events generalizing memory with
  | nil => rfl
  | cons event rest ih =>
      rw [after_cons, ih, List.foldl_cons]
      simp only [Stage.replace, replaceText_memory]

/-- Is the prose container a code block? -/
def isCodeTag : Markdown.Tag → Bool
  | .codeBlock _ => true
  | _ => false

def isCodeTarget : Typst.Tag → Bool
  | .codeBlock _ _ => true
  | _ => false

@[simp] theorem codeDepthAfter_start (depth : Nat) (tag : Markdown.Tag) :
    codeDepthAfter depth (.markdown (.start tag)) = if isCodeTag tag then depth + 1 else depth := by
  cases tag <;> rfl

@[simp] theorem codeDepthAfter_finish (depth : Nat) (tag : Markdown.Tag) :
    codeDepthAfter depth (.markdown (.finish tag)) = if isCodeTag tag then depth - 1 else depth := by
  cases tag <;> rfl

@[simp] theorem codeDepthAfter_targetStart (depth : Nat) (tag : Typst.Tag) :
    codeDepthAfter depth (.typst (.start tag)) = if isCodeTarget tag then depth + 1 else depth := by
  cases tag <;> rfl

@[simp] theorem codeDepthAfter_targetFinish (depth : Nat) (tag : Typst.Tag) :
    codeDepthAfter depth (.typst (.finish tag)) = if isCodeTarget tag then depth - 1 else depth := by
  cases tag <;> rfl

/-- Code blocks become code blocks, and others become others. -/
theorem code_of_target {stage : Stage} {tag : Markdown.Tag} {target : Typst.Tag}
    (converted : stage.target tag = some target) : isCodeTarget target = isCodeTag tag := by
  cases converts_of_target converted <;> rfl

theorem codeDepthAfter_replaceTag (stage : Stage) (depth : Nat) (event : Event) :
    codeDepthAfter depth (replaceTag stage.target event) = codeDepthAfter depth event := by
  unfold replaceTag
  split
  · next tag =>
      split
      · next target converted => simp [code_of_target converted]
      · rfl
  · next tag =>
      split
      · next target converted => simp [code_of_target converted]
      · rfl
  · rfl

theorem linkTarget_not_code {kind : Markdown.LinkKind} {destination : String} {target : Typst.Tag}
    (found : linkTarget kind destination = some target) : isCodeTarget target = false := by
  have converted : Stage.links.target (.link kind destination "") = some target := found
  exact code_of_target converted

theorem foldl_codeDepthAfter_replaceLinks (depth : Nat) (event : Event) :
    (replaceLinks event).foldl codeDepthAfter depth = codeDepthAfter depth event := by
  unfold replaceLinks
  split
  · next kind destination title =>
      cases found : linkTarget kind destination with
      | none => rfl
      | some target => simp [linkTarget_not_code found, isCodeTag]
  · next kind destination title =>
      cases found : linkTarget kind destination with
      | none => rfl
      | some target => simp [linkTarget_not_code found, isCodeTag]
  · rfl

theorem foldl_codeDepthAfter_replaceText (memory : Memory) (depth : Nat) (event : Event) :
    (replaceText memory event).1.foldl codeDepthAfter depth = codeDepthAfter depth event := by
  unfold replaceText
  split
  · rfl
  · split
    · rfl
    · split
      · split <;> rfl
      · rfl

/-- No stage but the one that unwraps prose changes what the text stage counts. -/
theorem foldl_codeDepthAfter_replace {stage : Stage} (wraps : stage ≠ .content) (memory : Memory)
    (depth : Nat) (event : Event) :
    (stage.replace memory event).1.foldl codeDepthAfter depth = codeDepthAfter depth event := by
  have container : codeDepthAfter depth (replaceTag stage.target event) = codeDepthAfter depth event :=
    codeDepthAfter_replaceTag stage depth event
  cases stage with
  | content => exact absurd rfl wraps
  | authors =>
      simp only [Stage.replace, replaceAuthors]
      split
      · rfl
      · rfl
      · split <;> rfl
      · rfl
  | chapters =>
      simp only [Stage.replace, replaceChapters]
      split <;> rfl
  | text => exact foldl_codeDepthAfter_replaceText memory depth event
  | links => exact foldl_codeDepthAfter_replaceLinks depth event
  | headings | paragraphs | strong | emphasis | strikethrough | blockQuotes | lists | tables =>
      exact container
  | code =>
      simp only [Stage.replace]
      split
      · rfl
      · exact container
  | title | softBreaks | hardBreaks | stripHtml =>
      simp only [Stage.replace]
      split <;> rfl

end Bindery.Convert
