/-
Module: Bindery.Proofs.StageErasure
Layer: Proofs
Purpose: Leaving stages out erases what they make and changes nothing else. Apart from the stages that the
  shape and the text of a document rest on, every stage marks the events that it makes by their kind, so
  that they can be told from those of all others. Without such stages, the document is the whole document
  without their events. No other stage notices: the count of open chapters and of open code blocks is the
  same, so that text in code is kept as it is whether code blocks are marked or not.
Imports: Bindery.Proofs.OnePass, Bindery.Proofs.StageNames
Main exports: Stage.erasable, maker, isMadeBy, maker_of_translate, targetFrom_without,
  convertToTypst_without
-/
import Bindery.Proofs.OnePass
import Bindery.Proofs.StageNames

namespace Bindery.Convert

/-! ### Makers -/

/-- The stages whose events can be told by their kind. Headings are made by two stages, and text by three. -/
def Stage.erasable : List Stage :=
  [.title, .authors, .paragraphs, .hardBreaks, .strong, .emphasis, .strikethrough, .blockQuotes, .lists,
   .code, .links, .tables, .stripHtml]

/-- The stage that a container of the target is from. -/
def makerOfTag : Typst.Tag → Option Stage
  | .paragraph => some .paragraphs
  | .showRule _ _ _ _ => none
  | .heading _ _ _ => none
  | .codeBlock _ _ => some .code
  | .bulletList _ _ => some .lists
  | .numberedList _ _ _ => some .lists
  | .item => some .lists
  | .quote _ _ _ => some .blockQuotes
  | .emphasis => some .emphasis
  | .strong => some .strong
  | .strikethrough => some .strikethrough
  | .link _ _ => some .links
  | .table _ => some .tables
  | .tableHead => some .tables
  | .tableRow => some .tables
  | .tableCell => some .tables

/-- The stage that a target event is from. -/
def maker : Typst.Event → Option Stage
  | .start tag => makerOfTag tag
  | .finish tag => makerOfTag tag
  | .documentSet key _ =>
    if key = "title" then some .title else if key = "author" then some .authors else none
  | .paragraphBreak => some .hardBreaks
  | .code _ => some .code
  | _ => none

/-- Is the event from one of the stages? -/
def isMadeBy (stages : List Stage) : Event → Bool
  | .typst event => (maker event).any stages.contains
  | _ => false

/-- No erasable stage is another stage. -/
theorem none_iff_of_not_erasable {other stage : Stage} (keeps : other ∉ Stage.erasable)
    (erasable : stage ∈ Stage.erasable) : (none : Option Stage) = some stage ↔ some other = some stage := by
  constructor
  · intro impossible
    cases impossible
  · intro same
    cases same
    exact absurd erasable keeps

/-- The counterpart of a container is from the stage that owns the container, as far as stages are
    erasable. -/
theorem makerOfTag_counterpart {depth : Nat} {tag : Markdown.Tag} {target : Typst.Tag}
    (becomes : counterpart depth tag = some target) {stage : Stage} (erasable : stage ∈ Stage.erasable) :
    makerOfTag target = some stage ↔ ownerOfTag tag = some stage := by
  cases tag with
  | heading level =>
      cases becomes
      exact none_iff_of_not_erasable (by decide) erasable
  | codeBlock kind => cases kind <;> cases becomes <;> exact Iff.rfl
  | list start => cases start <;> cases becomes <;> exact Iff.rfl
  | link kind destination title => cases kind <;> cases becomes <;> exact Iff.rfl
  | image => cases becomes
  | _ => cases becomes; exact Iff.rfl

/-- So is the counterpart of a prose event. -/
theorem maker_of_translateProse {memory : Memory} {inner : Markdown.Event} {target : Typst.Event}
    (becomes : target ∈ (translateProse memory inner).1) {stage : Stage}
    (erasable : stage ∈ Stage.erasable) : maker target = some stage ↔ ownerOfProse inner = some stage := by
  cases inner with
  | start tag | finish tag =>
      simp only [translateProse, Option.mem_toList, Option.map_eq_some_iff] at becomes
      obtain ⟨container, isCounterpart, rfl⟩ := becomes
      exact makerOfTag_counterpart isCounterpart erasable
  | text body =>
      simp only [translateProse] at becomes
      split at becomes
      · cases becomes
      · rw [List.mem_singleton.mp becomes]
        exact none_iff_of_not_erasable (by decide) erasable
  | softBreak =>
      rw [List.mem_singleton.mp becomes]
      exact none_iff_of_not_erasable (by decide) erasable
  | code | hardBreak =>
      rw [List.mem_singleton.mp becomes]
      exact Iff.rfl
  | html | rule => cases becomes

/-- So is the counterpart of a structural event. -/
theorem maker_of_translate {memory : Memory} {event : Book.Event} {target : Typst.Event}
    (becomes : target ∈ (translate memory event).1) {stage : Stage}
    (erasable : stage ∈ Stage.erasable) : maker target = some stage ↔ origin event = some stage := by
  cases event with
  | prose inner => exact maker_of_translateProse becomes erasable
  | title body =>
      rw [List.mem_singleton.mp becomes]
      exact Iff.rfl
  | start tag =>
      cases tag with
      | chapter status name source number =>
          simp only [translate, List.mem_cons, List.not_mem_nil, or_false] at becomes
          rcases becomes with rfl | rfl | rfl
          all_goals exact none_iff_of_not_erasable (by decide) erasable
      | part | content | authorList => cases becomes
  | finish tag =>
      cases tag with
      | chapter status name source number =>
          rw [List.mem_singleton.mp becomes]
          exact none_iff_of_not_erasable (by decide) erasable
      | authorList =>
          simp only [translate] at becomes
          split at becomes
          · cases becomes
          · rw [List.mem_singleton.mp becomes]
            exact Iff.rfl
      | part | content => cases becomes
  | root | separator | author => cases becomes

/-! ### Leaving stages out -/

/-- What an event becomes is kept or erased as a whole. -/
theorem filter_translate {disabled : List Stage} (erasable : ∀ stage ∈ disabled, stage ∈ Stage.erasable)
    (memory : Memory) (event : Book.Event) :
    ((translate memory event).1.map Event.typst).filter (fun target => !isMadeBy disabled target) =
      (if (origin event).all (Settings.everything.without disabled).isEnabled
        then (translate memory event).1 else []).map .typst := by
  have made {target : Typst.Event} (becomes : target ∈ (translate memory event).1) :
      isMadeBy disabled (.typst target) = (origin event).any disabled.contains := by
    rw [Bool.eq_iff_iff]
    simp only [isMadeBy, Option.any_eq_true, List.contains_iff_mem]
    constructor
    · rintro ⟨stage, isMaker, isDisabled⟩
      exact ⟨stage, (maker_of_translate becomes (erasable stage isDisabled)).mp isMaker, isDisabled⟩
    · rintro ⟨stage, isOrigin, isDisabled⟩
      exact ⟨stage, (maker_of_translate becomes (erasable stage isDisabled)).mpr isOrigin, isDisabled⟩
  have runs : (origin event).all (Settings.everything.without disabled).isEnabled =
      !(origin event).any disabled.contains := by
    cases origin event <;> simp [Settings.without, Settings.everything]
  rw [runs]
  cases isDisabled : (origin event).any disabled.contains with
  | true =>
      rw [List.filter_eq_nil_iff.mpr]
      · rfl
      · simpa [isDisabled] using fun target becomes => (made becomes).trans isDisabled
  | false =>
      rw [List.filter_eq_self.mpr]
      · rfl
      · simpa [isDisabled] using fun target becomes => (made becomes).trans isDisabled

/-- Without erasable stages, the pass stays the same and the events of these stages are erased. -/
theorem targetFrom_without {disabled : List Stage} (erasable : ∀ stage ∈ disabled, stage ∈ Stage.erasable)
    (memory : Memory) (events : List Book.Event) :
    targetFrom (Settings.everything.without disabled) memory (events.map .book) =
      ((pass memory events).map Event.typst).filter fun target => !isMadeBy disabled target := by
  have stays {stage : Stage} (keeps : stage ∉ Stage.erasable) :
      (Settings.everything.without disabled).isEnabled stage = true := by
    have notDisabled : stage ∉ disabled := fun member => keeps (erasable stage member)
    simpa [Settings.without, Settings.everything] using notDisabled
  induction events generalizing memory with
  | nil => exact targetFrom_nil _ memory
  | cons event rest ih =>
      obtain ⟨becomes, leads⟩ :=
        targetFrom_singleton (stays (by decide)) (stays (by decide)) memory event
      rw [List.map_cons, ← List.singleton_append, targetFrom_append leads, becomes, ih, pass,
        List.map_append, List.filter_append, filter_translate erasable]

/-! ### The document -/

/-- With erasable stages disabled, the document of a sequence of structural events is the document of all
    stages without the events of these stages. -/
theorem convertToTypst_without {disabled : List Stage}
    (erasable : ∀ stage ∈ disabled, stage ∈ Stage.erasable) (events : List Book.Event) :
    Settings.everything.disable (disabled.map Stage.name) = .ok (Settings.everything.without disabled) ∧
      convertToTypst (Settings.everything.without disabled) (events.map .book) =
        (convertToTypst .everything (events.map .book)).filter fun target =>
          !isMadeBy disabled target := by
  refine ⟨disable_map_name .everything disabled, ?_⟩
  rw [convertToTypst_eq_targetFrom, convertToTypst_eq_targetFrom, targetFrom_without erasable,
    targetFrom_pass]

/-- A formula in a code block and one outside, in a book with an author. -/
def labelledCode : List Book.Event :=
  [.start .authorList, .author "Ann", .finish .authorList,
   .prose (.start (.codeBlock (.fenced "tex"))), .prose (.text "\\[x\\]"),
   .prose (.finish (.codeBlock (.fenced "tex"))), .prose (.start .emphasis), .prose (.text "\\[x\\]"),
   .prose (.code "y"), .prose (.finish .emphasis), .prose (.start .paragraph), .prose .hardBreak,
   .prose (.finish .paragraph)]

theorem convertToTypst_without_labelledCode :
    (∀ stage ∈ [Stage.code, .authors, .emphasis], stage ∈ Stage.erasable) ∧
      convertToTypst (Settings.everything.without [.code, .authors, .emphasis])
          (labelledCode.map .book) =
        [.typst (.text "\\[x\\]"), .typst (.start .paragraph), .typst .paragraphBreak,
         .typst (.finish .paragraph)] := by
  have erasable : ∀ stage ∈ [Stage.code, .authors, .emphasis], stage ∈ Stage.erasable := by decide
  refine ⟨erasable, ?_⟩
  rw [(convertToTypst_without erasable labelledCode).2]
  rfl

end Bindery.Convert
