/-
Module: Bindery.Proofs.StageOrder
Layer: Proofs
Purpose: The order of the stages of a conversion matters only in so far as headings are moved before
  prose is unwrapped, and prose is unwrapped before it is converted. Any two other stages commute on
  every stream: neither converts what the other converts or leaves behind, and the count of open code
  blocks is the same before and after a code block is converted. So two orders of the same stages that
  agree on those two points give the same stream.
Imports: Bindery.Convert.Pipeline, Bindery.Proofs.LazyChain, Bindery.Proofs.StageMemory (convertFrom)
Main exports: Stage.precedes, Respectful, run_comm, convertFrom_perm, outputs_perm
-/
import Bindery.Convert.Pipeline
import Bindery.Proofs.LazyChain
import Bindery.Proofs.StageMemory

namespace Bindery.Convert

/-- Does a stage have to come before another? Embedded headings are moved before they are unwrapped,
    and prose is unwrapped before it is converted. -/
def Stage.precedes (first second : Stage) : Bool :=
  first = .chapters && second = .content ||
    first = .content && Stage.forProse.tail.contains second

/-- Neither of two stages has to come before the other. -/
def Independent (first second : Stage) : Prop :=
  first ≠ second ∧ first.precedes second = false ∧ second.precedes first = false

/-- No stage comes after one that it has to precede. -/
def Respectful (stages : List Stage) : Prop :=
  stages.Pairwise fun earlier later => later.precedes earlier = false

theorem Independent.symm {first second : Stage} (independent : Independent first second) :
    Independent second first :=
  ⟨independent.1.symm, independent.2.2, independent.2.1⟩

/-! ### Independent stages have nothing in common -/

/-- A stage for prose comes after the unwrapping. -/
theorem precedes_of_ownerOfProse {event : Markdown.Event} {stage : Stage}
    (owned : ownerOfProse event = some stage) : Stage.content.precedes stage = true := by
  have later := forProse_of_ownerOfProse owned
  simp [Stage.precedes, later]

/-- No event is touched by two independent stages. -/
theorem not_touches_both {first second : Stage} (independent : Independent first second)
    {event : Event} (touches : first.touches event = true) : second.touches event = false := by
  rcases independent with ⟨differ, free, free'⟩
  rw [Bool.eq_false_iff]
  intro touches'
  simp only [Stage.touches, Bool.or_eq_true, decide_eq_true_eq, Bool.and_eq_true] at touches touches'
  rcases touches with owned | ⟨rfl, wrapped⟩
  · rcases touches' with owned' | ⟨rfl, wrapped'⟩
    · exact differ (Option.some.inj (owned.symm.trans owned'))
    · obtain rfl : first = .content := Option.some.inj (owned.symm.trans wrapped')
      exact absurd free' (by decide)
  · rcases touches' with owned' | ⟨rfl, _⟩
    · obtain rfl : second = .content := Option.some.inj (owned'.symm.trans wrapped)
      exact absurd free (by decide)
    · exact differ rfl

/-- What a stage puts in place of an event of its own is no concern of an independent stage. -/
theorem untouched_of_replaced {first second : Stage} (independent : Independent first second)
    {memory : Memory} {event replaced : Event} (touches : first.touches event = true)
    (member : replaced ∈ (first.replace memory event).1) : second.touches replaced = false := by
  by_cases unwraps : first = .content
  · subst unwraps
    simp only [Stage.replace] at member
    split at member
    · next inner =>
        rw [List.mem_singleton.mp member, Bool.eq_false_iff]
        intro touches'
        simp only [Stage.touches, Bool.or_eq_true, decide_eq_true_eq, Bool.and_eq_true] at touches'
        rcases touches' with owned | ⟨rfl, _⟩
        · exact absurd (precedes_of_ownerOfProse owned) (by simp [independent.2.1])
        · exact absurd independent.2.2 (by decide)
    · rw [List.mem_singleton.mp member]
      exact not_touches_both independent touches
  · have untouched : second.touches event = false := not_touches_both independent touches
    rcases owner_of_replaced unwraps member with none | same
    · simp [Stage.touches, none]
    · simpa only [Stage.touches, same] using untouched

/-- Every stage but the one for text watches only what it touches. -/
theorem unwatched_of_untouched {stage : Stage} (noText : stage ≠ .text) {event : Event}
    (untouched : stage.touches event = false) : stage.watches event = false := by
  cases stage with
  | text => exact absurd rfl noText
  | authors | chapters => simp_all [Stage.touches, Stage.watches]
  | _ => rfl

/-- What a stage remembers does not depend on whether an independent stage has already replaced an
    event of its own. -/
theorem after_replaced {first second : Stage} (independent : Independent first second)
    (memory memory' : Memory) {event : Event} (touches : first.touches event = true) :
    second.after memory' (first.replace memory event).1 = (second.replace memory' event).2 := by
  by_cases isText : second = .text
  · subst isText
    have wraps : first ≠ .content := by
      rintro rfl
      exact absurd independent.2.1 (by decide)
    rw [after_text, foldl_codeDepthAfter_replace wraps]
    exact (replaceText_memory memory' event).symm
  · have quiet : second.Quiet (first.replace memory event).1 := fun replaced member =>
      have untouched := untouched_of_replaced independent touches member
      ⟨untouched, unwatched_of_untouched isText untouched⟩
    have untouched : second.touches event = false := not_touches_both independent touches
    rw [(run_of_quiet memory' quiet).2,
      replace_memory_of_unwatched memory' (unwatched_of_untouched isText untouched)]

/-! ### Independent stages commute -/

/-- On one event, two stages give the same and remember the same in either order. -/
structure CommuteOn (first second : Stage) (memory memory' : Memory) (event : Event) : Prop where
  sameEvents : first.run memory (second.replace memory' event).1 =
    second.run memory' (first.replace memory event).1
  sameFirst : first.after memory (second.replace memory' event).1 = (first.replace memory event).2
  sameSecond : second.after memory' (first.replace memory event).1 = (second.replace memory' event).2

theorem CommuteOn.symm {first second : Stage} {memory memory' : Memory} {event : Event}
    (commute : CommuteOn second first memory' memory event) :
    CommuteOn first second memory memory' event :=
  ⟨commute.sameEvents.symm, commute.sameSecond, commute.sameFirst⟩

/-- Two stages commute on an event that the second leaves alone. -/
theorem commuteOn_of_untouched {first second : Stage} (independent : Independent first second)
    (memory memory' : Memory) {event : Event} (untouched : second.touches event = false) :
    CommuteOn first second memory memory' event := by
  have passes : (second.replace memory' event).1 = [event] := replace_of_untouched memory' untouched
  have sees : first.run memory [event] = (first.replace memory event).1 :=
    run_singleton first memory event
  cases touches : first.touches event with
  | true =>
      have leaves : second.run memory' (first.replace memory event).1 =
          (first.replace memory event).1 :=
        run_of_untouched memory' fun _ member => untouched_of_replaced independent touches member
      exact ⟨by rw [passes, sees, leaves], by rw [passes, after_singleton],
        after_replaced independent memory memory' touches⟩
  | false =>
      have passes' : (first.replace memory event).1 = [event] :=
        replace_of_untouched memory touches
      exact ⟨by rw [passes, passes', run_singleton, passes', run_singleton, passes],
        by rw [passes, after_singleton], by rw [passes', after_singleton]⟩

theorem commuteOn {first second : Stage} (independent : Independent first second)
    (memory memory' : Memory) (event : Event) : CommuteOn first second memory memory' event := by
  cases touches : first.touches event with
  | true =>
      exact commuteOn_of_untouched independent memory memory' (not_touches_both independent touches)
  | false => exact (commuteOn_of_untouched independent.symm memory' memory touches).symm

/-- Two independent stages give the same stream in either order, whatever they remember. -/
theorem run_comm {first second : Stage} (independent : Independent first second)
    (memory memory' : Memory) (events : List Event) :
    first.run memory (second.run memory' events) = second.run memory' (first.run memory events) := by
  induction events generalizing memory memory' with
  | nil => rfl
  | cons event rest ih =>
      have commute := commuteOn independent memory memory' event
      rw [run_cons second, run_cons first, run_append, run_append, commute.sameEvents,
        commute.sameFirst, commute.sameSecond, ih]

/-! ### Orders of more stages -/

/-- A stage can come first if it is independent of the stages before it. -/
theorem convertFrom_middle (memory : Memory) {stage : Stage} {before : List Stage}
    (independent : ∀ other ∈ before, Independent other stage) (after : List Stage)
    (events : List Event) :
    convertFrom memory (before ++ stage :: after) events =
      convertFrom memory (before ++ after) (stage.run memory events) := by
  induction before generalizing events with
  | nil => rfl
  | cons other before ih =>
      have first : Independent other stage := independent other List.mem_cons_self
      have rest := ih (fun later member => independent later (List.mem_cons_of_mem _ member))
        (other.run memory events)
      rw [← run_comm first] at rest
      exact rest

/-- Two orders of the same stages that respect what has to come first give the same stream. -/
theorem convertFrom_perm (memory : Memory) {first second : List Stage} (perm : first.Perm second)
    (distinct : first.Nodup) (respectful : Respectful first) (respectful' : Respectful second)
    (events : List Event) :
    convertFrom memory first events = convertFrom memory second events := by
  induction first generalizing second events with
  | nil => rw [List.nil_perm.mp perm]
  | cons stage rest ih =>
      obtain ⟨before, after, rfl⟩ := List.append_of_mem (perm.mem_iff.mp List.mem_cons_self)
      have permRest : rest.Perm (before ++ after) := (perm.trans List.perm_middle).cons_inv
      rcases List.nodup_cons.mp distinct with ⟨notLater, distinctRest⟩
      rcases List.pairwise_cons.mp respectful with ⟨stageFirst, respectfulRest⟩
      rcases List.pairwise_append.mp respectful' with ⟨respectfulBefore, fromStage, across⟩
      have independent : ∀ other ∈ before, Independent other stage := by
        intro other member
        have inRest : other ∈ rest := permRest.mem_iff.mpr (List.mem_append_left after member)
        refine ⟨?_, stageFirst other inRest, across other member stage List.mem_cons_self⟩
        rintro rfl
        exact notLater inRest
      have respectfulOthers : Respectful (before ++ after) :=
        List.pairwise_append.mpr ⟨respectfulBefore, (List.pairwise_cons.mp fromStage).2,
          fun earlier member later member' =>
            across earlier member later (List.mem_cons_of_mem _ member')⟩
      rw [convertFrom_middle memory independent]
      exact ih permRest distinctRest respectfulRest respectfulOthers (stage.run memory events)

/-- Two chains of the same stages, each stage once and in orders that respect what has to come first,
    give the same stream. -/
theorem outputs_perm {first second : List Stage} (perm : first.Perm second)
    (distinct : first.Nodup) (respectful : Respectful first) (respectful' : Respectful second)
    (events : List Event) :
    (Chain.ofStages (first.map some)).outputs events =
      (Chain.ofStages (second.map some)).outputs events := by
  rw [outputs_ofStages, outputs_ofStages]
  exact convertFrom_perm .initial perm distinct respectful respectful' events

/-- All stages in another order: code is converted before text is, and the structure of the book in
    between. -/
def codeFirst : List Stage :=
  [.chapters, .content, .code, .stripHtml, .title, .tables, .links, .lists, .text, .blockQuotes,
   .strikethrough, .emphasis, .strong, .authors, .hardBreaks, .softBreaks, .paragraphs, .headings]

/-- A chapter with a display formula in a code block, which is kept, and one outside, which is not. -/
def formulaInCode : List Event :=
  [.book (.start (.chapter .draft "Code" none none)), .book (.prose (.start (.codeBlock .indented))),
   .book (.prose (.text "\\[x\\]")), .book (.prose (.finish (.codeBlock .indented))),
   .book (.prose (.text "\\[y\\]")), .book (.finish (.chapter .draft "Code" none none))]

theorem outputs_codeFirst :
    (Stage.all.Perm codeFirst ∧ Stage.all.Nodup ∧ Respectful Stage.all ∧ Respectful codeFirst) ∧
      (Chain.ofStages (Stage.all.map some)).outputs formulaInCode =
        (Chain.ofStages (codeFirst.map some)).outputs formulaInCode := by
  have perm : Stage.all.Perm codeFirst := by decide
  have distinct : Stage.all.Nodup := by decide
  have respectful : Respectful Stage.all := by unfold Respectful; decide
  have respectful' : Respectful codeFirst := by unfold Respectful; decide
  exact ⟨⟨perm, distinct, respectful, respectful'⟩,
    outputs_perm perm distinct respectful respectful' formulaInCode⟩

end Bindery.Convert
