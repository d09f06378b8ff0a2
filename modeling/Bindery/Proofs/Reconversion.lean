/-
Module: Bindery.Proofs.Reconversion
Layer: Proofs
Purpose: A stream that has been converted is not converted again by the same stages. What a stage makes of
  its own events has no owner any more, except for prose that it unwraps, and that belongs to stages which run
  later. So no event that comes out belongs to a stage that has run. There is one more thing that a stage
  changes, an embedded heading inside chapters, which may still be there if prose is not unwrapped: it moves
  no further, since no chapter is left around it.
Imports: Bindery.Proofs.OnePass, Bindery.Proofs.StageOrder
Main exports: Unowned, owner_of_own_replaced, unowned_run, Unowned.run, unowned_convertFrom,
  run_of_unowned, Settings.chain, outputs_outputs
-/
import Bindery.Proofs.OnePass
import Bindery.Proofs.StageOrder

namespace Bindery.Convert

/-! ### What a stage leaves behind -/

/-- Does no event of a stream belong to the stage? -/
def Unowned (stage : Stage) (events : List Event) : Prop := ∀ event ∈ events, owner event ≠ some stage

theorem unowned_nil (stage : Stage) : Unowned stage [] := fun _ member => absurd member List.not_mem_nil

theorem Unowned.append {stage : Stage} {first second : List Event} (unownedFirst : Unowned stage first)
    (unownedSecond : Unowned stage second) : Unowned stage (first ++ second) := by
  intro event member
  rcases List.mem_append.mp member with inFirst | inSecond
  · exact unownedFirst event inFirst
  · exact unownedSecond event inSecond

/-- What a stage puts in place of an event of its own belongs to no stage, unless it has been unwrapped. -/
theorem owner_of_own_replaced {stage : Stage} (wraps : stage ≠ .content) {memory : Memory}
    {event replaced : Event} (owned : owner event = some stage)
    (member : replaced ∈ (stage.replace memory event).1) : owner replaced = none := by
  have ofTarget {target : Option Event} (isTarget : replaced ∈ target.toList)
      (unowned : ∀ made ∈ target, owner made = none) : owner replaced = none :=
    unowned replaced (Option.mem_toList.mp isTarget)
  cases event with
  | typst | foreign => cases owned
  | book inner =>
      have structural : stage ∈ Stage.structural := by
        by_contra notStructural
        obtain ⟨prose, rfl⟩ := exists_prose_of_owned notStructural owned
        cases owned
        exact wraps rfl
      rw [(replace_structural structural owned memory).1] at member
      obtain ⟨target, _, rfl⟩ := List.mem_map.mp member
      rfl
  | markdown inner =>
      cases inner with
      | start tag =>
          rw [(replace_container owned memory).1] at member
          exact ofTarget member (by simp [owner])
      | finish tag =>
          rw [(replace_container owned memory).2] at member
          exact ofTarget member (by simp [owner])
      | text body =>
          cases owned
          simp only [Stage.replace, replaceText, opensCode, closesCode, Bool.false_eq_true, if_false] at member
          split at member
          · cases member
          · rw [List.mem_singleton.mp member]
            rfl
      | code | softBreak | hardBreak =>
          cases owned
          rw [List.mem_singleton.mp member]
          rfl
      | html => cases owned; cases member
      | rule => cases owned

/-- No event that a stage puts in place of another belongs to the stage. -/
theorem unowned_replace (stage : Stage) (memory : Memory) (event : Event) :
    Unowned stage (stage.replace memory event).1 := by
  intro replaced member
  by_cases unwraps : stage = .content
  · subst unwraps
    simp only [Stage.replace] at member
    split at member
    · rw [List.mem_singleton.mp member]
      intro owned
      exact absurd (forProse_of_ownerOfProse owned) (by decide)
    · next notProse =>
        rw [List.mem_singleton.mp member]
        intro owned
        cases event with
        | book inner =>
            obtain ⟨prose, rfl⟩ := exists_prose_of_owned (by decide) owned
            exact notProse prose rfl
        | markdown inner => exact absurd (forProse_of_ownerOfProse owned) (by decide)
        | typst | foreign => cases owned
  · by_cases owned : owner event = some stage
    · rw [owner_of_own_replaced unwraps owned member]
      exact (Option.some_ne_none stage).symm
    · rcases owner_of_replaced unwraps member with none | same
      · rw [none]
        exact (Option.some_ne_none stage).symm
      · rwa [same]

/-- No event that comes out of a stage belongs to it. -/
theorem unowned_run (stage : Stage) (memory : Memory) (events : List Event) :
    Unowned stage (stage.run memory events) := by
  induction events generalizing memory with
  | nil =>
      rw [run_nil]
      exact unowned_nil stage
  | cons event rest ih =>
      rw [run_cons]
      exact (unowned_replace stage memory event).append (ih _)

/-- A stage makes no event that belongs to another one, except if it unwraps what the other one converts. -/
theorem Unowned.run {stage other : Stage} (free : other.precedes stage = false) {events : List Event}
    (unowned : Unowned stage events) (memory : Memory) : Unowned stage (other.run memory events) := by
  induction events generalizing memory with
  | nil =>
      rw [run_nil]
      exact unowned_nil stage
  | cons event rest ih =>
      have here : Unowned stage (other.replace memory event).1 := by
        intro replaced member
        by_cases unwraps : other = .content
        · subst unwraps
          simp only [Stage.replace] at member
          split at member
          · rw [List.mem_singleton.mp member]
            intro owned
            exact absurd (precedes_of_ownerOfProse owned) (by simp [free])
          · rw [List.mem_singleton.mp member]
            exact unowned event List.mem_cons_self
        · rcases owner_of_replaced unwraps member with none | same
          · rw [none]
            exact (Option.some_ne_none stage).symm
          · rw [same]
            exact unowned event List.mem_cons_self
      rw [run_cons]
      exact here.append (ih (fun later member => unowned later (List.mem_cons_of_mem _ member)) _)

/-! ### Stages in a row -/

theorem Unowned.convertFrom {stage : Stage} {later : List Stage} {events : List Event}
    (free : ∀ other ∈ later, other.precedes stage = false) (unowned : Unowned stage events)
    (memory : Memory) : Unowned stage (convertFrom memory later events) := by
  induction later generalizing events with
  | nil => exact unowned
  | cons other later ih =>
      rw [convertFrom_cons]
      apply ih fun third member => free third (List.mem_cons_of_mem _ member)
      exact unowned.run (free other List.mem_cons_self) memory

/-- No event that comes out of stages belongs to one of them, if prose is unwrapped before it is converted. -/
theorem unowned_convertFrom {stages : List Stage} (respectful : Respectful stages) (memory : Memory)
    (events : List Event) : ∀ stage ∈ stages, Unowned stage (convertFrom memory stages events) := by
  induction stages generalizing events with
  | nil => exact nofun
  | cons first later ih =>
      obtain ⟨free, respectfulLater⟩ := List.pairwise_cons.mp respectful
      rw [convertFrom_cons]
      rintro stage (_ | ⟨_, member⟩)
      · exact (unowned_run first memory events).convertFrom free memory
      · exact ih respectfulLater (first.run memory events) stage member

/-! ### Running again -/

/-- Outside of chapters, the stage of chapters leaves alone what does not belong to it: headings move by no
    level. -/
theorem run_chapters_of_unowned {events : List Event} (unowned : Unowned .chapters events)
    {memory : Memory} (outside : memory.depth = 0) : Stage.chapters.run memory events = events := by
  induction events with
  | nil => rfl
  | cons event rest ih =>
      have here : replaceChapters memory event = ([event], memory) := by
        have notOwned := unowned event List.mem_cons_self
        unfold replaceChapters
        split
        · exact absurd rfl notOwned
        · exact absurd rfl notOwned
        · simp [outside]
        · rfl
      rw [run_cons, Stage.replace, here, ih fun other member => unowned other (List.mem_cons_of_mem _ member)]
      rfl

/-- A stage leaves a stream alone of which nothing belongs to it. -/
theorem run_of_unowned {stage : Stage} {events : List Event} (unowned : Unowned stage events) :
    stage.run .initial events = events := by
  by_cases moves : stage = .chapters
  · subst moves
    exact run_chapters_of_unowned unowned rfl
  · apply run_of_untouched
    intro event member
    simp [Stage.touches, unowned event member, moves]

theorem convertFrom_of_unowned {stages : List Stage} {events : List Event}
    (unowned : ∀ stage ∈ stages, Unowned stage events) : convertFrom .initial stages events = events := by
  induction stages with
  | nil => rfl
  | cons stage later ih =>
      rw [convertFrom_cons, run_of_unowned (unowned stage List.mem_cons_self)]
      exact ih fun other member => unowned other (List.mem_cons_of_mem _ member)

/-! ### Selected stages -/

def Settings.chain (settings : Settings) : Chain := Chain.ofStages (settings.selectedStages.map some)

theorem outputs_chain (settings : Settings) (events : List Event) :
    settings.chain.outputs events = convertFrom .initial settings.selectedStages events :=
  outputs_ofStages settings.selectedStages events

/-- Selected stages run in an order that respects what has to come first. -/
theorem respectful_selectedStages (settings : Settings) : Respectful settings.selectedStages := by
  have inOrder : Respectful Stage.all := by unfold Respectful; decide
  exact inOrder.sublist (selectedStages_sublist settings)

/-- No event that comes out of a conversion belongs to a stage of the conversion, and a second conversion with
    the same settings gives the stream back as it is. -/
theorem outputs_outputs (settings : Settings) (events : List Event) :
    (∀ event ∈ settings.chain.outputs events, ∀ stage ∈ settings.selectedStages,
        owner event ≠ some stage) ∧
      settings.chain.outputs (settings.chain.outputs events) = settings.chain.outputs events := by
  simp only [outputs_chain]
  have unowned := unowned_convertFrom (respectful_selectedStages settings) .initial events
  exact ⟨fun event member stage selected => unowned stage selected event member,
    convertFrom_of_unowned unowned⟩

end Bindery.Convert
