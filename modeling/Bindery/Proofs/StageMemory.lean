/-
Module: Bindery.Proofs.StageMemory
Layer: Proofs
Purpose: Stages in a row convert a stream piece by piece. Each stage reads and changes one field of its
  memory, so that one memory describes what all of them remember. If a piece leads from one memory to
  another, then what follows it is converted with the other memory as if it stood alone. A piece that is
  no concern of any stage can be taken out of a stream.
Imports: Bindery.Proofs.StageRun
Main exports: convertFrom, Stage.Agrees, run_of_agrees, Leads, convertFrom_append, Leads.append,
  exists_leads, convertFrom_of_quiet, convertFrom_private
-/
import Bindery.Proofs.StageRun

namespace Bindery.Convert

/-- Runs stages one after the other over a whole stream, each with the same memory at first. -/
def convertFrom (memory : Memory) (stages : List Stage) (events : List Event) : List Event :=
  stages.foldl (fun stream stage => stage.run memory stream) events

theorem convertFrom_cons (memory : Memory) (stage : Stage) (later : List Stage)
    (events : List Event) :
    convertFrom memory (stage :: later) events =
      convertFrom memory later (stage.run memory events) := rfl

/-! ### What a stage reads -/

def Stage.Agrees (stage : Stage) (first second : Memory) : Prop :=
  match stage with
  | .authors => first.authors = second.authors
  | .chapters => first.depth = second.depth
  | .text => first.codeDepth = second.codeDepth
  | _ => True

theorem agrees_refl (stage : Stage) (memory : Memory) : stage.Agrees memory memory := by
  cases stage with
  | authors | chapters | text => exact rfl
  | _ => exact trivial

theorem Stage.Agrees.trans {stage : Stage} {first second third : Memory}
    (agrees : stage.Agrees first second) (agrees' : stage.Agrees second third) :
    stage.Agrees first third := by
  cases stage with
  | authors | chapters | text => exact Eq.trans agrees agrees'
  | _ => exact trivial

/-- A stage does the same with memories that agree on what it reads. -/
theorem replace_of_agrees {stage : Stage} {first second : Memory}
    (agrees : stage.Agrees first second) (event : Event) :
    (stage.replace first event).1 = (stage.replace second event).1 ∧
      stage.Agrees (stage.replace first event).2 (stage.replace second event).2 := by
  cases stage with
  | authors =>
      have same : first.authors = second.authors := agrees
      simp only [Stage.replace, replaceAuthors]
      split
      · exact ⟨rfl, rfl⟩
      · exact ⟨rfl, congrArg (· ++ _) same⟩
      · exact ⟨by rw [same], same⟩
      · exact ⟨rfl, same⟩
  | chapters =>
      have same : first.depth = second.depth := agrees
      simp only [Stage.replace, replaceChapters]
      split
      · exact ⟨by rw [same], congrArg (· + 1) same⟩
      · exact ⟨rfl, congrArg (· - 1) same⟩
      · exact ⟨by rw [same], same⟩
      · exact ⟨rfl, same⟩
  | text =>
      have same : first.codeDepth = second.codeDepth := agrees
      simp only [Stage.replace, replaceText]
      split
      · exact ⟨rfl, congrArg (· + 1) same⟩
      · split
        · exact ⟨rfl, congrArg (· - 1) same⟩
        · split
          · exact ⟨by rw [same], same⟩
          · exact ⟨rfl, same⟩
  | _ => exact ⟨rfl, trivial⟩

theorem run_of_agrees {stage : Stage} {first second : Memory} (agrees : stage.Agrees first second)
    (events : List Event) :
    stage.run first events = stage.run second events ∧
      stage.Agrees (stage.after first events) (stage.after second events) := by
  induction events generalizing first second with
  | nil => exact ⟨rfl, agrees⟩
  | cons event rest ih =>
      obtain ⟨sameEvents, agreesNext⟩ := replace_of_agrees agrees event
      rcases ih agreesNext with ⟨sameRest, agreesLast⟩
      rw [run_cons, run_cons, sameEvents, sameRest]
      exact ⟨rfl, agreesLast⟩

/-- A stage changes nothing that another stage reads. -/
theorem agrees_replace_of_ne {stage other : Stage} (differ : other ≠ stage) (memory : Memory)
    (event : Event) : other.Agrees memory (stage.replace memory event).2 := by
  cases stage with
  | authors =>
      simp only [Stage.replace, replaceAuthors]
      cases other with
      | authors => exact absurd rfl differ
      | chapters | text => split <;> rfl
      | _ => exact trivial
  | chapters =>
      simp only [Stage.replace, replaceChapters]
      cases other with
      | chapters => exact absurd rfl differ
      | authors | text => split <;> rfl
      | _ => exact trivial
  | text =>
      simp only [Stage.replace, replaceText_memory]
      cases other with
      | text => exact absurd rfl differ
      | authors | chapters => exact rfl
      | _ => exact trivial
  | _ => exact agrees_refl other memory

/-- Stages do the same with memories that agree on what each of them reads. -/
theorem convertFrom_of_agrees {stages : List Stage} {first second : Memory}
    (agrees : ∀ stage ∈ stages, stage.Agrees first second) (events : List Event) :
    convertFrom first stages events = convertFrom second stages events := by
  induction stages generalizing events with
  | nil => rfl
  | cons stage later ih =>
      have sameRun := (run_of_agrees (agrees stage List.mem_cons_self) events).1
      rw [convertFrom_cons, convertFrom_cons, sameRun]
      exact ih (fun other member => agrees other (List.mem_cons_of_mem _ member)) _

/-! ### Piece by piece -/

/-- After a piece of a stream has passed the stages, each of them agrees with `next`. -/
def Leads : List Stage → Memory → List Event → Memory → Prop
  | [], _, _, _ => True
  | stage :: later, memory, events, next =>
    stage.Agrees (stage.after memory events) next ∧ Leads later memory (stage.run memory events) next

/-- What follows a piece is converted as if it stood alone. -/
theorem convertFrom_append {stages : List Stage} {memory next : Memory} {first : List Event}
    (leads : Leads stages memory first next) (second : List Event) :
    convertFrom memory stages (first ++ second) =
      convertFrom memory stages first ++ convertFrom next stages second := by
  induction stages generalizing first second with
  | nil => rfl
  | cons stage later ih =>
      rcases leads with ⟨agrees, leadsLater⟩
      have sameRun := (run_of_agrees agrees second).1
      rw [convertFrom_cons, convertFrom_cons, convertFrom_cons, run_append, sameRun]
      exact ih leadsLater _

theorem Leads.append {stages : List Stage} {memory middle next : Memory} {first second : List Event}
    (leadsFirst : Leads stages memory first middle) (leadsSecond : Leads stages middle second next) :
    Leads stages memory (first ++ second) next := by
  induction stages generalizing first second with
  | nil => exact trivial
  | cons stage later ih =>
      rcases leadsFirst with ⟨agreesFirst, leadsLater⟩
      rcases leadsSecond with ⟨agreesSecond, leadsLater'⟩
      obtain ⟨sameRun, agreesAfter⟩ := run_of_agrees agreesFirst second
      constructor
      · rw [after_append]
        exact agreesAfter.trans agreesSecond
      · rw [run_append, sameRun]
        exact ih leadsLater leadsLater'

/-- More stages in a row convert what the stages before them leave. -/
theorem convertFrom_stages (memory : Memory) (earlier later : List Stage) (events : List Event) :
    convertFrom memory (earlier ++ later) events =
      convertFrom memory later (convertFrom memory earlier events) := List.foldl_append

theorem leads_stages {earlier later : List Stage} {memory next : Memory} {events : List Event}
    (leadsEarlier : Leads earlier memory events next)
    (leadsLater : Leads later memory (convertFrom memory earlier events) next) :
    Leads (earlier ++ later) memory events next := by
  induction earlier generalizing events with
  | nil => exact leadsLater
  | cons stage rest ih => exact ⟨leadsEarlier.1, ih leadsEarlier.2 leadsLater⟩

theorem leads_nil (stages : List Stage) (memory : Memory) : Leads stages memory [] memory := by
  induction stages with
  | nil => exact trivial
  | cons stage later ih => exact ⟨agrees_refl stage memory, ih⟩

/-- A piece leads to every memory that agrees with the one it leads to. -/
theorem Leads.of_agrees {stages : List Stage} {memory next next' : Memory} {events : List Event}
    (leads : Leads stages memory events next)
    (agrees : ∀ stage ∈ stages, stage.Agrees next next') : Leads stages memory events next' := by
  induction stages generalizing events with
  | nil => exact trivial
  | cons stage later ih =>
      rcases leads with ⟨agreesStage, leadsLater⟩
      constructor
      · exact agreesStage.trans (agrees stage List.mem_cons_self)
      · exact ih leadsLater fun other member => agrees other (List.mem_cons_of_mem _ member)

/-- A memory with the field that a stage reads taken from another. -/
def Stage.overlay (stage : Stage) (source memory : Memory) : Memory :=
  match stage with
  | .authors => { memory with authors := source.authors }
  | .chapters => { memory with depth := source.depth }
  | .text => { memory with codeDepth := source.codeDepth }
  | _ => memory

theorem agrees_overlay (stage : Stage) (source memory : Memory) :
    stage.Agrees source (stage.overlay source memory) := by
  cases stage with
  | authors | chapters | text => exact rfl
  | _ => exact trivial

theorem agrees_overlay_of_ne {stage other : Stage} (differ : other ≠ stage)
    (source memory : Memory) : other.Agrees memory (stage.overlay source memory) := by
  cases stage with
  | authors | chapters | text =>
      cases other with
      | authors | chapters | text => first | exact rfl | exact absurd rfl differ
      | _ => exact trivial
  | _ => exact agrees_refl other memory

/-- Every piece leads to some memory if no stage runs twice. -/
theorem exists_leads {stages : List Stage} (distinct : stages.Nodup) (memory : Memory)
    (events : List Event) : ∃ next, Leads stages memory events next := by
  induction stages generalizing events with
  | nil => exact ⟨memory, trivial⟩
  | cons stage later ih =>
      rcases List.nodup_cons.mp distinct with ⟨notLater, distinctLater⟩
      obtain ⟨next, leads⟩ := ih distinctLater (stage.run memory events)
      have others : ∀ other ∈ later,
          other.Agrees next (stage.overlay (stage.after memory events) next) := by
        intro other member
        apply agrees_overlay_of_ne
        rintro rfl
        exact notLater member
      exact ⟨stage.overlay (stage.after memory events) next, agrees_overlay stage _ next,
        leads.of_agrees others⟩

/-! ### Pieces that concern no stage, or just one -/

/-- A piece that is no concern of any stage is kept and leaves no trace. -/
theorem convertFrom_of_quiet {stages : List Stage} {events : List Event} (memory : Memory)
    (quiet : ∀ stage ∈ stages, stage.Quiet events) :
    convertFrom memory stages events = events ∧ Leads stages memory events memory := by
  induction stages with
  | nil => exact ⟨rfl, trivial⟩
  | cons stage later ih =>
      obtain ⟨passes, unchanged⟩ := run_of_quiet memory (quiet stage List.mem_cons_self)
      obtain ⟨passesLater, leads⟩ :=
        ih fun other member => quiet other (List.mem_cons_of_mem _ member)
      rw [convertFrom_cons, Leads, passes, unchanged]
      exact ⟨passesLater, agrees_refl stage memory, leads⟩

/-- An event that concerns one of the stages, and whose replacement concerns none of the others, is
    replaced by that stage alone. -/
theorem convertFrom_private {stages : List Stage} (distinct : stages.Nodup) {stage : Stage}
    (present : stage ∈ stages) {memory : Memory} {event : Event}
    (before : ∀ other, other ≠ stage → other.Quiet [event])
    (behind : ∀ other, other ≠ stage → other.Quiet (stage.replace memory event).1) :
    convertFrom memory stages [event] = (stage.replace memory event).1 ∧
      Leads stages memory [event] (stage.replace memory event).2 := by
  induction stages with
  | nil => cases present
  | cons first later ih =>
      rcases List.nodup_cons.mp distinct with ⟨notLater, distinctLater⟩
      by_cases same : first = stage
      -- From its own stage on, the event is gone and only its replacement is seen.
      · subst same
        have differ : ∀ other ∈ later, other ≠ first := by
          intro other member same
          exact notLater (same ▸ member)
        obtain ⟨passes, leads⟩ := convertFrom_of_quiet memory
          fun other member => behind other (differ other member)
        rw [convertFrom_cons, Leads, run_singleton, after_singleton]
        refine ⟨passes, agrees_refl first _, leads.of_agrees fun other member => ?_⟩
        exact agrees_replace_of_ne (differ other member) memory event
      · obtain ⟨passes, unchanged⟩ := run_of_quiet memory (before first same)
        have inLater : stage ∈ later := (List.mem_cons.mp present).resolve_left (Ne.symm same)
        obtain ⟨replaced, leads⟩ := ih distinctLater inLater
        rw [convertFrom_cons, Leads, passes, unchanged]
        exact ⟨replaced, agrees_replace_of_ne same memory event, leads⟩

end Bindery.Convert
