/-
Module: Bindery.Convert.Chain
Layer: Convert
Purpose: Chained stages, eagerly and lazily. Eagerly, each stage is run over the whole output of the
  stage before it. Lazily, a chain is pulled one event at a time: every member first gives what it
  has waiting, and only then takes one event from the member before it, the first of them from the
  source. A pull takes no more from the source than it needs.
Imports: Bindery.Convert.Stage
Main exports: convertEagerly, Member, Chain, Pulled, Chain.pull, Chain.drain, Chain.memoryOf?
-/
import Bindery.Convert.Stage

namespace Bindery.Convert

/-- Runs stages one after the other over a whole stream. -/
def convertEagerly (stages : List Stage) (events : List Event) : List Event :=
  stages.foldl (fun stream stage => stage.run .initial stream) events

/-- A member of a chain: its stage, what the stage remembers, and the events it has waiting. A
    member without a stage changes nothing. -/
structure Member where
  stage : Option Stage
  memory : Memory
  waiting : List Event
deriving DecidableEq, Repr

namespace Member

/-- A member that has seen nothing. -/
def fresh (stage : Option Stage) : Member := ⟨stage, .initial, []⟩

/-- What a member makes of one event. -/
def replace (member : Member) (event : Event) : List Event × Memory :=
  match member.stage with
  | none => ([event], member.memory)
  | some stage => stage.replace member.memory event

end Member

/-- Members in a row, in the order in which they are pulled. The last one takes from the source. -/
abbrev Chain := List Member

/-- A chain of stages given in the order in which events pass them. -/
def Chain.ofStages (stages : List (Option Stage)) : Chain := (stages.map Member.fresh).reverse

/-- A stage makes at most three events of one. -/
theorem Stage.length_replace_le (stage : Stage) (memory : Memory) (event : Event) :
    (stage.replace memory event).1.length ≤ 3 := by
  cases stage
  case authors =>
    simp only [Stage.replace, replaceAuthors]
    split <;> simp
    split <;> simp
  case chapters => simp only [Stage.replace, replaceChapters]; split <;> simp
  case text =>
    simp only [Stage.replace, replaceText]
    split
    · simp
    · split
      · simp
      · split
        · simp
          split <;> simp
        · simp
  case links =>
    simp only [Stage.replace, replaceLinks]
    split
    · cases linkTarget _ _ <;> simp
    · cases linkTarget _ _ <;> simp
    · simp
  all_goals simp only [Stage.replace]
  all_goals first | (split <;> simp) | simp

/-- A member makes at most three events of one. -/
theorem Member.length_replace_le (member : Member) (event : Event) :
    (member.replace event).1.length ≤ 3 := by
  unfold Member.replace
  split
  · simp
  · exact Stage.length_replace_le _ _ _

/-- A bound on the events that a chain can still give. -/
def Chain.budget : Chain → List Event → Nat
  | [], source => source.length
  | member :: behind, source => member.waiting.length + 3 * Chain.budget behind source

/-- The outcome of a pull: the event, unless the chain is exhausted, the chain afterwards, and what
    is left of the source. -/
structure Pulled where
  event : Option Event
  chain : Chain
  source : List Event

/-- Pulls one event out of a chain. The members of the chain stay, and each event that comes out
    lowers the budget. -/
def Chain.pullBounded : (chain : Chain) → (source : List Event) →
    { result : Pulled // result.chain.length = chain.length ∧
      (result.event.isSome → result.chain.budget result.source < chain.budget source) }
  | [], [] => ⟨⟨none, [], []⟩, by simp⟩
  | [], event :: source => ⟨⟨some event, [], source⟩, by simp [Chain.budget]⟩
  | ⟨stage, memory, event :: waiting⟩ :: behind, source =>
    ⟨⟨some event, ⟨stage, memory, waiting⟩ :: behind, source⟩, by simp [Chain.budget]⟩
  | ⟨stage, memory, []⟩ :: behind, source =>
    match Chain.pullBounded behind source with
    | ⟨⟨none, behind', source'⟩, kept⟩ =>
      ⟨⟨none, ⟨stage, memory, []⟩ :: behind', source'⟩, by simpa using kept.1⟩
    | ⟨⟨some event, behind', source'⟩, kept⟩ =>
      have same : behind'.length = behind.length := kept.1
      have lower : Chain.budget behind' source' < Chain.budget behind source := kept.2 rfl
      match replaced : (Member.mk stage memory []).replace event with
      | (first :: more, memory') =>
        ⟨⟨some first, ⟨stage, memory', more⟩ :: behind', source'⟩, by
          have bound := Member.length_replace_le (Member.mk stage memory []) event
          rw [replaced] at bound
          simp only [List.length_cons] at bound
          refine ⟨by simpa using same, fun _ => ?_⟩
          simp only [Chain.budget, List.length_nil]
          omega⟩
      | ([], memory') =>
        match Chain.pullBounded (⟨stage, memory', []⟩ :: behind') source' with
        | ⟨result, again⟩ => ⟨result, by
            refine ⟨by simpa [same] using again.1, fun isSome => ?_⟩
            have further := again.2 isSome
            simp only [Chain.budget, List.length_nil] at further ⊢
            omega⟩
termination_by chain source => (chain.length, chain.budget source)
decreasing_by
  · exact Prod.Lex.left _ _ (by simp)
  · simp only [List.length_cons, same, Chain.budget, List.length_nil]
    exact Prod.Lex.right _ (by omega)

def Chain.pull (chain : Chain) (source : List Event) : Pulled :=
  (chain.pullBounded source).val

/-- A pull that gives an event lowers the budget. -/
theorem Chain.budget_pull_lt {chain : Chain} {source : List Event}
    (isSome : (chain.pull source).event.isSome) :
    (chain.pull source).chain.budget (chain.pull source).source < chain.budget source :=
  (chain.pullBounded source).property.2 isSome

/-- All pulls until the chain is exhausted; the last one gives no event. -/
def Chain.drain (chain : Chain) (source : List Event) : List Pulled :=
  if (chain.pull source).event.isSome then
    chain.pull source :: Chain.drain (chain.pull source).chain (chain.pull source).source
  else [chain.pull source]
termination_by chain.budget source
decreasing_by exact Chain.budget_pull_lt (by assumption)

/-- What the member of a chain with a stage remembers, the last such member if there are more. -/
def Chain.memoryOf? (chain : Chain) (stage : Stage) : Option Memory :=
  (chain.find? (·.stage = some stage)).map Member.memory

end Bindery.Convert
