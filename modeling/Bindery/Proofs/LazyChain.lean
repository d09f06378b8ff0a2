/-
Module: Bindery.Proofs.LazyChain
Layer: Proofs
Purpose: What a lazy chain gives. A chain owes the events that wait in its members together with what
  the members will make of the rest of the source. A pull takes events from the source only while nothing
  is owed, gives the first event owed and leaves the others owed, so that draining a chain gives what
  running its stages eagerly gives.
Imports: Bindery.Proofs.StageRun
Main exports: Member.run, Chain.owed, Pulled.After, exists_taken, outputs_eq_owed, owed_ofStages,
  outputs_ofStages
-/
import Bindery.Proofs.StageRun

namespace Bindery.Convert

/-- What a member makes of a stream. A member without a stage changes nothing. -/
def Member.run (member : Member) (events : List Event) : List Event :=
  match member.stage with
  | none => events
  | some stage => stage.run member.memory events

/-- The events that a chain has still to give. -/
def Chain.owed : Chain → List Event → List Event
  | [], source => source
  | member :: behind, source => member.waiting ++ member.run (Chain.owed behind source)

/-- The events that a chain gives until it is exhausted. -/
def Chain.outputs (chain : Chain) (source : List Event) : List Event :=
  (chain.drain source).filterMap Pulled.event

theorem Member.run_cons (stage : Option Stage) (memory : Memory) (event : Event)
    (rest : List Event) :
    (Member.mk stage memory []).run (event :: rest) =
      ((Member.mk stage memory []).replace event).1 ++
        (Member.mk stage ((Member.mk stage memory []).replace event).2 []).run rest := by
  cases stage <;> rfl

theorem Member.run_nil (member : Member) : member.run [] = [] := by
  cases stage : member.stage <;> simp [Member.run, stage]

/-- What a pull leaves owed: the event that came out and what is owed afterwards, or nothing. -/
def Pulled.owed (pulled : Pulled) : List Event :=
  match pulled.event with
  | none => []
  | some event => event :: pulled.chain.owed pulled.source

/-- What a pull does: it takes events from the source only as long as the chain owes nothing, gives the
    first event that the chain owes then, and leaves the others owed. If no event comes out, the source is
    used up and nothing waits any more. -/
structure Pulled.After (pulled : Pulled) (chain : Chain) (source taken : List Event) : Prop where
  split : source = taken ++ pulled.source
  owed : ∀ more, chain.owed (taken ++ more) = pulled.event.toList ++ pulled.chain.owed more
  needed : ∀ n < taken.length, chain.owed (taken.take n) = []
  exhausted : pulled.event = none →
    pulled.source = [] ∧ ∀ member ∈ pulled.chain, member.waiting = []

/-- A chain in which nothing waits owes nothing once the source is used up. -/
theorem owed_nil_of_idle {chain : Chain} (idle : ∀ member ∈ chain, member.waiting = []) :
    chain.owed [] = [] := by
  induction chain with
  | nil => rfl
  | cons member behind ih =>
      rw [Chain.owed, ih fun other inBehind => idle other (List.mem_cons_of_mem _ inBehind),
        Member.run_nil, idle member List.mem_cons_self]
      rfl

theorem exists_taken (chain : Chain) (source : List Event) :
    ∃ taken, (chain.pull source).After chain source taken := by
  unfold Chain.pull
  fun_induction Chain.pullBounded chain source with
  | case1 => exact ⟨[], rfl, fun _ => rfl, by simp, by simp⟩
  | case2 event source =>
      refine ⟨[event], rfl, fun _ => rfl, fun n few => ?_, by simp⟩
      obtain rfl : n = 0 := by simpa using few
      rfl
  | case3 stage memory event waiting behind source => exact ⟨[], rfl, fun _ => rfl, by simp, by simp⟩
  | case4 stage memory behind source behind' source' kept exhausted ih =>
      rw [exhausted] at ih
      obtain ⟨taken, split, owed, needed, idle⟩ := ih
      obtain ⟨usedUp, idleBehind⟩ := idle rfl
      refine ⟨taken, split, fun more => ?_, fun n few => ?_, fun _ => ⟨usedUp, ?_⟩⟩
      · rw [Chain.owed, owed]
        rfl
      · rw [Chain.owed, needed n few]
        exact Member.run_nil _
      · simpa using idleBehind
  | case5 stage memory behind source event behind' source' kept pulled _ _ first more memory'
      replaced ih =>
      rw [pulled] at ih
      obtain ⟨taken, split, owed, needed, _⟩ := ih
      refine ⟨taken, split, fun later => ?_, fun n few => ?_, by simp⟩
      · rw [Chain.owed, owed]
        simp only [Option.toList_some, List.singleton_append, List.nil_append, Member.run_cons,
          replaced, Chain.owed]
        rfl
      · rw [Chain.owed, needed n few]
        exact Member.run_nil _
  | case6 stage memory behind source event behind' source' kept pulled _ _ memory' replaced result
      again next ih ih' =>
      rw [pulled] at ih
      rw [next] at ih'
      obtain ⟨taken, split, owed, needed, _⟩ := ih
      obtain ⟨taken', split', owed', needed', idle⟩ := ih'
      -- The event that came out of the chain behind has left nothing.
      have dropped (later : List Event) : Chain.owed (⟨stage, memory, []⟩ :: behind) (taken ++ later) =
          Chain.owed (⟨stage, memory', []⟩ :: behind') later := by
        rw [Chain.owed, owed]
        simp only [Option.toList_some, List.singleton_append, List.nil_append, Member.run_cons,
          replaced, Chain.owed]
      refine ⟨taken ++ taken', ?_, fun later => ?_, fun n few => ?_, idle⟩
      · calc source = taken ++ source' := split
          _ = taken ++ (taken' ++ result.source) := congrArg (taken ++ ·) split'
          _ = taken ++ taken' ++ result.source := (List.append_assoc _ _ _).symm
      · rw [List.append_assoc, dropped, owed']
      · by_cases inFirst : n < taken.length
        · rw [List.take_append_of_le_length (Nat.le_of_lt inFirst), Chain.owed, needed n inFirst]
          exact Member.run_nil _
        · have inSecond : n - taken.length < taken'.length := by
            rw [List.length_append] at few
            omega
          rw [List.take_append, List.take_of_length_le (Nat.le_of_not_lt inFirst), dropped,
            needed' _ inSecond]

/-- A pull takes nothing away from what is owed and adds nothing to it. -/
theorem owed_pull (chain : Chain) (source : List Event) :
    chain.owed source = (chain.pull source).owed := by
  obtain ⟨taken, split, owed, _, idle⟩ := exists_taken chain source
  have whole : chain.owed source = chain.owed (taken ++ (chain.pull source).source) :=
    congrArg chain.owed split
  rw [whole, owed, Pulled.owed]
  cases event : (chain.pull source).event with
  | none =>
      obtain ⟨usedUp, idleChain⟩ := idle event
      rw [usedUp, owed_nil_of_idle idleChain]
      rfl
  | some event => rfl

/-- Draining a chain gives what it owes. -/
theorem outputs_eq_owed (chain : Chain) (source : List Event) :
    chain.outputs source = chain.owed source := by
  unfold Chain.outputs
  fun_induction Chain.drain chain source with
  | case1 chain source isSome ih =>
      rw [owed_pull chain source, Pulled.owed, List.filterMap_cons, ih]
      cases event : (chain.pull source).event with
      | none => simp [event] at isSome
      | some event => rfl
  | case2 chain source isNone =>
      rw [owed_pull chain source, Pulled.owed, List.filterMap_cons]
      cases event : (chain.pull source).event with
      | none => rfl
      | some event => simp [event] at isNone

theorem owed_append_fresh (chain : Chain) (stage : Option Stage) (source : List Event) :
    Chain.owed (chain ++ [Member.fresh stage]) source =
      chain.owed ((Member.fresh stage).run source) := by
  induction chain with
  | nil => rfl
  | cons member behind ih => rw [List.cons_append, Chain.owed, ih, Chain.owed]

/-- A chain of stages that have seen nothing owes what running them one after the other over the whole
    stream gives. Members without a stage do not count. -/
theorem owed_ofStages (stages : List (Option Stage)) (source : List Event) :
    (Chain.ofStages stages).owed source = convertEagerly (stages.filterMap id) source := by
  induction stages generalizing source with
  | nil => rfl
  | cons stage rest ih =>
      have unfoldChain : Chain.ofStages (stage :: rest) =
          Chain.ofStages rest ++ [Member.fresh stage] := by
        simp [Chain.ofStages]
      rw [unfoldChain, owed_append_fresh, ih]
      cases stage <;> rfl

/-- A chain of stages, pulled to its end, gives what running the stages one after the other over the
    whole stream gives. -/
theorem outputs_ofStages (stages : List Stage) (source : List Event) :
    (Chain.ofStages (stages.map some)).outputs source = convertEagerly stages source := by
  rw [outputs_eq_owed, owed_ofStages, List.filterMap_map]
  exact congrArg (convertEagerly · source) List.filterMap_some

end Bindery.Convert
