/-
Module: Bindery.Proofs.PullDemand
Layer: Proofs
Purpose: How much of its source a lazy chain uses, and when. After any number of pulls, what has been taken
  from the source is the shortest beginning of which the stages, run eagerly, make as many events as have
  been pulled. So the chain never runs ahead of what is asked of it, and once it is exhausted the whole
  source has been taken and no event is left waiting in a member.
Imports: Bindery.Proofs.LazyChain
Main exports: Chain.pulled, Demand, exists_demand, pulled_of_exhausted, IsShortest, pulled_eq_eager
-/
import Bindery.Proofs.LazyChain

namespace Bindery.Convert

/-- A chain after so many pulls, with the event of the last of them. Before the first pull there is no
    event, and the whole source is left. -/
def Chain.pulled (chain : Chain) (source : List Event) : Nat → Pulled
  | 0 => ⟨none, chain, source⟩
  | count + 1 => (chain.pulled source count).chain.pull (chain.pulled source count).source

/-- Where a chain stands after `count` pulls that gave an event each: the first `taken` events of the source
    have been taken, they make the events that came out and those that the chain now owes, and fewer of them
    make fewer than `count` events. -/
structure Demand (chain : Chain) (source : List Event) (count taken : Nat) : Prop where
  bounded : taken ≤ source.length
  left : (chain.pulled source count).source = source.drop taken
  made : ∀ more, chain.owed (source.take taken ++ more) =
    (chain.owed source).take count ++ (chain.pulled source count).chain.owed more
  needed : ∀ fewer < taken, (chain.owed (source.take fewer)).length < count

theorem demand_zero (chain : Chain) (source : List Event) : Demand chain source 0 0 where
  bounded := Nat.zero_le _
  left := rfl
  made _ := rfl
  needed _ fewer := absurd fewer (Nat.not_lt_zero _)

/-- What a chain still owes is what it owed at first without the events that came out. -/
theorem Demand.owed_left {chain : Chain} {source : List Event} {count taken : Nat}
    (demand : Demand chain source count taken) :
    (chain.pulled source count).chain.owed (chain.pulled source count).source =
      (chain.owed source).drop count := by
  have made := demand.made (source.drop taken)
  rw [List.take_append_drop, ← demand.left] at made
  have parts := made.symm.trans (List.take_append_drop count (chain.owed source)).symm
  exact List.append_cancel_left parts

/-- The event of the next pull. -/
theorem Demand.event_succ {chain : Chain} {source : List Event} {count taken : Nat}
    (demand : Demand chain source count taken) :
    (chain.pulled source (count + 1)).event = (chain.owed source)[count]? := by
  have first (pulled : Pulled) : pulled.event = pulled.owed.head? := by
    cases event : pulled.event <;> simp [Pulled.owed, event]
  rw [first, Chain.pulled, ← owed_pull, demand.owed_left, List.head?_drop]

/-- One more pull takes no more than it needs, as long as an event is owed. -/
theorem Demand.succ {chain : Chain} {source : List Event} {count taken : Nat}
    (demand : Demand chain source count taken) (owes : count < (chain.owed source).length) :
    ∃ taken', Demand chain source (count + 1) taken' := by
  have event := demand.event_succ
  rw [List.getElem?_eq_getElem owes, Chain.pulled] at event
  obtain ⟨more, found, owed, needed, _⟩ :=
    exists_taken (chain.pulled source count).chain (chain.pulled source count).source
  have split := demand.left.symm.trans found
  rw [event, Option.toList_some] at owed
  have fits : taken + more.length ≤ source.length := by
    have sameLength := congrArg List.length split
    have bounded := demand.bounded
    rw [List.length_drop, List.length_append] at sameLength
    omega
  have taking (n : Nat) (few : n ≤ more.length) :
      source.take (taken + n) = source.take taken ++ more.take n := by
    rw [List.take_add, split, List.take_append_of_le_length few]
  refine ⟨taken + more.length, fits, ?_, fun later => ?_, fun fewer few => ?_⟩
  · rw [Chain.pulled, ← List.drop_drop, split, List.drop_left]
  · rw [taking _ (Nat.le_refl _), List.take_length, List.append_assoc, demand.made, owed, List.take_add_one,
      List.getElem?_eq_getElem owes, List.append_assoc]
    rfl
  · by_cases earlier : fewer < taken
    · exact Nat.lt_succ_of_lt (demand.needed fewer earlier)
    -- Of what this pull takes, any beginning but the whole makes nothing more.
    · obtain ⟨n, rfl⟩ := Nat.exists_eq_add_of_le (Nat.le_of_not_lt earlier)
      have fewMore : n < more.length := by omega
      rw [taking n (Nat.le_of_lt fewMore), demand.made, needed n fewMore, List.append_nil,
        List.length_take]
      omega

/-- Every number of pulls that gave an event each has a demand. -/
theorem exists_demand (chain : Chain) (source : List Event) {count : Nat}
    (enough : count ≤ (chain.owed source).length) : ∃ taken, Demand chain source count taken := by
  induction count with
  | zero => exact ⟨0, demand_zero chain source⟩
  | succ count ih =>
      obtain ⟨taken, demand⟩ := ih (Nat.le_of_succ_le enough)
      exact demand.succ enough

/-! ### Exhaustion -/

/-- A chain that has taken its whole source and in which nothing waits stays as it is. -/
theorem idle_pull {chain : Chain} (idle : ∀ member ∈ chain, member.waiting = []) :
    (chain.pull []).event = none ∧ (chain.pull []).source = [] ∧
      ∀ member ∈ (chain.pull []).chain, member.waiting = [] := by
  have owed := owed_pull chain []
  rw [owed_nil_of_idle idle] at owed
  have noEvent : (chain.pull []).event = none := by
    cases event : (chain.pull []).event with
    | none => rfl
    | some event => simp [Pulled.owed, event] at owed
  obtain ⟨_, _, _, _, exhausted⟩ := exists_taken chain []
  exact ⟨noEvent, exhausted noEvent⟩

/-- After more pulls than there are events, the source has been taken and nothing waits. -/
theorem pulled_of_exhausted {chain : Chain} {source : List Event} {count : Nat}
    (more : (chain.owed source).length < count) :
    (chain.pulled source count).event = none ∧ (chain.pulled source count).source = [] ∧
      ∀ member ∈ (chain.pulled source count).chain, member.waiting = [] := by
  induction more with
  | refl =>
      obtain ⟨taken, demand⟩ := exists_demand chain source (Nat.le_refl _)
      have noEvent := demand.event_succ
      rw [List.getElem?_eq_none (Nat.le_refl _)] at noEvent
      obtain ⟨_, _, _, _, exhausted⟩ := exists_taken
        (chain.pulled source (chain.owed source).length).chain
        (chain.pulled source (chain.owed source).length).source
      exact ⟨noEvent, exhausted noEvent⟩
  | step _ ih =>
      rcases ih with ⟨_, usedUp, idle⟩
      rw [Chain.pulled, usedUp]
      exact idle_pull idle

/-! ### Chains of stages -/

/-- The shortest beginning of a stream of which stages make so many events. -/
def IsShortest (stages : List Stage) (source : List Event) (count taken : Nat) : Prop :=
  count ≤ (convertEagerly stages (source.take taken)).length ∧
    ∀ fewer < taken, (convertEagerly stages (source.take fewer)).length < count

/-- Pulling a chain of stages, which may be of any kind and come in any order and number, gives one after
    the other the events that the stages make when each is run over the whole stream. After `count` pulls
    the shortest beginning of the source has been taken that makes `count` events, in particular nothing
    before the first pull, and after the last event the whole source has been taken and nothing waits. -/
theorem pulled_eq_eager (stages : List (Option Stage)) (source : List Event) (count : Nat) :
    ((Chain.ofStages stages).pulled source (count + 1)).event =
        (convertEagerly (stages.filterMap id) source)[count]? ∧
      (count ≤ (convertEagerly (stages.filterMap id) source).length →
        ∃ taken ≤ source.length,
          ((Chain.ofStages stages).pulled source count).source = source.drop taken ∧
            IsShortest (stages.filterMap id) source count taken) ∧
      ((convertEagerly (stages.filterMap id) source).length < count →
        ((Chain.ofStages stages).pulled source count).source = [] ∧
          ∀ member ∈ ((Chain.ofStages stages).pulled source count).chain, member.waiting = []) := by
  simp only [IsShortest, ← owed_ofStages]
  generalize Chain.ofStages stages = chain
  refine ⟨?_, fun enough => ?_, fun more => (pulled_of_exhausted more).2⟩
  · rcases Nat.lt_or_ge (chain.owed source).length count with more | enough
    · rw [List.getElem?_eq_none (Nat.le_of_lt more)]
      exact (pulled_of_exhausted (Nat.lt_succ_of_lt more)).1
    · obtain ⟨taken, demand⟩ := exists_demand chain source enough
      exact demand.event_succ
  · obtain ⟨taken, demand⟩ := exists_demand chain source enough
    have made := demand.made []
    refine ⟨taken, demand.bounded, demand.left, ?_, demand.needed⟩
    rw [List.append_nil] at made
    rw [made, List.length_append, List.length_take]
    omega

end Bindery.Convert
