/-
Module: Bindery.Proofs.StageNames
Layer: Proofs
Purpose: Stages by name. A request to disable stages is answered by settings without the stages that are
  named, or it is refused with the names that no stage has, each once and in order. What matters of a request
  is only which names are in it, and after any number of requests the stages that run are those from before
  that none of the granted requests names.
Imports: Bindery.Convert.Pipeline, Mathlib.Data.List.Nodup, Mathlib.Data.String.Basic
Main exports: Stage.ofName?_eq_some_iff, isEnabled_of_disable, disable_map_name, stageNames,
  mem_unknownNames, pairwise_lt_mergeSort, Stage.named, Answers, answers_disable, disable_congr,
  Settings.granted, foldl_granted, selectedStages_eq_filter
-/
import Bindery.Convert.Pipeline
import Mathlib.Data.List.Nodup
import Mathlib.Data.String.Basic

namespace Bindery.Convert

/-! ### Names -/

theorem Stage.mem_all (stage : Stage) : stage ∈ Stage.all := by
  cases stage <;> decide

theorem Stage.name_injective {first second : Stage} (same : first.name = second.name) :
    first = second := by
  have distinct : (Stage.all.map Stage.name).Nodup := by decide
  exact List.inj_on_of_nodup_map distinct first.mem_all second.mem_all same

theorem Stage.ofName?_eq_some_iff {name : String} {stage : Stage} :
    Stage.ofName? name = some stage ↔ stage.name = name := by
  unfold Stage.ofName?
  constructor
  · intro found
    simpa using List.find?_some found
  · rintro rfl
    obtain ⟨other, found⟩ : ∃ other, Stage.all.find? (·.name = stage.name) = some other :=
      Option.isSome_iff_exists.mp (List.find?_isSome.mpr ⟨stage, stage.mem_all, by simp⟩)
    have same : other.name = stage.name := by simpa using List.find?_some found
    rw [found, Stage.name_injective same]

theorem ofName?_name (stage : Stage) : Stage.ofName? stage.name = some stage :=
  Stage.ofName?_eq_some_iff.mpr rfl

def stageNames : List String := Stage.all.map Stage.name

theorem mem_stageNames {name : String} : name ∈ stageNames ↔ ∃ stage : Stage, stage.name = name := by
  simp [stageNames, Stage.mem_all]

theorem isNone_ofName?_iff {name : String} : (Stage.ofName? name).isNone = true ↔ name ∉ stageNames := by
  rw [Option.isNone_iff_eq_none, Option.eq_none_iff_forall_ne_some, mem_stageNames, not_exists]
  simp only [ne_eq, Stage.ofName?_eq_some_iff]

/-! ### Names without repeats, in order -/

theorem nodup_eraseDups (names : List String) : names.eraseDups.Nodup := by
  induction length : names.length using Nat.strong_induction_on generalizing names with
  | _ bound ih =>
      cases names with
      | nil => exact List.nodup_nil
      | cons name rest =>
          rw [List.eraseDups_cons, List.nodup_cons, List.mem_eraseDups]
          have shorter : (rest.filter fun other => !other == name).length < bound := by
            rw [← length, List.length_cons]
            exact Nat.lt_succ_of_le (List.length_filter_le _ rest)
          exact ⟨by simp, ih _ shorter _ rfl⟩

/-- Names that are distinct are in strict order once they are sorted. -/
theorem pairwise_lt_mergeSort {names : List String} (distinct : names.Nodup) :
    (names.mergeSort fun a b => a ≤ b).Pairwise (· < ·) := by
  have distinctSorted := (List.mergeSort_perm names fun a b => a ≤ b).nodup_iff.mpr distinct
  have ordered : (names.mergeSort fun a b => a ≤ b).Pairwise fun a b => decide (a ≤ b) = true := by
    apply List.pairwise_mergeSort
    · intro a b c first second
      simp only [decide_eq_true_eq] at first second ⊢
      exact le_trans first second
    · intro a b
      simp only [Bool.or_eq_true, decide_eq_true_eq]
      exact le_total a b
  exact (ordered.and distinctSorted).imp fun ⟨le, ne⟩ => lt_of_le_of_ne (of_decide_eq_true le) ne

theorem mem_unknownNames {names : List String} {name : String} :
    name ∈ Settings.unknownNames names ↔ name ∈ names ∧ name ∉ stageNames := by
  rw [Settings.unknownNames, List.mem_mergeSort, List.mem_eraseDups, List.mem_filter, isNone_ofName?_iff]

theorem sorted_unknownNames (names : List String) : (Settings.unknownNames names).Pairwise (· < ·) :=
  pairwise_lt_mergeSort (nodup_eraseDups _)

/-- Requests with the same names have the same unknown ones. -/
theorem unknownNames_congr {names names' : List String} (same : ∀ name, name ∈ names ↔ name ∈ names') :
    Settings.unknownNames names = Settings.unknownNames names' := by
  have distinct (names : List String) : (Settings.unknownNames names).Nodup :=
    (sorted_unknownNames names).imp ne_of_lt
  have perm : (Settings.unknownNames names).Perm (Settings.unknownNames names') := by
    rw [List.perm_ext_iff_of_nodup (distinct names) (distinct names')]
    simp only [mem_unknownNames, same, implies_true]
  apply perm.eq_of_pairwise _ (sorted_unknownNames names) (sorted_unknownNames names')
  intro first second _ _ before after
  exact absurd after (lt_asymm before)

/-! ### Settings without named stages -/

theorem Settings.eq_of_isEnabled {first second : Settings}
    (same : ∀ stage, first.isEnabled stage = second.isEnabled stage) : first = second :=
  congrArg Settings.mk (funext same)

def Stage.named (names : List String) : List Stage := Stage.all.filter (·.name ∈ names)

theorem isEnabled_without_named (settings : Settings) (names : List String) (stage : Stage) :
    (settings.without (Stage.named names)).isEnabled stage =
      (settings.isEnabled stage && decide (stage.name ∉ names)) := by
  simp [Settings.without, Stage.named, Stage.mem_all]

theorem enabledStages_without_named (settings : Settings) (names : List String) :
    (settings.without (Stage.named names)).enabledStages =
      settings.enabledStages.filter fun stage => stage.name ∉ names := by
  rw [Settings.enabledStages, Settings.enabledStages, List.filter_filter]
  apply List.filter_congr
  intro stage _
  rw [isEnabled_without_named, Bool.and_comm]

theorem without_named_append (settings : Settings) (names more : List String) :
    (settings.without (Stage.named names)).without (Stage.named more) =
      settings.without (Stage.named (names ++ more)) := by
  apply Settings.eq_of_isEnabled
  intro stage
  simp only [isEnabled_without_named, List.mem_append, not_or, Bool.decide_and, Bool.and_assoc]

/-! ### One request -/

/-- What answers a request to disable stages by name: if all names are known, settings in which just the
    stages from before run that are not named; otherwise a text that lists the unknown names, each once and
    in order. -/
inductive Answers (settings : Settings) (names : List String) : Except UnknownStages Settings → Prop where
  | disabled {next : Settings} (known : ∀ name ∈ names, name ∈ stageNames)
      (others : next.enabledStages = settings.enabledStages.filter fun stage => stage.name ∉ names) :
      Answers settings names (.ok next)
  | refused {fault : UnknownStages} (foreign : ∃ name ∈ names, name ∉ stageNames)
      (unknown : ∀ name, name ∈ fault.names ↔ name ∈ names ∧ name ∉ stageNames)
      (sorted : fault.names.Pairwise (· < ·))
      (told : fault.text = "Unknown conversion stage(s): " ++ ", ".intercalate fault.names) :
      Answers settings names (.error fault)

/-- Stages that are disabled by name are those that are named. -/
theorem isEnabled_of_disable {settings next : Settings} {names : List String}
    (ok : settings.disable names = .ok next) (stage : Stage) :
    next.isEnabled stage = (settings.isEnabled stage && !decide (stage.name ∈ names)) := by
  unfold Settings.disable at ok
  split at ok
  · rw [← Except.ok.inj ok]
    simp [Settings.without, Stage.ofName?_eq_some_iff]
  · cases ok

theorem eq_without_named_of_disable {settings next : Settings} {names : List String}
    (ok : settings.disable names = .ok next) : next = settings.without (Stage.named names) := by
  apply Settings.eq_of_isEnabled
  intro stage
  rw [isEnabled_of_disable ok, isEnabled_without_named, decide_not]

theorem answers_disable (settings : Settings) (names : List String) :
    Answers settings names (settings.disable names) := by
  cases answer : settings.disable names with
  | ok next =>
      refine .disabled ?_ (eq_without_named_of_disable answer ▸ enabledStages_without_named settings names)
      intro name member
      by_contra foreign
      have unknown := mem_unknownNames.mpr ⟨member, foreign⟩
      unfold Settings.disable at answer
      split at answer
      · next none =>
          rw [none] at unknown
          cases unknown
      · cases answer
  | error fault =>
      unfold Settings.disable at answer
      split at answer
      · cases answer
      · next some =>
          cases answer
          refine .refused ?_ (fun name => mem_unknownNames) (sorted_unknownNames names) rfl
          obtain ⟨name, rest, filled⟩ := List.exists_cons_of_ne_nil some
          have member : name ∈ Settings.unknownNames names := by rw [filled]; exact List.mem_cons_self
          exact ⟨name, mem_unknownNames.mp member⟩

/-- What matters of a request is which names are in it. -/
theorem disable_congr (settings : Settings) {names names' : List String}
    (same : ∀ name, name ∈ names ↔ name ∈ names') : settings.disable names = settings.disable names' := by
  have sameStages : settings.without (names.filterMap Stage.ofName?) =
      settings.without (names'.filterMap Stage.ofName?) := by
    simp [Settings.without, same]
  rw [Settings.disable, Settings.disable, unknownNames_congr same, sameStages]

/-- Stages can be disabled by their names. -/
theorem disable_map_name (settings : Settings) (stages : List Stage) :
    settings.disable (stages.map Stage.name) = .ok (settings.without stages) := by
  have known : Settings.unknownNames (stages.map Stage.name) = [] := by
    rw [List.eq_nil_iff_forall_not_mem]
    intro name member
    obtain ⟨named, foreign⟩ := mem_unknownNames.mp member
    obtain ⟨stage, _, rfl⟩ := List.mem_map.mp named
    exact foreign (mem_stageNames.mpr ⟨stage, rfl⟩)
  have named : (stages.map Stage.name).filterMap Stage.ofName? = stages := by
    rw [List.filterMap_map]
    have same : Stage.ofName? ∘ Stage.name = some := funext ofName?_name
    rw [same, List.filterMap_some]
  rw [Settings.disable, known, named]

/-! ### Requests in a row -/

/-- The settings after a request: as before if it is refused. -/
def Settings.granted (settings : Settings) (names : List String) : Settings :=
  match settings.disable names with
  | .ok next => next
  | .error _ => settings

def allKnown (names : List String) : Bool := names.all (· ∈ stageNames)

theorem granted_eq_without_named (settings : Settings) (names : List String) :
    settings.granted names = settings.without (Stage.named ([names].filter allKnown).flatten) := by
  unfold Settings.granted
  have answers := answers_disable settings names
  split
  · next next answer =>
      rw [answer] at answers
      cases answers with
      | disabled known _ =>
          have granted : allKnown names = true := by simpa [allKnown] using known
          simpa [granted] using eq_without_named_of_disable answer
  · next fault answer =>
      rw [answer] at answers
      cases answers with
      | refused foreign _ _ _ =>
          have refused : allKnown names = false := by simpa [allKnown] using foreign
          apply Settings.eq_of_isEnabled
          simp [refused, isEnabled_without_named]

/-- After requests in a row, the settings are those from before without the stages that a granted request
    names. -/
theorem foldl_granted (settings : Settings) (calls : List (List String)) :
    calls.foldl Settings.granted settings =
      settings.without (Stage.named (calls.filter allKnown).flatten) := by
  induction calls generalizing settings with
  | nil =>
      apply Settings.eq_of_isEnabled
      simp [isEnabled_without_named]
  | cons names calls ih =>
      rw [List.foldl_cons, ih, granted_eq_without_named, without_named_append, ← List.flatten_append,
        ← List.filter_append, List.singleton_append]

/-! ### Selected stages -/

/-- The selected stages are those that are enabled, in the order of all stages; the stages for prose only if
    content is unwrapped. -/
theorem selectedStages_eq_filter (settings : Settings) :
    settings.selectedStages = Stage.all.filter fun stage =>
      settings.isEnabled stage && (stage ∈ Stage.structural || settings.isEnabled .content) := by
  have structural : ∀ stage ∈ Stage.structural, decide (stage ∈ Stage.structural) = true := by decide
  have forProse : ∀ stage ∈ Stage.forProse, decide (stage ∈ Stage.structural) = false := by decide
  rw [Settings.selectedStages, Stage.all_eq, List.filter_append]
  congr 1
  · apply List.filter_congr
    intro stage member
    rw [structural stage member, Bool.true_or, Bool.and_true]
  · by_cases unwraps : settings.isEnabled .content = true
    · simp [unwraps]
    · rw [if_neg unwraps, eq_comm, List.filter_eq_nil_iff]
      intro stage member
      simp [forProse stage member, unwraps]

end Bindery.Convert
