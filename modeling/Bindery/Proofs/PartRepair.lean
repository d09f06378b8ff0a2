/-
Module: Bindery.Proofs.PartRepair
Layer: Proofs
Purpose: The repair of part boundaries is invisible in a document. No stage converts or remembers the
  boundary of a part, and the filter drops it, so that it may stand anywhere in a stream.
Imports: Bindery.Convert.Pipeline, Bindery.Proofs.PartInsertion, Bindery.Proofs.StageMemory
Main exports: targetFrom, selectedStages_sublist, selectedStages_nodup, quiet_of_unowned,
  targetFrom_insert, targetFrom_normalizeParts, convertToTypst_normalizeParts
-/
import Bindery.Convert.Pipeline
import Bindery.Proofs.PartInsertion
import Bindery.Proofs.StageMemory

namespace Bindery.Convert

open Book (openFirst normalizeParts)

/-- The target events that the selected stages make of a stream, given what they remember. -/
def targetFrom (settings : Settings) (memory : Memory) (events : List Event) : List Event :=
  filterDialect .typst (convertFrom memory settings.selectedStages events)

theorem convertToTypst_eq_targetFrom (settings : Settings) (events : List Event) :
    convertToTypst settings events = targetFrom settings .initial events := rfl

/-- A selection runs its stages in the order of all stages. -/
theorem selectedStages_sublist (settings : Settings) : settings.selectedStages.Sublist Stage.all := by
  rw [Stage.all_eq, Settings.selectedStages]
  apply List.Sublist.append
  · exact List.filter_sublist
  · split
    · exact List.filter_sublist
    · exact List.nil_sublist _

/-- No selection runs a stage twice. -/
theorem selectedStages_nodup (settings : Settings) : settings.selectedStages.Nodup :=
  (selectedStages_sublist settings).nodup (by decide)

/-- What follows a piece becomes the target events that it would become alone. -/
theorem targetFrom_append {settings : Settings} {memory next : Memory} {first : List Event}
    (leads : Leads settings.selectedStages memory first next) (second : List Event) :
    targetFrom settings memory (first ++ second) =
      targetFrom settings memory first ++ targetFrom settings next second := by
  rw [targetFrom, convertFrom_append leads]
  exact List.filter_append _ _

/-! ### Structural events that no stage converts -/

/-- A structural event that no stage converts is no concern of any. -/
theorem quiet_of_unowned {event : Book.Event} (unowned : ownerOfBook event = none) (stage : Stage) :
    stage.Quiet [.book event] := by
  intro other member
  rw [List.mem_singleton.mp member]
  have noOwner : owner (.book event) = none := unowned
  constructor
  · simp [Stage.touches, noOwner]
  · cases stage with
    | authors | chapters => simp [Stage.watches, noOwner]
    | _ => rfl

/-- Such an event leaves nothing behind, neither in the document nor in a memory. -/
theorem targetFrom_unowned (settings : Settings) (memory : Memory) {event : Book.Event}
    (unowned : ownerOfBook event = none) :
    targetFrom settings memory [.book event] = [] ∧
      Leads settings.selectedStages memory [.book event] memory := by
  have quiet : ∀ stage ∈ settings.selectedStages, stage.Quiet [.book event] :=
    fun stage _ => quiet_of_unowned unowned stage
  obtain ⟨passes, leads⟩ := convertFrom_of_quiet memory quiet
  rw [targetFrom, passes]
  exact ⟨rfl, leads⟩

/-- Such an event can be put anywhere. -/
theorem targetFrom_insert (settings : Settings) (memory : Memory) {event : Book.Event}
    (unowned : ownerOfBook event = none) (before behind : List Event) :
    targetFrom settings memory (before ++ .book event :: behind) =
      targetFrom settings memory (before ++ behind) := by
  obtain ⟨next, leads⟩ := exists_leads (selectedStages_nodup settings) memory before
  obtain ⟨vanishes, stays⟩ := targetFrom_unowned settings next unowned
  rw [targetFrom_append leads, ← List.singleton_append, targetFrom_append stays, vanishes,
    targetFrom_append leads]
  rfl

/-! ### Part boundaries -/

/-- No stage converts the boundary of a part. -/
theorem overlooks_targetFrom (settings : Settings) (memory : Memory) :
    Book.Overlooks (targetFrom settings memory) where
  untitledStart := targetFrom_insert settings memory rfl
  finish _ _ := targetFrom_insert settings memory rfl

theorem targetFrom_openFirst (settings : Settings) (memory : Memory) (events : List Event) :
    targetFrom settings memory (openFirst events) = targetFrom settings memory events := by
  unfold openFirst
  split
  · next tag found =>
      have marker := List.find?_some found
      cases tag with
      | part title number => exact targetFrom_insert settings memory rfl [] events
      | chapter | content | authorList => cases marker
  · rfl

/-- A document is the same with repaired part boundaries. -/
theorem targetFrom_normalizeParts (settings : Settings) (memory : Memory) (events : List Event) :
    targetFrom settings memory (normalizeParts events) = targetFrom settings memory events :=
  (overlooks_targetFrom settings memory).normalizeParts (targetFrom_openFirst settings memory events)

/-- So is a document whose part boundaries are repaired from some place on. -/
theorem convertToTypst_normalizeParts {settings : Settings} {next : Memory} {front : List Event}
    (leads : Leads settings.selectedStages .initial front next) (events : List Event) :
    convertToTypst settings (front ++ normalizeParts events) =
      convertToTypst settings (front ++ events) :=
  calc convertToTypst settings (front ++ normalizeParts events)
      = targetFrom settings .initial front ++ targetFrom settings next (normalizeParts events) :=
        targetFrom_append leads _
    _ = targetFrom settings .initial front ++ targetFrom settings next events := by
        rw [targetFrom_normalizeParts]
    _ = convertToTypst settings (front ++ events) := (targetFrom_append leads _).symm

end Bindery.Convert
