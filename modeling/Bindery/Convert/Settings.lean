/-
Module: Bindery.Convert.Settings
Layer: Convert
Purpose: Which stages of a conversion run. All run unless disabled; stages are disabled by name, and
  a request that names an unknown stage changes nothing.
Imports: Bindery.Convert.Stage, Bindery.Text.Blank, Bindery.Text.Split
Main exports: Settings, Settings.everything, Settings.enabledStages, UnknownStages,
  Settings.disable, disabledStagesVariable, Settings.ofVariable
-/
import Bindery.Convert.Stage
import Bindery.Text.Blank
import Bindery.Text.Split

namespace Bindery.Convert

/-- Which stages run. -/
structure Settings where
  isEnabled : Stage → Bool

/-- Stage names that no stage has: distinct, in the order of their characters. -/
structure UnknownStages where
  names : List String
deriving DecidableEq, Repr

def UnknownStages.text (fault : UnknownStages) : String :=
  "Unknown conversion stage(s): " ++ ", ".intercalate fault.names

namespace Settings

def everything : Settings := ⟨fun _ => true⟩

/-- The stages that run, in the order of the conversion. -/
def enabledStages (settings : Settings) : List Stage := Stage.all.filter settings.isEnabled

/-- The stages that do not run, in the order of the conversion. -/
def disabledStages (settings : Settings) : List Stage :=
  Stage.all.filter fun stage => !settings.isEnabled stage

def without (settings : Settings) (stages : List Stage) : Settings :=
  ⟨fun stage => settings.isEnabled stage && !stages.contains stage⟩

/-- The names that no stage has: distinct, in the order of their characters. -/
def unknownNames (names : List String) : List String :=
  (names.filter fun name => (Stage.ofName? name).isNone).eraseDups.mergeSort fun a b => a ≤ b

/-- The settings without the stages that are named. -/
def disable (settings : Settings) (names : List String) : Except UnknownStages Settings :=
  match unknownNames names with
  | [] => .ok (settings.without (names.filterMap Stage.ofName?))
  | unknown => .error ⟨unknown⟩

/-- The names in a comma-separated list. Blanks around a name and empty names do not count. -/
def listedNames (value : String) : List String :=
  ((Text.piecesBetween ',' value.toList).map Text.trimList |>.filter (· ≠ [])).map String.ofList

/-- The settings that a list of disabled stages asks for. A blank one asks for nothing. -/
def ofVariable (value : String) : Except UnknownStages Settings :=
  match Text.trim value with
  | "" => .ok everything
  | trimmed => everything.disable (listedNames trimmed)

end Settings

def disabledStagesVariable : String := "TYPBOOK_DISABLED_STAGES"

def UnknownStages.variableText (fault : UnknownStages) : String :=
  disabledStagesVariable ++ ": " ++ fault.text

end Bindery.Convert
