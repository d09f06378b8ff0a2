/-
Module: Bindery.Command.Run
Layer: Command
Purpose: What a command does, as a function of its surroundings and its arguments. With an output file
  a book is rendered as a whole before anything is written; then the markup goes there and a report is
  printed. Without, the fragments of the markup are printed as they come. Neither the file nor the
  output needs to take all that it is given.
Imports: Bindery.Book.Load, Bindery.Command.Arguments, Bindery.Text.Json
Main exports: Output, Surroundings, Breakdown, Ending, Outcome, settingsOf, report, run
-/
import Bindery.Book.Load
import Bindery.Command.Arguments
import Bindery.Text.Json

namespace Bindery.Command

open Book (Manuscript)
open Bindery.Convert (Settings)

/-- What texts are printed on: where it stops taking a text behind what was printed before, if it does. -/
abbrev Output := (printed text : String) → Option CutOff

/-- An output that takes everything. -/
def Output.patient : Output := fun _ _ => none

/-- Prints texts behind what was printed before, up to the first that is not taken as a whole: what has
    been printed then, and the text of the error, if there was one. -/
def Output.print (output : Output) (printed : String) : List String → String × Option String
  | [] => (printed, none)
  | text :: rest =>
    match output printed text with
    | none => output.print (printed ++ text) rest
    | some cutOff => (printed ++ String.ofList (text.toList.take cutOff.taken), some cutOff.text)

/-- What a command finds: the disk, the variables of the environment, what it reads books with, and
    what it prints on. -/
structure Surroundings where
  disk : Disk
  environment : List (String × String) := []
  tools : Book.Tools := .common
  output : Output := .patient

/-- What a command has no answer to. -/
inductive Breakdown where
  | access (error : AccessError)
  | givenUp (text : String)
  | summary (fault : Book.SummaryFault)
  | item (fault : Book.ForeignItem)
  | device (text : String)
deriving DecidableEq, Repr

def Breakdown.text : Breakdown → String
  | .access error => error.text
  | .givenUp text => text
  | .summary fault => fault.text
  | .item fault => fault.text
  | .device text => text

/-- How a command ends. -/
inductive Ending where
  | exit (code : Nat)
  | breakdown (cause : Breakdown)
deriving DecidableEq, Repr

/-- What a command leaves behind: the files, what it printed, the errors it reported, and how it
    ended. -/
structure Outcome where
  files : FileTree
  printed : String
  errors : List String
  ending : Ending
deriving DecidableEq, Repr

/-- A command that has printed nothing. -/
def Outcome.silent (files : FileTree) (errors : List String) (ending : Ending) : Outcome :=
  { files, printed := "", errors, ending }

/-- The exit code of a command that did what it was asked. -/
def successCode : Nat := 0

/-- The exit code of a command whose book cannot be loaded or rendered. -/
def failureCode : Nat := 1

/-- The exit code of a command that was not understood. -/
def misuseCode : Nat := 2

/-- The settings of a command: the environment disables stages, and so do the options. -/
def settingsOf (environment : List (String × String)) (disabled : List Convert.Stage) :
    Except Convert.UnknownStages Settings :=
  (Settings.ofVariable ((environment.lookup Convert.disabledStagesVariable).getD "")).map
    fun settings => settings.without disabled

/-- The names of the stages that do not run, in the order of their characters. -/
def disabledNames (settings : Settings) : List String :=
  (settings.disabledStages.map (·.name)).mergeSort fun a b => a ≤ b

def report (book : Manuscript) (output : Path) (markup : String) (settings : Settings) :
    Text.Json :=
  .object [
    ("book_path", .text book.root.toString),
    ("output", .text output.toString),
    ("title", match book.config.title with
      | none => .null
      | some title => .text title),
    ("authors", .array (book.config.authors.map .text)),
    ("chapters", .number (Book.chapterCounts book.items)),
    ("characters", .number markup.length),
    ("disabled_stages", .array ((disabledNames settings).map .text))]

/-- How a command ends that has rendered a book with a fault or without, and the errors it reports. -/
def verdict : Option Book.RenderBookFault → Ending × List String
  | none => (.exit successCode, [])
  | some (.event fault) => (.exit failureCode, ["Conversion failed: " ++ fault.text])
  | some (.item fault) => (.breakdown (.item fault), [])

/-- What a command has left behind that had nothing to do but to print. -/
def Outcome.ofPrinting (files : FileTree) (printing : String × Option String)
    (ending : Ending × List String) : Outcome :=
  match printing with
  | (printed, none) => { files, printed, errors := ending.2, ending := ending.1 }
  | (printed, some text) => { files, printed, errors := [], ending := .breakdown (.device text) }

/-- Prints fragments as they come. What comes before a fault has been printed by then. -/
def printFragments (surroundings : Surroundings) (fragments : Drained String Book.RenderBookFault) :
    Outcome :=
  .ofPrinting surroundings.disk.files (surroundings.output.print "" fragments.items)
    (verdict fragments.fault)

def printReport (output : Output) (files : FileTree) (summary : Text.Json) : Outcome :=
  .ofPrinting files (output.print "" [summary.print, "\n"]) (verdict none)

/-- Writes the markup of a book into a file, and prints the report. -/
def writeMarkup (surroundings : Surroundings) (settings : Settings) (book : Manuscript) (path : Path)
    (markup : String) : Outcome :=
  match surroundings.disk.write path (Text.utf8Bytes markup) with
  | .error error => .silent surroundings.disk.files [] (.breakdown (.access error))
  | .ok ⟨files, some text⟩ => .silent files [] (.breakdown (.device text))
  | .ok ⟨files, none⟩ =>
    printReport surroundings.output files (report book path markup settings)

/-- What the chapters of books are read with. -/
def Surroundings.tokenizer (surroundings : Surroundings) : Book.Tokenizer :=
  Prose.eventsOfText surroundings.tools.parser

/-- Renders a loaded book, to be printed or into the output file. -/
def runBook (surroundings : Surroundings) (settings : Settings) (output : Option String)
    (book : Manuscript) : Outcome :=
  let fragments := Book.markupFragments surroundings.tokenizer settings book
  match output with
  | none => printFragments surroundings fragments
  | some output =>
    match fragments.toExcept with
    | .ok rendered =>
      writeMarkup surroundings settings book (Path.ofString output) (String.join rendered)
    | .error fault =>
      let (ending, errors) := verdict (some fault)
      .silent surroundings.disk.files errors ending

/-- Runs a command with options. -/
def runOptions (surroundings : Surroundings) (options : Options) : Outcome :=
  let files := surroundings.disk.files
  match settingsOf surroundings.environment options.disabled with
  | .error fault =>
    .silent files ["Invalid conversion settings: " ++ fault.variableText] (.exit misuseCode)
  | .ok settings =>
    match Book.loadBook surroundings.tools surroundings.disk (Path.ofString options.bookPath) with
    | .ok book => runBook surroundings settings options.output book
    | .error (.problem path problem) =>
      .silent files ["Failed to load book: " ++ problem.textAt path] (.exit failureCode)
    | .error (.access error) => .silent files [] (.breakdown (.access error))
    | .error (.givenUp text) => .silent files [] (.breakdown (.givenUp text))
    | .error (.summary fault) => .silent files [] (.breakdown (.summary fault))

/-- Runs a command. -/
def run (surroundings : Surroundings) (arguments : List String) : Outcome :=
  let files := surroundings.disk.files
  match Request.ofArguments arguments with
  | .help => .silent files [] (.exit successCode)
  | .misuse => .silent files [] (.exit misuseCode)
  | .run options => runOptions surroundings options

end Bindery.Command
