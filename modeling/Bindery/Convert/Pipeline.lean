/-
Module: Bindery.Convert.Pipeline
Layer: Convert
Purpose: The conversion that settings select. Stages for the structure of the book come first; the
  stages for prose run only if content is unwrapped at all. What is left of other dialects is
  dropped at the end.
Imports: Bindery.Convert.Chain, Bindery.Convert.Settings, Bindery.Stream.Dialect
Main exports: Stage.structural, Stage.forProse, Settings.selectedStages, convert, convertToTypst
-/
import Bindery.Convert.Chain
import Bindery.Convert.Settings
import Bindery.Stream.Dialect

namespace Bindery.Convert

/-- The stages for the structure of a book, in order. -/
def Stage.structural : List Stage := [.title, .authors, .chapters]

/-- The stages for the prose of a book, in order. The first of them unwraps it. -/
def Stage.forProse : List Stage :=
  [.content, .headings, .paragraphs, .softBreaks, .hardBreaks, .text, .strong, .emphasis,
   .strikethrough, .blockQuotes, .lists, .code, .links, .tables, .stripHtml]

/-- Every stage is structural or for prose. -/
theorem Stage.all_eq : Stage.all = Stage.structural ++ Stage.forProse := rfl

/-- The stages that a conversion runs, in order. -/
def Settings.selectedStages (settings : Settings) : List Stage :=
  Stage.structural.filter settings.isEnabled ++
    if settings.isEnabled .content then Stage.forProse.filter settings.isEnabled else []

/-- The whole output of the selected stages. -/
def convert (settings : Settings) (events : List Event) : List Event :=
  convertEagerly settings.selectedStages events

/-- The document events that the selected stages make of a stream. -/
def convertToTypst (settings : Settings) (events : List Event) : List Event :=
  filterDialect .typst (convert settings events)

end Bindery.Convert
