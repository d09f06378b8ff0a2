/-
Module: Bindery.Prose.OfText
Layer: Prose
Purpose: The prose events of a Markdown text, whatever reads it as tokens.
Imports: Bindery.Prose.Merge, Bindery.Prose.OfTokens
Main exports: Parser, eventsOfText
-/
import Bindery.Prose.Merge
import Bindery.Prose.OfTokens

namespace Bindery.Prose

/-- What reads a Markdown text as tokens. -/
abbrev Parser := String → List Token

/-- The prose events of a Markdown text, up to the token that has none. -/
def eventsOfText (parser : Parser) (text : String) : List Markdown.Event :=
  (mergeDrained (eventsOfTokens (parser text))).items

end Bindery.Prose
