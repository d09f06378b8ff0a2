/-
Module: Bindery.Markup.Literal
Layer: Markup
Purpose: String literals of Typst code. They stand in double quotes; a backslash makes the next
  character literal.
Imports: none
Main exports: literalChar, literalChars, literal
-/

namespace Bindery.Markup

def literalChar (c : Char) : List Char := if c = '\\' ∨ c = '"' then ['\\', c] else [c]

/-- The characters of a literal, quotes included. -/
def literalChars (text : List Char) : List Char := '"' :: text.flatMap literalChar ++ ['"']

def literal (text : String) : String := String.ofList (literalChars text.toList)

end Bindery.Markup
