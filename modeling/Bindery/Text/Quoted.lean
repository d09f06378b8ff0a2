/-
Module: Bindery.Text.Quoted
Layer: Text
Purpose: Quoted texts as they appear in messages. Single quotes are used, or double quotes when the
  text holds a single quote and no double quote. The quote in use and the backslash are escaped,
  line feed, carriage return and tab get a letter, and other unprintable characters are written with
  the shortest of a two, four or eight digit hexadecimal escape.
Imports: Bindery.Text.Hex, Bindery.Text.Printable
Main exports: quoteMark, quotedChar, quoted
-/
import Bindery.Text.Hex
import Bindery.Text.Printable

namespace Bindery.Text

/-- The quote that a text is put in. -/
def quoteMark (text : List Char) : Char :=
  if text.contains '\'' && !text.contains '"' then '"' else '\''

/-- The hexadecimal escape of an unprintable character. -/
def hexEscape (code : Nat) : List Char :=
  if code < 0x100 then '\\' :: 'x' :: paddedHex 2 code
  else if code < 0x10000 then '\\' :: 'u' :: paddedHex 4 code
  else '\\' :: 'U' :: paddedHex 8 code

/-- How a character is written between two `mark`s. -/
def quotedChar (mark c : Char) : List Char :=
  if c = mark ∨ c = '\\' then ['\\', c]
  else if c = '\n' then ['\\', 'n']
  else if c = '\r' then ['\\', 'r']
  else if c = '\t' then ['\\', 't']
  else if isPrintable c then [c]
  else hexEscape c.toNat

def quoted (text : String) : String :=
  let mark := quoteMark text.toList
  String.ofList (mark :: text.toList.flatMap (quotedChar mark) ++ [mark])

end Bindery.Text
