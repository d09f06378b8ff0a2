/-
Module: Bindery.Text.Json
Layer: Text
Purpose: Printed JSON, indented by two spaces a level and written in ASCII. Other characters are
  escaped as one or two units of sixteen bits.
Imports: Bindery.Text.Hex
Main exports: Json, Json.print
-/
import Bindery.Text.Hex

namespace Bindery.Text

/-- The values that are printed. -/
inductive Json where
  | null
  | number (value : Int)
  | text (shown : String)
  | array (items : List Json)
  | object (fields : List (String × Json))
deriving Repr, Inhabited

namespace Json

def unitEscape (unit : Nat) : List Char := '\\' :: 'u' :: paddedHex 4 unit

/-- How a character is written in a string. -/
def escapeChar (c : Char) : List Char :=
  if c = '"' ∨ c = '\\' then ['\\', c]
  else if c = '\n' then ['\\', 'n']
  else if c = '\r' then ['\\', 'r']
  else if c = '\t' then ['\\', 't']
  else if c = '\x08' then ['\\', 'b']
  else if c = '\x0C' then ['\\', 'f']
  else if 0x20 ≤ c.toNat ∧ c.toNat < 0x7F then [c]
  else if c.toNat < 0x10000 then unitEscape c.toNat
  else
    unitEscape (0xD800 + (c.toNat - 0x10000) / 0x400) ++
      unitEscape (0xDC00 + (c.toNat - 0x10000) % 0x400)

/-- A string in quotes. -/
def printText (shown : String) : String :=
  String.ofList ('"' :: shown.toList.flatMap escapeChar ++ ['"'])

def lineStart (level : Nat) : String := "\n" ++ String.ofList (List.replicate (2 * level) ' ')

/-- Parts between brackets, each on a line of its own. There are no lines between empty brackets. -/
def bracketed (level : Nat) (opening closing : String) (parts : List String) : String :=
  match parts with
  | [] => opening ++ closing
  | _ =>
    opening ++ ",".intercalate (parts.map (lineStart (level + 1) ++ ·)) ++ lineStart level ++
      closing

mutual

/-- A value at a level. -/
def printAt (level : Nat) : Json → String
  | .null => "null"
  | .number value => toString value
  | .text shown => printText shown
  | .array items => bracketed level "[" "]" (printItems (level + 1) items)
  | .object fields => bracketed level "\x7b" "\x7d" (printFields (level + 1) fields)

/-- The items of a list. -/
def printItems (level : Nat) : List Json → List String
  | [] => []
  | item :: items => item.printAt level :: printItems level items

/-- The fields of an object. -/
def printFields (level : Nat) : List (String × Json) → List String
  | [] => []
  | (name, value) :: fields =>
    (printText name ++ ": " ++ value.printAt level) :: printFields level fields

end

/-- A value from the first level on. -/
def print (value : Json) : String := value.printAt 0

end Json

end Bindery.Text
