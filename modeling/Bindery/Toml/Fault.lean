/-
Module: Bindery.Toml.Fault
Layer: Toml
Purpose: What can be wrong with a TOML document, and where. A place is kept as the text that is left
  from there on; messages give line and column, counted from one.
Imports: Bindery.Event.Debug, Bindery.Toml.Value
Main exports: Problem, Problem.message, Fault, Fault.text
-/
import Bindery.Event.Debug
import Bindery.Toml.Value

namespace Bindery.Toml

/-- What is wrong. -/
inductive Problem where
  | invalidStatement
  | trailingText
  | declaredTwice (key : Key)
  | overwritten
  | unclosedTableName
  | unclosedArrayName
  | immutable (key : Key)
  | redefined (key : Key)
  | missingEquals
  | keyStart
  | unclosedArray
  | unclosedTable
  | duplicateKey (name : String)
  | invalidEscape
  | invalidHex
  | notScalar
  | expected (mark : String)
  | foundCharacter (c : Char)
  | illegalCharacter (c : Char)
  | unterminated
  | invalidDate
  | invalidValue
  | tooManyDigits (count : Nat)
deriving DecidableEq, Repr

/-- How many digits an integer may have. -/
def longestInteger : Nat := 4300

namespace Problem

/-- A path of keys in a message. -/
def shownKey (key : Key) : String := Debug.tuple (key.map Text.quoted)

/-- A character in a message. -/
def shownChar (c : Char) : String := Text.quoted (String.singleton c)

def message : Problem → String
  | .invalidStatement => "Invalid statement"
  | .trailingText => "Expected newline or end of document after a statement"
  | .declaredTwice key => "Cannot declare " ++ shownKey key ++ " twice"
  | .overwritten => "Cannot overwrite a value"
  | .unclosedTableName => "Expected ']' at the end of a table declaration"
  | .unclosedArrayName => "Expected ']]' at the end of an array declaration"
  | .immutable key => "Cannot mutate immutable namespace " ++ shownKey key
  | .redefined key => "Cannot redefine namespace " ++ shownKey key
  | .missingEquals => "Expected '=' after a key in a key/value pair"
  | .keyStart => "Invalid initial character for a key part"
  | .unclosedArray => "Unclosed array"
  | .unclosedTable => "Unclosed inline table"
  | .duplicateKey name => "Duplicate inline table key " ++ Text.quoted name
  | .invalidEscape => "Unescaped '\\' in a string"
  | .invalidHex => "Invalid hex value"
  | .notScalar => "Escaped character is not a Unicode scalar value"
  | .expected mark => "Expected " ++ Text.quoted mark
  | .foundCharacter c => "Found invalid character " ++ shownChar c
  | .illegalCharacter c => "Illegal character " ++ shownChar c
  | .unterminated => "Unterminated string"
  | .invalidDate => "Invalid date or datetime"
  | .invalidValue => "Invalid value"
  | .tooManyDigits count =>
    "Exceeds the limit (" ++ toString longestInteger ++ " digits) for integer string conversion: value has " ++
      toString count ++ " digits; use sys.set_int_max_str_digits() to increase the limit"

/-- Is it no fault of the document, but more than the reader takes? -/
def isExcess : Problem → Bool
  | .tooManyDigits _ => true
  | _ => false

end Problem

/-- A problem, and the text that is left where it was found. -/
structure Fault where
  problem : Problem
  rest : List Char
deriving DecidableEq, Repr

/-- The line and the column behind some text. -/
def placeBehind (text : List Char) : String :=
  let line := text.count '\n' + 1
  let column := (text.reverse.takeWhile (· ≠ '\n')).length + 1
  "line " ++ toString line ++ ", column " ++ toString column

def Fault.text (document : List Char) (fault : Fault) : String :=
  let place :=
    if fault.rest = [] then "end of document"
    else placeBehind (document.take (document.length - fault.rest.length))
  fault.problem.message ++ " (at " ++ place ++ ")"

end Bindery.Toml
