/-
Module: Bindery.Toml.Scalar
Layer: Toml
Purpose: Numbers, dates and times. Recognisers take the text from where the value should start, and
  give its length; they find the longest form that the grammar allows there.
Imports: none
Main exports: numberLength?, integerDigits, timeLength?, Moment, moment?
-/

namespace Bindery.Toml

/-! ### Numbers -/

/-- How many characters there are of digits with single underscores between them. -/
def digitsLength (isDigit : Char → Bool) : List Char → Nat
  | '_' :: c :: rest => if isDigit c then digitsLength isDigit rest + 2 else 0
  | c :: rest => if isDigit c then digitsLength isDigit rest + 1 else 0
  | [] => 0

/-- The length of digits that start with one. -/
def numeralLength? (isDigit : Char → Bool) : List Char → Option Nat
  | c :: rest => if isDigit c then some (digitsLength isDigit rest + 1) else none
  | [] => none

/-- Is the character a hexadecimal digit? -/
def isHexDigit (c : Char) : Bool :=
  c.isDigit || ('a' ≤ c && c ≤ 'f') || ('A' ≤ c && c ≤ 'F')

def isOctalDigit (c : Char) : Bool := '0' ≤ c && c ≤ '7'

def isBinaryDigit (c : Char) : Bool := c = '0' || c = '1'

def basedLength? : List Char → Option Nat
  | '0' :: 'x' :: rest => (numeralLength? isHexDigit rest).map (· + 2)
  | '0' :: 'o' :: rest => (numeralLength? isOctalDigit rest).map (· + 2)
  | '0' :: 'b' :: rest => (numeralLength? isBinaryDigit rest).map (· + 2)
  | _ => none

/-- The length of the sign, if there is one. -/
def signLength : List Char → Nat
  | '+' :: _ => 1
  | '-' :: _ => 1
  | _ => 0

/-- The length of digits that do not start with a zero, or of a single zero. -/
def wholeLength? : List Char → Option Nat
  | '0' :: _ => some 1
  | text => numeralLength? Char.isDigit text

/-- The length of the fraction, if there is one. -/
def fractionLength : List Char → Nat
  | '.' :: rest => ((numeralLength? Char.isDigit rest).map (· + 1)).getD 0
  | _ => 0

/-- The length of the exponent, if there is one. -/
def exponentLength : List Char → Nat
  | c :: rest =>
    if c = 'e' ∨ c = 'E' then
      let sign := signLength rest
      ((numeralLength? Char.isDigit (rest.drop sign)).map (· + sign + 1)).getD 0
    else 0
  | [] => 0

def numberLength? (text : List Char) : Option Nat :=
  match basedLength? text with
  | some length => some length
  | none =>
    let sign := signLength text
    (wholeLength? (text.drop sign)).map fun whole =>
      let front := sign + whole
      let fraction := fractionLength (text.drop front)
      front + fraction + exponentLength (text.drop (front + fraction))

/-- How many digits a number has as an integer in base ten. Other numbers have none. -/
def integerDigits (written : List Char) : Nat :=
  if written.all fun c => c.isDigit || c = '_' || c = '+' || c = '-' then written.countP Char.isDigit
  else 0

/-! ### Dates and times -/

def twoDigits? (low high : Nat) (a b : Char) : Option Nat :=
  if a.isDigit ∧ b.isDigit then
    let value := (a.toNat - 0x30) * 10 + (b.toNat - 0x30)
    if low ≤ value ∧ value ≤ high then some value else none
  else none

/-- The length of the fraction of a second, if there is one. -/
def secondsFractionLength : List Char → Nat
  | '.' :: rest =>
    let digits := (rest.takeWhile Char.isDigit).length
    if digits = 0 then 0 else digits + 1
  | _ => 0

def timeLength? : List Char → Option Nat
  | a :: b :: ':' :: c :: d :: ':' :: e :: f :: rest =>
    if (twoDigits? 0 23 a b).isSome ∧ (twoDigits? 0 59 c d).isSome ∧
        (twoDigits? 0 59 e f).isSome then
      some (8 + secondsFractionLength rest)
    else none
  | _ => none

/-- The length of the distance from universal time, if there is one. -/
def offsetLength : List Char → Nat
  | 'Z' :: _ => 1
  | 'z' :: _ => 1
  | sign :: a :: b :: ':' :: c :: d :: _ =>
    if (sign = '+' ∨ sign = '-') ∧ (twoDigits? 0 23 a b).isSome ∧
        (twoDigits? 0 59 c d).isSome then 6
    else 0
  | _ => 0

/-- The length of the time behind a date, with the character between them, if there is one. -/
def timeBehindLength : List Char → Nat
  | c :: rest =>
    if c = 'T' ∨ c = 't' ∨ c = ' ' then
      match timeLength? rest with
      | some length => 1 + length + offsetLength (rest.drop length)
      | none => 0
    else 0
  | [] => 0

def daysOf (year month : Nat) : Nat :=
  if month = 2 then
    if year % 4 = 0 ∧ (year % 100 ≠ 0 ∨ year % 400 = 0) then 29 else 28
  else if month = 4 ∨ month = 6 ∨ month = 9 ∨ month = 11 then 30
  else 31

/-- A date with or without a time: its length, and whether there is such a day. -/
structure Moment where
  length : Nat
  isValid : Bool
deriving DecidableEq, Repr

/-- The date at the front of a text. Years start with one. -/
def moment? : List Char → Option Moment
  | a :: b :: c :: d :: '-' :: e :: f :: '-' :: g :: h :: rest =>
    match twoDigits? 0 99 a b, twoDigits? 0 99 c d, twoDigits? 1 12 e f, twoDigits? 1 31 g h with
    | some century, some year, some month, some day =>
      let fullYear := century * 100 + year
      some ⟨10 + timeBehindLength rest, fullYear ≥ 1 && day ≤ daysOf fullYear month⟩
    | _, _, _, _ => none
  | _ => none

end Bindery.Toml
