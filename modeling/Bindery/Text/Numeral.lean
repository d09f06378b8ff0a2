/-
Module: Bindery.Text.Numeral
Layer: Text
Purpose: Decimal numerals. Digits of any script count by their value; a sign may come first, single
  underscores may stand between digits, and blanks around the numeral are ignored, except
  information separators.
Imports: Bindery.Text.Blank
Main exports: digitValue?, readNumeral?
-/
import Bindery.Text.Blank

namespace Bindery.Text

/-- The zeros of all decimal digit sequences of Unicode 14; each is followed by its one to nine. -/
def digitZeros : List Nat :=
  [0x30, 0x660, 0x6F0, 0x7C0, 0x966, 0x9E6, 0xA66, 0xAE6, 0xB66, 0xBE6, 0xC66, 0xCE6, 0xD66,
   0xDE6, 0xE50, 0xED0, 0xF20, 0x1040, 0x1090, 0x17E0, 0x1810, 0x1946, 0x19D0, 0x1A80, 0x1A90,
   0x1B50, 0x1BB0, 0x1C40, 0x1C50, 0xA620, 0xA8D0, 0xA900, 0xA9D0, 0xA9F0, 0xAA50, 0xABF0, 0xFF10,
   0x104A0, 0x10D30, 0x11066, 0x110F0, 0x11136, 0x111D0, 0x112F0, 0x11450, 0x114D0, 0x11650,
   0x116C0, 0x11730, 0x118E0, 0x11950, 0x11C50, 0x11D50, 0x11DA0, 0x16A60, 0x16AC0, 0x16B50,
   0x1D7CE, 0x1D7D8, 0x1D7E2, 0x1D7EC, 0x1D7F6, 0x1E140, 0x1E2F0, 0x1E950, 0x1FBF0]

def digitValue? (c : Char) : Option Nat :=
  (digitZeros.find? fun origin => origin ≤ c.toNat && c.toNat < origin + 10).map (c.toNat - ·)

/-- Reads digits onto `value`. An underscore must stand between two digits. -/
def readDigits? (value : Nat) : List Char → Option Nat
  | [] => some value
  | '_' :: c :: rest => (digitValue? c).bind fun digit => readDigits? (value * 10 + digit) rest
  | c :: rest => (digitValue? c).bind fun digit => readDigits? (value * 10 + digit) rest

/-- Reads a numeral without a sign: a digit, then more digits. -/
def readNatural? : List Char → Option Nat
  | [] => none
  | c :: rest => (digitValue? c).bind fun digit => readDigits? digit rest

def readSigned? : List Char → Option Int
  | '-' :: rest => (readNatural? rest).map fun n => -(n : Int)
  | '+' :: rest => (readNatural? rest).map Int.ofNat
  | rest => (readNatural? rest).map Int.ofNat

/-- May the character stand around a numeral? Blanks may, except information separators. -/
def isAroundNumeral (c : Char) : Bool := isBlank c && !(0x1C ≤ c.toNat && c.toNat ≤ 0x1F)

/-- The integer that a text denotes, if it is a numeral. -/
def readNumeral? (text : String) : Option Int :=
  readSigned? (trimWhere isAroundNumeral text.toList)

end Bindery.Text
