/-
Module: Bindery.Text.Percent
Layer: Text
Purpose: Percent escapes. A percent sign and two hexadecimal digits stand for a byte; a percent sign
  without them stands for itself. Escaped bytes are read as UTF-8 together with the ASCII characters
  next to them.
Imports: Bindery.Text.Hex, Bindery.Text.Utf8
Main exports: escapedByte?, percentChar, unquote
-/
import Bindery.Text.Hex
import Bindery.Text.Utf8

namespace Bindery.Text

/-- The byte that two hexadecimal digits denote. -/
def escapedByte? (high low : Char) : Option UInt8 :=
  match hexValue? high, hexValue? low with
  | some h, some l => some (UInt8.ofNat (16 * h + l))
  | _, _ => none

/-- The escape of a byte. -/
def percentByte (byte : UInt8) : List Char :=
  ['%', upperHexDigit (byte.toNat / 16), upperHexDigit (byte.toNat % 16)]

/-- The escape of a character, as many bytes as it has in UTF-8. -/
def percentChar (c : Char) : List Char := (String.utf8EncodeChar c).flatMap percentByte

/-- The bytes of an ASCII text whose escapes are read. -/
def unescapedBytes : List Char → List UInt8
  | '%' :: high :: low :: rest =>
    match escapedByte? high low with
    | some byte => byte :: unescapedBytes rest
    | none => '%'.toUInt8 :: unescapedBytes (high :: low :: rest)
  | c :: rest => c.toUInt8 :: unescapedBytes rest
  | [] => []

def isAscii (c : Char) : Bool := c.toNat < 0x80

/-- Reads escapes in the ASCII stretches of a text. `ascii` is the stretch so far, backwards. -/
def unquoteFrom (ascii : List Char) : List Char → List Char
  | [] => (decodeLossy (unescapedBytes ascii.reverse)).toList
  | c :: rest =>
    if isAscii c then unquoteFrom (c :: ascii) rest
    else (decodeLossy (unescapedBytes ascii.reverse)).toList ++ c :: unquoteFrom [] rest

/-- The text with its percent escapes read. Faulty bytes become replacement characters. -/
def unquote (text : String) : String := String.ofList (unquoteFrom [] text.toList)

end Bindery.Text
