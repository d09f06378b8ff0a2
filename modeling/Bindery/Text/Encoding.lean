/-
Module: Bindery.Text.Encoding
Layer: Text
Purpose: Text of a file. What guesses encodings and what reads them is given from outside. An encoding
  that was detected is tried first; where it is unknown or does not fit, the bytes have to be UTF-8.
Imports: Bindery.Text.Utf8
Main exports: Detector, Codecs, Decoder, Decoder.text?, Decoder.common
-/
import Bindery.Text.Utf8

namespace Bindery.Text

/-- What guesses the name of the encoding of some bytes, if it can. -/
abbrev Detector := List UInt8 → Option String

/-- The encodings that are known by a name, each as the text that bytes denote in it if they fit. -/
abbrev Codecs := String → Option (List UInt8 → Option String)

/-- What the texts of files are read with. -/
structure Decoder where
  detect : Detector
  codecs : Codecs

namespace Decoder

/-- The text in the encoding that is detected, if it is known and fits. An empty name is no name. -/
def detected? (decoder : Decoder) (bytes : List UInt8) : Option String :=
  match decoder.detect bytes with
  | none => none
  | some name => if name = "" then none else (decoder.codecs name).bind fun decode => decode bytes

def text? (decoder : Decoder) (bytes : List UInt8) : Option String :=
  if bytes = [] then some ""
  else
    match decoder.detected? bytes with
    | some text => some text
    | none => decodeStrict? bytes

end Decoder

/-! ### Common encodings -/

/-- Do the bytes stay within ASCII? -/
def areAscii (bytes : List UInt8) : Bool := bytes.all (· < 0x80)

/-- The text in which every byte is the character of its number. -/
def textOfBytes (bytes : List UInt8) : String :=
  String.ofList (bytes.map fun byte => Char.ofNat byte.toNat)

def Codecs.common : Codecs
  | "ascii" => some fun bytes => if areAscii bytes then some (textOfBytes bytes) else none
  | "utf_8" => some decodeStrict?
  | "latin_1" => some fun bytes => some (textOfBytes bytes)
  | _ => none

/-- Guesses ASCII where the bytes stay within it, and UTF-8 where they are that. -/
def Detector.common : Detector := fun bytes =>
  if areAscii bytes then some "ascii"
  else if (decodeStrict? bytes).isSome then some "utf_8"
  else none

def Decoder.common : Decoder := ⟨.common, .common⟩

end Bindery.Text
