/-
Module: Bindery.Text.Utf8
Layer: Text
Purpose: Writing and reading UTF-8. When it is read, bytes are read one after the other; what is
  being read is a character of which some continuation bytes are still missing, each with the range
  that it has to lie in. Overlong forms, surrogates and values beyond the last code point are
  refused by these ranges. A faulty stretch is as long as it could have been the beginning of a
  character.
Imports: none
Main exports: utf8Bytes, Utf8State, decodeUnits, decodeStrict?, decodeLossy
-/

namespace Bindery.Text

/-- The bytes of a text. -/
def utf8Bytes (text : String) : List UInt8 := text.toList.flatMap String.utf8EncodeChar

/-- A character that is being read: its value so far, and the ranges of the bytes that are missing.
    Nothing is being read if no byte is missing. -/
structure Utf8State where
  value : Nat
  missing : List (Nat × Nat)
deriving DecidableEq, Repr

namespace Utf8State

/-- Nothing is being read. -/
def idle : Utf8State := ⟨0, []⟩

def anyContinuation : Nat × Nat := (0x80, 0xBF)

/-- What a first byte begins: a whole character or a fault, or a character with missing bytes. -/
def begin (byte : Nat) : List (Option Char) × Utf8State :=
  if byte < 0x80 then ([some (Char.ofNat byte)], idle)
  else if byte < 0xC2 then ([none], idle)
  else if byte < 0xE0 then ([], ⟨byte - 0xC0, [anyContinuation]⟩)
  else if byte = 0xE0 then ([], ⟨0, [(0xA0, 0xBF), anyContinuation]⟩)
  else if byte = 0xED then ([], ⟨0xD, [(0x80, 0x9F), anyContinuation]⟩)
  else if byte < 0xF0 then ([], ⟨byte - 0xE0, [anyContinuation, anyContinuation]⟩)
  else if byte = 0xF0 then ([], ⟨0, [(0x90, 0xBF), anyContinuation, anyContinuation]⟩)
  else if byte < 0xF4 then
    ([], ⟨byte - 0xF0, [anyContinuation, anyContinuation, anyContinuation]⟩)
  else if byte = 0xF4 then ([], ⟨4, [(0x80, 0x8F), anyContinuation, anyContinuation]⟩)
  else ([none], idle)

/-- Reads one byte. A byte that does not continue the character ends a fault and begins anew. -/
def step (state : Utf8State) (byte : Nat) : List (Option Char) × Utf8State :=
  match state.missing with
  | [] => begin byte
  | (low, high) :: more =>
    if low ≤ byte ∧ byte ≤ high then
      let value := state.value * 64 + (byte - 0x80)
      if more.isEmpty then ([some (Char.ofNat value)], idle) else ([], ⟨value, more⟩)
    else
      let (units, next) := begin byte
      (none :: units, next)

/-- Reads bytes up to the end. -/
def run (state : Utf8State) : List UInt8 → List (Option Char)
  | [] => if state.missing.isEmpty then [] else [none]
  | byte :: rest =>
    let (units, next) := state.step byte.toNat
    units ++ next.run rest

end Utf8State

/-- The characters of a byte sequence, with `none` for each faulty stretch. -/
def decodeUnits (bytes : List UInt8) : List (Option Char) := Utf8State.idle.run bytes

/-- The text of a byte sequence without faults. -/
def decodeStrict? (bytes : List UInt8) : Option String :=
  ((decodeUnits bytes).mapM id).map String.ofList

/-- The text of a byte sequence, with a replacement character for each faulty stretch. -/
def decodeLossy (bytes : List UInt8) : String :=
  String.ofList ((decodeUnits bytes).map fun unit => unit.getD '\uFFFD')

end Bindery.Text
