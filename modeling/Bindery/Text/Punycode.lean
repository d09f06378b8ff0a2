/-
Module: Bindery.Text.Punycode
Layer: Text
Purpose: Punycode, the ASCII form of a host label. The ASCII characters come first, then a hyphen,
  then the other characters as distances between insertions, in ascending order of code points. A
  distance is written in base 36 with thresholds that adapt to the distances so far.
Imports: none
Main exports: Punycode.encode, Punycode.decode?
-/

namespace Bindery.Text.Punycode

/-! ### Digits and thresholds -/

/-- The digit of a value below 36: letters first. -/
def digit (n : Nat) : Char := if n < 26 then Char.ofNat (0x61 + n) else Char.ofNat (0x16 + n)

def digitValue? (c : Char) : Option Nat :=
  if 'a' ≤ c && c ≤ 'z' then some (c.toNat - 0x61)
  else if 'A' ≤ c && c ≤ 'Z' then some (c.toNat - 0x41)
  else if '0' ≤ c && c ≤ '9' then some (c.toNat - 0x16)
  else none

/-- The threshold of the digit at `position`, counted from one in steps of 36. -/
def threshold (position bias : Nat) : Nat := max 1 (min 26 (position - bias))

/-- A threshold is never zero. -/
theorem threshold_pos (position bias : Nat) : 1 ≤ threshold position bias := by
  unfold threshold; omega

/-- Divides until at most 455 is left; every division raises the bias by 36. -/
def settle (delta bias : Nat) : Nat :=
  if 455 < delta then settle (delta / 35) (bias + 36) else bias + 36 * delta / (delta + 38)
termination_by delta
decreasing_by exact Nat.div_lt_self (by omega) (by omega)

/-- The bias after a distance, when `count` characters are in place. -/
def adapt (delta count : Nat) (isFirst : Bool) : Nat :=
  let damped := if isFirst then delta / 700 else delta / 2
  settle (damped + damped / count) 0

/-! ### Writing -/

/-- The digits of a distance. -/
def writeDistance (bias position n : Nat) : List Char :=
  let t := threshold position bias
  if n < t then [digit n]
  else digit (t + (n - t) % (36 - t)) :: writeDistance bias (position + 36) ((n - t) / (36 - t))
termination_by n
decreasing_by
  have := threshold_pos position bias
  have := Nat.div_le_self (n - threshold position bias) (36 - threshold position bias)
  omega

/-- Text being written: the digits so far, the distance since the last insertion, the bias, and how
    many characters are in place. -/
structure Writer where
  digits : List Char
  distance : Nat
  bias : Nat
  count : Nat
deriving Repr

/-- Passes one character of the text while `code` is being inserted. -/
def Writer.pass (basic code : Nat) (writer : Writer) (c : Char) : Writer :=
  if c.toNat < code then { writer with distance := writer.distance + 1 }
  else if c.toNat = code then
    { digits := writer.digits ++ writeDistance writer.bias 36 writer.distance
      distance := 0
      bias := adapt writer.distance (writer.count + 1) (writer.count = basic)
      count := writer.count + 1 }
  else writer

/-- Inserts code points in ascending order. `from` is the least that is still possible. -/
def Writer.insertAll (text : List Char) (basic : Nat) (writer : Writer) (least : Nat) :
    List Nat → Writer
  | [] => writer
  | code :: rest =>
    let ahead := { writer with
      distance := writer.distance + (code - least) * (writer.count + 1) }
    let passed := text.foldl (Writer.pass basic code) ahead
    Writer.insertAll text basic { passed with distance := passed.distance + 1 } (code + 1) rest

/-- Is the character ASCII? -/
def isBasic (c : Char) : Bool := c.toNat < 0x80

/-- The ASCII form of a text. -/
def encode (text : List Char) : List Char :=
  let basic := text.filter isBasic
  let codes := ((text.filter (!isBasic ·)).map Char.toNat).eraseDups.mergeSort
  let writer := Writer.insertAll text basic.length ⟨[], 0, 72, basic.length⟩ 0x80 codes
  basic ++ (if basic = [] then [] else ['-']) ++ writer.digits

/-! ### Reading -/

/-- Reads a distance: its value, and the digits after it. -/
def readDistance? (bias position weight : Nat) : List Char → Option (Nat × List Char)
  | [] => none
  | c :: rest =>
    match digitValue? c with
    | none => none
    | some d =>
      let t := threshold position bias
      if d < t then some (d * weight, rest)
      else (readDistance? bias (position + 36) (weight * (36 - t)) rest).map fun (value, after) =>
        (d * weight + value, after)

/-- Reading a distance takes at least one digit. -/
theorem length_of_readDistance? {bias position weight : Nat} {digits : List Char}
    {result : Nat × List Char} (read : readDistance? bias position weight digits = some result) :
    result.2.length < digits.length := by
  induction digits generalizing position weight result with
  | nil => simp [readDistance?] at read
  | cons c rest ih =>
    simp only [readDistance?] at read
    split at read
    · simp at read
    · split at read
      · obtain rfl := Option.some.inj read
        simp
      · obtain ⟨inner, found, rfl⟩ := Option.map_eq_some_iff.1 read
        have := ih found
        simp only [List.length_cons]
        omega

/-- May a text hold the code point? -/
def isScalar (code : Nat) : Bool := code < 0xD800 || (0xDFFF < code && code < 0x110000)

/-- Reads distances and inserts their characters into `text`. The last one inserted was `code`, and
    the next goes behind `position`. -/
def readAll? (isFirst : Bool) (bias code position : Nat) (text : List Char) :
    (digits : List Char) → Option (List Char)
  | [] => some text
  | c :: rest =>
    match _taken : readDistance? bias 36 1 (c :: rest) with
    | none => none
    | some (distance, after) =>
      let reached := position + distance
      let count := text.length + 1
      let next := code + reached / count
      if isScalar next then
        readAll? false (adapt distance count isFirst) next (reached % count + 1)
          (text.insertIdx (reached % count) (Char.ofNat next)) after
      else none
termination_by digits => digits.length
decreasing_by exact length_of_readDistance? (by assumption)

/-- The text before the last hyphen, and the text after it. Without a hyphen, all comes after. -/
def splitLastHyphen (text : List Char) : List Char × List Char :=
  match text.reverse.span (· ≠ '-') with
  | (after, []) => ([], after.reverse)
  | (after, _ :: before) => (before.reverse, after.reverse)

/-- The text that an ASCII form stands for. -/
def decode? (text : List Char) : Option (List Char) :=
  if text.all isBasic then
    let (basic, digits) := splitLastHyphen text
    readAll? true 72 0x80 0 basic digits
  else none

end Bindery.Text.Punycode
