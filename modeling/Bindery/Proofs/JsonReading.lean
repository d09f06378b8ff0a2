/-
Module: Bindery.Proofs.JsonReading
Layer: Proofs
Purpose: Printed JSON can be read back. The reader follows the grammar of JSON and knows nothing of how
  values are printed: blanks may stand between all parts, letters may be escaped, and two units of sixteen
  bits make up one character. What was printed of a value denotes this value alone.
Imports: Bindery.Text.Json, Mathlib.Data.List.TakeWhile
Main exports: Json.read?, readChars?_escapeChar, readValue?_printAt, Json.read?_print
-/
import Bindery.Text.Json
import Mathlib.Data.List.TakeWhile

namespace Bindery.Text.Json

/-! ### Reading -/

/-- Blanks may stand between the parts of a value. -/
def isBlank (c : Char) : Bool := c = ' ' || c = '\n' || c = '\r' || c = '\t'

def skipBlanks (input : List Char) : List Char := input.dropWhile isBlank

/-- The character that a letter behind a backslash stands for. -/
def escapedBy? : Char → Option Char
  | '"' => some '"'
  | '\\' => some '\\'
  | '/' => some '/'
  | 'b' => some '\x08'
  | 'f' => some '\x0C'
  | 'n' => some '\n'
  | 'r' => some '\r'
  | 't' => some '\t'
  | _ => none

def readUnit? (input : List Char) : Option (Nat × List Char) :=
  if (input.take 4).length = 4 then (readHex? (input.take 4)).map fun unit => (unit, input.drop 4) else none

def readSecond? : List Char → Option (Nat × List Char)
  | '\\' :: 'u' :: input =>
    (readUnit? input).filter fun (unit, _) => 0xDC00 ≤ unit ∧ unit < 0xE000
  | _ => none

/-- Reads the units of a character, behind the letter of its escape. -/
def readUnits? (input : List Char) : Option (Char × List Char) :=
  match readUnit? input with
  | none => none
  | some (unit, rest) =>
    if 0xD800 ≤ unit ∧ unit < 0xDC00 then
      (readSecond? rest).map fun (second, rest) =>
        (Char.ofNat (0x10000 + (unit - 0xD800) * 0x400 + (second - 0xDC00)), rest)
    else if 0xDC00 ≤ unit ∧ unit < 0xE000 then none
    else some (Char.ofNat unit, rest)

/-- Reads a character of a string. Control characters have to be escaped. -/
def readChar? : List Char → Option (Char × List Char)
  | '\\' :: 'u' :: input => readUnits? input
  | '\\' :: letter :: rest => (escapedBy? letter).map fun c => (c, rest)
  | c :: rest => if c.toNat < 0x20 then none else some (c, rest)
  | [] => none

/-- Reads the characters of a string up to the quote that ends it. Each takes one of the fuel. -/
def readChars? : Nat → List Char → Option (List Char × List Char)
  | 0, _ => none
  | _ + 1, '"' :: rest => some ([], rest)
  | fuel + 1, input =>
    match readChar? input with
    | none => none
    | some (c, rest) => (readChars? fuel rest).map fun (more, rest) => (c :: more, rest)

/-- Reads a string behind its first quote. There are at least as many characters as it stands for. -/
def readString? (input : List Char) : Option (String × List Char) :=
  (readChars? input.length input).map fun (chars, rest) => (String.ofList chars, rest)

def readDigits? (input : List Char) : Option (Nat × List Char) :=
  match input.takeWhile Char.isDigit with
  | [] => none
  | digits => some (Nat.ofDigitChars 10 digits 0, input.dropWhile Char.isDigit)

def readNumber? : List Char → Option (Int × List Char)
  | '-' :: input => (readDigits? input).map fun (digits, rest) => (-digits, rest)
  | input => (readDigits? input).map fun (digits, rest) => (digits, rest)

/-- What is behind a mark, if it comes next. -/
def behind? (mark : Char) (input : List Char) : Option (List Char) :=
  match skipBlanks input with
  | [] => none
  | c :: rest => if c = mark then some rest else none

/-- Reads the name of a field and what stands between it and the value. -/
def readName? (input : List Char) : Option (String × List Char) :=
  match (behind? '"' input).bind readString? with
  | none => none
  | some (name, rest) => (behind? ':' rest).map fun rest => (name, rest)

mutual

/-- Reads a value. Each part of it takes one of the fuel. -/
def readValue? : Nat → List Char → Option (Json × List Char)
  | 0, _ => none
  | fuel + 1, input =>
    match skipBlanks input with
    | 'n' :: 'u' :: 'l' :: 'l' :: rest => some (.null, rest)
    | '"' :: input => (readString? input).map fun (shown, rest) => (.text shown, rest)
    | '[' :: input =>
      match behind? ']' input with
      | some rest => some (.array [], rest)
      | none => (readItems? fuel input).map fun (items, rest) => (.array items, rest)
    | '\x7b' :: input =>
      match behind? '\x7d' input with
      | some rest => some (.object [], rest)
      | none => (readFields? fuel input).map fun (fields, rest) => (.object fields, rest)
    | input => (readNumber? input).map fun (value, rest) => (.number value, rest)

/-- Reads the items of a list up to the bracket that ends it. There is at least one. -/
def readItems? : Nat → List Char → Option (List Json × List Char)
  | 0, _ => none
  | fuel + 1, input =>
    match readValue? fuel input with
    | none => none
    | some (item, rest) =>
      match behind? ',' rest with
      | some rest => (readItems? fuel rest).map fun (items, rest) => (item :: items, rest)
      | none => (behind? ']' rest).map fun rest => ([item], rest)

/-- Reads the fields of an object up to the bracket that ends it. There is at least one. -/
def readFields? : Nat → List Char → Option (List (String × Json) × List Char)
  | 0, _ => none
  | fuel + 1, input =>
    match readName? input with
    | none => none
    | some (name, input) =>
      match readValue? fuel input with
      | none => none
      | some (value, rest) =>
        match behind? ',' rest with
        | some rest => (readFields? fuel rest).map fun (fields, rest) => ((name, value) :: fields, rest)
        | none => (behind? '\x7d' rest).map fun rest => ([(name, value)], rest)

end

/-- The value that a text denotes, with nothing but blanks around it. -/
def read? (input : String) : Option Json :=
  match readValue? (input.toList.length + 1) input.toList with
  | none => none
  | some (value, rest) => if skipBlanks rest = [] then some value else none

/-! ### Strings -/

theorem hexValue?_hexDigit : ∀ digit < 16, hexValue? (hexDigit digit) = some digit := by decide

theorem readHex?_paddedHex {width n : Nat} (fits : n < Nat.pow 16 width) :
    readHex? (paddedHex width n) = some n := by
  induction width generalizing n with
  | zero =>
      obtain rfl : n = 0 := Nat.lt_one_iff.mp fits
      rfl
  | succ width ih =>
      have front : n / 16 < Nat.pow 16 width := Nat.div_lt_of_lt_mul (by rwa [Nat.mul_comm])
      have digits : (paddedHex width (n / 16)).foldlM
          (fun value c => (hexValue? c).map (value * 16 + ·)) 0 = some (n / 16) := ih front
      have last := hexValue?_hexDigit (n % 16) (Nat.mod_lt n (by decide))
      rw [readHex?, paddedHex, List.foldlM_append, digits]
      simp [last, Nat.div_add_mod']

theorem length_paddedHex (width n : Nat) : (paddedHex width n).length = width := by
  induction width generalizing n with
  | zero => rfl
  | succ width ih => rw [paddedHex, List.length_append, ih, List.length_singleton]

theorem readUnit?_paddedHex {unit : Nat} (small : unit < 0x10000) (rest : List Char) :
    readUnit? (paddedHex 4 unit ++ rest) = some (unit, rest) := by
  have front : (paddedHex 4 unit ++ rest).take 4 = paddedHex 4 unit :=
    List.take_left' (length_paddedHex 4 unit)
  have behind : (paddedHex 4 unit ++ rest).drop 4 = rest := List.drop_left' (length_paddedHex 4 unit)
  have fits : unit < Nat.pow 16 4 := small
  rw [readUnit?, front, behind, length_paddedHex, if_pos rfl, readHex?_paddedHex fits]
  rfl

/-- A character of one unit. -/
theorem readUnits?_paddedHex {c : Char} (small : c.toNat < 0x10000) (rest : List Char) :
    readUnits? (paddedHex 4 c.toNat ++ rest) = some (c, rest) := by
  have valid : c.toNat < 0xD800 ∨ 0xDFFF < c.toNat ∧ c.toNat < 0x110000 := c.valid
  rw [readUnits?, readUnit?_paddedHex small]
  dsimp only
  rw [if_neg (by omega), if_neg (by omega), Char.ofNat_toNat]

/-- A character of two units. -/
theorem readUnits?_unitEscape {c : Char} (large : 0x10000 ≤ c.toNat) (rest : List Char) :
    readUnits? (paddedHex 4 (0xD800 + (c.toNat - 0x10000) / 0x400) ++
      (unitEscape (0xDC00 + (c.toNat - 0x10000) % 0x400) ++ rest)) = some (c, rest) := by
  have valid : c.toNat < 0xD800 ∨ 0xDFFF < c.toNat ∧ c.toNat < 0x110000 := c.valid
  have second : readSecond? (unitEscape (0xDC00 + (c.toNat - 0x10000) % 0x400) ++ rest) =
      some (0xDC00 + (c.toNat - 0x10000) % 0x400, rest) := by
    rw [unitEscape, List.cons_append, List.cons_append, readSecond?, readUnit?_paddedHex (by omega)]
    rw [Option.filter_some, if_pos (by simp; omega)]
  have number : 0x10000 + (0xD800 + (c.toNat - 0x10000) / 0x400 - 0xD800) * 0x400 +
      (0xDC00 + (c.toNat - 0x10000) % 0x400 - 0xDC00) = c.toNat := by omega
  rw [readUnits?, readUnit?_paddedHex (by omega)]
  dsimp only
  rw [if_pos (by omega), second, Option.map_some]
  dsimp only
  rw [number, Char.ofNat_toNat]

theorem readChar?_unitEscape (unit : Nat) (rest : List Char) :
    readChar? (unitEscape unit ++ rest) = readUnits? (paddedHex 4 unit ++ rest) := by
  rw [unitEscape, List.cons_append, List.cons_append, readChar?]

/-- A character is read as it was written, whatever comes behind it. -/
theorem readChar?_escapeChar (c : Char) (rest : List Char) :
    readChar? (escapeChar c ++ rest) = some (c, rest) := by
  unfold escapeChar
  split
  · next special => rcases special with rfl | rfl <;> rfl
  · next plain =>
      split
      · next same => subst same; rfl
      split
      · next same => subst same; rfl
      split
      · next same => subst same; rfl
      split
      · next same => subst same; rfl
      split
      · next same => subst same; rfl
      split
      · next printable =>
          rw [List.singleton_append, readChar?]
          · rw [if_neg (by omega)]
          · rintro input rfl -
            exact plain (.inr rfl)
          · rintro letter input rfl -
            exact plain (.inr rfl)
      split
      · next small => rw [readChar?_unitEscape, readUnits?_paddedHex small]
      · next large =>
          rw [List.append_assoc, readChar?_unitEscape, readUnits?_unitEscape (by omega)]

/-- No character is written with a quote in front. -/
theorem exists_escapeChar (c : Char) : ∃ first more, escapeChar c = first :: more ∧ first ≠ '"' := by
  unfold escapeChar
  split
  · exact ⟨_, _, rfl, by decide⟩
  · next plain =>
      -- All but the printable characters are written with a backslash.
      repeat' split
      all_goals first
        | exact ⟨_, _, rfl, by decide⟩
        | exact ⟨c, [], rfl, fun same => plain (.inl same)⟩

/-- The characters of a string are read one after the other. -/
theorem readChars?_escapeChar (fuel : Nat) (c : Char) (rest : List Char) :
    readChars? (fuel + 1) (escapeChar c ++ rest) =
      (readChars? fuel rest).map fun (more, rest) => (c :: more, rest) := by
  obtain ⟨first, more, written, noQuote⟩ := exists_escapeChar c
  rw [readChars?, readChar?_escapeChar]
  intro behind same
  rw [written] at same
  exact noQuote (List.cons.inj same).1

theorem readChars?_flatMap {fuel : Nat} {shown : List Char} (enough : shown.length < fuel)
    (rest : List Char) : readChars? fuel (shown.flatMap escapeChar ++ '"' :: rest) = some (shown, rest) := by
  induction shown generalizing fuel with
  | nil =>
      obtain ⟨fuel, rfl⟩ := Nat.exists_eq_succ_of_ne_zero (Nat.ne_of_gt enough)
      rw [List.flatMap_nil, List.nil_append, readChars?]
  | cons c more ih =>
      obtain ⟨fuel, rfl⟩ := Nat.exists_eq_succ_of_ne_zero (Nat.ne_zero_of_lt enough)
      rw [List.flatMap_cons, List.append_assoc, readChars?_escapeChar,
        ih (Nat.lt_of_succ_lt_succ enough)]
      rfl

theorem length_le_flatMap_escapeChar (shown : List Char) :
    shown.length ≤ (shown.flatMap escapeChar).length := by
  induction shown with
  | nil => exact Nat.le_refl _
  | cons c more ih =>
      obtain ⟨first, behind, written, -⟩ := exists_escapeChar c
      simp only [List.flatMap_cons, written, List.length_append, List.length_cons]
      omega

/-- A string is read behind its first quote as it was written. -/
theorem readString?_printText (shown : String) (rest : List Char) :
    readString? (shown.toList.flatMap escapeChar ++ '"' :: rest) = some (shown, rest) := by
  have enough := length_le_flatMap_escapeChar shown.toList
  rw [readString?, readChars?_flatMap (by rw [List.length_append, List.length_cons]; omega),
    Option.map_some]
  dsimp only
  rw [String.ofList_toList]

theorem toList_printText (shown : String) (rest : List Char) :
    (printText shown).toList ++ rest = '"' :: (shown.toList.flatMap escapeChar ++ '"' :: rest) := by
  rw [printText, String.toList_ofList, List.append_assoc, List.cons_append, List.singleton_append]

/-! ### Numbers -/

/-- Is it no digit with which a text goes on? -/
def NoDigitNext (rest : List Char) : Prop := ∀ c ∈ rest.head?, c.isDigit = false

theorem takeWhile_isDigit_append {digits rest : List Char} (allDigits : ∀ c ∈ digits, c.isDigit = true)
    (noDigit : NoDigitNext rest) :
    (digits ++ rest).takeWhile Char.isDigit = digits ∧ (digits ++ rest).dropWhile Char.isDigit = rest := by
  rw [List.takeWhile_append_of_pos allDigits, List.dropWhile_append_of_pos allDigits]
  cases rest with
  | nil => simp
  | cons c rest =>
      have stops : c.isDigit = false := noDigit c rfl
      simp [stops]

theorem readDigits?_repr (n : Nat) {rest : List Char} (noDigit : NoDigitNext rest) :
    readDigits? (n.repr.toList ++ rest) = some (n, rest) := by
  have allDigits : ∀ c ∈ Nat.toDigits 10 n, c.isDigit = true := fun _ =>
    Nat.isDigit_of_mem_toDigits (by decide) (by decide)
  obtain ⟨digits, behind⟩ := takeWhile_isDigit_append allDigits noDigit
  rw [Nat.toList_repr, readDigits?, digits, behind]
  split
  · next none => simp at none
  · rw [Nat.ofDigitChars_ten_toDigits]

/-- A number is read as it was written, unless a digit comes behind it. -/
theorem readNumber?_toString (value : Int) {rest : List Char} (noDigit : NoDigitNext rest) :
    readNumber? ((toString value).toList ++ rest) = some (value, rest) := by
  cases value with
  | ofNat n =>
      change readNumber? (n.repr.toList ++ rest) = _
      rw [readNumber?, readDigits?_repr n noDigit]
      · rfl
      · -- A digit is no sign.
        intro behind same
        obtain ⟨digit, more, digits⟩ := List.exists_cons_of_ne_nil (Nat.toDigits_ne_nil (n := n) (b := 10))
        have isDigit : digit.isDigit = true :=
          Nat.isDigit_of_mem_toDigits (by decide) (by decide) (digits ▸ List.mem_cons_self)
        rw [Nat.toList_repr, digits] at same
        obtain rfl := (List.cons.inj same).1
        cases isDigit
  | negSucc n =>
      change readNumber? (("-" ++ (n + 1).repr).toList ++ rest) = _
      rw [String.toList_append, List.append_assoc]
      change readNumber? ('-' :: ((n + 1).repr.toList ++ rest)) = _
      rw [readNumber?, readDigits?_repr _ noDigit]
      rfl

/-! ### Layout -/

/-- The text begins with this character, which is no blank. -/
theorem behind?_cons {c : Char} (noBlank : isBlank c = false) (mark : Char) (rest : List Char) :
    behind? mark (c :: rest) = if c = mark then some rest else none := by
  have starts : skipBlanks (c :: rest) = c :: rest := by
    rw [skipBlanks, List.dropWhile_cons_of_neg (by simp [noBlank])]
  rw [behind?, starts]

theorem skipBlanks_of_behind? {mark : Char} {input rest : List Char}
    (found : behind? mark input = some rest) : skipBlanks input = mark :: rest := by
  unfold behind? at found
  split at found
  · cases found
  · next c more starts =>
      split at found
      · next same => rw [starts, same, Option.some.inj found]
      · cases found

/-- Blanks in front of a value do not matter. -/
theorem readValue?_congr {input other : List Char} (fuel : Nat)
    (same : skipBlanks input = skipBlanks other) : readValue? fuel input = readValue? fuel other := by
  cases fuel with
  | zero => rw [readValue?, readValue?]
  | succ fuel => rw [readValue?, readValue?, same]

section LineStart

variable (level : Nat) (input : List Char)

theorem skipBlanks_lineStart : skipBlanks ((lineStart level).toList ++ input) = skipBlanks input := by
  refine List.dropWhile_append_of_pos fun c member => ?_
  simp only [lineStart, String.toList_append, String.toList_ofList, List.mem_append,
    List.mem_replicate] at member
  rcases member with member | ⟨-, rfl⟩
  · obtain rfl : c = '\n' := by simpa using member
    rfl
  · rfl

theorem behind?_lineStart (mark : Char) :
    behind? mark ((lineStart level).toList ++ input) = behind? mark input := by
  rw [behind?, behind?, skipBlanks_lineStart]

theorem readName?_lineStart : readName? ((lineStart level).toList ++ input) = readName? input := by
  rw [readName?, readName?, behind?_lineStart]

theorem readValue?_lineStart (fuel : Nat) :
    readValue? fuel ((lineStart level).toList ++ input) = readValue? fuel input :=
  readValue?_congr fuel (skipBlanks_lineStart level input)

theorem noDigitNext_lineStart : NoDigitNext ((lineStart level).toList ++ input) := by
  intro c member
  simp only [lineStart, String.toList_append] at member
  obtain rfl : c = '\n' := by simpa [eq_comm] using member
  rfl

end LineStart

theorem noDigitNext_comma (rest : List Char) : NoDigitNext (',' :: rest) := by
  rintro c ⟨⟩
  rfl

/-- Parts on lines of their own, with commas between. -/
def spread (level : Nat) (parts : List String) : List Char :=
  [','].intercalate (parts.map fun part => (lineStart level).toList ++ part.toList)

theorem toList_bracketed (level : Nat) (opening closing : Char) {parts : List String} (some : parts ≠ [])
    (rest : List Char) :
    (bracketed level (String.singleton opening) (String.singleton closing) parts).toList ++ rest =
      opening :: (spread (level + 1) parts ++ ((lineStart level).toList ++ closing :: rest)) := by
  cases parts with
  | nil => exact absurd rfl some
  | cons first parts =>
      simp only [bracketed, String.toList_append, String.toList_intercalate, List.map_map, spread,
        Function.comp_def, String.toList_singleton, List.append_assoc, List.cons_append, List.nil_append]
      rfl

theorem spread_singleton (level : Nat) (part : String) (rest : List Char) :
    spread level [part] ++ rest = (lineStart level).toList ++ (part.toList ++ rest) := by
  rw [spread, List.map_singleton, List.intercalate_singleton, List.append_assoc]

theorem spread_cons_cons (level : Nat) (part next : String) (parts : List String) (rest : List Char) :
    spread level (part :: next :: parts) ++ rest =
      (lineStart level).toList ++ (part.toList ++ ',' :: (spread level (next :: parts) ++ rest)) := by
  simp [spread, List.intercalate_cons_cons]

/-! ### Values -/

/-- A text that begins as a number does denotes a number if anything. -/
theorem readValue?_number {c : Char} (begins : c = '-' ∨ c.isDigit = true) (fuel : Nat) (input : List Char) :
    readValue? (fuel + 1) (c :: input) =
      (readNumber? (c :: input)).map fun (value, rest) => (.number value, rest) := by
  have others : [' ', '\n', '\r', '\t', 'n', '"', '[', '\x7b'].all (fun c => c != '-' && !c.isDigit) = true :=
    rfl
  have noOther : c ∉ [' ', '\n', '\r', '\t', 'n', '"', '[', '\x7b'] := by
    intro member
    have excluded := List.all_eq_true.mp others c member
    rcases begins with rfl | digit
    · cases excluded
    · simp [digit] at excluded
  simp only [List.mem_cons, List.not_mem_nil, or_false, not_or] at noOther
  have starts : skipBlanks (c :: input) = c :: input := by
    rw [skipBlanks, List.dropWhile_cons_of_neg (by simp [isBlank, noOther])]
  rw [readValue?, starts]
  split <;> simp_all

theorem exists_toString_cons (value : Int) :
    ∃ c more, (toString value).toList = c :: more ∧ (c = '-' ∨ c.isDigit = true) := by
  cases value with
  | ofNat n =>
      obtain ⟨digit, more, digits⟩ := List.exists_cons_of_ne_nil (Nat.toDigits_ne_nil (n := n) (b := 10))
      refine ⟨digit, more, (Nat.toList_repr (n := n)).trans digits, .inr ?_⟩
      exact Nat.isDigit_of_mem_toDigits (by decide) (by decide) (digits ▸ List.mem_cons_self)
  | negSucc n => exact ⟨'-', (n + 1).repr.toList, String.toList_append .., .inl rfl⟩

/-- Where items are read, the list is not closed at once. -/
theorem readValue?_array {input rest : List Char} {fuel : Nat} {items : List Json}
    (read : readItems? fuel input = some (items, rest)) :
    readValue? (fuel + 1) ('[' :: input) = some (.array items, rest) := by
  have notClosed : behind? ']' input = none := by
    cases closed : behind? ']' input with
    | none => rfl
    | some behind =>
        match fuel with
        | 0 | 1 => cases read
        | fuel + 2 =>
            rw [readItems?, readValue?, skipBlanks_of_behind? closed] at read
            cases read
  have opened : skipBlanks ('[' :: input) = '[' :: input := rfl
  rw [readValue?, opened]
  simp only [notClosed, read]
  rfl

/-- Where fields are read, the object is not closed at once. -/
theorem readValue?_object {input rest : List Char} {fuel : Nat} {fields : List (String × Json)}
    (read : readFields? fuel input = some (fields, rest)) :
    readValue? (fuel + 1) ('\x7b' :: input) = some (.object fields, rest) := by
  have notClosed : behind? '\x7d' input = none := by
    cases closed : behind? '\x7d' input with
    | none => rfl
    | some behind =>
        cases fuel with
        | zero => cases read
        | succ fuel =>
            have noName : behind? '"' input = none := by
              rw [behind?, skipBlanks_of_behind? closed]
              rfl
            rw [readFields?, readName?, noName] at read
            cases read
  have opened : skipBlanks ('\x7b' :: input) = '\x7b' :: input := rfl
  rw [readValue?, opened]
  simp only [notClosed, read]
  rfl

theorem skipBlanks_space (input : List Char) : skipBlanks (' ' :: input) = skipBlanks input := rfl

/-- The name of a field is read up to what comes behind the colon. -/
theorem readName?_printField (name shown : String) (rest : List Char) :
    readName? ((printText name ++ ": " ++ shown).toList ++ rest) =
      some (name, ' ' :: (shown.toList ++ rest)) := by
  have written : (printText name ++ ": " ++ shown).toList ++ rest =
      '"' :: (name.toList.flatMap escapeChar ++ '"' :: ':' :: ' ' :: (shown.toList ++ rest)) := by
    rw [← toList_printText]
    simp
  rw [written, readName?, behind?_cons rfl, if_pos rfl, Option.bind_some, readString?_printText]
  rfl

mutual

def fuelOf : Json → Nat
  | .array items => fuelOfItems items + 1
  | .object fields => fuelOfFields fields + 1
  | _ => 1

def fuelOfItems : List Json → Nat
  | [] => 0
  | item :: items => item.fuelOf + fuelOfItems items + 1

def fuelOfFields : List (String × Json) → Nat
  | [] => 0
  | (_, value) :: fields => value.fuelOf + fuelOfFields fields + 1

end

/-- No value is read without fuel. -/
theorem exists_less_of_fuelOf_le {value : Json} {fuel : Nat} (enough : value.fuelOf ≤ fuel) :
    ∃ less, fuel = less + 1 := by
  have positive : 0 < value.fuelOf := by cases value <;> simp [fuelOf]
  exact Nat.exists_eq_add_one_of_ne_zero (Nat.ne_of_gt (Nat.lt_of_lt_of_le positive enough))

mutual

/-- A value is read as it was printed, unless a digit comes behind it. -/
theorem readValue?_printAt : ∀ (value : Json) (level fuel : Nat) (rest : List Char),
    value.fuelOf ≤ fuel → NoDigitNext rest →
      readValue? fuel ((value.printAt level).toList ++ rest) = some (value, rest)
  | .null, level, fuel, rest, enough, _ => by
      obtain ⟨fuel, rfl⟩ := exists_less_of_fuelOf_le enough
      have written : (printAt level .null).toList ++ rest = 'n' :: 'u' :: 'l' :: 'l' :: rest := by
        simp [printAt]
      rw [written, readValue?]
      rfl
  | .number value, level, fuel, rest, enough, noDigit => by
      obtain ⟨fuel, rfl⟩ := exists_less_of_fuelOf_le enough
      obtain ⟨c, more, written, begins⟩ := exists_toString_cons value
      have read := readNumber?_toString value noDigit
      rw [written, List.cons_append] at read
      rw [printAt, written, List.cons_append, readValue?_number begins, read]
      rfl
  | .text shown, level, fuel, rest, enough, _ => by
      obtain ⟨fuel, rfl⟩ := exists_less_of_fuelOf_le enough
      rw [printAt, toList_printText, readValue?]
      change (readString? _).map _ = _
      rw [readString?_printText]
      rfl
  | .array [], level, fuel, rest, enough, _ => by
      obtain ⟨fuel, rfl⟩ := exists_less_of_fuelOf_le enough
      have written : (printAt level (.array [])).toList ++ rest = '[' :: ']' :: rest := by
        simp [printAt, printItems, bracketed]
      rw [written, readValue?]
      rfl
  | .array (item :: items), level, fuel, rest, enough, _ => by
      obtain ⟨fuel, rfl⟩ := exists_less_of_fuelOf_le enough
      rw [fuelOf] at enough
      have some : printItems (level + 1) (item :: items) ≠ [] := by rw [printItems]; nofun
      have written := toList_bracketed level '[' ']' some rest
      rw [printAt]
      exact (congrArg _ written).trans (readValue?_array
        (readItems?_printItems (item :: items) (level + 1) level fuel rest nofun
          (Nat.le_of_succ_le_succ enough)))
  | .object [], level, fuel, rest, enough, _ => by
      obtain ⟨fuel, rfl⟩ := exists_less_of_fuelOf_le enough
      have written : (printAt level (.object [])).toList ++ rest = '\x7b' :: '\x7d' :: rest := by
        simp [printAt, printFields, bracketed]
      rw [written, readValue?]
      rfl
  | .object ((name, value) :: fields), level, fuel, rest, enough, _ => by
      obtain ⟨fuel, rfl⟩ := exists_less_of_fuelOf_le enough
      rw [fuelOf] at enough
      have some : printFields (level + 1) ((name, value) :: fields) ≠ [] := by rw [printFields]; nofun
      have written := toList_bracketed level '\x7b' '\x7d' some rest
      rw [printAt]
      exact (congrArg _ written).trans (readValue?_object
        (readFields?_printFields ((name, value) :: fields) (level + 1) level fuel rest nofun
          (Nat.le_of_succ_le_succ enough)))

/-- Items are read as they were printed. -/
theorem readItems?_printItems : ∀ (items : List Json) (level outer fuel : Nat) (rest : List Char),
    items ≠ [] → fuelOfItems items ≤ fuel →
      readItems? fuel (spread level (printItems level items) ++
        ((lineStart outer).toList ++ ']' :: rest)) = some (items, rest)
  | [], _, _, _, _, noItem, _ => absurd rfl noItem
  | [item], level, outer, fuel, rest, _, enough => by
      rw [fuelOfItems] at enough
      obtain ⟨fuel, rfl⟩ : ∃ less, fuel = less + 1 := Nat.exists_eq_add_of_le' (Nat.le_of_add_left_le enough)
      rw [printItems, printItems, spread_singleton, readItems?, readValue?_lineStart,
        readValue?_printAt item level fuel _ (by omega) (noDigitNext_lineStart outer _)]
      simp only [behind?_lineStart]
      rfl
  | item :: next :: items, level, outer, fuel, rest, _, enough => by
      rw [fuelOfItems] at enough
      obtain ⟨fuel, rfl⟩ : ∃ less, fuel = less + 1 := Nat.exists_eq_add_of_le' (Nat.le_of_add_left_le enough)
      have readMore := readItems?_printItems (next :: items) level outer fuel rest nofun (by omega)
      rw [printItems] at readMore ⊢
      rw [printItems, spread_cons_cons, readItems?, readValue?_lineStart,
        readValue?_printAt item level fuel _ (by omega) (noDigitNext_comma _)]
      simp only [behind?_cons (c := ',') rfl, if_true, readMore]
      rfl

/-- Fields are read as they were printed. -/
theorem readFields?_printFields : ∀ (fields : List (String × Json)) (level outer fuel : Nat)
    (rest : List Char), fields ≠ [] → fuelOfFields fields ≤ fuel →
      readFields? fuel (spread level (printFields level fields) ++
        ((lineStart outer).toList ++ '\x7d' :: rest)) = some (fields, rest)
  | [], _, _, _, _, noField, _ => absurd rfl noField
  | [(name, value)], level, outer, fuel, rest, _, enough => by
      rw [fuelOfFields] at enough
      obtain ⟨fuel, rfl⟩ : ∃ less, fuel = less + 1 := Nat.exists_eq_add_of_le' (Nat.le_of_add_left_le enough)
      rw [printFields, printFields, spread_singleton, readFields?, readName?_lineStart, readName?_printField]
      dsimp only
      rw [readValue?_congr fuel (skipBlanks_space _),
        readValue?_printAt value level fuel _ (by omega) (noDigitNext_lineStart outer _)]
      simp only [behind?_lineStart]
      rfl
  | (name, value) :: (next, more) :: fields, level, outer, fuel, rest, _, enough => by
      rw [fuelOfFields] at enough
      obtain ⟨fuel, rfl⟩ : ∃ less, fuel = less + 1 := Nat.exists_eq_add_of_le' (Nat.le_of_add_left_le enough)
      have readMore := readFields?_printFields ((next, more) :: fields) level outer fuel rest nofun (by omega)
      rw [printFields] at readMore ⊢
      rw [printFields, spread_cons_cons, readFields?, readName?_lineStart, readName?_printField]
      dsimp only
      rw [readValue?_congr fuel (skipBlanks_space _),
        readValue?_printAt value level fuel _ (by omega) (noDigitNext_comma _)]
      simp only [behind?_cons (c := ',') rfl, if_true, readMore]
      rfl

end

/-! ### Fuel -/

theorem length_lineStart_pos (level : Nat) : 0 < (lineStart level).toList.length := by
  simp [lineStart]

mutual

/-- What is printed of a value is long enough to be read with its length as fuel. -/
theorem fuelOf_le_length : ∀ (value : Json) (level : Nat),
    value.fuelOf ≤ (value.printAt level).toList.length
  | .null, level => by simp [fuelOf, printAt]
  | .number value, level => by
      obtain ⟨c, more, written, -⟩ := exists_toString_cons value
      rw [fuelOf, printAt, written, List.length_cons]
      · exact Nat.succ_le_succ (Nat.zero_le _)
      all_goals nofun
  | .text shown, level => by
      rw [fuelOf, printAt, ← List.append_nil (printText shown).toList, toList_printText, List.length_cons]
      · exact Nat.succ_le_succ (Nat.zero_le _)
      all_goals nofun
  | .array [], level => by simp [fuelOf, fuelOfItems, printAt, printItems, bracketed]
  | .array (item :: items), level => by
      have some : printItems (level + 1) (item :: items) ≠ [] := by rw [printItems]; nofun
      have written := congrArg List.length (toList_bracketed level '[' ']' some [])
      have inside := fuelOfItems_le_length (item :: items) (level + 1) nofun
      simp only [List.append_nil, List.length_cons, List.length_append] at written
      rw [fuelOf, printAt]
      change _ ≤ (bracketed level (String.singleton '[') (String.singleton ']') _).toList.length
      omega
  | .object [], level => by simp [fuelOf, fuelOfFields, printAt, printFields, bracketed]
  | .object (field :: fields), level => by
      have some : printFields (level + 1) (field :: fields) ≠ [] := by rw [printFields]; nofun
      have written := congrArg List.length (toList_bracketed level '\x7b' '\x7d' some [])
      have inside := fuelOfFields_le_length (field :: fields) (level + 1) nofun
      simp only [List.append_nil, List.length_cons, List.length_append] at written
      rw [fuelOf, printAt]
      change _ ≤ (bracketed level (String.singleton '\x7b') (String.singleton '\x7d') _).toList.length
      omega

theorem fuelOfItems_le_length : ∀ (items : List Json) (level : Nat), items ≠ [] →
    fuelOfItems items ≤ (spread level (printItems level items)).length
  | [], _, noItem => absurd rfl noItem
  | [item], level, _ => by
      have part := fuelOf_le_length item level
      have line := length_lineStart_pos level
      rw [fuelOfItems, fuelOfItems, printItems, printItems,
        ← List.append_nil (spread level _), spread_singleton]
      simp only [List.length_append]
      omega
  | item :: next :: items, level, _ => by
      have part := fuelOf_le_length item level
      have more := fuelOfItems_le_length (next :: items) level nofun
      rw [fuelOfItems, printItems]
      rw [printItems] at more ⊢
      rw [← List.append_nil (spread level _), spread_cons_cons]
      simp only [List.length_append, List.length_cons]
      omega

theorem fuelOfFields_le_length : ∀ (fields : List (String × Json)) (level : Nat), fields ≠ [] →
    fuelOfFields fields ≤ (spread level (printFields level fields)).length
  | [], _, noField => absurd rfl noField
  | [(name, value)], level, _ => by
      have part := fuelOf_le_length value level
      have line := length_lineStart_pos level
      rw [fuelOfFields, fuelOfFields, printFields, printFields,
        ← List.append_nil (spread level _), spread_singleton]
      simp only [List.length_append, String.toList_append]
      omega
  | (name, value) :: next :: fields, level, _ => by
      have part := fuelOf_le_length value level
      have more := fuelOfFields_le_length (next :: fields) level nofun
      rw [fuelOfFields, printFields]
      rw [printFields] at more ⊢
      rw [← List.append_nil (spread level _), spread_cons_cons]
      simp only [List.length_append, List.length_cons, String.toList_append]
      omega

end

end Bindery.Text.Json
