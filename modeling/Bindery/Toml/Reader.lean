/-
Module: Bindery.Toml.Reader
Layer: Toml
Purpose: Strings, keys and values of a TOML document. A reader takes the text that is left and gives
  its value with what is left behind it.
Imports: Bindery.Text.Hex, Bindery.Toml.Fault, Bindery.Toml.Scalar
Main exports: Read, readKey, readValue, readPair
-/
import Bindery.Text.Hex
import Bindery.Toml.Fault
import Bindery.Toml.Scalar

namespace Bindery.Toml

/-- The outcome of reading: a value and the text behind it, or a fault. -/
abbrev Read (α : Type) := Except Fault (α × List Char)

/-- A fault at a place. -/
def failAt {α : Type} (problem : Problem) (rest : List Char) : Read α := .error ⟨problem, rest⟩

/-- A space or a tab. -/
def isSpace (c : Char) : Bool := c = ' ' || c = '\t'

/-- A space, a tab or a line feed. -/
def isGap (c : Char) : Bool := isSpace c || c = '\n'

/-- Is the character a control character other than the tab? -/
def isControl (c : Char) : Bool := (c.toNat < 0x20 && c ≠ '\t') || c.toNat = 0x7F

/-- Is the character a control character other than the tab and the line feed? -/
def isControlInLines (c : Char) : Bool := isControl c && c ≠ '\n'

/-! ### Comments -/

/-- The text behind a comment, which ends with its line. -/
def skipComment (text : List Char) : Except Fault (List Char) :=
  match text with
  | '#' :: rest =>
    let comment := rest.takeWhile (· ≠ '\n')
    match comment.dropWhile (!isControl ·) with
    | c :: _ => .error ⟨.foundCharacter c, rest.dropWhile (!isControl ·)⟩
    | [] => .ok (rest.drop comment.length)
  | _ => .ok text

/-- The text behind gaps and comments. -/
def skipGaps : (fuel : Nat) → List Char → Except Fault (List Char)
  | 0, text => .ok text
  | fuel + 1, text =>
    let behind := text.dropWhile isGap
    match skipComment behind with
    | .error fault => .error fault
    | .ok rest => if rest.length = text.length then .ok rest else skipGaps fuel rest

/-! ### Strings -/

/-- The text in front of a mark, and the text behind the mark. -/
def splitAtMark? (mark : List Char) : List Char → Option (List Char × List Char)
  | [] => none
  | c :: rest =>
    if mark.isPrefixOf (c :: rest) then some ([], (c :: rest).drop mark.length)
    else (splitAtMark? mark rest).map fun (front, behind) => (c :: front, behind)

/-- Reads verbatim text up to a mark. -/
def readLiteral (mark : List Char) (isIllegal : Char → Bool) (text : List Char) :
    Read (List Char) :=
  match splitAtMark? mark text with
  | none => failAt (.expected (String.ofList mark)) []
  | some (body, behind) =>
    match body.dropWhile (!isIllegal ·) with
    | c :: _ => failAt (.foundCharacter c) (text.dropWhile (!isIllegal ·))
    | [] => .ok (body, behind)

def escapedChar? : Char → Option Char
  | 'b' => some '\x08'
  | 't' => some '\t'
  | 'n' => some '\n'
  | 'f' => some '\x0C'
  | 'r' => some '\r'
  | '"' => some '"'
  | '\\' => some '\\'
  | _ => none

def readCodePoint (width : Nat) (text : List Char) : Read (List Char) :=
  let digits := text.take width
  match if digits.length = width then Text.readHex? digits else none with
  | none => failAt .invalidHex text
  | some code =>
    if code < 0xD800 ∨ (0xDFFF < code ∧ code ≤ 0x10FFFF) then
      .ok ([Char.ofNat code], text.drop width)
    else failAt .notScalar (text.drop width)

/-- Reads an escape, behind its backslash. In a text of several lines, an escaped line end goes away
    with the gaps behind it. -/
def readEscape (inLines : Bool) (text : List Char) : Read (List Char) :=
  match text with
  | [] => failAt .invalidEscape []
  | c :: rest =>
    if inLines && c = '\n' then .ok ([], rest.dropWhile isGap)
    else if inLines && isSpace c then
      match rest.dropWhile isSpace with
      | [] => .ok ([], [])
      | '\n' :: behind => .ok ([], behind.dropWhile isGap)
      | behind => failAt .invalidEscape behind
    else if c = 'u' then readCodePoint 4 rest
    else if c = 'U' then readCodePoint 8 rest
    else
      match escapedChar? c with
      | some shown => .ok ([shown], rest)
      | none => failAt .invalidEscape rest

/-- Reads text with escapes up to its closing quotes. `read` is what has been read, backwards. -/
def readQuoted (inLines : Bool) : (fuel : Nat) → (read : List Char) → List Char → Read (List Char)
  | 0, _, _ => failAt .unterminated []
  | fuel + 1, read, text =>
    match text with
    | [] => failAt .unterminated []
    | '"' :: rest =>
      if !inLines then .ok (read.reverse, rest)
      else if ['"', '"'].isPrefixOf rest then .ok (read.reverse, rest.drop 2)
      else readQuoted inLines fuel ('"' :: read) rest
    | '\\' :: rest =>
      match readEscape inLines rest with
      | .error fault => .error fault
      | .ok (shown, behind) => readQuoted inLines fuel (shown.reverse ++ read) behind
    | c :: rest =>
      if isControl c && !(inLines && c = '\n') then failAt (.illegalCharacter c) text
      else readQuoted inLines fuel (c :: read) rest

/-- Adds up to two quotes that stand behind the closing ones. -/
def addQuotes (quote : Char) (body rest : List Char) : List Char × List Char :=
  let extra := min 2 (rest.takeWhile (· = quote)).length
  (body ++ List.replicate extra quote, rest.drop extra)

/-- A line feed directly behind the opening quotes does not count. -/
def dropFirstLineEnd : List Char → List Char
  | '\n' :: rest => rest
  | text => text

/-- Reads a string in double quotes on one line, behind the first of them. -/
def readLineString (text : List Char) : Read String :=
  (readQuoted false (text.length + 1) [] text).map fun (body, rest) => (String.ofList body, rest)

/-- Reads a string in single quotes on one line, behind the first of them. -/
def readLineLiteral (text : List Char) : Read String :=
  (readLiteral ['\''] isControl text).map fun (body, rest) => (String.ofList body, rest)

/-- Reads a string, if one starts here. -/
def readString? (text : List Char) : Option (Read String) :=
  match text with
  | '"' :: '"' :: '"' :: rest =>
    let behind := dropFirstLineEnd rest
    some ((readQuoted true (behind.length + 1) [] behind).map fun (body, after) =>
      let (full, left) := addQuotes '"' body after
      (String.ofList full, left))
  | '"' :: rest => some (readLineString rest)
  | '\'' :: '\'' :: '\'' :: rest =>
    some ((readLiteral ['\'', '\'', '\''] isControlInLines (dropFirstLineEnd rest)).map
      fun (body, after) =>
        let (full, left) := addQuotes '\'' body after
        (String.ofList full, left))
  | '\'' :: rest => some (readLineLiteral rest)
  | _ => none

/-! ### Keys -/

/-- May the character stand in a key without quotes? -/
def isBareKeyChar (c : Char) : Bool := c.isAlphanum || c = '-' || c = '_'

def readKeyPart (text : List Char) : Read String :=
  match text with
  | '\'' :: rest => readLineLiteral rest
  | '"' :: rest => readLineString rest
  | _ =>
    match text.takeWhile isBareKeyChar with
    | [] => failAt .keyStart text
    | part => .ok (String.ofList part, text.drop part.length)

/-- Reads a key: parts with dots between them. Spaces behind it are passed. -/
def readKeyFrom : (fuel : Nat) → List Char → Read Key
  | 0, text => failAt .keyStart text
  | fuel + 1, text =>
    match readKeyPart text with
    | .error fault => .error fault
    | .ok (part, rest) =>
      match rest.dropWhile isSpace with
      | '.' :: more =>
        (readKeyFrom fuel (more.dropWhile isSpace)).map fun (parts, behind) =>
          (part :: parts, behind)
      | behind => .ok ([part], behind)

def readKey (text : List Char) : Read Key := readKeyFrom (text.length + 1) text

/-! ### Values -/

def readWord? (text : List Char) : Option (Value × List Char) :=
  let words : List (String × Value) :=
    [("true", .boolean true), ("false", .boolean false)]
  (words.find? fun word => word.1.toList.isPrefixOf text).map fun word =>
    (word.2, text.drop word.1.length)

/-- Reads infinity, or the value that is no number. -/
def readSpecial? (text : List Char) : Option (Value × List Char) :=
  let words := ["inf", "nan", "-inf", "+inf", "-nan", "+nan"]
  (words.find? fun word => word.toList.isPrefixOf text).map fun word =>
    (.number word, text.drop word.length)

/-- The text of a given length, and the text behind it. -/
def splitText (length : Nat) (text : List Char) : String × List Char :=
  (String.ofList (text.take length), text.drop length)

/-- Reads a date, a time, a number or a special value. -/
def readScalar (text : List Char) : Read Value :=
  match moment? text with
  | some moment =>
    if moment.isValid then
      let (written, rest) := splitText moment.length text
      .ok (.moment written, rest)
    else failAt .invalidDate text
  | none =>
    match timeLength? text with
    | some length =>
      let (written, rest) := splitText length text
      .ok (.moment written, rest)
    | none =>
      match numberLength? text with
      | some length =>
        let digits := integerDigits (text.take length)
        if longestInteger < digits then failAt (.tooManyDigits digits) text
        else
          let (written, rest) := splitText length text
          .ok (.number written, rest)
      | none =>
        match readSpecial? text with
        | some found => .ok found
        | none => failAt .invalidValue text

/-- Reads a key, the equals sign and a value, given how values are read. -/
def readPairWith (value : List Char → Read Value) (text : List Char) : Read (Key × Value) :=
  match readKey text with
  | .error fault => .error fault
  | .ok (key, rest) =>
    match rest with
    | '=' :: behind =>
      (value (behind.dropWhile isSpace)).map fun (read, left) => ((key, read), left)
    | _ => failAt .missingEquals rest

/-- Is a path inside of one of the paths, or one of them? -/
def isWithin (paths : List Key) (key : Key) : Bool := paths.any (·.isPrefixOf key)

/-- Reads the items of an array from one on. `items` are those in front of it. -/
def readItemsWith (value : List Char → Read Value) :
    (fuel : Nat) → (items : List Value) → List Char → Read (List Value)
  | 0, _, text => failAt .unclosedArray text
  | fuel + 1, items, text =>
    match value text with
    | .error fault => .error fault
    | .ok (item, rest) =>
      let all := items ++ [item]
      match skipGaps (rest.length + 1) rest with
      | .error fault => .error fault
      | .ok (']' :: behind) => .ok (all, behind)
      | .ok (',' :: behind) =>
        match skipGaps (behind.length + 1) behind with
        | .error fault => .error fault
        | .ok (']' :: after) => .ok (all, after)
        | .ok after => readItemsWith value fuel all after
      | .ok left => failAt .unclosedArray left

/-- Is there a value at the end of a path? -/
def hasEntry : Table → Key → Bool
  | _, [] => false
  | table, [name] => (table.find? name).isSome
  | table, name :: path =>
    match table.find? name with
    | some (.table nest) => hasEntry nest path
    | _ => false

/-- Adds an entry to an inline table. Arrays and tables in it cannot be extended. -/
def addEntry (entries : Table) (closed : List Key) (key : Key) (value : Value) (rest : List Char) :
    Except Fault Table :=
  if isWithin closed key then .error ⟨.immutable key, rest⟩
  else if hasEntry entries key then .error ⟨.duplicateKey (key.getLastD ""), rest⟩
  else
    match entries.modifyNest? false (fun nest => some (nest.set (key.getLastD "") value))
        key.dropLast with
    | none => .error ⟨.overwritten, rest⟩
    | some entries' => .ok entries'

/-- Reads the entries of an inline table from one on. `closed` are the paths that cannot be
    extended. -/
def readEntriesWith (value : List Char → Read Value) :
    (fuel : Nat) → (entries : Table) → (closed : List Key) → List Char → Read Table
  | 0, _, _, text => failAt .unclosedTable text
  | fuel + 1, entries, closed, text =>
    match readPairWith value text with
    | .error fault => .error fault
    | .ok ((key, read), rest) =>
      match addEntry entries closed key read rest with
      | .error fault => .error fault
      | .ok entries' =>
        match rest.dropWhile isSpace with
        | '\x7d' :: behind => .ok (entries', behind)
        | ',' :: behind =>
          readEntriesWith value fuel entries' (if read.isNest then key :: closed else closed)
            (behind.dropWhile isSpace)
        | left => failAt .unclosedTable left

/-- Reads a value with so many levels of nesting left. -/
def readValueWithin : (levels : Nat) → List Char → Read Value
  | 0, text => failAt .invalidValue text
  | levels + 1, text =>
    match readString? text with
    | some read => read.map fun (shown, rest) => (.text shown, rest)
    | none =>
      match readWord? text with
      | some found => .ok found
      | none =>
        match text with
        | '[' :: rest =>
          match skipGaps (rest.length + 1) rest with
          | .error fault => .error fault
          | .ok (']' :: behind) => .ok (.array [], behind)
          | .ok behind =>
            (readItemsWith (readValueWithin levels) (behind.length + 1) [] behind).map
              fun (items, after) => (.array items, after)
        | '\x7b' :: rest =>
          match rest.dropWhile isSpace with
          | '\x7d' :: behind => .ok (.table [], behind)
          | behind =>
            (readEntriesWith (readValueWithin levels) (behind.length + 1) [] [] behind).map
              fun (entries, after) => (.table entries, after)
        | _ => readScalar text

def readValue (text : List Char) : Read Value := readValueWithin (text.length + 1) text

/-- Reads a key, the equals sign and a value. -/
def readPair (text : List Char) : Read (Key × Value) := readPairWith readValue text

end Bindery.Toml
