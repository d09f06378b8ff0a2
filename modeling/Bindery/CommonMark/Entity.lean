/-
Module: Bindery.CommonMark.Entity
Layer: CommonMark
Purpose: Character references: `&name;` for a character with a name, `&#123;` and `&#x7B;` for a
  code point. Code points that no text may hold become the replacement character in running text,
  and are left as they are written in addresses, titles and labels of fences.
Imports: Std.Data.HashMap, Bindery.CommonMark.EntityTable, Bindery.Text.Hex,
  Bindery.Text.Punctuation, Bindery.Text.Split
Main exports: namedCharacters?, isReferable, readReference?, unescape
-/
import Std.Data.HashMap
import Bindery.CommonMark.EntityTable
import Bindery.Text.Hex
import Bindery.Text.Punctuation
import Bindery.Text.Split

namespace Bindery.CommonMark

/-! ### Names -/

/-- Reads an entry of the table: a name, a space, and code points. -/
def readEntry (entry : List Char) : Option (String × String) :=
  match Text.piecesBetween ' ' entry with
  | [name, codes] =>
    ((Text.piecesBetween ',' codes).mapM fun code => (Text.readHex? code).map Char.ofNat).map
      fun shown => (String.ofList name, String.ofList shown)
  | _ => none

/-- The named characters. -/
def entityTable : Std.HashMap String String :=
  Std.HashMap.ofList
    (entityRows.flatMap fun row => (Text.piecesBetween ';' row.toList).filterMap readEntry)

def namedCharacters? (name : List Char) : Option (List Char) :=
  (entityTable[String.ofList name]?).map String.toList

/-! ### Code points -/

/-- May a text hold the code point? Surrogates, noncharacters and most control characters are left
    out. -/
def isReferable (code : Nat) : Bool :=
  !(0xD800 ≤ code && code ≤ 0xDFFF) && !(0xFDD0 ≤ code && code ≤ 0xFDEF) &&
    !(code % 0x10000 = 0xFFFF || code % 0x10000 = 0xFFFE) && !(code ≤ 0x08) && !(code = 0x0B) &&
    !(0x0E ≤ code && code ≤ 0x1F) && !(0x7F ≤ code && code ≤ 0x9F) && code ≤ 0x10FFFF

def readDecimal (digits : List Char) : Nat :=
  digits.foldl (fun value c => value * 10 + (c.toNat - 0x30)) 0

/-- The code point of a numeric reference, given without `&#` and `;`. At most `width` digits are
    allowed, or one less than that for a hexadecimal number if `narrow` is set. -/
def codePoint? (width : Nat) (narrow : Bool) (body : List Char) : Option Nat :=
  match body with
  | 'x' :: digits => hexadecimal digits
  | 'X' :: digits => hexadecimal digits
  | digits =>
    if digits ≠ [] ∧ digits.length ≤ width ∧ digits.all Char.isDigit then some (readDecimal digits)
    else none
where
  /-- The value of hexadecimal digits. -/
  hexadecimal (digits : List Char) : Option Nat :=
    if digits ≠ [] ∧ digits.length ≤ (if narrow then width - 1 else width) then
      Text.readHex? digits
    else none

/-! ### References -/

/-- The text before the first semicolon, and the text after it. -/
def untilSemicolon? : List Char → Option (List Char × List Char)
  | [] => none
  | ';' :: rest => some ([], rest)
  | c :: rest => (untilSemicolon? rest).map fun (body, after) => (c :: body, after)

/-- Reads a character reference in running text, behind its ampersand: the characters that it stands
    for, and how long it is with the ampersand. -/
def readReference? (text : List Char) : Option (List Char × Nat) :=
  match untilSemicolon? (text.take 34) with
  | none => none
  | some ('#' :: body, _) =>
    (codePoint? 7 true body).map fun code =>
      ([if isReferable code then Char.ofNat code else '\uFFFD'], body.length + 3)
  | some (name, _) => (namedCharacters? name).map fun shown => (shown, name.length + 2)

/-- What a reference stands for outside running text, given without `&` and `;`. -/
def meaning? : List Char → Option (List Char)
  | '#' :: body =>
    match codePoint? 8 false body with
    | some code => if isReferable code then some [Char.ofNat code] else none
    | none => none
  | name => namedCharacters? name

/-! ### Escapes -/

/-- Reads backslash escapes and character references; `skip` characters at the front have been read
    already. -/
def unescapeFrom (skip : Nat) : List Char → List Char
  | [] => []
  | c :: rest =>
    if skip > 0 then unescapeFrom (skip - 1) rest
    else if c = '\\' then
      match rest with
      | d :: _ =>
        if Text.isAsciiPunctuation d then d :: unescapeFrom 1 rest else c :: unescapeFrom 0 rest
      | [] => [c]
    else if c = '&' then
      match untilSemicolon? (rest.take 33) with
      | some (body, _) =>
        match meaning? body with
        | some shown => shown ++ unescapeFrom (body.length + 1) rest
        | none => c :: unescapeFrom 0 rest
      | none => c :: unescapeFrom 0 rest
    else c :: unescapeFrom 0 rest

/-- The text that an address, a title or a label stands for. -/
def unescape (text : List Char) : List Char := unescapeFrom 0 text

end Bindery.CommonMark
