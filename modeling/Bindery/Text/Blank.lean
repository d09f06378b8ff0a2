/-
Module: Bindery.Text.Blank
Layer: Text
Purpose: Blank characters: Unicode white space together with the four information separators U+001C
  to U+001F. Trimming removes them from the ends of a text.
Imports: Bindery.Text.Ranges
Main exports: isBlank, trimWhere, trimList, trim, collapseBlanks
-/
import Bindery.Text.Ranges

namespace Bindery.Text

/-- The blank code points. -/
def blankRanges : Ranges :=
  [(0x9, 0xD), (0x1C, 0x20), (0x85, 0x85), (0xA0, 0xA0), (0x1680, 0x1680), (0x2000, 0x200A),
   (0x2028, 0x2029), (0x202F, 0x202F), (0x205F, 0x205F), (0x3000, 0x3000)]

/-- Is the character blank? -/
def isBlank (c : Char) : Bool := blankRanges.contains c.toNat

/-- The characters from the first to the last that fails a test. -/
def trimWhere (test : Char → Bool) (text : List Char) : List Char :=
  ((text.dropWhile test).reverse.dropWhile test).reverse

/-- The characters from the first to the last that are not blank. -/
def trimList (text : List Char) : List Char := trimWhere isBlank text

/-- The text without blanks at either end. -/
def trim (text : String) : String := String.ofList (trimList text.toList)

/-- Every run of blanks becomes one space. -/
def collapseBlanks : List Char → List Char
  | [] => []
  | [c] => if isBlank c then [' '] else [c]
  | c :: d :: rest =>
    if isBlank c then
      if isBlank d then collapseBlanks (d :: rest) else ' ' :: collapseBlanks (d :: rest)
    else c :: collapseBlanks (d :: rest)

end Bindery.Text
