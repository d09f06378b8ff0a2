/-
Module: Bindery.Text.Ranges
Layer: Text
Purpose: Membership of a code point in a table of closed ranges.
Imports: none
Main exports: Ranges, Ranges.contains
-/

namespace Bindery.Text

/-- Closed ranges of code points, ascending and apart. -/
abbrev Ranges := List (Nat × Nat)

/-- Does a range of the table hold the code point? -/
def Ranges.contains (table : Ranges) (code : Nat) : Bool :=
  table.any fun range => range.1 ≤ code && code ≤ range.2

end Bindery.Text
