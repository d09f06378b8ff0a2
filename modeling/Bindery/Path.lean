/-
Module: Bindery.Path
Layer: Path
Purpose: Slash-separated paths in normal form. Repeated slashes collapse, `.` components and a
  trailing slash vanish, `..` stays, the empty text is the current directory, and a leading slash
  stays (exactly two leading slashes stay two). Equality is equality of normal forms.
Imports: Bindery.Text.Split
Main exports: Anchor, Path, Path.ofString, Path.toString, Path.join
-/
import Bindery.Text.Split

namespace Bindery

/-- What a path starts from: the current directory, the root, or the double-slash root. -/
inductive Anchor where
  | current
  | root
  | doubleRoot
deriving DecidableEq, Repr, Inhabited

/-- How an anchor is written. -/
def Anchor.toString : Anchor → String
  | .current => ""
  | .root => "/"
  | .doubleRoot => "//"

/-- A path: its anchor and the components that follow it. -/
structure Path where
  anchor : Anchor
  components : List String
deriving DecidableEq, Repr, Inhabited

namespace Path

/-- The anchor that a text starts with. Three or more slashes count as one. -/
def anchorOf : List Char → Anchor
  | '/' :: '/' :: '/' :: _ => .root
  | '/' :: '/' :: _ => .doubleRoot
  | '/' :: _ => .root
  | _ => .current

/-- A piece that names a component: neither empty nor the current directory. -/
def isComponent (piece : List Char) : Bool := piece ≠ [] && piece ≠ ['.']

/-- The normal form of a path text. -/
def ofString (text : String) : Path where
  anchor := anchorOf text.toList
  components := ((Text.piecesBetween '/' text.toList).filter isComponent).map String.ofList

/-- The text of a path. A path without anchor and components is written `.`. -/
protected def toString (path : Path) : String :=
  match path.anchor, path.components with
  | .current, [] => "."
  | anchor, components => anchor.toString ++ "/".intercalate components

/-- The second path as seen from the first. An anchored path replaces what comes before it. -/
def join (base path : Path) : Path :=
  match path.anchor with
  | .current => { base with components := base.components ++ path.components }
  | _ => path

end Path

end Bindery
