/-
Module: Bindery.CommonMark.Link
Layer: CommonMark
Purpose: The parts that links are written with: destinations, titles and labels. Recognisers take
  the text from where the part should start and give back the text behind it.
Imports: Bindery.CommonMark.Address, Bindery.CommonMark.Entity, Bindery.Text.CaseFold
Main exports: destination?, TitleScan, scanTitle, titleMark?, normalizeLabel, LinkTarget,
  Definitions
-/
import Bindery.CommonMark.Address
import Bindery.CommonMark.Entity
import Bindery.Text.CaseFold

namespace Bindery.CommonMark

/-- A space or a tab. -/
def isSpace (c : Char) : Bool := c = ' ' || c = '\t'

/-! ### Destinations -/

/-- Reads a destination in angle brackets, behind the first of them. `read` is what has been read,
    backwards. -/
def angledDestination? (read : List Char) : List Char → Option (List Char × List Char)
  | [] => none
  | '\\' :: c :: rest => angledDestination? (c :: '\\' :: read) rest
  | c :: rest =>
    if c = '\n' ∨ c = '<' then none
    else if c = '>' then some (read.reverse, rest)
    else angledDestination? (c :: read) rest

/-- Does the character end a destination without brackets? -/
def endsDestination (c : Char) : Bool := c.toNat ≤ 0x20 || c.toNat = 0x7F

/-- Parentheses may not be nested deeper than this in a destination. -/
def deepestParentheses : Nat := 32

/-- The end of a destination without brackets: it must not be empty, and its parentheses must be
    closed. -/
def finishDestination? (depth : Nat) (read rest : List Char) : Option (List Char × List Char) :=
  if depth = 0 ∧ read ≠ [] then some (read.reverse, rest) else none

/-- Reads a destination without brackets. `depth` parentheses are open, and `read` is what has been
    read, backwards. -/
def bareDestination? (depth : Nat) (read : List Char) :
    List Char → Option (List Char × List Char)
  | [] => finishDestination? depth read []
  | '\\' :: c :: rest =>
    if c = ' ' then finishDestination? depth read ('\\' :: c :: rest)
    else bareDestination? depth (c :: '\\' :: read) rest
  | c :: rest =>
    if endsDestination c then finishDestination? depth read (c :: rest)
    else if c = '(' then
      if depth < deepestParentheses then bareDestination? (depth + 1) (c :: read) rest else none
    else if c = ')' then
      if depth = 0 then finishDestination? depth read (c :: rest)
      else bareDestination? (depth - 1) (c :: read) rest
    else bareDestination? depth (c :: read) rest

/-- Reads a destination: what it stands for, and the text behind it. -/
def destination? (text : List Char) : Option (List Char × List Char) :=
  (match text with
    | '<' :: rest => angledDestination? [] rest
    | _ => bareDestination? 0 [] text).map fun (written, rest) => (unescape written, rest)

/-! ### Titles -/

/-- The outcome of reading a title: it is closed, with what has been read backwards and the text
    behind it; it holds what it may not hold; or the text ends first. -/
inductive TitleScan where
  | closed (read rest : List Char)
  | refused
  | unfinished (read : List Char)
deriving DecidableEq, Repr

/-- The mark that closes a title, by the mark that opens it. -/
def titleMark? (c : Char) : Option Char :=
  if c = '"' ∨ c = '\'' then some c else if c = '(' then some ')' else none

/-- Reads a title up to its closing mark. -/
def scanTitle (mark : Char) (read : List Char) : List Char → TitleScan
  | [] => .unfinished read
  | '\\' :: c :: rest => scanTitle mark (c :: '\\' :: read) rest
  | c :: rest =>
    if c = mark then .closed read rest
    else if c = '(' ∧ mark = ')' then .refused
    else scanTitle mark (c :: read) rest

/-- Reads a title that has to end in the text: what it stands for, and the text behind it. -/
def title? : List Char → Option (List Char × List Char)
  | [] => none
  | c :: rest =>
    match titleMark? c with
    | none => none
    | some mark =>
      match scanTitle mark [] rest with
      | .closed read after => some (unescape read.reverse, after)
      | _ => none

/-! ### Labels -/

/-- Labels are compared without regard to case, and to how their blanks are written. -/
def normalizeLabel (label : List Char) : List Char :=
  Text.foldCase (Text.collapseBlanks (Text.trimList label))

/-- Where a link leads. -/
structure LinkTarget where
  address : List Char
  title : List Char
deriving DecidableEq, Repr

/-- The targets that are defined, by their labels in normal form. The first definition of a label
    counts. -/
abbrev Definitions := List (List Char × LinkTarget)

def Definitions.define (definitions : Definitions) (label : List Char) (target : LinkTarget) :
    Definitions :=
  definitions ++ [(label, target)]

/-- The target of a label, written in any form. -/
def Definitions.target? (definitions : Definitions) (label : List Char) : Option LinkTarget :=
  definitions.lookup (normalizeLabel label)

end Bindery.CommonMark
