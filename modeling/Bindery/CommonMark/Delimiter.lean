/-
Module: Bindery.CommonMark.Delimiter
Layer: CommonMark
Purpose: Emphasis and strikethrough. Runs of `*`, `_` and `~` are written as text tokens, one a
  mark, and remembered as delimiters. Once a line has been read, closing delimiters are paired with
  opening ones, and paired marks become tags.
Imports: Bindery.Prose.Token, Bindery.Text.Blank, Bindery.Text.Punctuation
Main exports: Flanks, flanks, Delimiter, pairDelimiters, resolveDelimiters
-/
import Bindery.Prose.Token
import Bindery.Text.Blank
import Bindery.Text.Punctuation

namespace Bindery.CommonMark

open Prose (Token)

/-! ### Flanks -/

/-- White space next to a run of marks. -/
def flankBlanks : Text.Ranges :=
  [(0x9, 0xD), (0x20, 0x20), (0xA0, 0xA0), (0x1680, 0x1680), (0x2000, 0x200A), (0x202F, 0x202F),
   (0x205F, 0x205F), (0x3000, 0x3000)]

/-- Is the character white space next to a run of marks? -/
def isFlankBlank (c : Char) : Bool := flankBlanks.contains c.toNat

/-- Whether a run of marks can open or close something. -/
structure Flanks where
  opens : Bool
  closes : Bool
deriving DecidableEq, Repr

/-- What a run between two characters can do. The marks of some runs may stand within words. -/
def flanks (before after : Char) (withinWords : Bool) : Flanks :=
  let leftFree := isFlankBlank before || Text.isPunctuation before
  let rightFree := isFlankBlank after || Text.isPunctuation after
  let leftFlanking := !isFlankBlank after && (!Text.isPunctuation after || leftFree)
  let rightFlanking := !isFlankBlank before && (!Text.isPunctuation before || rightFree)
  { opens := leftFlanking && (withinWords || !rightFlanking || Text.isPunctuation before)
    closes := rightFlanking && (withinWords || !leftFlanking || Text.isPunctuation after) }

/-! ### Pairing -/

/-- A mark that may become a tag: the length of its run (zero where lengths do not matter), the
    position of its token, what it can do, and the delimiter that closes it. -/
structure Delimiter where
  mark : Char
  length : Nat
  token : Nat
  opens : Bool
  closes : Bool
  partner : Option Nat
deriving DecidableEq, Repr

instance : Inhabited Delimiter := ⟨⟨' ', 0, 0, false, false, none⟩⟩

/-- Where a search for openers starts to be in vain: for a mark, the length of the closing run
    modulo 3, and whether the closing delimiter could open. Positions count from one; zero is no
    bound. -/
abbrev SearchBounds := List ((Char × Nat × Bool) × Nat)

/-- The state of pairing: the delimiters, how many delimiters in front of each can be skipped in a
    search, the bounds of searches, the start of the run at hand, and the token of the last
    delimiter, unless it was paired. -/
structure Pairing where
  delimiters : Array Delimiter
  jumps : Array Nat
  bounds : SearchBounds
  runStart : Nat
  lastToken : Option Nat

namespace Pairing

/-- When one of two runs can both open and close, the sum of their lengths must not be a multiple of
    three unless both lengths are. -/
def isOddMatch (opener closer : Delimiter) : Bool :=
  (opener.closes || closer.opens) && (opener.length + closer.length) % 3 = 0 &&
    (opener.length % 3 ≠ 0 || closer.length % 3 ≠ 0)

/-- The opener of a closing delimiter among those in front of `candidate` and behind `bound`. -/
def findOpener? (delimiters : Array Delimiter) (jumps : Array Nat) (closer : Delimiter)
    (bound : Nat) : (candidate : Nat) → Option Nat
  | 0 => none
  | index + 1 =>
    if index < bound then none
    else
      let opener := delimiters[index]!
      if opener.mark = closer.mark ∧ opener.opens ∧ opener.partner.isNone ∧
          ¬ isOddMatch opener closer then
        some index
      else findOpener? delimiters jumps closer bound (index - jumps[index]!)
termination_by candidate => candidate
decreasing_by omega

def join (state : Pairing) (opener index : Nat) : Pairing :=
  let jump :=
    if opener > 0 ∧ !(state.delimiters[opener - 1]!).opens then state.jumps[opener - 1]! + 1 else 0
  { state with
    delimiters := (state.delimiters.modify index fun d => { d with opens := false }).modify opener
      fun d => { d with partner := some index, closes := false }
    jumps := (state.jumps.modify index fun _ => index - opener + jump).modify opener fun _ => jump
    lastToken := none }

/-- Looks for the opener of the delimiter at `index`. -/
def close (state : Pairing) (index : Nat) : Pairing :=
  let closer := state.delimiters[index]!
  let key := (closer.mark, closer.length % 3, closer.opens)
  let first := state.runStart - state.jumps[state.runStart]!
  let bound := (state.bounds.lookup key).getD 0
  match findOpener? state.delimiters state.jumps closer bound first with
  | some opener => state.join opener index
  | none => if first = 0 then state else { state with bounds := (key, first) :: state.bounds }

/-- Passes the delimiter at `index`. -/
def step (state : Pairing) (index : Nat) : Pairing :=
  let closer := state.delimiters[index]!
  let continues : Bool :=
    (state.delimiters[state.runStart]!).mark = closer.mark &&
      state.lastToken.any fun token => token + 1 = closer.token
  let next := { state with
    jumps := state.jumps.push 0
    runStart := if continues then state.runStart else index
    lastToken := some closer.token }
  if closer.closes then next.close index else next

end Pairing

def pairDelimiters (delimiters : Array Delimiter) : Array Delimiter :=
  ((List.range delimiters.size).foldl Pairing.step ⟨delimiters, #[], [], 0, none⟩).delimiters

/-! ### Tags -/

def tagToken (name tag : String) (opening : Bool) : Token :=
  { kind := name ++ if opening then "_open" else "_close", tag,
    nesting := if opening then 1 else -1 }

def placeTags (tokens : Array Token) (name tag : String) (opener closer : Nat) : Array Token :=
  (tokens.set! opener (tagToken name tag true)).set! closer (tagToken name tag false)

/-! ### Strikethrough -/

/-- Is the token a single mark that was left over of a run? -/
def isLoneMark (token : Token) : Bool := token.kind = "text" && token.content = "~"

/-- Puts the tags of struck text in place of the pair that a delimiter opens. If a lone mark is in front of
    the closing tag, its position is noted. -/
def placeStrike (delimiters : Array Delimiter) (state : Array Token × List Nat) (opener : Delimiter) :
    Array Token × List Nat :=
  match opener.partner with
  | some partner =>
    if opener.mark = '~' then
      let closer := (delimiters[partner]!).token
      let placed := placeTags state.1 "s" "s" opener.token closer
      (placed, if isLoneMark placed[closer - 1]! then (closer - 1) :: state.2 else state.2)
    else state
  | none => state

/-- Puts the tags of struck text in place. Gives the positions of lone marks in front of closing
    tags too, the last one first. -/
def placeStrikes (delimiters : Array Delimiter) (tokens : Array Token) :
    Array Token × List Nat :=
  delimiters.foldl (placeStrike delimiters) (tokens, [])

/-- How many closing tags of struck text follow from a position on. -/
def strikesFrom (tokens : Array Token) (index : Nat) : Nat :=
  ((tokens.toList.drop index).takeWhile (·.kind = "s_close")).length

/-- Moves a lone mark behind the closing tags that follow it. -/
def moveLoneMark (tokens : Array Token) (index : Nat) : Array Token :=
  tokens.swapIfInBounds index (index + strikesFrom tokens (index + 1))

/-- Puts the tags of struck text in place of paired marks. -/
def resolveStrikes (delimiters : Array Delimiter) (tokens : Array Token) : Array Token :=
  let (placed, lone) := placeStrikes delimiters tokens
  lone.foldl moveLoneMark placed

/-! ### Emphasis -/

/-- Does the pair in front of the one at `index` enclose it without a gap, so that both make strong
    emphasis? -/
def isStrong (delimiters : Array Delimiter) (index partner : Nat) : Bool :=
  let inner := delimiters[index]!
  let outer := delimiters[index - 1]!
  index > 0 && outer.partner = some (partner + 1) && outer.mark = inner.mark &&
    outer.token + 1 = inner.token &&
    (delimiters[partner + 1]!).token = (delimiters[partner]!).token + 1

/-- Empties a mark that another one stands for. -/
def emptyMark (tokens : Array Token) (index : Nat) : Array Token :=
  tokens.modify index fun token => { token with content := "" }

/-- Puts the tags of emphasis in place of paired marks, for the delimiters in front of `bound`, the
    last one first. -/
def resolveEmphasis (delimiters : Array Delimiter) (tokens : Array Token) :
    (bound : Nat) → Array Token
  | 0 => tokens
  | index + 1 =>
    let opener := delimiters[index]!
    match opener.partner with
    | none => resolveEmphasis delimiters tokens index
    | some partner =>
      if opener.mark = '*' ∨ opener.mark = '_' then
        let closer := (delimiters[partner]!).token
        if isStrong delimiters index partner then
          resolveEmphasis delimiters
            (emptyMark (emptyMark (placeTags tokens "strong" "strong" opener.token closer)
              (delimiters[index - 1]!).token) (delimiters[partner + 1]!).token) (index - 1)
        else resolveEmphasis delimiters (placeTags tokens "em" "em" opener.token closer) index
      else resolveEmphasis delimiters tokens index
termination_by bound => bound

/-- The tokens with tags in place of paired marks. -/
def resolveDelimiters (delimiters : Array Delimiter) (tokens : Array Token) : Array Token :=
  let paired := pairDelimiters delimiters
  resolveEmphasis paired (resolveStrikes paired tokens) paired.size

end Bindery.CommonMark
