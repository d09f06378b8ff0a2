/-
Module: Bindery.Proofs.BracketReading
Layer: Proofs
Purpose: How brackets are matched where markup is read. Code and string literals are set aside. A backslash
  takes the character behind it, whatever it is, and a bracket that is not taken opens a group or closes the
  innermost one. So what stands between two brackets is read as a group exactly if it is closed: none of its
  own brackets closes more than it has opened, nothing of it is left open, and no backslash at its end takes
  the closing bracket.
Imports: Bindery.Markup.Literal, Mathlib.Data.List.Basic
Main exports: Glyph, Cursor, Cursor.through, Closed, Settles, readGroup, readGroup_iff, Cursor.through_group,
  IsNeutral, closed_of_neutral, asideLiterals, asideLiterals_literalChars
-/
import Bindery.Markup.Literal
import Mathlib.Data.List.Basic

namespace Bindery.Markup

/-! ### Matching brackets -/

/-- A character of a markup as a reader of brackets takes it: shown to him, or set aside. -/
inductive Glyph where
  | shown (c : Char)
  | aside (c : Char)
deriving DecidableEq, Repr

def Glyph.char : Glyph → Char
  | .shown c => c
  | .aside c => c

/-- Where a reader is: how many groups are open, and whether a backslash takes the next character. -/
structure Cursor where
  depth : Nat
  escaped : Bool
deriving DecidableEq, Repr

/-- Nothing is open, and no backslash stands in front. -/
def Cursor.start : Cursor := ⟨0, false⟩

/-- Reads one character. There is no way on at a bracket that closes a group which is not open. -/
def Cursor.next (cursor : Cursor) (glyph : Glyph) : Option Cursor :=
  if cursor.escaped then some ⟨cursor.depth, false⟩
  else if glyph = .shown '\\' then some ⟨cursor.depth, true⟩
  else if glyph = .shown '[' then some ⟨cursor.depth + 1, false⟩
  else if glyph = .shown ']' then
    match cursor.depth with
    | 0 => none
    | depth + 1 => some ⟨depth, false⟩
  else some cursor

/-- Reads on, as long as there is a way on. -/
def Cursor.through (cursor : Cursor) (glyphs : List Glyph) : Option Cursor := glyphs.foldlM Cursor.next cursor

/-- Does a text close all groups that it opens, and no others, and leave no character taken? -/
def Closed (glyphs : List Glyph) : Prop := Cursor.start.through glyphs = some .start

instance (glyphs : List Glyph) : Decidable (Closed glyphs) :=
  inferInstanceAs (Decidable (Cursor.start.through glyphs = some .start))

section Reading

variable {cursor cursor' : Cursor} {glyphs body : List Glyph}

theorem Cursor.through_nil (cursor : Cursor) : cursor.through [] = some cursor := rfl

theorem Cursor.through_cons (cursor : Cursor) (glyph : Glyph) (glyphs : List Glyph) :
    cursor.through (glyph :: glyphs) = (cursor.next glyph).bind fun next => next.through glyphs := rfl

theorem Cursor.through_append (cursor : Cursor) (first second : List Glyph) :
    cursor.through (first ++ second) = (cursor.through first).bind fun next => next.through second :=
  List.foldlM_append

theorem Closed.append {first second : List Glyph} (closed : Closed first) (closed' : Closed second) :
    Closed (first ++ second) := by
  rw [Closed, Cursor.through_append, closed]
  exact closed'

/-- Groups that are open further out change nothing. -/
theorem Cursor.next_deeper {glyph : Glyph} (read : cursor.next glyph = some cursor') (outer : Nat) :
    Cursor.next ⟨cursor.depth + outer, cursor.escaped⟩ glyph =
      some ⟨cursor'.depth + outer, cursor'.escaped⟩ := by
  obtain ⟨depth, escaped⟩ := cursor
  cases depth <;> grind [Cursor.next]

theorem Cursor.through_deeper (read : cursor.through glyphs = some cursor') (outer : Nat) :
    Cursor.through ⟨cursor.depth + outer, cursor.escaped⟩ glyphs =
      some ⟨cursor'.depth + outer, cursor'.escaped⟩ := by
  induction glyphs generalizing cursor with
  | nil =>
      cases read
      rfl
  | cons glyph glyphs ih =>
      obtain ⟨next, step, rest⟩ := Option.bind_eq_some_iff.mp read
      rw [Cursor.through_cons, Cursor.next_deeper step outer]
      exact ih rest

/-- A closed text leaves a reader with the groups that were open before it. -/
theorem Closed.through (closed : Closed body) (depth : Nat) :
    Cursor.through ⟨depth, false⟩ body = some ⟨depth, false⟩ := by
  have read := Cursor.through_deeper closed depth
  simpa [Cursor.start] using read

/-- A closed text between brackets is read over. -/
theorem Cursor.through_group (closed : Closed body) (depth : Nat) (rest : List Glyph) :
    Cursor.through ⟨depth, false⟩ (.shown '[' :: (body ++ .shown ']' :: rest)) =
      Cursor.through ⟨depth, false⟩ rest := by
  have opened : Cursor.next ⟨depth, false⟩ (.shown '[') = some ⟨depth + 1, false⟩ := rfl
  have closes : Cursor.next ⟨depth + 1, false⟩ (.shown ']') = some ⟨depth, false⟩ := rfl
  rw [Cursor.through_cons, opened, Option.bind_some, Cursor.through_append, closed.through, Option.bind_some,
    Cursor.through_cons, closes, Option.bind_some]

theorem Closed.group (closed : Closed body) : Closed (.shown '[' :: (body ++ [.shown ']'])) :=
  Cursor.through_group closed 0 []

/-! ### Reading a group -/

/-- The characters up to the bracket that closes the group which is open at the start, and what stands behind
    this bracket. -/
def readGroup (cursor : Cursor) : List Glyph → Option (List Glyph × List Glyph)
  | [] => none
  | glyph :: rest =>
    match cursor.next glyph with
    | none => some ([], rest)
    | some next => (readGroup next rest).map fun read => (glyph :: read.1, read.2)

/-- There is no way on only at a bracket that is not taken, where nothing is open. -/
theorem Cursor.next_bracket_eq_none_iff : cursor.next (.shown ']') = none ↔ cursor = .start := by
  obtain ⟨depth, escaped⟩ := cursor
  cases depth <;> cases escaped <;> simp [Cursor.next, Cursor.start]

/-- A text is read as the group in front of a closing bracket exactly if it leads a reader to where nothing
    is open. -/
theorem readGroup_iff (cursor : Cursor) (body rest : List Glyph) :
    readGroup cursor (body ++ .shown ']' :: rest) = some (body, rest) ↔
      cursor.through body = some .start := by
  induction body generalizing cursor with
  | nil =>
      rw [List.nil_append, readGroup]
      cases read : cursor.next (.shown ']') with
      | none =>
          have atStart := Cursor.next_bracket_eq_none_iff.mp read
          exact iff_of_true rfl (congrArg some atStart)
      | some next =>
          have notStart : cursor ≠ .start := by
            intro atStart
            rw [Cursor.next_bracket_eq_none_iff.mpr atStart] at read
            cases read
          simp [Cursor.through_nil, notStart]
  | cons glyph body ih =>
      rw [List.cons_append, readGroup, Cursor.through_cons]
      cases cursor.next glyph with
      | none => simp
      | some next =>
          rw [Option.bind_some, ← ih]
          constructor
          · intro read
            obtain ⟨⟨text, behind⟩, found, same⟩ := Option.map_eq_some_iff.mp read
            cases same
            exact found
          · intro read
            simp only [read, Option.map_some]

/-! ### What does not count -/

/-- Is the character none that a reader of brackets heeds? -/
def IsNeutral (glyph : Glyph) : Prop := ∀ c ∈ ['\\', '[', ']'], glyph ≠ .shown c

theorem Cursor.next_of_neutral {glyph : Glyph} (neutral : IsNeutral glyph) (cursor : Cursor) :
    cursor.next glyph = some ⟨cursor.depth, false⟩ := by
  obtain ⟨depth, escaped⟩ := cursor
  cases escaped <;> simp_all [IsNeutral, Cursor.next]

/-- A text of neutral characters is closed. -/
theorem closed_of_neutral (neutral : ∀ glyph ∈ glyphs, IsNeutral glyph) : Closed glyphs := by
  induction glyphs with
  | nil => rfl
  | cons glyph glyphs ih =>
      rw [Closed, Cursor.through_cons, Cursor.next_of_neutral (neutral glyph List.mem_cons_self)]
      exact ih fun other member => neutral other (List.mem_cons_of_mem _ member)

theorem isNeutral_aside (c : Char) : IsNeutral (.aside c) := fun _ _ same => by cases same

theorem isNeutral_shown_iff {c : Char} : IsNeutral (.shown c) ↔ c ∉ ['\\', '[', ']'] := by
  simp [IsNeutral]

/-- Is no character behind the text taken by a backslash, wherever the text stands? -/
def Settles (glyphs : List Glyph) : Prop :=
  ∀ cursor cursor' : Cursor, cursor.through glyphs = some cursor' → cursor'.escaped = false

/-- Only a backslash takes the next character. -/
theorem settles_append_singleton (glyphs : List Glyph) {glyph : Glyph} (noBackslash : glyph.char ≠ '\\') :
    Settles (glyphs ++ [glyph]) := by
  intro cursor cursor' read
  rw [Cursor.through_append] at read
  obtain ⟨⟨depth, escaped⟩, _, last⟩ := Option.bind_eq_some_iff.mp read
  rw [Cursor.through_cons] at last
  obtain ⟨next, step, same⟩ := Option.bind_eq_some_iff.mp last
  obtain rfl := Option.some.inj same
  have other : glyph ≠ .shown '\\' := fun same => noBackslash (by rw [same]; rfl)
  cases depth <;> grind [Cursor.next]

end Reading

/-! ### Setting literals aside -/

/-- Where a reader of code is: outside of literals, in one, or in one behind a backslash. -/
inductive CodePlace where
  | code
  | literal
  | escaped

/-- The place behind one more character. -/
def CodePlace.after (c : Char) : CodePlace → CodePlace
  | .code => if c = '"' then .literal else .code
  | .literal => if c = '"' then .code else if c = '\\' then .escaped else .literal
  | .escaped => .literal

/-- A character of code: it is set aside if it is part of a literal. -/
def CodePlace.glyph (c : Char) : CodePlace → Glyph
  | .code => if c = '"' then .aside c else .shown c
  | .literal => .aside c
  | .escaped => .aside c

def asideLiterals (place : CodePlace) : List Char → List Glyph
  | [] => []
  | c :: rest => place.glyph c :: asideLiterals (place.after c) rest

theorem char_glyph (place : CodePlace) (c : Char) : (place.glyph c).char = c := by
  cases place with
  | code =>
      simp only [CodePlace.glyph]
      split <;> rfl
  | literal | escaped => rfl

theorem map_char_asideLiterals (place : CodePlace) (code : List Char) :
    (asideLiterals place code).map Glyph.char = code := by
  induction code generalizing place with
  | nil => rfl
  | cons c rest ih => rw [asideLiterals, List.map_cons, char_glyph, ih]

/-- Code that has no quote is shown. -/
theorem asideLiterals_append_of_noQuote {code : List Char} (noQuote : '"' ∉ code) (rest : List Char) :
    asideLiterals .code (code ++ rest) = code.map .shown ++ asideLiterals .code rest := by
  induction code with
  | nil => rfl
  | cons c code ih =>
      rw [List.mem_cons, not_or] at noQuote
      have other : c ≠ '"' := fun same => noQuote.1 same.symm
      rw [List.cons_append, asideLiterals, CodePlace.glyph, CodePlace.after, if_neg other, if_neg other,
        ih noQuote.2]
      rfl

theorem asideLiterals_literalChar (c : Char) (rest : List Char) :
    asideLiterals .literal (literalChar c ++ rest) =
      (literalChar c).map .aside ++ asideLiterals .literal rest := by
  unfold literalChar
  split
  · rfl
  · next plain =>
      rw [not_or] at plain
      simp [asideLiterals, CodePlace.glyph, CodePlace.after, plain]

/-- A literal is set aside, and what stands behind it is read as code again. -/
theorem asideLiterals_literalChars (text rest : List Char) :
    asideLiterals .code (literalChars text ++ rest) =
      (literalChars text).map .aside ++ asideLiterals .code rest := by
  have inside : asideLiterals .literal (text.flatMap literalChar ++ '"' :: rest) =
      (text.flatMap literalChar).map .aside ++ .aside '"' :: asideLiterals .code rest := by
    induction text with
    | nil => rfl
    | cons c text ih =>
        rw [List.flatMap_cons, List.append_assoc, asideLiterals_literalChar, ih, List.map_append,
          List.append_assoc]
  have quoted : literalChars text ++ rest = '"' :: (text.flatMap literalChar ++ '"' :: rest) := by
    simp [literalChars]
  rw [quoted, asideLiterals]
  change _ :: asideLiterals .literal _ = _
  rw [inside]
  simp [literalChars, CodePlace.glyph]

/-- The last character of code stays the last one. -/
theorem exists_asideLiterals_concat (place : CodePlace) (code : List Char) (c : Char) :
    ∃ front glyph, asideLiterals place (code ++ [c]) = front ++ [glyph] ∧ glyph.char = c := by
  induction code generalizing place with
  | nil => exact ⟨[], place.glyph c, rfl, char_glyph place c⟩
  | cons d code ih =>
      obtain ⟨front, glyph, split, same⟩ := ih (place.after d)
      exact ⟨place.glyph d :: front, glyph, by rw [List.cons_append, asideLiterals, split]; rfl, same⟩

end Bindery.Markup
