/-
Module: Bindery.Proofs.LiteralReading
Layer: Proofs
Purpose: String literals read back. A literal ends at the first quote that no backslash stands before, and a
  backslash takes the character behind it as it is; read so, every literal denotes the text it was written
  for, whatever follows it. The same holds for literals in parentheses with commas between them, however
  many quotes, backslashes, commas and parentheses the texts hold.
Imports: Bindery.Markup.Literal
Main exports: readBody, readLiteral, denotedText, readEntries, denotedTexts, readLiteral_literalChars,
  denotedText_literal, denotedTexts_literals
-/
import Bindery.Markup.Literal

namespace Bindery.Markup

/-! ### Reading -/

/-- The text up to the quote that ends a literal, and what stands behind the quote. -/
def readBody : List Char → Option (List Char × List Char)
  | [] => none
  | '"' :: behind => some ([], behind)
  | ['\\'] => none
  | '\\' :: c :: rest => (readBody rest).map fun read => (c :: read.1, read.2)
  | c :: rest => (readBody rest).map fun read => (c :: read.1, read.2)

/-- The text of the literal in front, and what stands behind it. -/
def readLiteral : List Char → Option (List Char × List Char)
  | '"' :: rest => readBody rest
  | _ => none

/-- The text that a value denotes if it is a literal and nothing else. -/
def denotedText (value : String) : Option String :=
  match readLiteral value.toList with
  | some (text, []) => some (String.ofList text)
  | _ => none

/-- A literal takes characters away. -/
theorem length_lt_of_readBody {chars text behind : List Char}
    (read : readBody chars = some (text, behind)) : behind.length < chars.length := by
  fun_induction readBody chars generalizing text with
  | case1 => cases read
  | case2 rest =>
      cases read
      exact Nat.lt_succ_self _
  | case3 => cases read
  | case4 c rest ih =>
      obtain ⟨⟨text', behind'⟩, found, same⟩ := Option.map_eq_some_iff.mp read
      cases same
      exact Nat.lt_trans (ih found) (Nat.lt_add_of_pos_right Nat.two_pos)
  | case5 c rest _ _ _ ih =>
      obtain ⟨⟨text', behind'⟩, found, same⟩ := Option.map_eq_some_iff.mp read
      cases same
      exact Nat.lt_trans (ih found) (Nat.lt_succ_self _)

theorem length_lt_of_readLiteral {chars text behind : List Char}
    (read : readLiteral chars = some (text, behind)) : behind.length < chars.length := by
  unfold readLiteral at read
  split at read
  · exact Nat.lt_trans (length_lt_of_readBody read) (Nat.lt_succ_self _)
  · cases read

/-- The texts of literals with commas between them, up to the parenthesis that ends the whole. -/
def readEntries (chars : List Char) : Option (List String) :=
  match _ : readLiteral chars with
  | some (text, [')']) => some [String.ofList text]
  | some (text, ',' :: rest) => (readEntries rest).map (String.ofList text :: ·)
  | _ => none
termination_by chars.length
decreasing_by
  next read => exact Nat.lt_trans (Nat.lt_succ_self _) (length_lt_of_readLiteral read)

theorem readEntries_last {chars text : List Char} (read : readLiteral chars = some (text, [')'])) :
    readEntries chars = some [String.ofList text] := by
  rw [readEntries]
  split
  · next found =>
      cases read.symm.trans found
      rfl
  · next found => cases read.symm.trans found
  · next noLast _ => exact absurd read (noLast _)

theorem readEntries_comma {chars text rest : List Char}
    (read : readLiteral chars = some (text, ',' :: rest)) :
    readEntries chars = (readEntries rest).map (String.ofList text :: ·) := by
  rw [readEntries]
  split
  · next found => cases read.symm.trans found
  · next found =>
      cases read.symm.trans found
      rfl
  · next _ noComma => exact absurd read (noComma _ _)

/-- The texts that a value denotes if it is an array of literals and nothing else. -/
def denotedTexts (value : String) : Option (List String) :=
  match value.toList with
  | '(' :: rest => if rest = [')'] then some [] else readEntries rest
  | _ => none

/-! ### Reading back -/

/-- A character of a text is read back from how it is written. -/
theorem readBody_literalChar (c : Char) (rest : List Char) :
    readBody (literalChar c ++ rest) = (readBody rest).map fun read => (c :: read.1, read.2) := by
  unfold literalChar
  split
  · simp [readBody]
  · next plain =>
      rw [not_or] at plain
      simp [readBody, plain]

theorem readBody_flatMap (text behind : List Char) :
    readBody (text.flatMap literalChar ++ '"' :: behind) = some (text, behind) := by
  induction text with
  | nil => rfl
  | cons c text ih =>
      rw [List.flatMap_cons, List.append_assoc, readBody_literalChar, ih]
      rfl

/-- A literal denotes its text, and what stands behind it is left. -/
theorem readLiteral_literalChars (text behind : List Char) :
    readLiteral (literalChars text ++ behind) = some (text, behind) := by
  have opened : literalChars text ++ behind = '"' :: (text.flatMap literalChar ++ '"' :: behind) := by
    simp [literalChars]
  rw [opened]
  exact readBody_flatMap text behind

theorem toList_literal (text : String) : (literal text).toList = literalChars text.toList :=
  String.toList_ofList

/-- The literal of a text denotes it. -/
theorem denotedText_literal (text : String) : denotedText (literal text) = some text := by
  have read := readLiteral_literalChars text.toList []
  rw [List.append_nil] at read
  rw [denotedText, toList_literal, read]
  exact congrArg some String.ofList_toList

/-- Literals with commas between them denote their texts: what ends a literal stands behind its text, since
    every quote of the text has a backslash in front. -/
theorem readEntries_literals (first : String) (rest : List String) :
    readEntries ([','].intercalate ((first :: rest).map fun text => literalChars text.toList) ++ [')']) =
      some (first :: rest) := by
  induction rest generalizing first with
  | nil =>
      rw [List.map_singleton, List.intercalate_singleton,
        readEntries_last (readLiteral_literalChars first.toList [')']), String.ofList_toList]
  | cons second rest ih =>
      have readSecond := ih second
      rw [List.map_cons] at readSecond
      rw [List.map_cons, List.map_cons, List.intercalate_cons_cons, List.append_assoc, List.append_assoc,
        List.singleton_append, readEntries_comma (readLiteral_literalChars first.toList _), readSecond,
        String.ofList_toList]
      rfl

/-- The array of literals denotes the texts, also if there are none. -/
theorem denotedTexts_literals (texts : List String) :
    denotedTexts ("(" ++ ",".intercalate (texts.map literal) ++ ")") = some texts := by
  have written : ("(" ++ ",".intercalate (texts.map literal) ++ ")").toList =
      '(' :: ([','].intercalate (texts.map fun text => literalChars text.toList) ++ [')']) := by
    simp [String.toList_intercalate, Function.comp_def, toList_literal]
  rw [denotedTexts, written]
  cases texts with
  | nil => rfl
  | cons first rest =>
      have read := readEntries_literals first rest
      have filled : [','].intercalate ((first :: rest).map fun text => literalChars text.toList) ++ [')'] ≠
          [')'] := by
        intro empty
        rw [empty, readEntries] at read
        cases read
      rw [← read]
      exact if_neg filled

end Bindery.Markup
