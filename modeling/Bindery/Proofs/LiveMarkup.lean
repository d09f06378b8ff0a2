/-
Module: Bindery.Proofs.LiveMarkup
Layer: Proofs
Purpose: What still starts markup in escaped text. A reader of markup takes a backslash and the character
  behind it together, and the character is literal. The writer puts a backslash before every character that
  starts markup, but leaves the backslashes of the text as they are: behind an odd run of them its own
  backslash is taken for the literal character, and the character behind is read as markup. Behind an even
  run it never is, and an underscore never is at all, since the space of its escape ends the run.
Imports: Bindery.Proofs.EscapedText
Main exports: startsMarkup, readAsMarkup, slashesAtEnd, unguarded, mem_unguarded_iff,
  readAsMarkup_escapeChars, mem_readAsMarkup_escapeText_iff
-/
import Bindery.Proofs.EscapedText

namespace Bindery.Markup

/-! ### Reading -/

/-- Does the character start markup, the underscore included? -/
def startsMarkup (c : Char) : Bool := c = '_' || isLive c

/-- The characters of a text that are read as markup. A backslash makes the next character literal, and both
    are consumed together. -/
def readAsMarkup : List Char → List Char
  | [] => []
  | ['\\'] => []
  | '\\' :: _ :: rest => readAsMarkup rest
  | c :: rest => if startsMarkup c then c :: readAsMarkup rest else readAsMarkup rest

theorem readAsMarkup_slash (c : Char) (rest : List Char) :
    readAsMarkup ('\\' :: c :: rest) = readAsMarkup rest := by
  rw [readAsMarkup]

theorem not_slash_of_isLive {c : Char} (live : isLive c = true) : c ≠ '\\' := by
  rintro rfl
  cases live

theorem readAsMarkup_live {c : Char} (live : isLive c = true) (rest : List Char) :
    readAsMarkup (c :: rest) = c :: readAsMarkup rest := by
  simp [readAsMarkup, not_slash_of_isLive live, startsMarkup, live]

theorem readAsMarkup_plain {c : Char} (noSlash : c ≠ '\\') (noMarkup : startsMarkup c = false)
    (rest : List Char) : readAsMarkup (c :: rest) = readAsMarkup rest := by
  simp [readAsMarkup, noSlash, noMarkup]

/-! ### Runs of backslashes -/

/-- How long the run of backslashes is after one more character. -/
def slashesAfter (slashes : Nat) (c : Char) : Nat := if c = '\\' then slashes + 1 else 0

/-- How many backslashes a text ends with. -/
def slashesAtEnd (text : List Char) : Nat := (text.reverse.takeWhile (· = '\\')).length

theorem slashesAtEnd_concat (text : List Char) (c : Char) :
    slashesAtEnd (text ++ [c]) = slashesAfter (slashesAtEnd text) c := by
  by_cases slash : c = '\\' <;> simp [slashesAtEnd, slashesAfter, slash]

/-- The live characters, the underscore apart, that stand behind an odd run of backslashes in a text which
    itself stands behind a run of `slashes`. -/
def unguarded (slashes : Nat) : List Char → List Char
  | [] => []
  | c :: rest =>
    (if slashes % 2 = 1 ∧ isLive c then [c] else []) ++ unguarded (slashesAfter slashes c) rest

/-- A character is unguarded exactly if it is live and stands somewhere behind an odd run of backslashes. -/
theorem mem_unguarded_iff {front text : List Char} {c : Char} :
    c ∈ unguarded (slashesAtEnd front) text ↔
      isLive c = true ∧ ∃ before after, text = before ++ c :: after ∧
        slashesAtEnd (front ++ before) % 2 = 1 := by
  induction text generalizing front with
  | nil => simp [unguarded]
  | cons d rest ih =>
      rw [unguarded, List.mem_append, ← slashesAtEnd_concat, ih]
      constructor
      · rintro (first | ⟨live, before, after, rfl, odd⟩)
        · split at first
          · next unguarded =>
              obtain rfl := List.mem_singleton.mp first
              exact ⟨unguarded.2, [], rest, rfl, by simpa using unguarded.1⟩
          · cases first
        · exact ⟨live, d :: before, after, rfl, by simpa using odd⟩
      · rintro ⟨live, before, after, split, odd⟩
        cases before with
        | nil =>
            cases split
            left
            have isFirst : slashesAtEnd front % 2 = 1 ∧ isLive c = true := ⟨by simpa using odd, live⟩
            simp [isFirst]
        | cons first before =>
            cases split
            right
            exact ⟨live, before, after, rfl, by simpa using odd⟩

/-! ### Escaped text -/

/-- What one character is written as leaves the reader with the run of backslashes behind the character: an
    odd run leaves one backslash, which is still to be read together with what follows. -/
theorem readAsMarkup_escapeChar (slashes : Nat) (c : Char) (rest : List Char) :
    readAsMarkup (List.replicate (slashes % 2) '\\' ++ (escapeChar c ++ rest)) =
      (if slashes % 2 = 1 ∧ isLive c then [c] else []) ++
        readAsMarkup (List.replicate (slashesAfter slashes c % 2) '\\' ++ rest) := by
  rcases escapeChar_cases c with ⟨rfl, written⟩ | ⟨live, _, written⟩ | ⟨dead, noUnderscore, written⟩
  · -- The space ends the run: it is no markup, whether it is read alone or behind a backslash.
    have ended : slashesAfter slashes '_' = 0 := rfl
    have noLive : isLive '_' = false := rfl
    have escaped : readAsMarkup ('\\' :: '_' :: rest) = readAsMarkup rest := readAsMarkup_slash '_' rest
    rcases Nat.mod_two_eq_zero_or_one slashes with even | odd
    · have alone : readAsMarkup (' ' :: '\\' :: '_' :: rest) = readAsMarkup ('\\' :: '_' :: rest) :=
        readAsMarkup_plain (by decide) rfl _
      simp [written, even, ended, alone, escaped]
    · have behind : readAsMarkup ('\\' :: ' ' :: '\\' :: '_' :: rest) = readAsMarkup ('\\' :: '_' :: rest) :=
        readAsMarkup_slash ' ' _
      simp [written, odd, ended, noLive, behind, escaped]
  · -- An odd run takes the backslash that was written, and the character is read without it.
    have noSlash : c ≠ '\\' := not_slash_of_isLive live
    have ended : slashesAfter slashes c = 0 := if_neg noSlash
    rcases Nat.mod_two_eq_zero_or_one slashes with even | odd
    · simp [written, even, ended, readAsMarkup_slash]
    · simp [written, odd, ended, live, readAsMarkup_slash, readAsMarkup_live live]
  · by_cases slash : c = '\\'
    · subst slash
      have longer : slashesAfter slashes '\\' = slashes + 1 := rfl
      rcases Nat.mod_two_eq_zero_or_one slashes with even | odd
      · have odd : (slashes + 1) % 2 = 1 := by omega
        simp [written, even, longer, odd]
      · have even : (slashes + 1) % 2 = 0 := by omega
        simp [written, odd, longer, even, dead, readAsMarkup_slash]
    · have ended : slashesAfter slashes c = 0 := if_neg slash
      have noMarkup : startsMarkup c = false := by simp [startsMarkup, noUnderscore, dead]
      rcases Nat.mod_two_eq_zero_or_one slashes with even | odd
      · simp [written, even, ended, readAsMarkup_plain slash noMarkup]
      · simp [written, odd, ended, dead, readAsMarkup_slash]

/-- In escaped text the unguarded characters are read as markup, and no others. -/
theorem readAsMarkup_escapeChars (slashes : Nat) (text : List Char) :
    readAsMarkup (List.replicate (slashes % 2) '\\' ++ escapeChars text) = unguarded slashes text := by
  induction text generalizing slashes with
  | nil =>
      rcases Nat.mod_two_eq_zero_or_one slashes with even | odd
      · simp [even, escapeChars, readAsMarkup, unguarded]
      · simp [odd, escapeChars, readAsMarkup, unguarded]
  | cons c rest ih => rw [escapeChars_cons, readAsMarkup_escapeChar, ih, unguarded]

/-- A character of escaped text is read as markup exactly if it is a live one, the underscore apart, and
    stands behind an odd run of backslashes in the text. -/
theorem mem_readAsMarkup_escapeText_iff (text : String) (c : Char) :
    c ∈ readAsMarkup (escapeText text).toList ↔
      isLive c = true ∧ ∃ before after, text.toList = before ++ c :: after ∧
        slashesAtEnd before % 2 = 1 := by
  have read : readAsMarkup (escapeText text).toList = unguarded (slashesAtEnd []) text.toList := by
    rw [escapeText, String.toList_ofList]
    exact readAsMarkup_escapeChars 0 text.toList
  rw [read]
  apply mem_unguarded_iff

/-- A dollar behind a backslash is read as markup: the backslash that is written for it is the literal one. -/
theorem readAsMarkup_escapeText_slashDollar :
    escapeText "\\$" = "\\\\$" ∧ readAsMarkup (escapeText "\\$").toList = ['$'] := by decide

end Bindery.Markup
