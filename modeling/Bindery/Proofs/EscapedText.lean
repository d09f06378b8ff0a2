/-
Module: Bindery.Proofs.EscapedText
Layer: Proofs
Purpose: Running text is read back from how it is escaped. Neither backslash nor space is escaped itself, so
  a text may hold what looks like an escape. Yet no character that an escape could end with ever stands bare
  in escaped text: the reader takes for an escape only what the writer wrote as one, on whichever side of it
  backslashes and spaces stand.
Imports: Bindery.Markup.Escape, Mathlib.Logic.Function.Basic
Main exports: escapeChars_cons, not_live_of_escapeChars, unescapeChars_plain,
  unescapeChars_escapeChar, unescapeChars_escapeChars, unescapeText_escapeText
-/
import Bindery.Markup.Escape
import Mathlib.Logic.Function.Basic

namespace Bindery.Markup

theorem escapeChars_cons (c : Char) (text : List Char) :
    escapeChars (c :: text) = escapeChar c ++ escapeChars text := List.flatMap_cons

/-- A character is written as an underscore, as a live character, or bare. -/
theorem escapeChar_cases (c : Char) :
    (c = '_' ∧ escapeChar c = [' ', '\\', '_']) ∨
      (isLive c = true ∧ c ≠ '_' ∧ escapeChar c = ['\\', c]) ∨
        (isLive c = false ∧ c ≠ '_' ∧ escapeChar c = [c]) := by
  unfold escapeChar
  by_cases underscore : c = '_'
  · exact .inl ⟨underscore, if_pos underscore⟩
  · rw [if_neg underscore]
    cases live : isLive c with
    | true => exact .inr (.inl ⟨rfl, underscore, rfl⟩)
    | false => exact .inr (.inr ⟨rfl, underscore, rfl⟩)

/-! ### What escaped text starts with -/

/-- Escaped text starts with no character that would start markup. -/
theorem not_live_of_escapeChars {text rest : List Char} {c : Char}
    (starts : escapeChars text = c :: rest) : isLive c = false ∧ c ≠ '_' := by
  cases text with
  | nil => cases starts
  | cons first more =>
      rw [escapeChars_cons] at starts
      rcases escapeChar_cases first with ⟨_, written⟩ | ⟨_, _, written⟩ | ⟨bare, noUnderscore, written⟩
      · rw [written] at starts
        cases starts
        decide
      · rw [written] at starts
        cases starts
        decide
      · rw [written] at starts
        cases starts
        exact ⟨bare, noUnderscore⟩

/-- A backslash that escaped text starts with is not that of an underscore, which has a space in front. -/
theorem not_underscore_of_escapeChars {text rest : List Char} {c : Char}
    (starts : escapeChars text = '\\' :: c :: rest) : c ≠ '_' := by
  cases text with
  | nil => cases starts
  | cons first more =>
      rw [escapeChars_cons] at starts
      rcases escapeChar_cases first with ⟨_, written⟩ | ⟨_, noUnderscore, written⟩ | ⟨_, _, written⟩
      · rw [written] at starts
        cases starts
      · rw [written] at starts
        cases starts
        exact noUnderscore
      · rw [written, List.singleton_append] at starts
        exact (not_live_of_escapeChars (List.cons.inj starts).2).2

/-! ### Reading back -/

theorem unescapeChars_underscore (rest : List Char) :
    unescapeChars (' ' :: '\\' :: '_' :: rest) = '_' :: unescapeChars rest := by
  rw [unescapeChars]

theorem unescapeChars_live {c : Char} (live : isLive c = true) (rest : List Char) :
    unescapeChars ('\\' :: c :: rest) = c :: unescapeChars rest := by
  rw [unescapeChars]
  · exact if_pos ⟨rfl, live⟩
  · exact fun _ isSpace => absurd isSpace (by decide)

/-- A character that starts no escape is read as it stands. -/
theorem unescapeChars_plain {c : Char} {rest : List Char}
    (noUnderscore : c = ' ' → ∀ more, rest ≠ '\\' :: '_' :: more)
    (noLive : c = '\\' → ∀ d more, rest = d :: more → isLive d = false) :
    unescapeChars (c :: rest) = c :: unescapeChars rest := by
  cases rest with
  | nil => rfl
  | cons d more =>
      rw [unescapeChars.eq_def]
      split
      · next nothing => cases nothing
      · next single => cases single
      · next underscore =>
          cases underscore
          exact absurd rfl (noUnderscore rfl _)
      · next pair =>
          cases pair
          refine if_neg fun escape => ?_
          rw [noLive escape.1 d more rfl] at escape
          exact Bool.false_ne_true escape.2

/-- What one character is written as is read as the character, if escaped text follows. -/
theorem unescapeChars_escapeChar (c : Char) (text : List Char) :
    unescapeChars (escapeChar c ++ escapeChars text) = c :: unescapeChars (escapeChars text) := by
  rcases escapeChar_cases c with ⟨rfl, written⟩ | ⟨live, _, written⟩ | ⟨_, _, written⟩
  · rw [written]
    exact unescapeChars_underscore _
  · rw [written]
    exact unescapeChars_live live _
  · rw [written, List.singleton_append]
    apply unescapeChars_plain
    · intro _ more looksEscaped
      exact not_underscore_of_escapeChars looksEscaped rfl
    · intro _ d more starts
      exact (not_live_of_escapeChars starts).1

theorem unescapeChars_escapeChars (text : List Char) : unescapeChars (escapeChars text) = text := by
  induction text with
  | nil => rfl
  | cons c text ih => rw [escapeChars_cons, unescapeChars_escapeChar, ih]

/-- Every text is read back from how it is escaped, so that no two texts are escaped alike. -/
theorem unescapeText_escapeText :
    (∀ text, unescapeText (escapeText text) = text) ∧ Function.Injective escapeText := by
  have readBack (text : String) : unescapeText (escapeText text) = text := by
    rw [unescapeText, escapeText, String.toList_ofList, unescapeChars_escapeChars, String.ofList_toList]
  exact ⟨readBack, Function.LeftInverse.injective readBack⟩

/-- A space, a backslash and an underscore stay apart, although the escape of the underscore is made of the
    three. -/
example : escapeText " \\_" = " \\ \\_" ∧ unescapeText " \\ \\_" = " \\_" := by decide

end Bindery.Markup
