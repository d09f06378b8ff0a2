/-
Module: Bindery.Proofs.ConvertedBrackets
Layer: Proofs
Purpose: Brackets in converted documents. Of all that conversions make, only a text can hold a bracket that is
  not closed in it: the escapes of a text are not for brackets, nor for the backslash that it may end with.
  Everything else is written with no bracket of its own, or with matching ones. So the brackets of a converted
  document match if every text outside of code is closed; they match exactly if all that stands directly in a
  container is closed together.
Imports: Bindery.Proofs.BracketedContainers, Bindery.Proofs.EscapedText, Bindery.Proofs.LiteralReading,
  Bindery.Proofs.MadeEvents, Bindery.Proofs.RendererCounters
Main exports: IsNeutralCode, isPlainCode, Passage.IsHarmless, directlyClosed_of_harmless, harmless_of_isMade, readText,
  bracketsMatch_of_allMade, convertToTypst_bracketsMatch_iff
-/
import Bindery.Proofs.BracketedContainers
import Bindery.Proofs.EscapedText
import Bindery.Proofs.LiteralReading
import Bindery.Proofs.MadeEvents
import Bindery.Proofs.RendererCounters

namespace Bindery.Markup

open Bindery.Convert (AllMade Converts IsMade Settings allMade_convertToTypst authorArray convertToTypst
  isCodeTarget)

/-! ### Code without brackets -/

/-- Code that a reader of brackets need not heed, apart from its literals, whatever code follows it. -/
def IsNeutralCode (code : List Char) : Prop :=
  ∃ glyphs, (∀ glyph ∈ glyphs, IsNeutral glyph) ∧
    ∀ rest, asideLiterals .code (code ++ rest) = glyphs ++ asideLiterals .code rest

theorem IsNeutralCode.append {first second : List Char} (neutral : IsNeutralCode first)
    (neutral' : IsNeutralCode second) : IsNeutralCode (first ++ second) := by
  obtain ⟨glyphs, neutralFirst, read⟩ := neutral
  obtain ⟨glyphs', neutralSecond, read'⟩ := neutral'
  refine ⟨glyphs ++ glyphs', ?_, ?_⟩
  · intro glyph member
    exact (List.mem_append.mp member).elim (neutralFirst glyph) (neutralSecond glyph)
  · intro rest
    rw [List.append_assoc, read, read', List.append_assoc]

/-- Is the character none that a reader of code or of brackets heeds? -/
def isPlainCode (c : Char) : Bool := c ∉ ['"', '\\', '[', ']']

theorem neutralCode_of_plain {code : List Char} (plain : code.all isPlainCode = true) :
    IsNeutralCode code := by
  have plainAt {c : Char} (inCode : c ∈ code) : c ∉ ['"', '\\', '[', ']'] :=
    of_decide_eq_true (List.all_eq_true.mp plain c inCode)
  refine ⟨code.map .shown, ?_, asideLiterals_append_of_noQuote fun quote => ?_⟩
  · intro glyph member
    obtain ⟨c, inCode, rfl⟩ := List.mem_map.mp member
    exact isNeutral_shown_iff.mpr fun special => plainAt inCode (List.mem_cons_of_mem _ special)
  · exact plainAt quote List.mem_cons_self

theorem neutralCode_literal (text : String) : IsNeutralCode (literal text).toList := by
  rw [toList_literal]
  refine ⟨_, ?_, asideLiterals_literalChars text.toList⟩
  intro glyph member
  obtain ⟨c, _, rfl⟩ := List.mem_map.mp member
  exact isNeutral_aside c

theorem neutralCode_intercalate {separator : List Char} (plain : IsNeutralCode separator)
    {codes : List (List Char)} (neutral : ∀ code ∈ codes, IsNeutralCode code) :
    IsNeutralCode (separator.intercalate codes) := by
  induction codes with
  | nil => exact neutralCode_of_plain rfl
  | cons code codes ih =>
      have neutralRest := ih fun other member => neutral other (List.mem_cons_of_mem _ member)
      have neutralFirst := neutral code List.mem_cons_self
      cases codes with
      | nil => rwa [List.intercalate_singleton]
      | cons next codes =>
          rw [List.intercalate_cons_cons]
          exact (neutralFirst.append plain).append neutralRest

/-- Such code is closed. -/
theorem IsNeutralCode.closed {code : List Char} (neutral : IsNeutralCode code) :
    Closed (asideLiterals .code code) := by
  obtain ⟨glyphs, neutralGlyphs, read⟩ := neutral
  have whole := read []
  rw [List.append_nil, asideLiterals, List.append_nil] at whole
  rw [whole]
  exact closed_of_neutral neutralGlyphs

theorem closed_aside (text : List Char) : Closed (text.map .aside) := by
  apply closed_of_neutral
  intro glyph member
  obtain ⟨c, _, rfl⟩ := List.mem_map.mp member
  exact isNeutral_aside c

/-! ### Harmless passages -/

/-- Does a passage write no bracket that is not closed in it, the brackets of its container apart? -/
def Passage.IsHarmless : Passage → Prop
  | .opens brackets => Closed brackets.opening
  | .closes brackets => Closed (brackets.tail.toList.map .shown)
  | .plain glyphs => Closed glyphs

theorem closed_direct {passages : List Passage} (harmless : ∀ passage ∈ passages, passage.IsHarmless)
    (around : Nat) : Closed (direct around passages) := by
  have conditional {glyphs : List Glyph} (closed : Closed glyphs) (isAsked : Prop) [Decidable isAsked] :
      Closed (if isAsked then glyphs else []) := by
    split
    · exact closed
    · rfl
  induction passages generalizing around with
  | nil => rfl
  | cons passage rest ih =>
      have closedRest := ih fun other member => harmless other (List.mem_cons_of_mem _ member)
      have harmlessFirst := harmless passage List.mem_cons_self
      cases passage with
      | opens brackets => exact (conditional harmlessFirst _).append (closedRest _)
      | closes brackets => exact (conditional harmlessFirst _).append (closedRest _)
      | plain glyphs => exact (conditional harmlessFirst _).append (closedRest _)

/-- Inside and behind their brackets, containers write at most a line break. -/
theorem break_of_bracketed {tag : Typst.Tag} {brackets : Brackets}
    (bracketed : bracketsOf tag = some brackets) :
    ∀ text ∈ [brackets.lead, brackets.trail, brackets.tail], text ∈ ["", "\n"] := by
  cases tag with
  | heading level outline bookmarks =>
      by_cases plain : isPlainHeading outline bookmarks = true
      · simp [bracketsOf, plain] at bracketed
      · simp only [bracketsOf, plain, Bool.false_eq_true, if_false, Option.some.injEq] at bracketed
        subst bracketed
        simp
  | link kind => cases kind <;> cases bracketed; simp
  | quote kind => cases kind <;> cases bracketed <;> simp
  | showRule | codeBlock | bulletList | numberedList | item => cases bracketed
  | _ => cases bracketed; simp

theorem closed_break : ∀ text ∈ ["", "\n"], Closed (text.toList.map .shown) := by decide

/-- If all passages are harmless, what stands directly in a container is closed. -/
theorem directlyClosed_of_harmless {events : List Event} {written : List String} {last : Renderer}
    (renders : Renders .initial events written last)
    (harmless : ∀ passage ∈ Renderer.initial.passages events, passage.IsHarmless) :
    DirectlyClosed events := by
  refine ⟨⟨false, closed_direct harmless 0⟩, ?_⟩
  intro front brackets inside contains
  obtain ⟨tag, bracketed⟩ := contains.exists_tag
  obtain ⟨behind, passages⟩ := contains.passages_split renders
  have harmlessInside : ∀ passage ∈ inside, passage.IsHarmless := by
    intro passage member
    apply harmless
    rw [passages]
    simp [member]
  have closedLead := closed_break _ (break_of_bracketed bracketed brackets.lead (by simp))
  have closedTrail := closed_break _ (break_of_bracketed bracketed brackets.trail (by simp))
  exact (closedLead.append (closed_direct harmlessInside 0)).append closedTrail

/-! ### What conversions write -/

theorem isDigit_of_mem_repr {number : Nat} {c : Char} (member : c ∈ number.repr.toList) : c.isDigit = true := by
  rw [Nat.toList_repr] at member
  exact Nat.isDigit_of_mem_toDigits (by decide) (by decide) member

theorem isPlainCode_of_isDigit {c : Char} (digit : c.isDigit = true) : isPlainCode c = true := by
  have noDigit : ['"', '\\', '[', ']'].all (fun d => !d.isDigit) = true := rfl
  refine decide_eq_true fun special => ?_
  have same := List.all_eq_true.mp noDigit c special
  rw [digit] at same
  cases same

theorem neutralCode_number (number : Int) : IsNeutralCode (toString number).toList := by
  have neutralDigits (digits : Nat) : IsNeutralCode digits.repr.toList := by
    apply neutralCode_of_plain
    rw [List.all_eq_true]
    intro c member
    exact isPlainCode_of_isDigit (isDigit_of_mem_repr member)
  cases number with
  | ofNat digits => exact neutralDigits digits
  | negSucc digits =>
      have sign : IsNeutralCode "-".toList := neutralCode_of_plain rfl
      change IsNeutralCode ("-" ++ (digits + 1).repr).toList
      rw [String.toList_append]
      exact sign.append (neutralDigits (digits + 1))

theorem neutralCode_repeated (n : Nat) {c : Char} (plain : isPlainCode c = true) :
    IsNeutralCode (repeated n c).toList := by
  apply neutralCode_of_plain
  rw [repeated, String.toList_ofList, List.all_eq_true]
  intro d member
  rw [List.eq_of_mem_replicate member]
  exact plain

theorem neutralCode_link (destination : String) :
    IsNeutralCode ("#link(" ++ literal destination ++ ")").toList := by
  have front : IsNeutralCode "#link(".toList := neutralCode_of_plain rfl
  have behind : IsNeutralCode ")".toList := neutralCode_of_plain rfl
  rw [String.toList_append, String.toList_append]
  exact (front.append (neutralCode_literal destination)).append behind

/-- A marker of an item is made of spaces, digits and signs. -/
theorem neutralCode_itemMarker {state inner : Renderer} {marker : String}
    (marked : state.itemMarker = .ok (marker, inner)) : IsNeutralCode marker.toList := by
  have indent : IsNeutralCode state.itemIndent.toList := neutralCode_repeated _ rfl
  have signs : ∀ sign ∈ ["- ", ". ", "+ "], IsNeutralCode sign.toList := by
    have plain : ["- ", ". ", "+ "].all (fun sign => sign.toList.all isPlainCode) = true := rfl
    exact fun sign member => neutralCode_of_plain (List.all_eq_true.mp plain sign member)
  unfold Renderer.itemMarker at marked
  split at marked
  · cases marked
    rw [String.toList_append]
    exact indent.append (signs _ (by simp))
  · split at marked
    · cases marked
      rw [String.toList_append, String.toList_append]
      exact (indent.append (neutralCode_number _)).append (signs _ (by simp))
    · cases marked
      rw [String.toList_append]
      exact indent.append (signs _ (by simp))
  · cases marked

theorem neutralCode_alignment (alignment : Typst.Alignment) : IsNeutralCode alignment.value.toList := by
  cases alignment <;> exact neutralCode_of_plain rfl

/-- The names of the alignments of a table stand in brackets of their own. -/
theorem closed_table (alignments : List Typst.Alignment) :
    Closed (asideLiterals .code
      ("#table(align: [" ++ ", ".intercalate (alignments.map Typst.Alignment.value) ++ "])").toList) := by
  have separator : IsNeutralCode ", ".toList := neutralCode_of_plain rfl
  obtain ⟨glyphs, neutral, read⟩ : IsNeutralCode
      (", ".intercalate (alignments.map Typst.Alignment.value)).toList := by
    rw [String.toList_intercalate]
    apply neutralCode_intercalate separator
    intro code member
    obtain ⟨name, inNames, rfl⟩ := List.mem_map.mp member
    obtain ⟨alignment, _, rfl⟩ := List.mem_map.mp inNames
    exact neutralCode_alignment alignment
  have noQuote : '"' ∉ "#table(align: [".toList := by decide
  rw [String.toList_append, String.toList_append, List.append_assoc, asideLiterals_append_of_noQuote noQuote,
    read]
  have front : Closed ("#table(align: ".toList.map .shown) := by decide
  have behind : Closed [.shown ')'] := by decide
  have whole := (front.append (closed_of_neutral neutral).group).append behind
  simpa [asideLiterals, CodePlace.glyph, CodePlace.after] using whole

/-- In front of the opening bracket of a converted container, brackets match. -/
theorem closed_opening {stage : Convert.Stage} {tag : Markdown.Tag} {target : Typst.Tag} {brackets : Brackets}
    (converts : Converts stage tag target) (bracketed : bracketsOf target = some brackets) :
    Closed brackets.opening := by
  cases converts with
  | table alignments => cases bracketed; exact closed_table _
  | link kind destination title kind' destination' =>
      cases kind' <;> cases bracketed
      exact (neutralCode_link destination').closed
  | heading | bulletList | numberedList | item | codeBlock => cases bracketed
  | _ => cases bracketed; decide

/-- A converted container without brackets writes none at its start, if it is no code block. -/
theorem neutralCode_enter {stage : Convert.Stage} {tag : Markdown.Tag} {target : Typst.Tag}
    (converts : Converts stage tag target) (none : bracketsOf target = none)
    (noCode : isCodeTarget target = false) {state inner : Renderer} {fragment : String}
    (entered : state.enter target = .ok (fragment, inner)) : IsNeutralCode fragment.toList := by
  have noFragment : IsNeutralCode "".toList := neutralCode_of_plain rfl
  have lineBreak : IsNeutralCode "\n".toList := neutralCode_of_plain rfl
  cases converts with
  | heading level =>
      cases entered
      have space : IsNeutralCode " ".toList := neutralCode_of_plain rfl
      change IsNeutralCode (repeated level.toNat '=' ++ " ").toList
      rw [String.toList_append]
      exact (neutralCode_repeated _ rfl).append space
  | bulletList | numberedList =>
      cases entered
      split
      · exact lineBreak
      · exact noFragment
  | item => exact neutralCode_itemMarker entered
  | codeBlock => cases noCode
  | link kind destination title kind' destination' =>
      cases kind' <;> cases none <;> cases entered <;> exact neutralCode_link destination'
  | _ => cases none

/-- A container without brackets writes at most a line break at its finish, if it is no code block. -/
theorem leave_of_not_bracketed {target : Typst.Tag} (none : bracketsOf target = none)
    (noCode : isCodeTarget target = false) (state : Renderer) : (state.leave target).1 ∈ ["", "\n"] := by
  cases target with
  | heading level outline bookmarks =>
      have plain : isPlainHeading outline bookmarks = true := by
        by_contra notPlain
        simp [bracketsOf, notPlain] at none
      simp [Renderer.leave, plain]
  | link kind =>
      cases kind with
      | content => cases none
      | url | autolink => simp [Renderer.leave, isBare]
  | codeBlock => cases noCode
  | showRule | bulletList | numberedList | item => simp [Renderer.leave]
  | _ => cases none

theorem neutralCode_documentSet {key value : List Char} (plain : IsNeutralCode key)
    (neutral : IsNeutralCode value) :
    IsNeutralCode ("#set document(".toList ++ key ++ ": ".toList ++ value ++ ")\n".toList) := by
  have front : IsNeutralCode "#set document(".toList := neutralCode_of_plain rfl
  have between : IsNeutralCode ": ".toList := neutralCode_of_plain rfl
  have behind : IsNeutralCode ")\n".toList := neutralCode_of_plain rfl
  exact (((front.append plain).append between).append neutral).append behind

theorem neutralCode_authorArray (names : List String) : IsNeutralCode (authorArray names).toList := by
  have comma : IsNeutralCode ",".toList := neutralCode_of_plain rfl
  have opening : IsNeutralCode "(".toList := neutralCode_of_plain rfl
  have closing : IsNeutralCode ")".toList := neutralCode_of_plain rfl
  have literals : IsNeutralCode (",".intercalate (names.map literal)).toList := by
    rw [String.toList_intercalate]
    apply neutralCode_intercalate comma
    intro code member
    obtain ⟨text, inTexts, rfl⟩ := List.mem_map.mp member
    obtain ⟨name, _, rfl⟩ := List.mem_map.mp inTexts
    exact neutralCode_literal name
  rw [authorArray, String.toList_append, String.toList_append]
  exact (opening.append literals).append closing

section Made

variable {state next : Renderer} {fragment : String}

theorem harmless_start {stage : Convert.Stage} {tag : Markdown.Tag} {target : Typst.Tag}
    (outside : state.inCode = false) (converts : Converts stage tag target)
    (stepped : state.step (.typst (.start target)) = .ok (fragment, next)) :
    (state.passage (.typst (.start target)) fragment).IsHarmless := by
  cases bracketed : bracketsOf target with
  | some brackets =>
      rw [passage_start outside bracketed]
      exact closed_opening converts bracketed
  | none =>
      rw [passage_start_plain outside bracketed]
      cases isCode : isCodeTarget target with
      | true => exact closed_aside _
      | false =>
          obtain ⟨inner, entered, _⟩ := enter_of_step stepped
          exact (neutralCode_enter converts bracketed isCode entered).closed

theorem harmless_finish {target : Typst.Tag} (outside : state.inCode = false)
    (stepped : state.step (.typst (.finish target)) = .ok (fragment, next)) :
    (state.passage (.typst (.finish target)) fragment).IsHarmless := by
  cases bracketed : bracketsOf target with
  | some brackets =>
      rw [passage_finish outside bracketed]
      exact closed_break _ (break_of_bracketed bracketed brackets.tail (by simp))
  | none =>
      obtain ⟨below, opened, left⟩ := leave_of_step stepped
      have noCode : isCodeTarget target = false := by
        rw [Renderer.inCode, opened, List.any_cons, Bool.or_eq_false_iff] at outside
        exact outside.1
      have isBreak := leave_of_not_bracketed bracketed noCode { state with opened := below }
      rw [left] at isBreak
      have closed : ∀ text ∈ ["", "\n"], Closed (asideLiterals .code text.toList) := by decide
      rw [passage_finish_plain outside bracketed]
      exact closed fragment isBreak

/-- All that conversions make is written harmlessly, but for texts. -/
theorem harmless_of_isMade {target : Typst.Event} (made : IsMade target)
    (noText : ∀ body, target ≠ .text body)
    (stepped : state.step (.typst target) = .ok (fragment, next)) :
    (state.passage (.typst target) fragment).IsHarmless := by
  cases outside : state.inCode with
  | true =>
      rw [passage_inCode outside]
      exact closed_aside _
  | false =>
      have neutral (code : IsNeutralCode fragment.toList) :
          (Passage.plain (asideLiterals .code fragment.toList)).IsHarmless := code.closed
      cases made with
      | start converts => exact harmless_start outside converts stepped
      | finish converts => exact harmless_finish outside stepped
      | text body => exact absurd rfl (noText body)
      | code body =>
          simp only [Renderer.passage, outside, Bool.false_eq_true, if_false]
          exact closed_aside _
      | paragraphBreak | pageBreak =>
          cases stepped
          simp only [Renderer.passage, outside, Bool.false_eq_true, if_false]
          exact neutral (neutralCode_of_plain rfl)
      | title body =>
          cases stepped
          simp only [Renderer.passage, outside, Bool.false_eq_true, if_false]
          have key : IsNeutralCode "title".toList := neutralCode_of_plain rfl
          exact neutral (by simpa using neutralCode_documentSet key (neutralCode_literal body))
      | authors names =>
          cases stepped
          simp only [Renderer.passage, outside, Bool.false_eq_true, if_false]
          have key : IsNeutralCode "author".toList := neutralCode_of_plain rfl
          exact neutral (by simpa using neutralCode_documentSet key (neutralCode_authorArray names))

end Made

/-! ### The document -/

def readText (text : String) : List Glyph := (escapeChars text.toList).map .shown

/-- A text that has no bracket and no backslash is closed. -/
theorem closed_readText {text : String} (plain : ∀ c ∈ text.toList, c ∉ ['\\', '[', ']']) :
    Closed (readText text) := by
  have once (c : Char) (isPlain : c ∉ ['\\', '[', ']']) : Closed ((escapeChar c).map .shown) := by
    rcases escapeChar_cases c with ⟨rfl, written⟩ | ⟨live, _, written⟩ | ⟨_, _, written⟩
    · decide
    · rw [written]
      rfl
    · rw [written]
      exact closed_of_neutral (by simpa [isNeutral_shown_iff] using isPlain)
  unfold readText
  generalize text.toList = chars at plain ⊢
  induction chars with
  | nil => rfl
  | cons c rest ih =>
      rw [escapeChars_cons, List.map_append]
      exact (once c (plain c List.mem_cons_self)).append
        (ih fun d member => plain d (List.mem_cons_of_mem c member))

/-- Outside of code a text is written as it is escaped, or not at all. -/
theorem harmless_text {before : List Event} {written : List String} {there next : Renderer}
    {text fragment : String} (reached : Renders .initial before written there)
    (stepped : there.step (.typst (.text text)) = .ok (fragment, next))
    (closed : openCount isCodeTarget before = 0 → openCount isBareLink before = 0 → Closed (readText text)) :
    (there.passage (.typst (.text text)) fragment).IsHarmless := by
  have count (kind : Typst.Tag → Bool) (none : there.opened.any kind = false) : openCount kind before = 0 := by
    rw [← reached.countP_opened kind, List.countP_eq_zero]
    simpa using none
  cases outside : there.inCode with
  | true =>
      rw [passage_inCode outside]
      exact closed_aside _
  | false =>
      rw [step_text (reached.sound sound_initial), ← Renderer.inCode, outside] at stepped
      simp only [Renderer.passage, outside, Bool.false_eq_true, if_false]
      cases linked : there.opened.any isBareLink with
      | true =>
          rw [linked] at stepped
          cases stepped
          exact closed_of_neutral (List.forall_mem_nil _)
      | false =>
          rw [linked] at stepped
          cases stepped
          change Closed ((escapeText text).toList.map .shown)
          rw [escapeText, String.toList_ofList]
          exact closed (count _ outside) (count _ linked)

/-- If stages have made all events of a stream, its brackets match as soon as all texts outside of code are
    closed. -/
theorem bracketsMatch_of_allMade {events : List Event} {written : List String} {last : Renderer}
    (balanced : balanceFault? events = none) (renders : Renders .initial events written last)
    (made : AllMade events)
    (closed : ∀ before text behind, events = before ++ .typst (.text text) :: behind →
      openCount isCodeTarget before = 0 → openCount isBareLink before = 0 → Closed (readText text)) :
    BracketsMatch events := by
  apply (bracketsMatch_iff balanced renders).mpr
  apply directlyClosed_of_harmless renders
  intro passage member
  obtain ⟨before, event, behind, _, there, fragment, next, rfl, reached, stepped, rfl⟩ :=
    exists_of_mem_passages member
  cases event with
  | book | markdown | foreign => cases stepped
  | typst target =>
      by_cases noText : ∀ text, target ≠ .text text
      · exact harmless_of_isMade (made target (by simp)) noText stepped
      · obtain ⟨text, rfl⟩ : ∃ text, target = .text text := by simpa using noText
        exact harmless_text reached stepped (closed before text behind rfl)

/-- Brackets in the markup of a converted document. It is read character by character as it was written, with
    code and literals set aside. Its brackets match, the closing bracket of every container as the one of its
    opening bracket, exactly if what stands directly in the document is balanced and what stands directly in
    each container is closed. If nothing of the document was there before the conversion, nothing but its texts
    can break out: the brackets match as soon as every text outside of code is closed, as is every text that
    has no bracket and no backslash. -/
theorem convertToTypst_bracketsMatch_iff (settings : Settings) (source : List Event) {written : List String}
    {last : Renderer} (balanced : balanceFault? (convertToTypst settings source) = none)
    (renders : Renders .initial (convertToTypst settings source) written last) :
    (glyphsOf (Renderer.initial.passages (convertToTypst settings source))).map Glyph.char =
        (String.join written).toList ∧
      (BracketsMatch (convertToTypst settings source) ↔ DirectlyClosed (convertToTypst settings source)) ∧
      ((∀ event ∈ source, event.dialect ≠ some .typst) →
        (∀ before text behind,
          convertToTypst settings source = before ++ .typst (.text text) :: behind →
          openCount isCodeTarget before = 0 → openCount isBareLink before = 0 → Closed (readText text)) →
        BracketsMatch (convertToTypst settings source)) ∧
      ∀ text : String, (∀ c ∈ text.toList, c ∉ ['\\', '[', ']']) → Closed (readText text) := by
  refine ⟨renders.map_char_glyphsOf, bracketsMatch_iff balanced renders, ?_, fun text => closed_readText⟩
  intro noTarget closed
  exact bracketsMatch_of_allMade balanced renders (allMade_convertToTypst settings noTarget) closed

def paragraphOf (text : String) : List Event :=
  [.markdown (.start .paragraph), .markdown (.text text), .markdown (.finish .paragraph)]

theorem convertToTypst_bracketsMatch_footnote :
    balanceFault? (convertToTypst .everything (paragraphOf "a[1]")) = none ∧
      (∃ last, Renders .initial (convertToTypst .everything (paragraphOf "a[1]"))
        ["#par()[", "a[1]", "]\n"] last) ∧
      BracketsMatch (convertToTypst .everything (paragraphOf "a[1]")) := by
  have converted : convertToTypst .everything (paragraphOf "a[1]") =
      [.start .paragraph, .text "a[1]", .finish .paragraph].map .typst := by decide
  have balanced : balanceFault? (convertToTypst .everything (paragraphOf "a[1]")) = none := by
    rw [converted]
    decide
  obtain ⟨last, renders⟩ : ∃ last, Renders .initial (convertToTypst .everything (paragraphOf "a[1]"))
      ["#par()[", "a[1]", "]\n"] last := by
    rw [converted]
    exact renders_of_fragments (by decide)
  refine ⟨balanced, ⟨last, renders⟩, ?_⟩
  apply (convertToTypst_bracketsMatch_iff .everything _ balanced renders).2.2.1
  · decide
  · intro before text behind split _ _
    have member : Event.typst (.text text) ∈ convertToTypst .everything (paragraphOf "a[1]") := by
      rw [split]
      simp
    rw [converted] at member
    obtain rfl : text = "a[1]" := by simpa using member
    decide

/-- A closing bracket in a text closes the paragraph around it. -/
theorem bracketsMatch_strayBracket :
    convertToTypst .everything (paragraphOf "a] b") =
        [.start .paragraph, .text "a] b", .finish .paragraph].map .typst ∧
      balanceFault? (convertToTypst .everything (paragraphOf "a] b")) = none ∧
      fragments (convertToTypst .everything (paragraphOf "a] b")) = .done ["#par()[", "a] b", "]\n"] ∧
      readGroup .start ("a] b]\n".toList.map .shown) =
        some ("a".toList.map .shown, " b]\n".toList.map .shown) ∧
      ¬ BracketsMatch (convertToTypst .everything (paragraphOf "a] b")) := by
  have converted : convertToTypst .everything (paragraphOf "a] b") =
      [.start .paragraph, .text "a] b", .finish .paragraph].map .typst := by decide
  have unbalanced : Cursor.start.through (glyphsOf (Renderer.initial.passages
      ([.start .paragraph, .text "a] b", .finish .paragraph].map .typst))) = none := by decide
  rw [converted]
  refine ⟨rfl, by decide, by decide, by decide, ?_⟩
  rintro ⟨⟨escaped, whole⟩, _⟩
  rw [unbalanced] at whole
  cases whole

end Bindery.Markup
