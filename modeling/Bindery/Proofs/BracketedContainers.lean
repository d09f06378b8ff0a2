/-
Module: Bindery.Proofs.BracketedContainers
Layer: Proofs
Purpose: Containers between brackets. Every event of a stream writes one passage of the markup: the start of
  a container with its opening bracket, the finish with its closing one, or something else. Nothing but the
  passages themselves says where a container ends: its closing bracket is read as the one of its opening
  bracket exactly if all that is written between them is closed. Inner containers can be left out of this, as
  long as their own brackets match. So all brackets match exactly if of every container the passages that
  stand in it directly, read one behind the other, are closed.
Imports: Bindery.Proofs.BracketReading, Bindery.Proofs.NestingGrammar, Bindery.Proofs.RendererPlaces
Main exports: Brackets, bracketsOf, enter_bracketed, leave_bracketed, Passage, Renderer.passages, glyphsOf,
  map_char_glyphsOf, direct, Nested, RendersContainer, passages_container, Contains, Contains.embed,
  Contains.passages_split, Contains.exists_held, through_glyphsOf, Matches, BracketsMatch, bracketsMatch_iff
-/
import Bindery.Proofs.BracketReading
import Bindery.Proofs.NestingGrammar
import Bindery.Proofs.RendererPlaces

namespace Bindery.Markup

open Bindery.Convert (isCodeTarget)

/-! ### Brackets of containers -/

/-- What a container writes: in front of its opening bracket, behind it, in front of its closing bracket, and
    behind it. -/
structure Brackets where
  head : String
  lead : String
  trail : String
  tail : String

/-- The brackets of a container, if it has any. -/
def bracketsOf : Typst.Tag → Option Brackets
  | .paragraph => some ⟨"#par()", "", "", "\n"⟩
  | .showRule _ _ _ _ => none
  | .heading level outline bookmarks =>
    if isPlainHeading outline bookmarks then none
    else some ⟨"#heading(level: " ++ toString level ++ ", outlined: " ++ flag (outline = .included) ++
      ", bookmarked: " ++ flag (bookmarks = .included) ++ ")", "", "", "\n"⟩
  | .codeBlock _ _ => none
  | .bulletList _ _ => none
  | .numberedList _ _ _ => none
  | .item => none
  | .quote kind marks attribution =>
    some ⟨"#quote(" ++ (if kind = .block then "block: true," else "block: false,") ++ " quotes: " ++
      marks.value ++ "," ++ (attribution.map fun source => " attribution: [" ++ source ++ "]").getD "" ++ ")",
      "", "", if kind = .block then "\n" else ""⟩
  | .emphasis => some ⟨"#emph", "", "", ""⟩
  | .strong => some ⟨"#strong", "", "", ""⟩
  | .strikethrough => some ⟨"#strike", "", "", ""⟩
  | .link kind destination =>
    if isBare kind then none else some ⟨"#link(" ++ literal destination ++ ")", "", "", ""⟩
  | .table alignments =>
    some ⟨"#table(align: [" ++ ", ".intercalate (alignments.map Typst.Alignment.value) ++ "])", "\n", "",
      "\n"⟩
  | .tableHead => some ⟨"#row", "\n", "\n", "\n"⟩
  | .tableRow => some ⟨"#row", "\n", "\n", "\n"⟩
  | .tableCell => some ⟨"#cell", "", "", ""⟩

section Brackets

variable {tag : Typst.Tag} {brackets : Brackets}

/-- A container with brackets writes what is in front of its opening bracket, the bracket, and what is behind
    it. -/
theorem enter_bracketed (bracketed : bracketsOf tag = some brackets) (state : Renderer) :
    state.enter tag = .ok (brackets.head ++ "[" ++ brackets.lead, state) := by
  cases tag with
  | heading level outline bookmarks =>
      by_cases plain : isPlainHeading outline bookmarks = true
      · simp [bracketsOf, plain] at bracketed
      · simp only [bracketsOf, plain, Bool.false_eq_true, if_false, Option.some.injEq] at bracketed
        subst bracketed
        simp only [Renderer.enter, headingStart, plain, Bool.false_eq_true, if_false, String.append_assoc,
          String.append_empty]
        rfl
  | link kind destination =>
      cases kind <;> cases bracketed
      simp [Renderer.enter, isBare, String.append_assoc]
  | quote kind marks attribution =>
      cases bracketed
      rw [Renderer.enter, quoteStart.eq_def]
      simp only [String.append_assoc, String.append_empty]
      cases kind <;> cases attribution <;> rfl
  | table alignments =>
      cases bracketed
      simp [Renderer.enter, String.append_assoc]
  | _ => cases bracketed <;> rfl

theorem leave_bracketed (bracketed : bracketsOf tag = some brackets) (state : Renderer) :
    state.leave tag = (brackets.trail ++ "]" ++ brackets.tail, state) := by
  cases tag with
  | heading level outline bookmarks =>
      by_cases plain : isPlainHeading outline bookmarks = true
      · simp [bracketsOf, plain] at bracketed
      · simp only [bracketsOf, plain, Bool.false_eq_true, if_false, Option.some.injEq] at bracketed
        subst bracketed
        simp [Renderer.leave, plain]
  | link kind destination => cases kind <;> cases bracketed; rfl
  | quote kind marks attribution =>
      cases bracketed
      cases kind <;> rfl
  | _ => cases bracketed <;> rfl

theorem isCodeTarget_of_bracketed (bracketed : bracketsOf tag = some brackets) : isCodeTarget tag = false := by
  cases tag with
  | codeBlock => cases bracketed
  | _ => rfl

/-- What is written in front of an opening bracket, with its literals set aside. -/
def Brackets.opening (brackets : Brackets) : List Glyph := asideLiterals .code brackets.head.toList

/-- What is written between the brackets, around what the container holds. -/
def Brackets.around (brackets : Brackets) (inside : List Glyph) : List Glyph :=
  brackets.lead.toList.map .shown ++ inside ++ brackets.trail.toList.map .shown

theorem exists_head_concat (bracketed : bracketsOf tag = some brackets) :
    ∃ front c, brackets.head = front ++ String.singleton c ∧ c ≠ '\\' := by
  cases tag with
  | paragraph => cases bracketed; exact ⟨"#par(", ')', rfl, by decide⟩
  | emphasis => cases bracketed; exact ⟨"#emp", 'h', rfl, by decide⟩
  | strong => cases bracketed; exact ⟨"#stron", 'g', rfl, by decide⟩
  | strikethrough => cases bracketed; exact ⟨"#strik", 'e', rfl, by decide⟩
  | tableHead | tableRow => cases bracketed; exact ⟨"#ro", 'w', rfl, by decide⟩
  | tableCell => cases bracketed; exact ⟨"#cel", 'l', rfl, by decide⟩
  | table alignments =>
      cases bracketed
      have last : "])" = "]" ++ String.singleton ')' := rfl
      refine ⟨"#table(align: [" ++ ", ".intercalate (alignments.map Typst.Alignment.value) ++ "]", ')', ?_,
        by decide⟩
      rw [last, ← String.append_assoc]
  | quote => cases bracketed; exact ⟨_, ')', rfl, by decide⟩
  | heading level outline bookmarks =>
      by_cases plain : isPlainHeading outline bookmarks = true
      · simp [bracketsOf, plain] at bracketed
      · simp only [bracketsOf, plain, Bool.false_eq_true, if_false, Option.some.injEq] at bracketed
        subst bracketed
        exact ⟨_, ')', rfl, by decide⟩
  | link kind => cases kind <;> cases bracketed; exact ⟨_, ')', rfl, by decide⟩
  | _ => cases bracketed

/-- No opening bracket of a container is taken by a backslash. -/
theorem settles_opening (bracketed : bracketsOf tag = some brackets) : Settles brackets.opening := by
  obtain ⟨front, c, split, noBackslash⟩ := exists_head_concat bracketed
  obtain ⟨glyphs, glyph, read, same⟩ := exists_asideLiterals_concat .code front.toList c
  rw [Brackets.opening, split, String.toList_append, String.toList_singleton, read]
  exact settles_append_singleton glyphs (same ▸ noBackslash)

end Brackets

/-! ### Passages -/

/-- What one event writes: the start of a container up to and including its opening bracket and the line
    break behind it, its finish with the closing bracket, or anything else. -/
inductive Passage where
  | opens (brackets : Brackets)
  | closes (brackets : Brackets)
  | plain (glyphs : List Glyph)

/-- What a reader of brackets takes a passage for. -/
def Passage.glyphs : Passage → List Glyph
  | .opens brackets => brackets.opening ++ .shown '[' :: brackets.lead.toList.map .shown
  | .closes brackets => brackets.trail.toList.map .shown ++ .shown ']' :: brackets.tail.toList.map .shown
  | .plain glyphs => glyphs

/-- What passages are read as, one behind the other. -/
def glyphsOf (passages : List Passage) : List Glyph := passages.flatMap Passage.glyphs

def Renderer.inCode (state : Renderer) : Bool := state.opened.any isCodeTarget

/-- The passage of an event. Code blocks and inline code are set aside as a whole, and so are the literals of
    all code; text and raw markup are shown as they are written. -/
def Renderer.passage (state : Renderer) (event : Event) (fragment : String) : Passage :=
  if state.inCode then .plain (fragment.toList.map .aside)
  else
    match event with
    | .typst (.start (.codeBlock _ _)) => .plain (fragment.toList.map .aside)
    | .typst (.start tag) =>
      ((bracketsOf tag).map .opens).getD (.plain (asideLiterals .code fragment.toList))
    | .typst (.finish tag) =>
      ((bracketsOf tag).map .closes).getD (.plain (asideLiterals .code fragment.toList))
    | .typst (.code _) => .plain (fragment.toList.map .aside)
    | .typst (.text _) => .plain (fragment.toList.map .shown)
    | .typst (.raw _) => .plain (fragment.toList.map .shown)
    | _ => .plain (asideLiterals .code fragment.toList)

/-- The passages of a stream, one an event, up to the first event that cannot be rendered. -/
def Renderer.passages (state : Renderer) : List Event → List Passage
  | [] => []
  | event :: rest =>
    match state.step event with
    | .error _ => []
    | .ok (fragment, next) => state.passage event fragment :: next.passages rest

/-- What stands directly in the container whose passages these are, or behind `around` starts of containers
    in it: everything but what is between the brackets of inner ones, these brackets included. -/
def direct (around : Nat) : List Passage → List Glyph
  | [] => []
  | .opens brackets :: rest => (if around = 0 then brackets.opening else []) ++ direct (around + 1) rest
  | .closes brackets :: rest =>
    (if around = 1 then brackets.tail.toList.map .shown else []) ++ direct (around - 1) rest
  | .plain glyphs :: rest => (if around = 0 then glyphs else []) ++ direct around rest

section Passages

variable {state next last : Renderer} {event : Event} {events : List Event} {fragment : String}
  {written : List String} {tag : Typst.Tag} {brackets : Brackets}

theorem glyphsOf_cons (passage : Passage) (passages : List Passage) :
    glyphsOf (passage :: passages) = passage.glyphs ++ glyphsOf passages := List.flatMap_cons

theorem glyphsOf_append (first second : List Passage) :
    glyphsOf (first ++ second) = glyphsOf first ++ glyphsOf second := List.flatMap_append

theorem passages_cons (stepped : state.step event = .ok (fragment, next)) (rest : List Event) :
    state.passages (event :: rest) = state.passage event fragment :: next.passages rest := by
  rw [Renderer.passages, stepped]

theorem Renders.passages_append (renders : Renders state events written last) (rest : List Event) :
    state.passages (events ++ rest) = state.passages events ++ last.passages rest := by
  induction renders with
  | nil => rfl
  | cons stepped _ ih =>
      rw [List.cons_append, passages_cons stepped, passages_cons stepped, ih, List.cons_append]

/-- A passage is that of an event in its place. -/
theorem exists_of_mem_passages {passage : Passage} (member : passage ∈ state.passages events) :
    ∃ before event behind written there fragment next, events = before ++ event :: behind ∧
      Renders state before written there ∧ there.step event = .ok (fragment, next) ∧
      passage = there.passage event fragment := by
  induction events generalizing state with
  | nil => cases member
  | cons event rest ih =>
      cases stepped : state.step event with
      | error fault =>
          rw [Renderer.passages, stepped] at member
          cases member
      | ok made =>
          obtain ⟨fragment, next⟩ := made
          rw [passages_cons stepped] at member
          obtain rfl | later := List.mem_cons.mp member
          · exact ⟨[], event, rest, [], state, fragment, next, rfl, .nil state, stepped, rfl⟩
          · obtain ⟨before, other, behind, _, there, other', next', rfl, reached, step, same⟩ := ih later
            exact ⟨event :: before, other, behind, _, there, other', next', rfl, .cons stepped reached, step,
              same⟩

/-- Outside of code, the start of a container with brackets opens them, and its finish closes them. -/
theorem passage_start (outside : state.inCode = false) (bracketed : bracketsOf tag = some brackets)
    (fragment : String) : state.passage (.typst (.start tag)) fragment = .opens brackets := by
  cases tag <;> simp_all [Renderer.passage, bracketsOf]

theorem passage_finish (outside : state.inCode = false) (bracketed : bracketsOf tag = some brackets)
    (fragment : String) : state.passage (.typst (.finish tag)) fragment = .closes brackets := by
  simp [Renderer.passage, outside, bracketed]

/-- In code, everything is set aside. -/
theorem passage_inCode (inCode : state.inCode = true) (event : Event) (fragment : String) :
    state.passage event fragment = .plain (fragment.toList.map .aside) := by
  unfold Renderer.passage
  rw [if_pos inCode]

theorem passage_start_plain (outside : state.inCode = false) (none : bracketsOf tag = none)
    (fragment : String) : state.passage (.typst (.start tag)) fragment =
      .plain (if isCodeTarget tag then fragment.toList.map .aside
        else asideLiterals .code fragment.toList) := by
  cases tag <;> simp_all [Renderer.passage, isCodeTarget]

theorem passage_finish_plain (outside : state.inCode = false) (none : bracketsOf tag = none)
    (fragment : String) :
    state.passage (.typst (.finish tag)) fragment = .plain (asideLiterals .code fragment.toList) := by
  simp [Renderer.passage, outside, none]

/-- In code, and of a container without brackets, both are passages like any other. -/
theorem passage_plain (notBracketed : state.inCode = true ∨ bracketsOf tag = none) (fragment : String) :
    ∃ glyphs glyphs', state.passage (.typst (.start tag)) fragment = .plain glyphs ∧
      state.passage (.typst (.finish tag)) fragment = .plain glyphs' := by
  cases inCode : state.inCode with
  | true => exact ⟨_, _, passage_inCode inCode _ _, passage_inCode inCode _ _⟩
  | false =>
      have none : bracketsOf tag = none := notBracketed.resolve_left (by simp [inCode])
      exact ⟨_, _, passage_start_plain inCode none _, passage_finish_plain inCode none _⟩

theorem passage_leaf (leaf : event.bracket = .leaf) (state : Renderer) (fragment : String) :
    ∃ glyphs, state.passage event fragment = .plain glyphs := by
  unfold Renderer.passage
  split
  · exact ⟨_, rfl⟩
  · split
    · cases leaf
    · cases leaf
    · cases leaf
    all_goals exact ⟨_, rfl⟩

/-- A passage is read as what was written, character by character. -/
theorem map_char_passage (stepped : state.step event = .ok (fragment, next)) :
    (state.passage event fragment).glyphs.map Glyph.char = fragment.toList := by
  have shown (text : List Char) : (text.map Glyph.shown).map Glyph.char = text := by
    simp [Function.comp_def, Glyph.char]
  have aside (text : List Char) : (text.map Glyph.aside).map Glyph.char = text := by
    simp [Function.comp_def, Glyph.char]
  unfold Renderer.passage
  split
  · exact aside _
  · split
    · exact aside _
    · next tag _ =>
        cases bracketed : bracketsOf tag with
        | none => exact map_char_asideLiterals _ _
        | some brackets =>
            obtain ⟨inner, entered, _⟩ := enter_of_step stepped
            rw [enter_bracketed bracketed] at entered
            cases entered
            simp [Passage.glyphs, Brackets.opening, map_char_asideLiterals, Function.comp_def, Glyph.char]
    · next tag =>
        cases bracketed : bracketsOf tag with
        | none => exact map_char_asideLiterals _ _
        | some brackets =>
            obtain ⟨below, _, left⟩ := leave_of_step stepped
            rw [leave_bracketed bracketed] at left
            cases left
            simp [Passage.glyphs, Function.comp_def, Glyph.char]
    · exact aside _
    · exact shown _
    · exact shown _
    · exact map_char_asideLiterals _ _

/-- The passages of a stream are read as the whole markup. -/
theorem Renders.map_char_glyphsOf (renders : Renders state events written last) :
    (glyphsOf (state.passages events)).map Glyph.char = (String.join written).toList := by
  induction renders with
  | nil => rfl
  | cons stepped _ ih =>
      rw [passages_cons stepped, glyphsOf_cons, List.map_append, map_char_passage stepped, ih, String.join_cons,
        String.toList_append]

end Passages

/-! ### Nested passages -/

/-- Passages in which every opening bracket of a container is followed by the closing one of the same
    container. -/
inductive Nested : List Passage → Prop where
  | nil : Nested []
  | plain (glyphs : List Glyph) {rest : List Passage} (more : Nested rest) : Nested (.plain glyphs :: rest)
  | group (brackets : Brackets) {inside rest : List Passage} (inner : Nested inside) (more : Nested rest) :
      Nested (.opens brackets :: (inside ++ .closes brackets :: rest))

theorem Nested.append {first second : List Passage} (nested : Nested first) (nested' : Nested second) :
    Nested (first ++ second) := by
  induction nested with
  | nil => exact nested'
  | plain glyphs more ih => exact .plain glyphs ih
  | group brackets inner more _ ih =>
      rw [List.cons_append, List.append_assoc]
      exact .group brackets inner ih

/-- Nothing of what is nested in a container stands directly in what is around the container. -/
theorem Nested.direct_inside {passages : List Passage} (nested : Nested passages) (around : Nat)
    (behind : List Passage) : direct (around + 1) (passages ++ behind) = direct (around + 1) behind := by
  induction nested generalizing around behind with
  | nil => rfl
  | plain glyphs more ih =>
      rw [List.cons_append, direct, ih]
      rfl
  | group brackets inner more ihInside ihRest =>
      rw [List.cons_append, List.append_assoc, direct, ihInside, List.cons_append, direct,
        Nat.add_sub_cancel, ihRest]
      rfl

/-- A container leaves nothing but what is in front of its opening bracket and behind its closing one. -/
theorem Nested.direct_group {inside : List Passage} (nested : Nested inside) (brackets : Brackets)
    (behind : List Passage) :
    direct 0 (.opens brackets :: (inside ++ .closes brackets :: behind)) =
      brackets.opening ++ (brackets.tail.toList.map .shown ++ direct 0 behind) := by
  rw [direct, nested.direct_inside, direct]
  rfl

theorem glyphsOf_group (brackets : Brackets) (inside behind : List Passage) :
    glyphsOf (.opens brackets :: (inside ++ .closes brackets :: behind)) =
      brackets.opening ++ .shown '[' :: (brackets.around (glyphsOf inside) ++
        .shown ']' :: (brackets.tail.toList.map .shown ++ glyphsOf behind)) := by
  simp [glyphsOf, Passage.glyphs, Brackets.around]

/-- What stands directly in passages and in those behind them stands in the ones or in the others. -/
theorem Nested.direct_append {passages : List Passage} (nested : Nested passages) (behind : List Passage) :
    direct 0 (passages ++ behind) = direct 0 passages ++ direct 0 behind := by
  induction nested generalizing behind with
  | nil => rfl
  | plain glyphs more ih => rw [List.cons_append, direct, direct, ih, List.append_assoc]
  | group brackets inner more _ ih =>
      rw [List.cons_append, List.append_assoc, List.cons_append, inner.direct_group, inner.direct_group, ih,
        List.append_assoc, List.append_assoc]

/-! ### Containers -/

section Containers

variable {state last : Renderer} {events : List Event} {written : List String}

/-- What a rendering goes through at a container: its start, what it holds, its finish, and what is behind. -/
inductive RendersContainer (state : Renderer) :
    Event → List Event → Event → List Event → Renderer → Prop where
  | intro {target : Typst.Tag} {inner middle outer last : Renderer} {inside rest : List Event}
      {fragment fragment' : String} {pieces more : List String}
      (entered : state.step (.typst (.start target)) = .ok (fragment, inner))
      (rendersInside : Renders inner inside pieces middle)
      (opened : middle.opened = target :: state.opened)
      (left : middle.step (.typst (.finish target)) = .ok (fragment', outer))
      (rendersRest : Renders outer rest more last) :
      RendersContainer state (.typst (.start target)) inside (.typst (.finish target)) rest last

theorem Renders.container {opening closing : Event} {tag : Tag} {inside rest : List Event}
    (renders : Renders state (opening :: inside ++ closing :: rest) written last)
    (opens : opening.bracket = .opening tag) (closes : closing.bracket = .closing tag)
    (balanced : balanceFault? inside = none) : RendersContainer state opening inside closing rest last := by
  cases renders with
  | cons stepped more =>
      obtain ⟨_, middle, _, rfl, rendersInside, rendersClosing⟩ := more.cut
      cases rendersClosing with
      | cons stepped' rendersRest =>
          obtain ⟨target, rfl⟩ : ∃ target, opening = .typst (.start target) := by
            rcases step_cases stepped with ⟨target, _, isStart, _, _⟩ | ⟨_, _, rfl, _, _⟩ | ⟨leaf, _⟩
            · exact ⟨target, isStart⟩
            · cases opens
            · rw [leaf] at opens
              cases opens
          cases opens
          obtain rfl : closing = .typst (.finish target) := by
            rcases step_cases stepped' with ⟨_, _, rfl, _, _⟩ | ⟨target', _, rfl, _, _⟩ | ⟨leaf, _⟩
            · cases closes
            · cases closes
              rfl
            · rw [leaf] at closes
              cases closes
          have opened : middle.opened = target :: state.opened := by
            obtain ⟨entered, isEntered, rfl⟩ := enter_of_step stepped
            rw [rendersInside.opened_of_balanced balanced]
            exact congrArg (target :: ·) (enter_opened isEntered)
          exact .intro stepped rendersInside opened stepped' rendersRest

/-- The passages of a container: if it has brackets and stands outside of code, one that opens them and one
    that closes them, and two others otherwise. -/
theorem passages_container {target : Typst.Tag} {inner middle outer : Renderer} {inside : List Event}
    {fragment fragment' : String} {pieces : List String}
    (entered : state.step (.typst (.start target)) = .ok (fragment, inner))
    (rendersInside : Renders inner inside pieces middle) (opened : middle.opened = target :: state.opened)
    (left : middle.step (.typst (.finish target)) = .ok (fragment', outer)) (rest : List Event) :
    (∃ brackets, state.inCode = false ∧ bracketsOf target = some brackets ∧
        state.passages (.typst (.start target) :: inside ++ .typst (.finish target) :: rest) =
          .opens brackets :: (inner.passages inside ++ .closes brackets :: outer.passages rest)) ∨
      ((state.inCode = true ∨ bracketsOf target = none) ∧ ∃ glyphs glyphs',
        state.passages (.typst (.start target) :: inside ++ .typst (.finish target) :: rest) =
          .plain glyphs :: (inner.passages inside ++ .plain glyphs' :: outer.passages rest)) := by
  rw [List.cons_append, passages_cons entered, rendersInside.passages_append, passages_cons left]
  by_cases bracketed : state.inCode = false ∧ (bracketsOf target).isSome
  · obtain ⟨outside, some⟩ := bracketed
    obtain ⟨brackets, isBracketed⟩ := Option.isSome_iff_exists.mp some
    have outside' : middle.inCode = false := by
      rw [Renderer.inCode, opened, List.any_cons, isCodeTarget_of_bracketed isBracketed, Bool.false_or]
      exact outside
    rw [passage_start outside isBracketed, passage_finish outside' isBracketed]
    exact .inl ⟨brackets, outside, isBracketed, rfl⟩
  · have notBracketed : state.inCode = true ∨ bracketsOf target = none := by
      simpa [or_iff_not_imp_left] using bracketed
    have notBracketed' : middle.inCode = true ∨ bracketsOf target = none := by
      refine notBracketed.imp_left fun inCode => ?_
      rw [Renderer.inCode, opened, List.any_cons, ← Renderer.inCode, inCode, Bool.or_true]
    obtain ⟨glyphs, _, isPlain, _⟩ := passage_plain notBracketed fragment
    obtain ⟨_, glyphs', _, isPlain'⟩ := passage_plain notBracketed' fragment'
    rw [isPlain, isPlain']
    exact .inr ⟨notBracketed, glyphs, glyphs', rfl⟩

/-- The passages of a balanced stream are nested. -/
theorem nested_passages (derivable : Derivable events) (renders : Renders state events written last) :
    Nested (state.passages events) := by
  induction derivable generalizing state written last with
  | empty => exact .nil
  | leaf isLeaf more ih =>
      cases renders with
      | @cons _ _ _ _ _ fragment _ stepped renders =>
          obtain ⟨glyphs, isPlain⟩ := passage_leaf isLeaf state fragment
          rw [passages_cons stepped, isPlain]
          exact .plain glyphs (ih renders)
  | container opens closes inner more ihInside ihRest =>
      cases renders.container opens closes (balanced_of_derivable inner) with
      | intro entered rendersInside opened left rendersRest =>
          have nestedInside := ihInside rendersInside
          have nestedRest := ihRest rendersRest
          rcases passages_container entered rendersInside opened left _ with
            ⟨brackets, _, _, passages⟩ | ⟨_, glyphs, glyphs', passages⟩
          · rw [passages]
            exact .group brackets nestedInside nestedRest
          · rw [passages]
            exact .plain glyphs (nestedInside.append (.plain glyphs' nestedRest))

/-- A container with brackets somewhere in a stream, outside of code: the passages in front of it, its
    brackets, and the passages of what it holds. -/
inductive Contains (state : Renderer) (events : List Event) :
    List Passage → Brackets → List Passage → Prop where
  | intro {before inside behind : List Event} {tag : Typst.Tag} {brackets : Brackets}
      {written : List String} {fragment : String} {there inner : Renderer}
      (split : events = before ++ (.typst (.start tag) :: inside ++ .typst (.finish tag) :: behind))
      (balanced : balanceFault? inside = none) (bracketed : bracketsOf tag = some brackets)
      (reached : Renders state before written there) (outside : there.inCode = false)
      (entered : there.step (.typst (.start tag)) = .ok (fragment, inner)) :
      Contains state events (state.passages before) brackets (inner.passages inside)

/-- What a piece of a stream contains, the stream contains. -/
theorem Contains.embed {middle : Renderer} {before : List Event} {front inside : List Passage}
    {brackets : Brackets} (contains : Contains middle events front brackets inside)
    (renders : Renders state before written middle) (behind : List Event) :
    Contains state (before ++ events ++ behind) (state.passages before ++ front) brackets inside := by
  cases contains with
  | intro split balanced bracketed reached outside entered =>
      rw [← renders.passages_append]
      have split' := congrArg (before ++ · ++ behind) split
      simp only [List.append_assoc, List.cons_append] at split'
      rw [← List.append_assoc, ← List.cons_append, ← List.append_assoc] at split'
      exact .intro split' balanced bracketed (renders.append reached) outside entered

/-- If all containers in a stream are closed, a reader gets as far through the stream as through what stands
    in it directly. -/
theorem through_glyphsOf (derivable : Derivable events) (renders : Renders state events written last)
    (closed : ∀ front brackets inside, Contains state events front brackets inside →
      Closed (brackets.around (glyphsOf inside))) (cursor : Cursor) :
    cursor.through (glyphsOf (state.passages events)) =
      cursor.through (direct 0 (state.passages events)) := by
  induction derivable generalizing state written last cursor with
  | empty => rfl
  | @leaf event rest isLeaf more ih =>
      cases renders with
      | @cons _ next _ _ _ fragment _ stepped renders =>
          obtain ⟨glyphs, isPlain⟩ := passage_leaf isLeaf state fragment
          rw [passages_cons stepped, isPlain, glyphsOf_cons, direct, if_pos rfl, Passage.glyphs,
            Cursor.through_append, Cursor.through_append]
          congr 1
          funext next'
          apply ih renders
          intro front brackets inside contains
          have contained := contains.embed (.cons stepped (.nil next)) []
          rw [List.append_nil] at contained
          exact closed _ brackets inside contained
  | @container tag opening closing inside rest opens closes inner more ihInside ihRest =>
      have balanced := balanced_of_derivable inner
      cases renders.container opens closes balanced with
      | @intro _ state' _ outer _ _ _ _ _ _ _ entered rendersInside opened left rendersRest =>
          have nestedInside := nested_passages inner rendersInside
          have sameRest (next : Cursor) : next.through (glyphsOf (outer.passages rest)) =
              next.through (direct 0 (outer.passages rest)) := by
            apply ihRest rendersRest
            intro front brackets within contains
            have reached := Renders.cons entered (rendersInside.append (.cons left (.nil outer)))
            have contained := contains.embed reached []
            rw [List.append_nil, List.cons_append, List.append_assoc] at contained
            exact closed _ brackets within contained
          rcases passages_container entered rendersInside opened left rest with
            ⟨brackets, outside, bracketed, passages⟩ | ⟨_, glyphs, glyphs', passages⟩
          · have closedInside : Closed (brackets.around (glyphsOf (state'.passages inside))) :=
              closed [] brackets _ (.intro rfl balanced bracketed (.nil state) outside entered)
            rw [passages, glyphsOf_group, nestedInside.direct_group, Cursor.through_append,
              Cursor.through_append]
            cases read : cursor.through brackets.opening with
            | none => rfl
            | some next =>
                obtain ⟨depth, escaped⟩ := next
                obtain rfl : escaped = false := settles_opening bracketed _ _ read
                rw [Option.bind_some, Option.bind_some, Cursor.through_group closedInside,
                  Cursor.through_append, Cursor.through_append]
                congr 1
                funext next
                exact sameRest next
          · have sameInside (next : Cursor) : next.through (glyphsOf (state'.passages inside)) =
                next.through (direct 0 (state'.passages inside)) := by
              apply ihInside rendersInside
              intro front brackets within contains
              exact closed _ brackets within (contains.embed (.cons entered (.nil state')) _)
            rw [passages, glyphsOf_cons, glyphsOf_append, glyphsOf_cons, direct, nestedInside.direct_append,
              direct, if_pos rfl, if_pos rfl, Passage.glyphs, Passage.glyphs]
            simp only [Cursor.through_append, sameInside, sameRest]

theorem Renders.unique {last' : Renderer} {written' : List String} (renders : Renders state events written last)
    (renders' : Renders state events written' last') : written = written' ∧ last = last' := by
  induction renders generalizing written' with
  | nil state =>
      cases renders'
      exact ⟨rfl, rfl⟩
  | cons stepped _ ih =>
      cases renders' with
      | cons stepped' more' =>
          obtain ⟨rfl, rfl⟩ := eq_of_ok stepped stepped'
          obtain ⟨rfl, rfl⟩ := ih more'
          exact ⟨rfl, rfl⟩

/-- From where a prefix of a rendering leads, the rest is rendered. -/
theorem Renders.rest_of_reached {before rest : List Event} {front : List String} {there : Renderer}
    (renders : Renders state (before ++ rest) written last) (reached : Renders state before front there) :
    ∃ more, Renders there rest more last := by
  obtain ⟨_, middle, more, _, rendersBefore, rendersRest⟩ := renders.cut
  obtain rfl := (reached.unique rendersBefore).2
  exact ⟨more, rendersRest⟩

theorem Contains.exists_tag {front inside : List Passage} {brackets : Brackets}
    (contains : Contains state events front brackets inside) : ∃ tag, bracketsOf tag = some brackets := by
  cases contains with
  | @intro _ _ _ tag _ _ _ _ _ _ _ bracketed _ _ _ => exact ⟨tag, bracketed⟩

/-- A container has its place among the passages of the stream. -/
theorem Contains.passages_split {front inside : List Passage} {brackets : Brackets}
    (contains : Contains state events front brackets inside) (renders : Renders state events written last) :
    ∃ behind, state.passages events = front ++ .opens brackets :: (inside ++ .closes brackets :: behind) := by
  cases contains with
  | @intro before held after tag _ _ fragment there inner split balanced bracketed reached outside entered =>
      subst split
      obtain ⟨_, rendersHere⟩ := renders.rest_of_reached reached
      cases rendersHere.container rfl rfl balanced with
      | @intro _ inner' _ outer _ _ _ _ _ _ _ entered' rendersInside opened left _ =>
          obtain rfl := (eq_of_ok entered entered').2
          rcases passages_container entered' rendersInside opened left after with
            ⟨brackets', _, bracketed', passages⟩ | ⟨notBracketed, _⟩
          · obtain rfl := Option.some.inj (bracketed.symm.trans bracketed')
            exact ⟨outer.passages after, by rw [reached.passages_append, passages]⟩
          · rw [outside, bracketed] at notBracketed
            simp at notBracketed

/-- What a container holds is balanced and rendered as well, and what is contained in it is contained in the
    stream. -/
theorem Contains.exists_held {front inside : List Passage} {brackets : Brackets}
    (contains : Contains state events front brackets inside) (renders : Renders state events written last) :
    ∃ held inner pieces middle, inside = inner.passages held ∧ balanceFault? held = none ∧
      Renders inner held pieces middle ∧
      ∀ front' brackets' inside', Contains inner held front' brackets' inside' →
        ∃ front'', Contains state events front'' brackets' inside' := by
  cases contains with
  | @intro before held after tag _ _ fragment there inner split balanced bracketed reached outside entered =>
      subst split
      obtain ⟨_, rendersHere⟩ := renders.rest_of_reached reached
      cases rendersHere.container rfl rfl balanced with
      | intro entered' rendersInside _ _ _ =>
          obtain rfl := (eq_of_ok entered entered').2
          refine ⟨held, inner, _, _, rfl, balanced, rendersInside, ?_⟩
          intro front' brackets' inside' contains
          have here := contains.embed (.cons entered (.nil inner)) (.typst (.finish tag) :: after)
          have contained := here.embed reached []
          rw [List.append_nil] at contained
          exact ⟨_, contained⟩

end Containers

/-! ### Matching -/

/-- Do the brackets of a text match each other? -/
def Balanced (glyphs : List Glyph) : Prop := ∃ escaped, Cursor.start.through glyphs = some ⟨0, escaped⟩

/-- A group in a text: a reader gets to its opening bracket, which no backslash takes, and from there to its
    closing one. -/
def Matches (glyphs front inside : List Glyph) : Prop :=
  ∃ depth rest, glyphs = front ++ .shown '[' :: (inside ++ .shown ']' :: rest) ∧
    Cursor.start.through front = some ⟨depth, false⟩ ∧
    readGroup .start (inside ++ .shown ']' :: rest) = some (inside, rest)

/-- Brackets match where a stream is read: those of the whole markup, and for every container its closing
    bracket is the one of its opening bracket. -/
structure BracketsMatch (events : List Event) : Prop where
  whole : Balanced (glyphsOf (Renderer.initial.passages events))
  containers : ∀ front brackets inside, Contains .initial events front brackets inside →
    Matches (glyphsOf (Renderer.initial.passages events)) (glyphsOf front ++ brackets.opening)
      (brackets.around (glyphsOf inside))

/-- What stands directly in the stream is balanced, and what stands directly in a container is closed. -/
structure DirectlyClosed (events : List Event) : Prop where
  whole : Balanced (direct 0 (Renderer.initial.passages events))
  containers : ∀ front brackets inside, Contains .initial events front brackets inside →
    Closed (brackets.around (direct 0 inside))

section Matching

variable {state last : Renderer} {events : List Event} {written : List String}

theorem closed_around_congr {first second : List Glyph}
    (same : ∀ cursor : Cursor, cursor.through first = cursor.through second) (brackets : Brackets) :
    Closed (brackets.around first) ↔ Closed (brackets.around second) := by
  simp only [Closed, Brackets.around, Cursor.through_append, same]

/-- All containers are closed if what stands directly in each of them is. By induction on the length of what
    is contained: inner containers are shorter, and once they are closed a reader may leave them out. -/
theorem closed_of_direct (renders : Renders state events written last)
    (closed : ∀ front brackets inside, Contains state events front brackets inside →
      Closed (brackets.around (direct 0 inside))) {front : List Passage} {brackets : Brackets}
    {inside : List Passage} (contains : Contains state events front brackets inside) :
    Closed (brackets.around (glyphsOf inside)) := by
  induction length : inside.length using Nat.strongRecOn generalizing front brackets inside with
  | _ bound ih =>
      obtain ⟨held, inner, _, _, rfl, balanced, rendersInside, within⟩ := contains.exists_held renders
      have innerClosed : ∀ front' brackets' inside', Contains inner held front' brackets' inside' →
          Closed (brackets'.around (glyphsOf inside')) := by
        intro front' brackets' inside' contains'
        obtain ⟨behind, passages⟩ := contains'.passages_split rendersInside
        have shorter : inside'.length < bound := by
          rw [← length, passages]
          simp
          omega
        obtain ⟨front'', contained⟩ := within _ _ _ contains'
        exact ih _ shorter contained rfl
      have same := through_glyphsOf (derivable_of_balanced held balanced) rendersInside innerClosed
      exact (closed_around_congr same brackets).mpr (closed _ _ _ contains)

theorem direct_of_closed (renders : Renders state events written last)
    (closed : ∀ front brackets inside, Contains state events front brackets inside →
      Closed (brackets.around (glyphsOf inside))) {front : List Passage} {brackets : Brackets}
    {inside : List Passage} (contains : Contains state events front brackets inside) :
    Closed (brackets.around (direct 0 inside)) := by
  obtain ⟨held, inner, _, _, rfl, balanced, rendersInside, within⟩ := contains.exists_held renders
  have same := through_glyphsOf (derivable_of_balanced held balanced) rendersInside
    fun front' brackets' inside' contains' =>
      let ⟨_, contained⟩ := within _ _ _ contains'
      closed _ _ _ contained
  exact (closed_around_congr same brackets).mp (closed _ _ _ contains)

/-- All brackets match exactly if of every container the passages that stand in it directly are closed. -/
theorem bracketsMatch_iff (balanced : balanceFault? events = none)
    (renders : Renders .initial events written last) : BracketsMatch events ↔ DirectlyClosed events := by
  have derivable := derivable_of_balanced events balanced
  constructor
  · rintro ⟨⟨escaped, whole⟩, containers⟩
    have closed : ∀ front brackets inside, Contains .initial events front brackets inside →
        Closed (brackets.around (glyphsOf inside)) := by
      intro front brackets inside contains
      obtain ⟨_, rest, _, _, read⟩ := containers front brackets inside contains
      exact (readGroup_iff .start _ rest).mp read
    refine ⟨⟨escaped, ?_⟩, fun front brackets inside => direct_of_closed renders closed⟩
    rw [← through_glyphsOf derivable renders closed]
    exact whole
  · rintro ⟨⟨escaped, whole⟩, containers⟩
    have closed : ∀ front brackets inside, Contains .initial events front brackets inside →
        Closed (brackets.around (glyphsOf inside)) :=
      fun front brackets inside => closed_of_direct renders containers
    rw [← through_glyphsOf derivable renders closed] at whole
    refine ⟨⟨escaped, whole⟩, ?_⟩
    intro front brackets inside contains
    obtain ⟨tag, bracketed⟩ := contains.exists_tag
    obtain ⟨behind, passages⟩ := contains.passages_split renders
    rw [passages, glyphsOf_append, glyphsOf_group, ← List.append_assoc] at whole ⊢
    rw [Cursor.through_append] at whole
    obtain ⟨⟨depth, escaped'⟩, reached, _⟩ := Option.bind_eq_some_iff.mp whole
    have opened : escaped' = false := by
      rw [Cursor.through_append] at reached
      obtain ⟨_, _, head⟩ := Option.bind_eq_some_iff.mp reached
      exact settles_opening bracketed _ _ head
    subst opened
    exact ⟨depth, _, rfl, reached, (readGroup_iff .start _ _).mpr (closed front brackets inside contains)⟩

end Matching

end Bindery.Markup
