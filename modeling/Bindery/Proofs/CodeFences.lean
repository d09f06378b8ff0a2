/-
Module: Bindery.Proofs.CodeFences
Layer: Proofs
Purpose: What ends a code block where its markup is read: the first run of as many backticks as its fence
  has. This is its own closing fence exactly if what was rendered between its fences has no such run and does
  not end with a backtick. The width of a fence depends on nothing but the code blocks around it. So the text
  of a block can end it early, and a block inside it always does, since the fence of the inner one is wider.
Imports: Bindery.Proofs.RendererCounters
Main exports: readFenced, FitsFence, readFenced_iff, codeAround, fence_closes_iff
-/
import Bindery.Proofs.RendererCounters

namespace Bindery.Markup

open Bindery.Convert (isCodeTarget)

/-! ### Reading up to a fence -/

def backticks (width : Nat) : List Char := List.replicate width '\x60'

theorem backticks_concat (width : Nat) : backticks width ++ ['\x60'] = '\x60' :: backticks width := by
  rw [backticks, ← List.replicate_succ', List.replicate_succ]

theorem backticks_isPrefix {width width' : Nat} (wider : width ≤ width') :
    backticks width <+: backticks width' := by
  apply List.prefix_replicate_iff.mpr
  simpa [backticks] using wider

theorem toList_fenceInside (depth : Nat) : (fenceInside depth).toList = backticks (6 + depth) :=
  String.toList_ofList

/-- The text up to the first run of as many backticks, and what stands behind these. -/
def readFenced (width : Nat) : List Char → Option (List Char × List Char)
  | [] => none
  | c :: rest =>
    if backticks width <+: c :: rest then some ([], (c :: rest).drop width)
    else (readFenced width rest).map fun read => (c :: read.1, read.2)

/-- Can a text stand in a fence: has it no run of as many backticks, and no backtick at its end? -/
def FitsFence (width : Nat) (body : List Char) : Prop :=
  ¬ backticks width <:+: body ∧ body.getLast? ≠ some '\x60'

instance (width : Nat) (body : List Char) : Decidable (FitsFence width body) :=
  inferInstanceAs (Decidable (¬ backticks width <:+: body ∧ body.getLast? ≠ some '\x60'))

/-- A run that starts with the text holds the text or is part of it, and the text does not fit. -/
theorem not_fits_of_prefix {width : Nat} {body behind : List Char} (filled : body ≠ [])
    (starts : backticks width <+: body ++ behind) : ¬ FitsFence width body := by
  intro fits
  by_cases long : width ≤ body.length
  · have inBody : backticks width <+: body :=
      List.prefix_of_prefix_length_le starts (List.prefix_append body behind)
        (by simpa [backticks] using long)
    exact fits.1 inBody.isInfix
  · have inFence : body <+: backticks width := by
      apply List.prefix_of_prefix_length_le (List.prefix_append body behind) starts
      simp only [backticks, List.length_replicate]
      omega
    obtain ⟨_, onlyBackticks⟩ := List.prefix_replicate_iff.mp inFence
    apply fits.2
    rw [onlyBackticks, List.getLast?_replicate, if_neg (by simpa using filled)]

/-- A text with one more character in front fits a fence if no run starts at this character. -/
theorem fitsFence_cons_iff {width : Nat} {c : Char} {body behind : List Char}
    (noRun : ¬ backticks width <+: c :: body ++ (backticks width ++ behind)) :
    FitsFence width (c :: body) ↔ FitsFence width body := by
  have lastOfCons : (c :: body).getLast? = some '\x60' ↔ body.getLast? = some '\x60' := by
    cases body with
    | nil =>
        -- A backtick in front of the fence would start the run.
        have noBacktick : c ≠ '\x60' := by
          rintro rfl
          apply noRun
          refine ⟨'\x60' :: behind, ?_⟩
          rw [List.append_cons, backticks_concat]
          rfl
        simp [noBacktick]
    | cons d body => simp
  have runInCons : backticks width <:+: c :: body ↔ backticks width <:+: body := by
    rw [List.infix_cons_iff, or_iff_right]
    intro starts
    exact noRun (List.prefix_append_of_prefix starts)
  simp only [FitsFence, ne_eq, runInCons, lastOfCons]

/-- Where the fence itself comes first, nothing is read before it. -/
theorem readFenced_fence {width : Nat} (positive : 0 < width) (behind : List Char) :
    readFenced width (backticks width ++ behind) = some ([], behind) := by
  have starts : backticks width <+: backticks width ++ behind := List.prefix_append _ _
  have dropped : (backticks width ++ behind).drop width = behind := by simp [backticks]
  cases whole : backticks width ++ behind with
  | nil =>
      have empty := congrArg List.length whole
      simp [backticks] at empty
      omega
  | cons c rest =>
      rw [whole] at starts dropped
      rw [readFenced, if_pos starts, dropped]

/-- A text is read back from between its fences exactly if it fits. -/
theorem readFenced_iff {width : Nat} (positive : 0 < width) (body behind : List Char) :
    readFenced width (body ++ (backticks width ++ behind)) = some (body, behind) ↔
      FitsFence width body := by
  induction body with
  | nil =>
      have fits : FitsFence width [] := by simp [FitsFence, backticks, Nat.ne_of_gt positive]
      exact iff_of_true (readFenced_fence positive behind) fits
  | cons c body ih =>
      rw [List.cons_append, readFenced]
      split
      · next starts =>
          have noFit : ¬ FitsFence width (c :: body) :=
            not_fits_of_prefix (List.cons_ne_nil c body) starts
          simp [noFit]
      · next noRun =>
          rw [fitsFence_cons_iff noRun, ← ih]
          constructor
          · intro read
            obtain ⟨⟨text, rest⟩, found, same⟩ := Option.map_eq_some_iff.mp read
            cases same
            exact found
          · intro read
            rw [read]
            rfl

/-! ### Code blocks -/

/-- A code block around what it holds. -/
def codeAround (label : Option String) (display : Typst.Display) (inside : List Event) : List Event :=
  .typst (.start (.codeBlock label display)) :: inside ++ [.typst (.finish (.codeBlock label display))]

def startsCode : Event → Bool
  | .typst (.start tag) => isCodeTarget tag
  | _ => false

theorem exists_codeBlock_of_startsCode {event : Event} (starts : startsCode event = true) :
    ∃ label display, event = .typst (.start (.codeBlock label display)) := by
  unfold startsCode at starts
  split at starts
  · next tag =>
      cases tag with
      | codeBlock label display => exact ⟨label, display, rfl⟩
      | _ => cases starts
  · cases starts

section Rendered

variable {state last : Renderer} {inside : List Event} {written pieces : List String}

/-- A code block is rendered as what it holds between two fences of one width. -/
theorem exists_pieces_of_codeAround {label : Option String} {display : Typst.Display} (sound : state.Sound)
    (balanced : balanceFault? inside = none)
    (renders : Renders state (codeAround label display inside) written last) :
    ∃ inner closing pieces, Renders inner inside pieces closing ∧ inner.Sound ∧
      inner.opened = .codeBlock label display :: state.opened ∧
        written = (fenceInside (state.opened.countP isCodeTarget) ++ label.getD "" ++ "\n") :: pieces ++
          [fenceInside (state.opened.countP isCodeTarget) ++ "\n"] := by
  obtain ⟨front, closing, behind, rfl, rendersFront, rendersClosing⟩ := renders.cut
  cases rendersFront with
  | cons started rendersInside =>
      obtain ⟨inner, started', openedInner⟩ := step_codeStart sound label display
      obtain ⟨isFence, rfl⟩ := eq_of_ok started' started
      obtain ⟨_, outer, finished⟩ := step_codeFinish_of_renders sound started balanced rendersInside
      cases rendersClosing with
      | cons finished' nothing =>
          obtain ⟨isClosing, _⟩ := eq_of_ok finished finished'
          cases nothing
          rw [isFence, isClosing]
          exact ⟨inner, closing, _, rendersInside, sound_step sound started, openedInner, rfl⟩

/-- A code block inside another is rendered with a wider fence, which holds that of the outer one. -/
theorem backticks_infix_of_startsCode (sound : state.Sound) (balanced : balanceFault? inside = none)
    (renders : Renders state inside pieces last) (nested : inside.any startsCode = true) {depth : Nat}
    (inCode : depth ≤ state.opened.countP isCodeTarget) :
    backticks (6 + depth) <:+: (String.join pieces).toList := by
  obtain ⟨event, member, starts⟩ := List.any_eq_true.mp nested
  obtain ⟨label, display, rfl⟩ := exists_codeBlock_of_startsCode starts
  obtain ⟨before, behind, rfl⟩ := List.append_of_mem member
  obtain ⟨front, middle, rest, rfl, rendersBefore, rendersRest⟩ := renders.cut
  cases rendersRest with
  | cons started _ =>
      obtain ⟨_, started', _⟩ := step_codeStart (rendersBefore.sound sound) label display
      obtain ⟨isFence, _⟩ := eq_of_ok started' started
      obtain ⟨inner, openedMiddle⟩ := rendersBefore.opened_below balanced
      have deeper : 6 + depth ≤ 6 + middle.opened.countP isCodeTarget := by
        rw [openedMiddle, List.countP_append]
        omega
      have inFence : backticks (6 + depth) <:+: backticks (6 + middle.opened.countP isCodeTarget) :=
        (backticks_isPrefix deeper).isInfix
      have inFragment : backticks (6 + middle.opened.countP isCodeTarget) <:+:
          (fenceInside (middle.opened.countP isCodeTarget) ++ label.getD "" ++ "\n").toList := by
        rw [String.append_assoc, String.toList_append, toList_fenceInside]
        exact (List.prefix_append _ _).isInfix
      rw [isFence] at inFragment
      rw [String.toList_join, List.flatMap_append, List.flatMap_cons]
      exact inFence.trans (inFragment.trans (List.infix_append' _ _ _))

/-- In a code block, and in no link that shows its address, texts are rendered as they are. -/
theorem pieces_of_texts (sound : state.Sound) (inCode : state.opened.any isCodeTarget = true)
    (noLink : state.opened.any isBareLink = false) {texts : List String}
    (renders : Renders state (texts.map fun text => .typst (.text text)) pieces last) : pieces = texts := by
  induction texts generalizing pieces with
  | nil =>
      cases renders
      rfl
  | cons text texts ih =>
      cases renders with
      | cons step more =>
          rw [step_text sound, noLink, inCode] at step
          cases step
          rw [ih more]
          rfl

end Rendered

/-- A code block is rendered between two fences of one width, one backtick more for every code block around
    it. Where it is read, the first run of as many backticks behind its opening line is its closing fence
    exactly if what was rendered between them has no such run and ends with no backtick. If there is a code
    block in it, there always is such a run; if there are only texts in it, and no link around it shows its
    address, what was rendered are these texts. -/
theorem fence_closes_iff {before inside : List Event} {label : Option String} {display : Typst.Display}
    {written : List String} {last : Renderer} (balanced : balanceFault? inside = none)
    (renders : Renders .initial (before ++ codeAround label display inside) written last) :
    ∃ (front pieces : List String) (depth : Nat) (body : List Char),
      front.length = before.length ∧ pieces.length = inside.length ∧
      depth = openCount isCodeTarget before ∧ body = (String.join pieces).toList ∧
      written = front ++ (fenceInside depth ++ label.getD "" ++ "\n") :: pieces ++
        [fenceInside depth ++ "\n"] ∧
      (∀ behind, readFenced (6 + depth) (body ++ (fenceInside depth ++ "\n").toList ++ behind) =
          some (body, '\n' :: behind) ↔ FitsFence (6 + depth) body) ∧
      (inside.any startsCode = true → ¬ FitsFence (6 + depth) body) ∧
      ∀ texts : List String, inside = texts.map (fun text => .typst (.text text)) →
        openCount isBareLink before = 0 → pieces = texts := by
  obtain ⟨front, middle, rest, rfl, rendersBefore, rendersBlock⟩ := renders.cut
  have sound : middle.Sound := rendersBefore.sound sound_initial
  obtain ⟨inner, closing, pieces, rendersInside, soundInner, openedInner, rfl⟩ :=
    exists_pieces_of_codeAround sound balanced rendersBlock
  have depth := rendersBefore.countP_opened isCodeTarget
  have links := rendersBefore.countP_opened isBareLink
  rw [depth]
  refine ⟨front, pieces, _, _, rendersBefore.length_eq, rendersInside.length_eq, rfl, rfl,
    by simp, ?read, ?nested, ?texts⟩
  case read =>
    intro behind
    have positive : 0 < 6 + openCount isCodeTarget before := by omega
    rw [String.toList_append, toList_fenceInside, List.append_assoc, List.append_assoc]
    exact readFenced_iff positive (String.join pieces).toList ('\n' :: behind)
  case nested =>
    intro nested fits
    have inCode : openCount isCodeTarget before ≤ inner.opened.countP isCodeTarget := by
      rw [openedInner, List.countP_cons, depth]
      exact Nat.le_add_right _ _
    exact fits.1 (backticks_infix_of_startsCode soundInner balanced rendersInside nested inCode)
  case texts =>
    rintro texts rfl noLinks
    have noLink : middle.opened.any isBareLink = false := by
      rw [noLinks] at links
      simpa [List.countP_eq_zero] using links
    apply pieces_of_texts soundInner
    · simp [openedInner, isCodeTarget]
    · simp [openedInner, isBareLink, noLink]
    · exact rendersInside

/-- The start of a code block with a label. -/
def markdownStart : List Event := [.typst (.start (.codeBlock (some "md") .block))]

/-- A block inside another one is read back, with the backticks that are too few for its fence. -/
theorem fence_closes_iff_blockInBlock :
    balanceFault? [.typst (.text "`x`\n")] = none ∧
      (∃ last, Renders .initial (markdownStart ++ codeAround none .block [.typst (.text "`x`\n")])
        ["``````md\n", "```````\n", "`x`\n", "```````\n"] last) ∧
      ∀ behind, readFenced 7 ("`x`\n".toList ++ "```````\n".toList ++ behind) =
        some ("`x`\n".toList, '\n' :: behind) := by
  have balanced : balanceFault? [.typst (.text "`x`\n")] = none := by decide
  have rendered : fragments (markdownStart ++ codeAround none .block [.typst (.text "`x`\n")]) =
      .done ["``````md\n", "```````\n", "`x`\n", "```````\n"] := by decide
  obtain ⟨last, renders⟩ := renders_of_fragments rendered
  obtain ⟨front, pieces, depth, body, _, _, isDepth, isBody, _, read, _, texts⟩ :=
    fence_closes_iff balanced renders
  obtain rfl : pieces = ["`x`\n"] := texts ["`x`\n"] rfl (by decide)
  subst isDepth isBody
  have fits : FitsFence 7 "`x`\n".toList := by decide
  exact ⟨balanced, ⟨last, renders⟩, fun behind => (read behind).mpr fits⟩

/-- The fence of a code block that holds a line of six backticks is closed by this line. -/
theorem fence_closedByText :
    fragments (codeAround none .block [.typst (.text "``````\n")]) =
        .done ["``````\n", "``````\n", "``````\n"] ∧
      readFenced 6 "``````\n``````\n".toList = some ([], "\n``````\n".toList) ∧
        ¬ FitsFence 6 "``````\n".toList := by decide

end Bindery.Markup
