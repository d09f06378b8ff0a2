/-
Module: Bindery.Proofs.RenderComposition
Layer: Proofs
Purpose: Markup is made piece by piece. A stream that is rendered and closes whatever it opens leaves the
  renderer as it was before its first event, so that what follows is rendered as if nothing came before it. A
  text is written alike in one event or in two, in prose, in code and in links that show their address.
Imports: Bindery.Proofs.RendererPlaces
Main exports: eq_initial_of_closed, fragments_append, escapeText_append, textFragment_append, Alike, Alike.cons,
  Alike.markup, run_adjacentTexts, alike_adjacentTexts, fragments_compositional
-/
import Bindery.Proofs.RendererPlaces

namespace Bindery.Markup

/-! ### One stream after another -/

/-- A stream that closes whatever it opens leaves the renderer as it was before its first event. -/
theorem eq_initial_of_closed {events : List Event} {written : List String} {last : Renderer}
    (renders : Renders .initial events written last) (closed : openTags events = []) : last = .initial := by
  apply eq_initial_of_sound (renders.sound sound_initial)
  have opened := renders.openTags
  rw [closed] at opened
  exact List.map_eq_nil_iff.mp opened

/-- Behind such a stream another one is rendered as if it stood alone. -/
theorem fragments_append {first : List Event} {written : List String}
    (rendered : fragments first = .done written) (closed : openTags first = []) (second : List Event) :
    fragments (first ++ second) = (fragments second).prepend written := by
  obtain ⟨last, renders⟩ := renders_of_fragments rendered
  obtain rfl := eq_initial_of_closed renders closed
  exact renders.run_append second

/-! ### A text in two events -/

theorem escapeText_append (first second : String) :
    escapeText (first ++ second) = escapeText first ++ escapeText second := by
  simp [escapeText, escapeChars]

/-- A text is written like its two parts, whatever is open. -/
theorem textFragment_append (state : Renderer) (first second : String) :
    state.textFragment (first ++ second) = state.textFragment first ++ state.textFragment second := by
  unfold Renderer.textFragment
  split
  · rfl
  · split
    · rfl
    · exact escapeText_append first second

/-- Do two renderings write the same text, and end alike? -/
structure Alike (first second : Drained String RenderFault) : Prop where
  text : String.join first.items = String.join second.items
  fault : first.fault = second.fault

theorem Alike.cons {first second : Drained String RenderFault} (alike : Alike first second)
    (fragment : String) : Alike (first.cons fragment) (second.cons fragment) := by
  constructor
  · simp only [Drained.cons, String.join_cons, alike.text]
  · exact alike.fault

/-- Streams that are rendered alike have the same markup. -/
theorem Alike.markup {first second : List Event} (alike : Alike (fragments first) (fragments second)) :
    markup first = markup second := by
  obtain ⟨text, fault⟩ := alike
  simp only [Markup.markup, Drained.toExcept, fault]
  cases (fragments second).fault with
  | none => exact congrArg Except.ok text
  | some fault => rfl

/-- Two adjacent texts are rendered like one text, wherever the renderer has got to. -/
theorem run_adjacentTexts (state : Renderer) (body more : String) (after : List Event) :
    Alike (state.run (.typst (.text body) :: .typst (.text more) :: after))
      (state.run (.typst (.text (body ++ more)) :: after)) := by
  simp only [Renderer.run, Renderer.step, Renderer.stepTypst, textFragment_append]
  constructor
  · simp only [Drained.cons, String.join_cons, String.append_assoc]
  · rfl

/-- Two adjacent texts anywhere in a stream are rendered like one text. -/
theorem alike_adjacentTexts (state : Renderer) (front after : List Event) (body more : String) :
    Alike (state.run (front ++ .typst (.text body) :: .typst (.text more) :: after))
      (state.run (front ++ .typst (.text (body ++ more)) :: after)) := by
  induction front generalizing state with
  | nil => exact run_adjacentTexts state body more after
  | cons event front ih =>
      simp only [List.cons_append, Renderer.run]
      cases state.step event with
      | error fault => exact ⟨rfl, rfl⟩
      | ok made => exact (ih made.2).cons made.1

/-- A stream that is rendered and closes whatever it opens can be put before any other: the fragments of the
    other follow its own, up to the same fault, if there is one. And two adjacent texts anywhere in a stream
    can be joined: the text that is written stays, the markup as well, and so does the fault. -/
theorem fragments_compositional :
    (∀ first second written, fragments first = .done written → openTags first = [] →
      fragments (first ++ second) = (fragments second).prepend written) ∧
    ∀ front after body more,
      Alike (fragments (front ++ .typst (.text body) :: .typst (.text more) :: after))
          (fragments (front ++ .typst (.text (body ++ more)) :: after)) ∧
        markup (front ++ .typst (.text body) :: .typst (.text more) :: after) =
          markup (front ++ .typst (.text (body ++ more)) :: after) := by
  constructor
  · intro first second written rendered closed
    exact fragments_append rendered closed second
  · intro front after body more
    have alike := alike_adjacentTexts .initial front after body more
    exact ⟨alike, alike.markup⟩

/-- A list from three with one item, which holds a code block. -/
def codeList : List Event :=
  [.start (.numberedList 3 none false), .start .item, .start (.codeBlock none .block), .text "a",
    .finish (.codeBlock none .block), .finish .item, .finish (.numberedList 3 none false)].map .typst

/-- An item that stands in no list is rejected behind a list as well. -/
theorem fragments_compositional_codeList :
    fragments codeList = .done ["", "3. ", "``````\n", "a", "``````\n", "\n", ""] ∧
      openTags codeList = [] ∧
      fragments (codeList ++ [.typst (.text "b"), .typst (.start .item)]) =
        ⟨["", "3. ", "``````\n", "a", "``````\n", "\n", "", "b"], some (.itemOutsideList none)⟩ := by
  have rendered : fragments codeList = .done ["", "3. ", "``````\n", "a", "``````\n", "\n", ""] := by decide
  have closed : openTags codeList = [] := by decide
  have alone : fragments [.typst (.text "b"), .typst (.start .item)] =
      ⟨["b"], some (.itemOutsideList none)⟩ := by decide
  have behind := fragments_compositional.1 codeList [.typst (.text "b"), .typst (.start .item)] _ rendered closed
  rw [alone] at behind
  exact ⟨rendered, closed, behind⟩

end Bindery.Markup
