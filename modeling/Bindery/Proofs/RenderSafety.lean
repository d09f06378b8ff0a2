/-
Module: Bindery.Proofs.RenderSafety
Layer: Proofs
Purpose: The pipeline never makes a stream that the renderer rejects. What any selection of stages makes
  of a balanced book, in which every item of prose stands directly inside a list, is balanced and has a
  markup: both ends of a container are converted, dropped or moved together, and what the filter leaves
  is what the renderer accepts.
Imports: Bindery.Convert.Pipeline, Bindery.Proofs.RendererState, Bindery.Proofs.StageNesting
Main exports: renders_convertToTypst, convertToTypst_accepted
-/
import Bindery.Convert.Pipeline
import Bindery.Proofs.RendererState
import Bindery.Proofs.StageNesting

namespace Bindery.Convert

theorem dialect_of_mem_filterDialect {dialect : Dialect} {events : List Event} {event : Event}
    (member : event ∈ filterDialect dialect events) : event.dialect = some dialect :=
  of_decide_eq_true (List.mem_filter.mp member).2

/-- The conversion of a stream that passes the strict machine passes it too. -/
theorem nestFrom_convertToTypst (settings : Settings) {events : List Event}
    (nested : nestFrom true [] events = some []) :
    nestFrom true [] (convertToTypst settings events) = some [] := by
  have converted : nestFrom true [] (convert settings events) = some [] :=
    nestFrom_convertEagerly settings.selectedStages nested
  exact nestFrom_filterDialect .typst converted

/-- The conversion of a stream that passes the strict machine is rendered, and leaves the renderer as it
    was before its first event. -/
theorem renders_convertToTypst (settings : Settings) {events : List Event}
    (nested : nestFrom true [] events = some []) :
    ∃ fragments, Markup.Renders .initial (convertToTypst settings events) fragments .initial := by
  apply Markup.renders_closed
  · intro event member
    exact dialect_of_mem_filterDialect member
  · exact nestFrom_convertToTypst settings nested

/-- What the pipeline makes of a balanced book whose items stand in lists is balanced, and has a markup,
    whichever stages run. -/
theorem convertToTypst_accepted (settings : Settings) {events : List Book.Event}
    (balanced : balanceFault? (events.map .book) = none)
    (listed : itemsInLists [] (events.map .book) = true) :
    balanceFault? (convertToTypst settings (events.map .book)) = none ∧
      ∃ text, Markup.markup (convertToTypst settings (events.map .book)) = .ok text := by
  have source : ∀ event ∈ events.map Event.book, event.isSource true = true := by
    intro event member
    rcases List.mem_map.mp member with ⟨inner, _, rfl⟩
    rfl
  have nested : nestFrom true [] (events.map .book) = some [] :=
    nestFrom_of_balanced source balanced listed
  constructor
  · exact balanced_of_nestFrom (nestFrom_convertToTypst settings nested)
  · obtain ⟨fragments, renders⟩ := renders_convertToTypst settings nested
    exact ⟨String.join fragments, renders.markup⟩

/-- A chapter in a chapter, with a heading that moves and a list with a link that loses its markers. -/
def nestedChapters : List Book.Event :=
  [.start (.chapter .active "Outer" none none), .start (.chapter .active "Inner" none (some 1)),
   .start (.content .markdown), .prose (.start (.heading 2)), .prose (.text "Links"),
   .prose (.finish (.heading 2)), .prose (.start (.list (some 3))), .prose (.start .item),
   .prose (.start (.link .reference "a.md" "")), .prose (.text "a"),
   .prose (.finish (.link .reference "a.md" "")), .prose (.finish .item),
   .prose (.finish (.list (some 3))), .finish (.content .markdown),
   .finish (.chapter .active "Inner" none (some 1)), .finish (.chapter .active "Outer" none none)]

theorem convertToTypst_accepted_nestedChapters :
    (balanceFault? (nestedChapters.map .book) = none ∧
        itemsInLists [] (nestedChapters.map .book) = true) ∧
      balanceFault? (convertToTypst (Settings.everything.without [.headings])
          (nestedChapters.map .book)) = none ∧
        ∃ text, Markup.markup (convertToTypst (Settings.everything.without [.headings])
          (nestedChapters.map .book)) = .ok text := by
  have balanced : balanceFault? (nestedChapters.map .book) = none := by decide
  have listed : itemsInLists [] (nestedChapters.map .book) = true := by decide
  exact ⟨⟨balanced, listed⟩, convertToTypst_accepted _ balanced listed⟩

end Bindery.Convert
