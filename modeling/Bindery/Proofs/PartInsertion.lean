/-
Module: Bindery.Proofs.PartInsertion
Layer: Proofs
Purpose: The repair of part boundaries only puts boundaries in. Whatever is computed from a sequence and
  overlooks starts without title and finishes of parts is the same after the repair, as long as the repair
  need not open the first part: the start that does so takes over the title of a finish.
Imports: Bindery.Book.Parts, Mathlib.Data.List.TakeDrop
Main exports: Overlooks, Overlooks.normalizeParts
-/
import Bindery.Book.Parts
import Mathlib.Data.List.TakeDrop

namespace Bindery.Book

/-- What is computed from a sequence is the same with a start without title, or with the finish of any
    part, put in anywhere. -/
structure Overlooks {Value : Type} (value : List Bindery.Event → Value) : Prop where
  untitledStart : ∀ before behind, value (before ++ untitledStart :: behind) = value (before ++ behind)
  finish : ∀ title number before behind,
    value (before ++ .book (.finish (.part title number)) :: behind) = value (before ++ behind)

namespace Overlooks

variable {Value : Type} {value : List Bindery.Event → Value}

theorem closeLast (overlooks : Overlooks value) (events : List Bindery.Event) :
    value (closeLast events) = value events := by
  unfold Book.closeLast
  split
  · next tag found =>
      -- Only the start of a part is found, so the finish that is put behind is that of a part.
      have marker := List.find?_some found
      cases tag with
      | part title number =>
          have inserted := overlooks.finish title number events []
          rwa [List.append_nil] at inserted
      | chapter | content | authorList => cases marker
  · rfl

theorem untitled (overlooks : Overlooks value) (covered behind : List Bindery.Event) :
    value (Book.untitledStart :: covered ++ untitledFinish :: behind) = value (covered ++ behind) := by
  rw [untitledFinish, overlooks.finish]
  exact overlooks.untitledStart [] (covered ++ behind)

theorem coverLeading (overlooks : Overlooks value) (events : List Bindery.Event) :
    value (coverLeading events) = value events := by
  have whole : (events.span fun event => !startsPart event).1 ++
      (events.span fun event => !startsPart event).2 = events := by
    rw [List.span_eq_takeWhile_dropWhile]
    exact List.takeWhile_append_dropWhile
  unfold Book.coverLeading
  split
  · rfl
  · next leading rest _ spanned =>
      rw [spanned] at whole
      rw [overlooks.untitled, whole]

/-- The repair is overlooked, but for a start that it puts in front of the whole. -/
theorem normalizeParts (overlooks : Overlooks value) {events : List Bindery.Event}
    (opened : value (openFirst events) = value events) :
    value (normalizeParts events) = value events := by
  unfold Book.normalizeParts
  split
  · have covered := overlooks.untitled events []
    rwa [List.append_nil] at covered
  · split
    · rw [overlooks.closeLast, opened]
    · rw [overlooks.closeLast, overlooks.coverLeading]

end Overlooks

end Bindery.Book
