/-
Module: Bindery.Proofs.SummaryShape
Layer: Proofs
Purpose: Where a table of contents puts its items. Titles of parts stand at top level, below chapters are
  only chapters, and nothing foreign comes in.
Imports: Bindery.Proofs.ItemEvents, Bindery.Proofs.SummaryNumbers
Main exports: Item.isForeign, Summary.Native, placed_of_itemsOfTokens
-/
import Bindery.Proofs.ItemEvents
import Bindery.Proofs.SummaryNumbers

namespace Bindery.Book

def Item.isForeign : Item → Bool
  | .foreign _ => true
  | _ => false

/-! ### Below chapters -/

/-- Whether a chapter has a number or not, there are only chapters below it. -/
theorem CountsBelow.chapters {chapter : Chapter} {subItems : List Item}
    (counts : CountsBelow chapter subItems) : ∀ item ∈ subItems, item.isChapter = true := by
  intro item member
  unfold CountsBelow at counts
  split at counts
  · rw [counts] at member
    cases member
  · obtain ⟨index, _, found⟩ := List.getElem_of_mem member
    obtain ⟨child, below, rfl, _⟩ := counts index item (by simp [← found])
    rfl

/-- Tidy chapters stand where chapters belong, at any level. -/
theorem placed_of_chapters : ∀ (items : List Item), Tidies items →
    (∀ item ∈ items, item.isChapter = true) → placed false items = true
  | [], _, _ => by simp [placed]
  | .chapter chapter subItems :: rest, tidy, chapters => by
      simp only [Tidies, Item.Tidy] at tidy
      have below := placed_of_chapters subItems tidy.1.2 tidy.1.1.chapters
      have behind := placed_of_chapters rest tidy.2
        fun item member => chapters item (List.mem_cons_of_mem _ member)
      simp [placed, Item.isPlaced, below, behind]
  | .separator :: _, _, chapters | .part _ :: _, _, chapters | .foreign _ :: _, _, chapters => by
      cases chapters _ List.mem_cons_self

/-- Tidy items without foreign values stand where they belong. -/
theorem placed_of_tidies {items : List Item} (tidy : Tidies items)
    (native : ∀ item ∈ items, item.isForeign = false) : placed true items = true := by
  induction items with
  | nil => simp [placed]
  | cons item rest ih =>
      simp only [Tidies] at tidy
      have behind := ih tidy.2 fun other member => native other (List.mem_cons_of_mem _ member)
      have isPlaced : item.isPlaced true = true := by
        cases item with
        | chapter chapter subItems =>
            have tidyItem := tidy.1
            simp only [Item.Tidy] at tidyItem
            simpa [Item.isPlaced] using placed_of_chapters subItems tidyItem.2 tidyItem.1.chapters
        | separator | part => simp [Item.isPlaced]
        | foreign => cases native _ List.mem_cons_self
      simp [placed, isPlaced, behind]

namespace Summary

/-! ### At top level -/

/-- What open chapters end up in is a chapter, unless there are none. -/
theorem mem_closeAll {item : Item} {below : List Item} {opened : List (Option OpenChapter)}
    (member : item ∈ closeAll below opened) : item ∈ below ∨ item.isChapter = true := by
  induction opened generalizing below with
  | nil => exact .inl member
  | cons slot outer ih =>
      cases slot with
      | none => exact ih member
      | some opened =>
          rcases ih member with isChapter | isChapter
          · obtain rfl := List.mem_singleton.mp isChapter
            exact .inr rfl
          · exact .inr isChapter

/-- No foreign value has been taken in at top level. -/
structure Native (summary : Summary) : Prop where
  items : ∀ item ∈ summary.items, item.isForeign = false
  waiting : ∀ item ∈ summary.waiting, item.isForeign = false

theorem Native.finish {summary : Summary} (native : summary.Native) :
    ∀ item ∈ summary.finish, item.isForeign = false := by
  intro item member
  simp only [Summary.finish, List.mem_append] at member
  rcases member with (inItems | inChapters) | isWaiting
  · exact native.items item inItems
  · rcases mem_closeAll inChapters with inNothing | isChapter
    · cases inNothing
    · cases item <;> first | rfl | cases isChapter
  · exact native.waiting item isWaiting

theorem Native.append {summary : Summary} (native : summary.Native) {item : Item}
    (isNative : item.isForeign = false) : (summary.append item).Native := by
  have extended {items : List Item} (before : ∀ other ∈ items, other.isForeign = false) :
      ∀ other ∈ items ++ [item], other.isForeign = false := by
    intro other member
    rcases List.mem_append.mp member with inItems | isItem
    · exact before other inItems
    · rwa [List.mem_singleton.mp isItem]
  unfold Summary.append
  split
  · exact ⟨extended native.items, native.waiting⟩
  · exact ⟨native.items, extended native.waiting⟩

theorem Native.closeItem {summary next : Summary} (native : summary.Native)
    (ok : summary.closeItem = .ok next) : next.Native := by
  rcases closeItem_cases ok with ⟨outer, _, rfl⟩ | ⟨_, _, attached, _, _, rfl⟩ |
    ⟨opened, outer, _, _, rfl⟩
  · exact ⟨native.items, native.waiting⟩
  · exact ⟨native.items, native.waiting⟩
  · refine ⟨fun item member => ?_, by simp⟩
    rcases List.mem_append.mp member with inItems | closed
    · exact native.items item inItems
    · rcases List.mem_cons.mp closed with rfl | isWaiting
      · rfl
      · exact native.waiting item isWaiting

theorem Native.addLine {summary : Summary} (native : summary.Native) (line : List Prose.Token) :
    (summary.addLine line).Native := by
  by_cases noLink : summary.heading.isSome = true ∨ firstLink? line = none
  · rcases addLine_of_no_link noLink with same | titled | ⟨title, part⟩
    · rwa [same]
    · rw [titled]
      exact ⟨native.items, native.waiting⟩
    · rw [part]
      exact native.append rfl
  · obtain ⟨noHeading, isLink⟩ := not_or.mp noLink
    obtain ⟨chapter, link⟩ := Option.ne_none_iff_exists'.mp isLink
    rw [addLine_of_link (by simpa using noHeading) link, addChapter]
    split
    · exact native.append rfl
    · exact native
    · rw [openChapter_eq]
      exact ⟨native.items, native.waiting⟩

/-- No token brings in a foreign value. -/
theorem Native.step {summary next : Summary} (native : summary.Native) {token : Prose.Token}
    (ok : summary.step token = .ok next) : next.Native := by
  cases takes_of_step ok with
  | opensItem | opensHeading | closesHeading => exact ⟨native.items, native.waiting⟩
  | closesItem kind ok => exact native.closeItem ok
  | rule => exact native.append rfl
  | line => exact native.addLine token.children
  | other => exact native

/-- What holds of nothing and is kept by every token holds of a whole table of contents. -/
theorem sound_native_of_foldlM {tokens : List Prose.Token} {summary next : Summary}
    (sound : summary.Sound) (native : summary.Native)
    (ok : tokens.foldlM Summary.step summary = .ok next) : next.Sound ∧ next.Native := by
  induction tokens generalizing summary with
  | nil =>
      obtain rfl : summary = next := Except.ok.inj ok
      exact ⟨sound, native⟩
  | cons token rest ih =>
      rw [List.foldlM_cons] at ok
      cases okToken : summary.step token with
      | error fault => rw [okToken] at ok; cases ok
      | ok between =>
          rw [okToken] at ok
          exact ih (sound.step okToken) (native.step okToken) ok

end Summary

/-- The items of a table of contents stand where they belong. -/
theorem placed_of_itemsOfTokens {tokens : List Prose.Token} {items : List Item}
    (ok : itemsOfTokens tokens = .ok items) : placed true items = true := by
  unfold itemsOfTokens at ok
  cases okTokens : tokens.foldlM Summary.step Summary.empty with
  | error fault => rw [okTokens] at ok; cases ok
  | ok summary =>
      rw [okTokens] at ok
      obtain rfl : summary.finish = items := Except.ok.inj ok
      obtain ⟨sound, native⟩ := Summary.sound_native_of_foldlM Summary.sound_empty
        ⟨by simp [Summary.empty], by simp [Summary.empty]⟩ okTokens
      exact placed_of_tidies sound.tidy native.finish

end Bindery.Book
