/-
Module: Bindery.Proofs.SummaryNumbers
Layer: Proofs
Purpose: The numbers of a table of contents. At top level they count from one on, whatever stands
  between the chapters; below a chapter they continue its own number, chapter by chapter. A chapter
  without number has nothing below it.
Imports: Bindery.Proofs.SummaryTree
Main exports: Item.number?, CountsBelow, Item.Tidy, Tidies, Summary.Sound, Summary.Sound.step
-/
import Bindery.Proofs.SummaryTree

namespace Bindery.Book

def Item.number? : Item → Option (List Int)
  | .chapter numbered _ => numbered.number
  | _ => none

/-- The numbers that count to `count` at top level. -/
def countedTo (count : Nat) : List (List Int) :=
  (List.range count).map fun index : Nat => [(index : Int) + 1]

/-- Below a chapter with a number are only chapters, each numbered with its position below the number of
    the chapter; below a chapter without number is nothing. -/
def CountsBelow (chapter : Chapter) (subItems : List Item) : Prop :=
  match chapter.number with
  | none => subItems = []
  | some number => ∀ (index : Nat) (item : Item), subItems[index]? = some item →
      ∃ child below, item = .chapter child below ∧ child.number = some (number ++ [(index : Int) + 1])

theorem countedTo_succ (count : Nat) : countedTo (count + 1) = countedTo count ++ [[(count : Int) + 1]] := by
  simp [countedTo, List.range_succ]

mutual

/-- The numbers below every chapter of an item are right. -/
def Item.Tidy : Item → Prop
  | .chapter chapter subItems => CountsBelow chapter subItems ∧ Tidies subItems
  | _ => True

/-- The numbers below every chapter of items are right. -/
def Tidies : List Item → Prop
  | [] => True
  | item :: rest => item.Tidy ∧ Tidies rest

end

@[simp] theorem tidies_nil : Tidies [] := trivial

theorem tidies_append (items more : List Item) :
    Tidies (items ++ more) ↔ Tidies items ∧ Tidies more := by
  induction items with
  | nil => simp [Tidies]
  | cons item rest ih => simp [Tidies, ih, and_assoc]

@[simp] theorem tidies_singleton (item : Item) : Tidies [item] ↔ item.Tidy := by simp [Tidies]

/-- The chapters of tidy items have the right numbers below them. -/
theorem countsBelow_of_mem_entriesFrom : ∀ (items : List Item) (parent : Option Nat) (index : Nat),
    Tidies items → ∀ entry ∈ entriesFrom parent index items, CountsBelow entry.chapter entry.subItems
  | [], _, _, _, entry, member => by simp [entriesFrom] at member
  | .chapter chapter subItems :: rest, parent, index, tidy, entry, member => by
      simp only [Tidies, Item.Tidy] at tidy
      simp only [entriesFrom, Item.entriesFrom, List.cons_append, List.mem_cons,
        List.mem_append] at member
      rcases member with rfl | inside | later
      · exact tidy.1.1
      · exact countsBelow_of_mem_entriesFrom subItems _ _ tidy.1.2 entry inside
      · exact countsBelow_of_mem_entriesFrom rest _ _ tidy.2 entry later
  | .separator :: rest, parent, index, tidy, entry, member
  | .part _ :: rest, parent, index, tidy, entry, member
  | .foreign _ :: rest, parent, index, tidy, entry, member => by
      simp only [Tidies] at tidy
      simp only [entriesFrom, Item.entriesFrom, List.nil_append] at member
      exact countsBelow_of_mem_entriesFrom rest _ _ tidy.2 entry member

/-! ### A new chapter below a path -/

theorem getElem?_concat {items : List Item} {last item : Item} {index : Nat}
    (found : (items ++ [last])[index]? = some item) :
    items[index]? = some item ∨ index = items.length ∧ item = last := by
  rw [List.getElem?_append] at found
  split at found
  · exact .inl found
  · rw [List.getElem?_singleton] at found
    split at found
    · exact .inr ⟨by omega, (Option.some.inj found).symm⟩
    · cases found

/-- The next chapter below a chapter continues its number. -/
theorem CountsBelow.add {chapter child : Chapter} {subItems : List Item} {number : List Int}
    (counts : CountsBelow chapter subItems) (numbered : chapter.number = some number)
    (continues : child.number = some (number ++ [(subItems.length : Int) + 1])) (below : List Item) :
    CountsBelow chapter (subItems ++ [.chapter child below]) := by
  simp only [CountsBelow, numbered] at counts ⊢
  intro index item found
  rcases getElem?_concat found with before | ⟨rfl, rfl⟩
  · exact counts index item before
  · exact ⟨child, below, rfl, continues⟩

/-- What is below the last chapter below a chapter does not matter to it. -/
theorem CountsBelow.replace_last {chapter child : Chapter} {subItems below : List Item}
    (counts : CountsBelow chapter (subItems ++ [.chapter child below])) (other : List Item) :
    CountsBelow chapter (subItems ++ [.chapter child other]) := by
  unfold CountsBelow at counts ⊢
  split
  · next noNumber => simp [noNumber] at counts
  · next number numbered =>
      simp only [numbered] at counts
      intro index item found
      rcases getElem?_concat found with before | ⟨rfl, rfl⟩
      · have within : index < subItems.length := (List.getElem?_eq_some_iff.mp before).1
        exact counts index item (by rw [List.getElem?_append_left within, before])
      · obtain ⟨same, _, isChild, continues⟩ :=
          counts subItems.length (.chapter child below) (by simp)
        cases isChild
        exact ⟨child, other, rfl, continues⟩

/-- A link has no number of its own. -/
theorem number_of_firstLink? {line : List Prose.Token} {chapter : Chapter}
    (link : firstLink? line = some chapter) : chapter.number = none := by
  induction line with
  | nil => cases link
  | cons token rest ih =>
      rw [firstLink?] at link
      split at link
      · rw [← Option.some.inj link]
      · exact ih link

namespace Summary

/-- What closes into a tidy tree is tidy itself. -/
theorem tidies_of_closeAll {below : List Item} {opened : List (Option OpenChapter)}
    (tidy : Tidies (closeAll below opened)) : Tidies below := by
  induction opened generalizing below with
  | nil => exact tidy
  | cons slot outer ih =>
      cases slot with
      | none => exact ih tidy
      | some opened =>
          have chapterTidy : Tidies [.chapter opened.chapter (opened.subItems ++ below)] := ih tidy
          rw [tidies_singleton, Item.Tidy, tidies_append] at chapterTidy
          exact chapterTidy.2.2

/-- What is below a chapter can be replaced on its path. -/
theorem tidies_closeAll_replace {chapter : Chapter} {below other : List Item}
    {opened : List (Option OpenChapter)} (tidy : Tidies (closeAll [.chapter chapter below] opened))
    (otherTidy : (Item.chapter chapter other).Tidy) :
    Tidies (closeAll [.chapter chapter other] opened) := by
  induction opened generalizing chapter below other with
  | nil => exact (tidies_singleton _).mpr otherTidy
  | cons slot outer ih =>
      cases slot with
      | none => exact ih tidy otherTidy
      | some opened =>
          have chapterTidy :
              Tidies [.chapter opened.chapter (opened.subItems ++ [.chapter chapter below])] :=
            tidies_of_closeAll tidy
          rw [tidies_singleton, Item.Tidy, tidies_append] at chapterTidy
          refine ih tidy ?_
          rw [Item.Tidy, tidies_append, tidies_singleton]
          exact ⟨chapterTidy.1.replace_last other, chapterTidy.2.1, otherTidy⟩

/-- A chapter that continues the number of the innermost open chapter can be put below it. -/
theorem tidies_closeAll_add {child : Chapter} {opened : List (Option OpenChapter)}
    (tidy : Tidies (closeAll [] opened)) (numbered : child.number.isSome = true)
    (continues : ∀ parent, parent? opened = some parent → ∃ number, parent.chapter.number = some number ∧
      child.number = some (number ++ [(parent.subItems.length : Int) + 1])) :
    Tidies (closeAll [.chapter child []] opened) := by
  have childTidy : (Item.chapter child []).Tidy := by
    obtain ⟨number, isNumber⟩ := Option.isSome_iff_exists.mp numbered
    simp [Item.Tidy, CountsBelow, isNumber]
  induction opened with
  | nil => exact (tidies_singleton _).mpr childTidy
  | cons slot outer ih =>
      cases slot with
      | none => exact ih tidy continues
      | some opened =>
          -- Only the innermost chapter gains a child; for those around it nothing but the inside changes.
          obtain ⟨number, isNumber, continued⟩ := continues opened rfl
          rw [closeAll, List.append_nil] at tidy
          have chapterTidy := tidies_of_closeAll tidy
          rw [tidies_singleton, Item.Tidy] at chapterTidy
          rw [closeAll]
          refine tidies_closeAll_replace tidy ?_
          rw [Item.Tidy, tidies_append, tidies_singleton]
          exact ⟨chapterTidy.1.add isNumber continued [], chapterTidy.2, childTidy⟩

/-- The number that a path has at top level does not depend on what is below its outermost chapter. -/
theorem filterMap_number?_closeAll (chapter : Chapter) (below other : List Item)
    (opened : List (Option OpenChapter)) :
    (closeAll [.chapter chapter below] opened).filterMap Item.number? =
      (closeAll [.chapter chapter other] opened).filterMap Item.number? := by
  induction opened generalizing chapter below other with
  | nil => simp [closeAll, List.filterMap_cons, Item.number?]
  | cons slot outer ih =>
      cases slot with
      | none => exact ih chapter below other
      | some opened => exact ih _ _ _

/-- Below an open chapter nothing comes to the top. -/
theorem filterMap_number?_closeAll_of_open {opened : List (Option OpenChapter)}
    (inside : parent? opened ≠ none) (below : List Item) :
    (closeAll below opened).filterMap Item.number? = (closeAll [] opened).filterMap Item.number? := by
  induction opened with
  | nil => exact absurd rfl inside
  | cons slot outer ih =>
      cases slot with
      | none => exact ih inside
      | some opened => exact filterMap_number?_closeAll _ _ _ outer

/-! ### The invariant -/

/-- The numbers of what has been read are right. -/
structure Sound (summary : Summary) : Prop where
  settled : summary.Settled
  numbered : ∀ chapter, some chapter ∈ summary.opened.map (·.map OpenChapter.chapter) →
    chapter.number.isSome = true
  counted : summary.finish.filterMap Item.number? = countedTo summary.numbered
  tidy : Tidies summary.finish

theorem sound_empty : Sound empty :=
  ⟨settled_empty, by simp [empty], by simp [finish, empty, closeAll, countedTo],
    by simp [finish, empty, closeAll]⟩

theorem Sound.closeItem {summary next : Summary} (sound : summary.Sound)
    (ok : summary.closeItem = .ok next) : next.Sound := by
  have settled := sound.settled.closeItem ok
  have finished := finish_closeItem ok
  have numbered := sound.numbered
  refine ⟨settled, ?_, ?_, by rw [finished]; exact sound.tidy⟩
  · rcases closeItem_cases ok with ⟨outer, isOpen, rfl⟩ |
      ⟨opened, outer, attached, isOpen, below, rfl⟩ | ⟨opened, outer, isOpen, -, rfl⟩
    · exact fun chapter member => numbered chapter (by rw [isOpen]; exact List.mem_cons_of_mem _ member)
    · intro chapter member
      rw [below.chapters] at member
      exact numbered chapter (by rw [isOpen]; exact List.mem_cons_of_mem _ member)
    · exact fun chapter member => numbered chapter (by rw [isOpen]; exact List.mem_cons_of_mem _ member)
  · rw [finished, sound.counted, numbered_closeItem ok]

theorem Sound.append {summary : Summary} (sound : summary.Sound) {item : Item}
    (fits : item.isChapter = true → parent? summary.opened = none) (noNumber : item.number? = none)
    (tidy : item.Tidy) : (summary.append item).Sound := by
  have finished := finish_append sound.settled item
  refine ⟨sound.settled.append fits, by simpa using sound.numbered, ?_, ?_⟩
  · rw [finished, append_numbered, ← sound.counted]
    simp [noNumber]
  · rw [finished, tidies_append, tidies_singleton]
    exact ⟨sound.tidy, tidy⟩

/-- The innermost open chapter has a number. -/
theorem Sound.parent_numbered {summary : Summary} (sound : summary.Sound) {parent : OpenChapter}
    (innermost : parent? summary.opened = some parent) : parent.chapter.number.isSome = true := by
  obtain ⟨slot, member, isParent⟩ := List.exists_of_findSome?_eq_some innermost
  refine sound.numbered parent.chapter (List.mem_map.mpr ⟨slot, member, ?_⟩)
  rw [show slot = some parent from isParent]
  rfl

/-- Opening a chapter counts it if it comes to the top, and leaves the numbers at top level alone if it
    goes below another. -/
theorem Sound.openChapter {summary : Summary} (sound : summary.Sound)
    {outer : List (Option OpenChapter)} (isOpen : summary.opened = none :: outer) (chapter : Chapter) :
    (summary.openChapter outer chapter).Sound := by
  have finished := finish_openChapter isOpen chapter
  have innermost : parent? summary.opened = parent? outer := by rw [isOpen]; rfl
  refine ⟨sound.settled.openChapter outer chapter, ?_, ?_, ?_⟩
  · intro other member
    rw [openChapter_eq] at member
    rcases List.mem_cons.mp member with isNew | before
    · obtain rfl := Option.some.inj isNew
      rfl
    · exact sound.numbered other (by rw [isOpen]; exact List.mem_cons_of_mem _ before)
  · have counted := sound.counted
    rw [finished, openChapter_eq]
    cases around : parent? outer with
    | none =>
        rw [plug_of_parent?_none sound.settled (innermost.trans around), List.filterMap_append, counted]
        simp [Item.number?, nextNumber, around, countedTo_succ]
    | some parent =>
        have inside : parent? summary.opened ≠ none := by simp [innermost, around]
        rw [finish_eq_plug] at counted
        simpa [plug, filterMap_number?_closeAll_of_open inside] using counted
  · have tidy := sound.tidy
    rw [finish_eq_plug, plug, tidies_append, tidies_append] at tidy
    rw [finished, plug, tidies_append, tidies_append]
    refine ⟨⟨tidy.1.1, tidies_closeAll_add tidy.1.2 rfl ?_⟩, tidy.2⟩
    intro parent isParent
    obtain ⟨number, isNumber⟩ := Option.isSome_iff_exists.mp (sound.parent_numbered isParent)
    rw [innermost] at isParent
    exact ⟨number, isNumber, by simp [nextNumber, isParent, isNumber]⟩

/-- A link that stands outside list items, or comes first in its own, or comes later. -/
theorem Sound.addChapter {summary : Summary} (sound : summary.Sound) {chapter : Chapter}
    (noNumber : chapter.number = none) : (summary.addChapter chapter).Sound := by
  unfold Summary.addChapter
  split
  · next outside =>
      refine sound.append (fun _ => by rw [outside]; rfl) noNumber ?_
      simp [Item.Tidy, CountsBelow, noNumber]
  · exact sound
  · next outer isOpen => exact sound.openChapter isOpen chapter

theorem Sound.addLine {summary : Summary} (sound : summary.Sound) (line : List Prose.Token) :
    (summary.addLine line).Sound := by
  by_cases noLink : summary.heading.isSome = true ∨ firstLink? line = none
  · rcases addLine_of_no_link noLink with same | titled | ⟨title, part⟩
    · rwa [same]
    · rw [titled]
      exact ⟨⟨sound.settled.inside, sound.settled.others⟩, sound.numbered, sound.counted, sound.tidy⟩
    · rw [part]
      exact sound.append (fun isChapter => by cases isChapter) rfl trivial
  · obtain ⟨noHeading, isLink⟩ := not_or.mp noLink
    obtain ⟨chapter, link⟩ := Option.ne_none_iff_exists'.mp isLink
    rw [addLine_of_link (by simpa using noHeading) link]
    exact sound.addChapter (number_of_firstLink? link)

/-- No token makes the numbers wrong. -/
theorem Sound.step {summary next : Summary} (sound : summary.Sound) {token : Prose.Token}
    (ok : summary.step token = .ok next) : next.Sound := by
  cases takes_of_step ok with
  | opensItem kind =>
      refine ⟨⟨sound.settled.inside, sound.settled.others⟩, ?_, sound.counted, sound.tidy⟩
      intro chapter member
      exact sound.numbered chapter (by simpa using member)
  | closesItem kind ok => exact sound.closeItem ok
  | rule kind => exact sound.append (fun isChapter => by cases isChapter) rfl trivial
  | opensHeading kind | closesHeading kind =>
      exact ⟨⟨sound.settled.inside, sound.settled.others⟩, sound.numbered, sound.counted, sound.tidy⟩
  | line kind => exact sound.addLine token.children
  | other kinds => exact sound

end Summary

end Bindery.Book
