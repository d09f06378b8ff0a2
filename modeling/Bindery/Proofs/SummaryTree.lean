/-
Module: Bindery.Proofs.SummaryTree
Layer: Proofs
Purpose: The tree of a table of contents while it is being read. The open chapters are a path from the
  top to the chapter that came last, so that a new chapter below the innermost open one is always the last
  of the whole tree. Each way to change the tree is stated by what it does to the finished tree and to the
  places of the open chapters in it.
Imports: Bindery.Book.Summary
Main exports: Entry, entries, Summary.plug, Summary.slots, Summary.Settled, Summary.linksFrom_plug,
  Summary.closeItem_cases, Summary.finish_closeItem, Summary.finish_append, Summary.finish_openChapter,
  Summary.Takes, Summary.takes_of_step
-/
import Bindery.Book.Summary

namespace Bindery.Book

/-! ### The chapters of a tree -/

/-- A chapter of a tree, what is below it, and the place of the chapter that it is below among all. -/
structure Entry where
  chapter : Chapter
  subItems : List Item
  parent : Option Nat
deriving Repr

mutual

/-- The chapters of an item that `index` chapters come before, each before those below it. -/
def Item.entriesFrom (parent : Option Nat) (index : Nat) : Item → List Entry
  | .chapter chapter subItems =>
    ⟨chapter, subItems, parent⟩ :: Book.entriesFrom (some index) (index + 1) subItems
  | _ => []

/-- The chapters of items that `index` chapters come before. -/
def entriesFrom (parent : Option Nat) (index : Nat) : List Item → List Entry
  | [] => []
  | item :: rest =>
    item.entriesFrom parent index ++ entriesFrom parent (index + item.chapterCount) rest

end

/-- The chapters of a tree, each before those below it. -/
def entries (items : List Item) : List Entry := entriesFrom none 0 items

/-- A chapter and the place of the chapter that it is below. -/
def Entry.link (entry : Entry) : Chapter × Option Nat := (entry.chapter, entry.parent)

/-- The chapters of items that `index` chapters come before, without what is below them. -/
def linksFrom (parent : Option Nat) (index : Nat) (items : List Item) : List (Chapter × Option Nat) :=
  (entriesFrom parent index items).map Entry.link

def Item.isChapter : Item → Bool
  | .chapter _ _ => true
  | _ => false

theorem chapterCounts_append (items more : List Item) :
    chapterCounts (items ++ more) = chapterCounts items + chapterCounts more := by
  induction items with
  | nil => simp [chapterCounts]
  | cons item rest ih => simp [chapterCounts, ih, Nat.add_assoc]

@[simp] theorem chapterCounts_chapter (chapter : Chapter) (subItems : List Item) :
    chapterCounts [.chapter chapter subItems] = 1 + chapterCounts subItems := by
  simp [chapterCounts, Item.chapterCount]

/-- There are as many entries as chapters. -/
theorem length_entriesFrom : ∀ (parent : Option Nat) (index : Nat) (items : List Item),
    (entriesFrom parent index items).length = chapterCounts items
  | _, _, [] => by simp [entriesFrom, chapterCounts]
  | parent, index, .chapter _ subItems :: rest => by
      simp [entriesFrom, Item.entriesFrom, chapterCounts, Item.chapterCount,
        length_entriesFrom _ _ subItems, length_entriesFrom _ _ rest]
      omega
  | parent, index, .separator :: rest
  | parent, index, .part _ :: rest
  | parent, index, .foreign _ :: rest => by
      simp [entriesFrom, Item.entriesFrom, chapterCounts, Item.chapterCount,
        length_entriesFrom _ _ rest]

theorem linksFrom_append (parent : Option Nat) (index : Nat) (items more : List Item) :
    linksFrom parent index (items ++ more) =
      linksFrom parent index items ++ linksFrom parent (index + chapterCounts items) more := by
  induction items generalizing index with
  | nil => simp [linksFrom, entriesFrom, chapterCounts]
  | cons item rest ih =>
      simp only [linksFrom, List.cons_append, entriesFrom, List.map_append, chapterCounts,
        List.append_assoc] at ih ⊢
      rw [ih, Nat.add_assoc]

theorem linksFrom_chapter (parent : Option Nat) (index : Nat) (chapter : Chapter)
    (subItems : List Item) :
    linksFrom parent index [.chapter chapter subItems] =
      (chapter, parent) :: linksFrom (some index) (index + 1) subItems := by
  simp [linksFrom, entriesFrom, Item.entriesFrom, Entry.link]

/-- Separators and titles hold no chapters. -/
theorem no_chapters {items : List Item} (others : ∀ item ∈ items, item.isChapter = false)
    (parent : Option Nat) (index : Nat) :
    linksFrom parent index items = [] ∧ chapterCounts items = 0 := by
  induction items generalizing index with
  | nil => simp [linksFrom, entriesFrom, chapterCounts]
  | cons item rest ih =>
      obtain ⟨noLinks, noCount⟩ :=
        ih (fun other member => others other (List.mem_cons_of_mem _ member)) index
      have other := others item (by simp)
      cases item with
      | chapter => cases other
      | separator | part | foreign =>
          simpa [entriesFrom, Item.entriesFrom, linksFrom, chapterCounts, Item.chapterCount, noCount]
            using noLinks

namespace Summary

/-! ### The path of open chapters -/

/-- How many chapters the open ones are, with those below them. -/
def openCount : List (Option OpenChapter) → Nat
  | [] => 0
  | none :: outer => openCount outer
  | some opened :: outer => openCount outer + 1 + chapterCounts opened.subItems

/-- The places that open chapters take in the finished tree, after `base` others. -/
def indices (base : Nat) : List (Option OpenChapter) → List (Option Nat)
  | [] => []
  | none :: outer => none :: indices base outer
  | some _ :: outer => some (base + openCount outer) :: indices base outer

theorem chapterCounts_closeAll (below : List Item) (opened : List (Option OpenChapter)) :
    chapterCounts (closeAll below opened) = openCount opened + chapterCounts below := by
  induction opened generalizing below with
  | nil => simp [closeAll, openCount]
  | cons slot outer ih =>
      cases slot with
      | none => exact ih below
      | some opened =>
          simp only [closeAll, ih, openCount, chapterCounts_chapter, chapterCounts_append]
          omega

/-- What is below the innermost open chapter comes last, and its parent is that chapter. -/
theorem linksFrom_closeAll (base : Nat) (below : List Item) (opened : List (Option OpenChapter)) :
    linksFrom none base (closeAll below opened) =
      linksFrom none base (closeAll [] opened) ++
        linksFrom ((indices base opened).findSome? id) (base + openCount opened) below := by
  induction opened generalizing below with
  | nil => simp [closeAll, indices, openCount, linksFrom, entriesFrom]
  | cons slot outer ih =>
      cases slot with
      | none => exact ih below
      | some opened =>
          -- The innermost chapter closes into the last item of the one around it, so the claim is used
          -- there twice: with what is below and without.
          have grows := ih [.chapter opened.chapter (opened.subItems ++ below)]
          have before := ih [.chapter opened.chapter (opened.subItems ++ [])]
          rw [closeAll, closeAll, grows, before]
          simp only [linksFrom_chapter, linksFrom_append, List.append_assoc, List.cons_append,
            indices, List.findSome?_cons, id, openCount, List.append_nil]
          simp [Nat.add_assoc, Nat.add_comm 1]

theorem closeAll_of_parent?_none {opened : List (Option OpenChapter)} (closed : parent? opened = none)
    (below : List Item) : closeAll below opened = below := by
  induction opened with
  | nil => rfl
  | cons slot outer ih =>
      cases slot with
      | none => exact ih closed
      | some opened => cases closed

/-- Without open chapters nothing has a place. -/
theorem indices_of_parent?_none {opened : List (Option OpenChapter)} (closed : parent? opened = none)
    (base : Nat) : indices base opened = opened.map fun _ => none := by
  induction opened with
  | nil => rfl
  | cons slot outer ih =>
      cases slot with
      | none => rw [indices, ih closed, List.map_cons]
      | some opened => cases closed

theorem attach?_none {item : Item} {opened : List (Option OpenChapter)}
    (top : attach? item opened = none) : parent? opened = none := by
  induction opened with
  | nil => rfl
  | cons slot outer ih =>
      cases slot with
      | none => exact ih (by simpa [attach?] using top)
      | some opened => cases top

/-- What it means for a path that an item has gone below its innermost chapter: the chapters close to the
    same items as if it still came, and they are the same chapters in the same places. -/
structure Attached (item : Item) (opened attached : List (Option OpenChapter)) : Prop where
  closes : ∀ more, closeAll more attached = closeAll (item :: more) opened
  places : ∀ base, indices base attached = indices base opened
  chapters : attached.map (·.map OpenChapter.chapter) = opened.map (·.map OpenChapter.chapter)
  inside : parent? attached ≠ none

theorem attached_of_attach? {item : Item} {opened attached : List (Option OpenChapter)}
    (below : attach? item opened = some attached) : Attached item opened attached := by
  induction opened generalizing attached with
  | nil => cases below
  | cons slot outer ih =>
      cases slot with
      | some parent =>
          obtain rfl : _ = attached := Option.some.inj below
          exact ⟨by simp [closeAll], by simp [indices], rfl, by simp [parent?]⟩
      | none =>
          obtain ⟨inner, okInner, rfl⟩ := Option.map_eq_some_iff.mp below
          have attached := ih okInner
          exact ⟨attached.closes, fun base => congrArg (none :: ·) (attached.places base),
            congrArg (none :: ·) attached.chapters, attached.inside⟩

/-! ### The finished tree -/

/-- The finished tree with more items below the innermost open chapter. -/
def plug (summary : Summary) (below : List Item) : List Item :=
  summary.items ++ closeAll below summary.opened ++ summary.waiting

theorem finish_eq_plug (summary : Summary) : summary.finish = summary.plug [] := rfl

/-- The places of the open chapters among all chapters read so far. -/
def slots (summary : Summary) : List (Option Nat) :=
  indices (chapterCounts summary.items) summary.opened

/-- Only separators wait, and only for open chapters. -/
structure Settled (summary : Summary) : Prop where
  inside : parent? summary.opened = none → summary.waiting = []
  others : ∀ item ∈ summary.waiting, item.isChapter = false

theorem settled_empty : Settled empty := ⟨fun _ => rfl, by simp [empty]⟩

/-- What is put below the innermost open chapter comes after all other chapters. -/
theorem linksFrom_plug {summary : Summary} (settled : summary.Settled) (below : List Item) :
    linksFrom none 0 (summary.plug below) =
      linksFrom none 0 summary.finish ++
        linksFrom (summary.slots.findSome? id) (chapterCounts summary.finish) below := by
  have waits (index : Nat) := no_chapters settled.others none index
  simp only [finish_eq_plug, plug, linksFrom_append, (waits _).1, List.append_nil, Nat.zero_add,
    chapterCounts_append, (waits 0).2, Nat.add_zero]
  rw [linksFrom_closeAll _ below, List.append_assoc, chapterCounts_closeAll]
  simp [slots, chapterCounts]

/-- Without open chapters it comes to the top. -/
theorem plug_of_parent?_none {summary : Summary} (settled : summary.Settled)
    (closed : parent? summary.opened = none) (below : List Item) :
    summary.plug below = summary.finish ++ below := by
  simp [plug, finish, closeAll_of_parent?_none closed, settled.inside closed]

theorem chapterCounts_finish {summary : Summary} (settled : summary.Settled) :
    chapterCounts summary.finish = chapterCounts summary.items + openCount summary.opened := by
  simp [finish, chapterCounts_append, chapterCounts_closeAll, (no_chapters settled.others none 0).2,
    chapterCounts]

/-! ### Ways to change the tree -/

/-- Closing a list item takes it off the path. Its chapter, if it has one, goes below the chapter around
    it; if there is none, it goes to the top, and what waited for it goes behind it. -/
theorem closeItem_cases {summary next : Summary} (ok : summary.closeItem = .ok next) :
    (∃ outer, summary.opened = none :: outer ∧ next = { summary with opened := outer }) ∨
      (∃ opened outer attached, summary.opened = some opened :: outer ∧
        Attached opened.close outer attached ∧ next = { summary with opened := attached }) ∨
      ∃ opened outer, summary.opened = some opened :: outer ∧ parent? outer = none ∧
        next = { summary with
          opened := outer, items := summary.items ++ opened.close :: summary.waiting, waiting := [] } := by
  unfold closeItem at ok
  split at ok
  · cases ok
  · next outer isOpen => exact .inl ⟨outer, isOpen, (Except.ok.inj ok).symm⟩
  · next opened outer isOpen =>
      split at ok
      · next attached below =>
          exact .inr (.inl ⟨opened, outer, attached, isOpen, attached_of_attach? below,
            (Except.ok.inj ok).symm⟩)
      · next top =>
          exact .inr (.inr ⟨opened, outer, isOpen, attach?_none top, (Except.ok.inj ok).symm⟩)

/-- Closing a list item does not change the finished tree. -/
theorem finish_closeItem {summary next : Summary} (ok : summary.closeItem = .ok next) :
    next.finish = summary.finish := by
  rcases closeItem_cases ok with ⟨outer, isOpen, rfl⟩ | ⟨opened, outer, attached, isOpen, below, rfl⟩ |
    ⟨opened, outer, isOpen, closed, rfl⟩
  · simp [finish, isOpen, closeAll]
  · simp [finish, isOpen, closeAll, below.closes, OpenChapter.close]
  · simp [finish, isOpen, closeAll, closeAll_of_parent?_none closed, OpenChapter.close]

theorem slots_closeItem {summary next : Summary} (ok : summary.closeItem = .ok next) :
    next.slots = summary.slots.tail := by
  rcases closeItem_cases ok with ⟨outer, isOpen, rfl⟩ | ⟨opened, outer, attached, isOpen, below, rfl⟩ |
    ⟨opened, outer, isOpen, closed, rfl⟩
  · simp [slots, isOpen, indices]
  · simp [slots, isOpen, indices, below.places]
  · simp [slots, isOpen, indices, indices_of_parent?_none closed]

theorem heading_closeItem {summary next : Summary} (ok : summary.closeItem = .ok next) :
    next.heading = summary.heading := by
  rcases closeItem_cases ok with ⟨_, _, rfl⟩ | ⟨_, _, _, _, _, rfl⟩ | ⟨_, _, _, _, rfl⟩ <;> rfl

theorem numbered_closeItem {summary next : Summary} (ok : summary.closeItem = .ok next) :
    next.numbered = summary.numbered := by
  rcases closeItem_cases ok with ⟨_, _, rfl⟩ | ⟨_, _, _, _, _, rfl⟩ | ⟨_, _, _, _, rfl⟩ <;> rfl

theorem Settled.closeItem {summary next : Summary} (settled : summary.Settled)
    (ok : summary.closeItem = .ok next) : next.Settled := by
  rcases closeItem_cases ok with ⟨outer, isOpen, rfl⟩ | ⟨opened, outer, attached, isOpen, below, rfl⟩ |
    ⟨opened, outer, isOpen, closed, rfl⟩
  · exact ⟨fun closed => settled.inside (by rw [isOpen]; exact closed), settled.others⟩
  · exact ⟨fun closed => absurd closed below.inside, settled.others⟩
  · exact ⟨fun _ => rfl, by simp⟩

@[simp] theorem append_opened (summary : Summary) (item : Item) :
    (summary.append item).opened = summary.opened := by
  unfold append
  split <;> rfl

@[simp] theorem append_numbered (summary : Summary) (item : Item) :
    (summary.append item).numbered = summary.numbered := by
  unfold append
  split <;> rfl

@[simp] theorem append_heading (summary : Summary) (item : Item) :
    (summary.append item).heading = summary.heading := by
  unfold append
  split <;> rfl

/-- An item at top level comes last in the finished tree, also while chapters are open. -/
theorem finish_append {summary : Summary} (settled : summary.Settled) (item : Item) :
    (summary.append item).finish = summary.finish ++ [item] := by
  unfold append
  split
  · next closed => simp [finish, closeAll_of_parent?_none closed, settled.inside closed]
  · simp [finish]

/-- A separator or a title stands beside the chapters. -/
theorem linksFrom_finish_append {summary : Summary} (settled : summary.Settled) {item : Item}
    (other : item.isChapter = false) :
    linksFrom none 0 (summary.append item).finish = linksFrom none 0 summary.finish := by
  have noChapter := (no_chapters (List.forall_mem_singleton.mpr other) none
    (0 + chapterCounts summary.finish)).1
  rw [finish_append settled, linksFrom_append, noChapter, List.append_nil]

theorem slots_append (summary : Summary) (item : Item) : (summary.append item).slots = summary.slots := by
  unfold append
  split
  · next closed => simp [slots, indices_of_parent?_none closed]
  · rfl

/-- A chapter may go to the top only if no chapter is open. -/
theorem Settled.append {summary : Summary} (settled : summary.Settled) {item : Item}
    (fits : item.isChapter = true → parent? summary.opened = none) :
    (summary.append item).Settled := by
  unfold Summary.append
  split
  · exact ⟨settled.inside, settled.others⟩
  · next parent inside =>
      have other : item.isChapter = false := by
        rw [← Bool.not_eq_true]
        intro isChapter
        rw [fits isChapter] at inside
        cases inside
      refine ⟨fun closed => ?_, fun waiting member => ?_⟩
      · rw [show parent? summary.opened = none from closed] at inside
        cases inside
      · rcases List.mem_append.mp member with before | isItem
        · exact settled.others waiting before
        · rwa [List.mem_singleton.mp isItem]

/-- The number of the next chapter in a list item that `outer` is around. -/
def nextNumber (summary : Summary) (outer : List (Option OpenChapter)) : List Int :=
  match parent? outer with
  | some parent => parent.chapter.number.getD [] ++ [(parent.subItems.length : Int) + 1]
  | none => [(summary.numbered : Int) + 1]

/-- Opening a chapter puts it on the path; at top level it counts. -/
theorem openChapter_eq (summary : Summary) (outer : List (Option OpenChapter)) (chapter : Chapter) :
    summary.openChapter outer chapter =
      { summary with
        opened := some ⟨{ chapter with number := some (summary.nextNumber outer) }, []⟩ :: outer
        numbered := if (parent? outer).isSome then summary.numbered else summary.numbered + 1 } := by
  unfold openChapter nextNumber
  split <;> simp_all

/-- An opened chapter is put below the innermost chapter that was open. -/
theorem finish_openChapter {summary : Summary} {outer : List (Option OpenChapter)}
    (isOpen : summary.opened = none :: outer) (chapter : Chapter) :
    (summary.openChapter outer chapter).finish =
      summary.plug [.chapter { chapter with number := some (summary.nextNumber outer) } []] := by
  rw [openChapter_eq]
  simp [finish, plug, isOpen, closeAll]

/-- Its place is behind all chapters before. -/
theorem slots_openChapter {summary : Summary} (settled : summary.Settled)
    {outer : List (Option OpenChapter)} (isOpen : summary.opened = none :: outer) (chapter : Chapter) :
    (summary.openChapter outer chapter).slots =
      some (chapterCounts summary.finish) :: summary.slots.tail := by
  rw [openChapter_eq, chapterCounts_finish settled]
  simp [slots, isOpen, indices, openCount]

theorem Settled.openChapter {summary : Summary} (settled : summary.Settled)
    (outer : List (Option OpenChapter)) (chapter : Chapter) :
    (summary.openChapter outer chapter).Settled := by
  rw [openChapter_eq]
  exact ⟨fun closed => by simp [parent?] at closed, settled.others⟩

/-- An open list item can be closed. -/
theorem exists_closeItem {summary : Summary} (isOpen : summary.opened ≠ []) :
    ∃ next, summary.closeItem = .ok next := by
  unfold closeItem
  split
  · next closed => exact absurd closed isOpen
  · exact ⟨_, rfl⟩
  · split
    · exact ⟨_, rfl⟩
    · exact ⟨_, rfl⟩

@[simp] theorem length_slots (summary : Summary) : summary.slots.length = summary.opened.length := by
  rw [slots]
  induction summary.opened with
  | nil => rfl
  | cons slot outer ih => cases slot <;> simp [indices, ih]

/-! ### One token -/

/-- What a token does to the table of contents, by its kind. -/
inductive Takes (summary : Summary) (token : Prose.Token) : Summary → Prop
  | opensItem (kind : token.kind = "list_item_open") :
      Takes summary token { summary with opened := none :: summary.opened }
  | closesItem {next : Summary} (kind : token.kind = "list_item_close")
      (ok : summary.closeItem = .ok next) : Takes summary token next
  | rule (kind : token.kind = "hr") : Takes summary token (summary.append .separator)
  | opensHeading (kind : token.kind = "heading_open") :
      Takes summary token { summary with heading := some token.tag }
  | closesHeading (kind : token.kind = "heading_close") :
      Takes summary token { summary with heading := none }
  | line (kind : token.kind = "inline") : Takes summary token (summary.addLine token.children)
  | other (kinds : token.kind ∉
      ["list_item_open", "list_item_close", "hr", "heading_open", "heading_close", "inline"]) :
      Takes summary token summary

theorem takes_of_step {summary next : Summary} {token : Prose.Token}
    (ok : summary.step token = .ok next) : Takes summary token next := by
  unfold step at ok
  split at ok
  · next kind => exact Except.ok.inj ok ▸ .opensItem kind
  · next kind => exact .closesItem kind ok
  · next kind => exact Except.ok.inj ok ▸ .rule kind
  · next kind => exact Except.ok.inj ok ▸ .opensHeading kind
  · next kind => exact Except.ok.inj ok ▸ .closesHeading kind
  · next kind => exact Except.ok.inj ok ▸ .line kind
  · exact Except.ok.inj ok ▸ .other (by simp_all)

/-- Only a list item that is not open cannot be closed. -/
theorem exists_step {summary : Summary} {token : Prose.Token}
    (closes : token.kind = "list_item_close" → summary.opened ≠ []) :
    ∃ next, summary.step token = .ok next := by
  unfold step
  split
  · exact ⟨_, rfl⟩
  · next kind => exact exists_closeItem (closes kind)
  all_goals exact ⟨_, rfl⟩

/-- A line of a heading, and a line without link, add at most the title of a part. -/
theorem addLine_of_no_link {summary : Summary} {line : List Prose.Token}
    (noLink : summary.heading.isSome = true ∨ firstLink? line = none) :
    summary.addLine line = summary ∨ summary.addLine line = { summary with titleSeen := true } ∨
      ∃ title, summary.addLine line = summary.append (.part title) := by
  unfold addLine
  split
  · unfold addHeading
    split
    · exact .inl rfl
    · split
      · exact .inr (.inl rfl)
      · exact .inr (.inr ⟨_, rfl⟩)
  · next noHeading =>
      rcases noLink with inHeading | noLink
      · simp [noHeading] at inHeading
      · exact .inl (by rw [noLink])

/-- A line with a link outside headings is taken in as the chapter of the link. -/
theorem addLine_of_link {summary : Summary} {line : List Prose.Token} {chapter : Chapter}
    (noHeading : summary.heading = none) (link : firstLink? line = some chapter) :
    summary.addLine line = summary.addChapter chapter := by
  simp [addLine, noHeading, link]

end Summary

end Bindery.Book
