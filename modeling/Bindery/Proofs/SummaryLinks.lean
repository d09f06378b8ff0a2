/-
Module: Bindery.Proofs.SummaryLinks
Layer: Proofs
Purpose: Which links of a summary become chapters, and where. It is said by places among the tokens,
  without a tree: a link counts outside list items, or as the first one directly in its list item; the
  chapter that it is below is that of the nearest list item around it which has had a link before. The
  chapters of the tree are these links in the order of the text.
Imports: Bindery.Proofs.SummaryNumbers, Mathlib.Data.List.Find, Mathlib.Data.List.Forall2,
  Mathlib.Data.List.Induction
Main exports: openItems, inHeading, linkAt?, itemAround?, linkIn?, isUsed, usedLinks, parentLink?,
  itemsNest, Follows, itemsOfTokens_of_itemsNest
-/
import Bindery.Proofs.SummaryNumbers
import Mathlib.Data.List.Find
import Mathlib.Data.List.Forall2
import Mathlib.Data.List.Induction

namespace Bindery.Book

open Prose (Token)

/-! ### Links by their places -/

/-- The list items that are open after a token, by the places where they were opened. -/
def openItemsAfter (opened : List Nat) (token : Token × Nat) : List Nat :=
  match token.1.kind with
  | "list_item_open" => token.2 :: opened
  | "list_item_close" => opened.tail
  | _ => opened

/-- The list items that are open after tokens, innermost first. -/
def openItems (tokens : List Token) : List Nat := tokens.zipIdx.foldl openItemsAfter []

/-- Does a heading begin or end here? -/
def isHeadingMark (token : Token) : Bool :=
  token.kind = "heading_open" || token.kind = "heading_close"

def inHeading (tokens : List Token) : Bool :=
  (tokens.reverse.find? isHeadingMark).any fun token => token.kind = "heading_open"

/-- The chapter that the first link of the line at a place stands for. Headings have none. -/
def linkAt? (tokens : List Token) (place : Nat) : Option Chapter :=
  tokens[place]?.bind fun token =>
    if token.kind = "inline" ∧ inHeading (tokens.take place) = false then firstLink? token.children
    else none

def itemAround? (tokens : List Token) (place : Nat) : Option Nat := (openItems (tokens.take place)).head?

def linkIn? (tokens : List Token) (item : Nat) : Option Nat :=
  (List.range tokens.length).find? fun place =>
    (linkAt? tokens place).isSome && itemAround? tokens place = some item

/-- Does the link at a place count? In a list item only the first one does. -/
def isUsed (tokens : List Token) (place : Nat) : Bool :=
  (linkAt? tokens place).isSome &&
    match itemAround? tokens place with
    | none => true
    | some item => linkIn? tokens item = some place

/-- The places of the links that count. -/
def usedLinks (tokens : List Token) : List Nat := (List.range tokens.length).filter (isUsed tokens)

/-- The place of the link of the nearest list item around a place that has had one before. -/
def parentLink? (tokens : List Token) (place : Nat) : Option Nat :=
  (openItems (tokens.take place)).findSome? (linkIn? (tokens.take place))

/-- Is no list item closed that is not open? -/
def itemsNest (depth : Nat) : List Token → Bool
  | [] => true
  | token :: rest =>
    match token.kind with
    | "list_item_open" => itemsNest (depth + 1) rest
    | "list_item_close" => 0 < depth && itemsNest (depth - 1) rest
    | _ => itemsNest depth rest

/-! ### One more token -/

section

variable (tokens : List Token) {token : Token}

theorem openItems_concat (token : Token) :
    openItems (tokens ++ [token]) = openItemsAfter (openItems tokens) (token, tokens.length) := by
  simp [openItems, List.zipIdx_append]

theorem openItems_concat_of_open (kind : token.kind = "list_item_open") :
    openItems (tokens ++ [token]) = tokens.length :: openItems tokens := by
  simp [openItems_concat, openItemsAfter, kind]

theorem openItems_concat_of_close (kind : token.kind = "list_item_close") :
    openItems (tokens ++ [token]) = (openItems tokens).tail := by
  simp [openItems_concat, openItemsAfter, kind]

theorem openItems_concat_of_other (kind : token.kind ∉ ["list_item_open", "list_item_close"]) :
    openItems (tokens ++ [token]) = openItems tokens := by
  rw [openItems_concat, openItemsAfter]
  split
  · simp_all
  · simp_all
  · rfl

variable (token)

theorem inHeading_concat :
    inHeading (tokens ++ [token]) =
      if isHeadingMark token then decide (token.kind = "heading_open") else inHeading tokens := by
  unfold inHeading
  rw [List.reverse_append, List.reverse_singleton, List.singleton_append, List.find?_cons]
  split <;> simp_all

/-- List items are opened one after the other. -/
theorem openItems_sorted : (tokens.length :: openItems tokens).Pairwise (· > ·) := by
  induction tokens using List.reverseRec with
  | nil => simp [openItems]
  | append_singleton tokens token ih =>
      have later : ∀ item ∈ openItems tokens, item < tokens.length := (List.pairwise_cons.mp ih).1
      have sorted : (openItems tokens).Pairwise (· > ·) := (List.pairwise_cons.mp ih).2
      rw [openItems_concat, openItemsAfter, List.length_append, List.length_singleton]
      split
      · refine List.pairwise_cons.mpr ⟨fun item member => ?_, ih⟩
        rcases List.mem_cons.mp member with rfl | before
        · exact Nat.lt_succ_self _
        · exact Nat.lt_succ_of_lt (later item before)
      · exact List.pairwise_cons.mpr ⟨fun item member =>
          Nat.lt_succ_of_lt (later item (List.mem_of_mem_tail member)), sorted.tail⟩
      · exact List.pairwise_cons.mpr ⟨fun item member => Nat.lt_succ_of_lt (later item member), sorted⟩

theorem lt_length_of_mem_openItems {item : Nat} (member : item ∈ openItems tokens) :
    item < tokens.length := (List.pairwise_cons.mp (openItems_sorted tokens)).1 item member

theorem take_concat {place : Nat} (within : place ≤ tokens.length) :
    (tokens ++ [token]).take place = tokens.take place := List.take_append_of_le_length within

theorem linkAt?_concat_of_lt {place : Nat} (within : place < tokens.length) :
    linkAt? (tokens ++ [token]) place = linkAt? tokens place := by
  rw [linkAt?, linkAt?, List.getElem?_append_left within, take_concat tokens token (Nat.le_of_lt within)]

theorem linkAt?_concat :
    linkAt? (tokens ++ [token]) tokens.length =
      if token.kind = "inline" ∧ inHeading tokens = false then firstLink? token.children else none := by
  simp [linkAt?]

theorem itemAround?_concat {place : Nat} (within : place ≤ tokens.length) :
    itemAround? (tokens ++ [token]) place = itemAround? tokens place := by
  rw [itemAround?, itemAround?, take_concat tokens token within]

theorem itemAround?_length : itemAround? tokens tokens.length = (openItems tokens).head? := by
  simp [itemAround?]

/-- A list item keeps its first link; the last token may be the first one directly in it. -/
theorem linkIn?_concat (item : Nat) :
    linkIn? (tokens ++ [token]) item =
      (linkIn? tokens item).or
        (if (linkAt? (tokens ++ [token]) tokens.length).isSome ∧ (openItems tokens).head? = some item
          then some tokens.length else none) := by
  rw [linkIn?, List.length_append, List.length_singleton, List.range_succ, List.find?_append]
  congr 1
  · rw [linkIn?]
    refine List.find?_congr fun place member => ?_
    have within := List.mem_range.mp member
    rw [linkAt?_concat_of_lt tokens token within, itemAround?_concat tokens token (Nat.le_of_lt within)]
  · rw [List.find?_singleton, itemAround?_concat tokens token (Nat.le_refl _), itemAround?_length]
    simp

theorem linkIn?_lt {item place : Nat} (first : linkIn? tokens item = some place) :
    place < tokens.length := List.mem_range.mp (List.mem_of_find?_eq_some first)

/-- Directly in a list item that has not been opened is no link. -/
theorem linkIn?_of_unopened {item : Nat} (unopened : tokens.length ≤ item) :
    linkIn? tokens item = none := by
  rw [linkIn?, List.find?_eq_none]
  intro place member holds
  simp only [Bool.and_eq_true, decide_eq_true_eq] at holds
  have within := List.mem_range.mp member
  have opened := lt_length_of_mem_openItems _ (List.mem_of_head? holds.2)
  rw [List.length_take] at opened
  omega

theorem isUsed_concat_of_lt {place : Nat} (within : place < tokens.length) :
    isUsed (tokens ++ [token]) place = isUsed tokens place := by
  rw [isUsed, isUsed, linkAt?_concat_of_lt tokens token within,
    itemAround?_concat tokens token (Nat.le_of_lt within)]
  congr 1
  split
  · rfl
  · next item _ =>
      rw [linkIn?_concat]
      cases first : linkIn? tokens item with
      | some place => rfl
      | none =>
          have later : tokens.length ≠ place := Nat.ne_of_gt within
          split <;> simp [later]

/-- The last token is used if it has a link, and no other was directly in its list item before. -/
theorem isUsed_concat :
    isUsed (tokens ++ [token]) tokens.length =
      ((linkAt? (tokens ++ [token]) tokens.length).isSome &&
        ((openItems tokens).head?.bind (linkIn? tokens)).isNone) := by
  rw [isUsed, itemAround?_concat tokens token (Nat.le_refl _), itemAround?_length]
  cases link : linkAt? (tokens ++ [token]) tokens.length with
  | none => rfl
  | some chapter =>
      cases around : (openItems tokens).head? with
      | none => rfl
      | some item =>
          cases first : linkIn? tokens item with
          | none => simp [linkIn?_concat, first, link, around]
          | some place =>
              have earlier : place ≠ tokens.length := Nat.ne_of_lt (linkIn?_lt tokens first)
              simp [linkIn?_concat, first, earlier]

theorem usedLinks_concat :
    usedLinks (tokens ++ [token]) =
      usedLinks tokens ++ if isUsed (tokens ++ [token]) tokens.length then [tokens.length] else [] := by
  rw [usedLinks, List.length_append, List.length_singleton, List.range_succ, List.filter_append]
  congr 1
  · refine List.filter_congr fun place member => ?_
    exact isUsed_concat_of_lt tokens token (List.mem_range.mp member)
  · rw [List.filter_singleton, Bool.cond_eq_ite]

/-- A token that is not used gives no list item its first link. -/
theorem linkIn?_concat_of_unused (unused : isUsed (tokens ++ [token]) tokens.length = false)
    (item : Nat) : linkIn? (tokens ++ [token]) item = linkIn? tokens item := by
  rw [linkIn?_concat]
  split
  · next first =>
      rw [isUsed_concat, first.1, first.2] at unused
      obtain ⟨place, earlier⟩ : ∃ place, linkIn? tokens item = some place :=
        Option.isSome_iff_exists.mp (by simpa using unused)
      rw [earlier]
      rfl
  · rw [Option.or_none]

/-- The first link directly in a list item is used. -/
theorem mem_usedLinks_of_linkIn? {item place : Nat} (first : linkIn? tokens item = some place) :
    place ∈ usedLinks tokens := by
  have holds := List.find?_some first
  simp only [Bool.and_eq_true, decide_eq_true_eq] at holds
  refine List.mem_filter.mpr ⟨List.mem_of_find?_eq_some first, ?_⟩
  rw [isUsed, holds.1, holds.2]
  simpa using first

/-- Used links keep their places among the used ones. -/
theorem map_idxOf_usedLinks_concat {found : Option Nat} (used : ∀ place ∈ found, place ∈ usedLinks tokens) :
    found.map (usedLinks (tokens ++ [token])).idxOf = found.map (usedLinks tokens).idxOf := by
  cases found with
  | none => rfl
  | some place =>
      rw [usedLinks_concat, Option.map_some, List.idxOf_append_of_mem (used place rfl), Option.map_some]

theorem mem_usedLinks_append {place : Nat} (used : place ∈ usedLinks tokens) (more : List Token) :
    place ∈ usedLinks (tokens ++ more) := by
  induction more using List.reverseRec with
  | nil => rwa [List.append_nil]
  | append_singleton more token ih =>
      rw [← List.append_assoc, usedLinks_concat]
      exact List.mem_append_left _ ih

/-- The link that another is below is used. -/
theorem mem_usedLinks_of_parentLink? {place parent : Nat}
    (below : parentLink? tokens place = some parent) : parent ∈ usedLinks tokens := by
  -- It is used as far as the place, and what is used there stays used.
  obtain ⟨item, -, first⟩ := List.exists_of_findSome?_eq_some below
  have used := mem_usedLinks_append (tokens.take place) (mem_usedLinks_of_linkIn? _ first)
    (tokens.drop place)
  rwa [List.take_append_drop] at used

theorem parentLink?_concat {place : Nat} (within : place ≤ tokens.length) :
    parentLink? (tokens ++ [token]) place = parentLink? tokens place := by
  rw [parentLink?, parentLink?, take_concat tokens token within]

end

/-! ### Places in the tree -/

/-- The place of the chapter that a list item has, among the chapters of the tree. -/
def slotOf (tokens : List Token) (item : Nat) : Option Nat :=
  (linkIn? tokens item).map (usedLinks tokens).idxOf

/-- A chapter and the place of its parent are those of a link. -/
structure Linked (tokens : List Token) (link : Chapter × Option Nat) (place : Nat) : Prop where
  chapter : linkAt? tokens place = some { link.1 with number := none }
  numbered : link.1.number.isSome = (itemAround? tokens place).isSome
  parent : link.2 = (parentLink? tokens place).map (usedLinks tokens).idxOf

variable {tokens : List Token} {token : Token}

theorem lt_length_of_linkAt? {place : Nat} {chapter : Chapter}
    (link : linkAt? tokens place = some chapter) : place < tokens.length := by
  obtain ⟨token, isToken, -⟩ := Option.bind_eq_some_iff.mp link
  exact (List.getElem?_eq_some_iff.mp isToken).1

/-- What a chapter is does not depend on what comes later. -/
theorem Linked.concat {link : Chapter × Option Nat} {place : Nat} (linked : Linked tokens link place)
    (token : Token) : Linked (tokens ++ [token]) link place := by
  have within := lt_length_of_linkAt? linked.chapter
  refine ⟨?_, ?_, ?_⟩
  · rw [linkAt?_concat_of_lt tokens token within, linked.chapter]
  · rw [itemAround?_concat tokens token (Nat.le_of_lt within), linked.numbered]
  · rw [linked.parent, parentLink?_concat tokens token (Nat.le_of_lt within),
      map_idxOf_usedLinks_concat tokens token fun _ => mem_usedLinks_of_parentLink? tokens]

/-- What has been read of a table of contents from tokens: the open chapters and all chapters are those of
    the links. -/
structure Agrees (tokens : List Token) (summary : Summary) : Prop where
  sound : summary.Sound
  heading : summary.heading.isSome = inHeading tokens
  slots : summary.slots = (openItems tokens).map (slotOf tokens)
  links : List.Forall₂ (Linked tokens) (linksFrom none 0 summary.finish) (usedLinks tokens)

theorem agrees_empty : Agrees [] .empty where
  sound := Summary.sound_empty
  heading := rfl
  slots := rfl
  links := List.Forall₂.nil

/-- There are as many chapters as links that count. -/
theorem Agrees.count {summary : Summary} (agrees : Agrees tokens summary) :
    chapterCounts summary.finish = (usedLinks tokens).length := by
  rw [← agrees.links.length_eq, linksFrom, List.length_map, length_entriesFrom]

/-- An item whose first link the last token is not keeps its place. -/
theorem slotOf_concat {item : Nat} (same : linkIn? (tokens ++ [token]) item = linkIn? tokens item) :
    slotOf (tokens ++ [token]) item = slotOf tokens item := by
  rw [slotOf, slotOf, same,
    map_idxOf_usedLinks_concat tokens token fun _ => mem_usedLinks_of_linkIn? tokens]

/-- A token that is not used may open or close list items, and changes no chapter. -/
theorem Agrees.unused {summary next : Summary} (agrees : Agrees tokens summary)
    (unused : isUsed (tokens ++ [token]) tokens.length = false) (sound : next.Sound)
    (heading : next.heading.isSome = inHeading (tokens ++ [token]))
    (slots : next.slots = (openItems (tokens ++ [token])).map (slotOf tokens))
    (links : linksFrom none 0 next.finish = linksFrom none 0 summary.finish) :
    Agrees (tokens ++ [token]) next where
  sound := sound
  heading := heading
  slots := by
    rw [slots]
    exact List.map_congr_left fun item _ =>
      (slotOf_concat (linkIn?_concat_of_unused tokens token unused item)).symm
  links := by
    rw [links, usedLinks_concat, unused]
    simpa using agrees.links.imp fun _ _ linked => linked.concat token

/-- The parent of a chapter that the last token brings in is the innermost open chapter. -/
theorem Agrees.parent {summary : Summary} (agrees : Agrees tokens summary) (token : Token) :
    summary.slots.findSome? id =
      (parentLink? (tokens ++ [token]) tokens.length).map (usedLinks (tokens ++ [token])).idxOf := by
  have innermost : parentLink? tokens tokens.length = (openItems tokens).findSome? (linkIn? tokens) := by
    rw [parentLink?, List.take_length]
  rw [parentLink?_concat tokens token (Nat.le_refl _),
    map_idxOf_usedLinks_concat tokens token fun _ => mem_usedLinks_of_parentLink? tokens, innermost,
    agrees.slots, List.findSome?_map, List.map_findSome?]
  rfl

/-- A token that is used brings in one chapter, which comes last. -/
theorem Agrees.used {summary next : Summary} (agrees : Agrees tokens summary)
    (used : isUsed (tokens ++ [token]) tokens.length = true) (sound : next.Sound)
    (heading : next.heading.isSome = inHeading (tokens ++ [token]))
    (slots : next.slots = (openItems (tokens ++ [token])).map (slotOf (tokens ++ [token])))
    {chapter : Chapter}
    (link : linkAt? (tokens ++ [token]) tokens.length = some { chapter with number := none })
    (numbered : chapter.number.isSome = (openItems tokens).head?.isSome)
    (links : linksFrom none 0 next.finish =
      linksFrom none 0 summary.finish ++ [(chapter, summary.slots.findSome? id)]) :
    Agrees (tokens ++ [token]) next where
  sound := sound
  heading := heading
  slots := slots
  links := by
    have isLinked : Linked (tokens ++ [token]) (chapter, summary.slots.findSome? id) tokens.length := by
      refine ⟨link, ?_, agrees.parent token⟩
      rw [numbered, itemAround?_concat tokens token (Nat.le_refl _), itemAround?_length]
    rw [links, usedLinks_concat, used, if_pos rfl]
    exact List.rel_append (agrees.links.imp fun _ _ linked => linked.concat token)
      (.cons isLinked .nil)

/-! ### Lines -/

/-- A token that opens and closes no list item leaves the open chapters in their places. -/
theorem Agrees.slots_concat {summary : Summary} (agrees : Agrees tokens summary)
    (kind : token.kind ∉ ["list_item_open", "list_item_close"]) :
    summary.slots = (openItems (tokens ++ [token])).map (slotOf tokens) := by
  rw [openItems_concat_of_other tokens kind, agrees.slots]

theorem Agrees.heading_concat {summary : Summary} (agrees : Agrees tokens summary)
    (noMark : isHeadingMark token = false) :
    summary.heading.isSome = inHeading (tokens ++ [token]) := by
  rw [agrees.heading, inHeading_concat, noMark]
  rfl

/-- The token opens and closes neither a list item nor a heading. -/
def Plain (token : Token) : Prop :=
  token.kind ∉ ["list_item_open", "list_item_close"] ∧ isHeadingMark token = false

theorem plain_of_line (kind : token.kind = "inline") : Plain token := by
  simp [Plain, isHeadingMark, kind]

/-- A plain token that is not used may bring in only what is no chapter. -/
theorem Agrees.plain {summary next : Summary} (agrees : Agrees tokens summary) (plain : Plain token)
    (unused : isUsed (tokens ++ [token]) tokens.length = false) (sound : next.Sound)
    (heading : next.heading = summary.heading) (slots : next.slots = summary.slots)
    (links : linksFrom none 0 next.finish = linksFrom none 0 summary.finish) :
    Agrees (tokens ++ [token]) next := by
  refine agrees.unused unused sound ?_ ?_ links
  · rw [heading]
    exact agrees.heading_concat plain.2
  · rw [slots]
    exact agrees.slots_concat plain.1

/-- The line of a heading, and a line without link, bring in no chapter. -/
theorem Agrees.plainLine {summary : Summary} (agrees : Agrees tokens summary)
    (kind : token.kind = "inline")
    (noLink : summary.heading.isSome = true ∨ firstLink? token.children = none) :
    Agrees (tokens ++ [token]) (summary.addLine token.children) := by
  have sound := agrees.sound.addLine token.children
  have unused : isUsed (tokens ++ [token]) tokens.length = false := by
    rw [isUsed_concat, linkAt?_concat, ← agrees.heading]
    rcases noLink with inHeading | noLink
    · simp [inHeading]
    · simp [noLink]
  have plain := plain_of_line kind
  rcases Summary.addLine_of_no_link noLink with same | titled | ⟨title, part⟩
  · rw [same] at sound ⊢
    exact agrees.plain plain unused sound rfl rfl rfl
  · rw [titled] at sound ⊢
    exact agrees.plain plain unused sound rfl rfl rfl
  · rw [part] at sound ⊢
    exact agrees.plain plain unused sound (Summary.append_heading _ _) (Summary.slots_append _ _)
      (Summary.linksFrom_finish_append agrees.sound.settled rfl)

/-- Outside list items every link counts. -/
theorem Agrees.outside {summary : Summary} (agrees : Agrees tokens summary)
    (kind : token.kind = "inline") {chapter : Chapter} (noNumber : chapter.number = none)
    (link : linkAt? (tokens ++ [token]) tokens.length = some chapter) (closed : summary.opened = []) :
    Agrees (tokens ++ [token]) (summary.append (.chapter chapter [])) := by
  have noSlots : summary.slots = [] := by rw [Summary.slots, closed]; rfl
  have noItems : openItems tokens = [] := List.map_eq_nil_iff.mp (agrees.slots.symm.trans noSlots)
  have unnumbered : chapter = { chapter with number := none } := by rw [← noNumber]
  refine agrees.used (by simp [isUsed_concat, link, noItems]) ?_ ?_ ?_ (unnumbered ▸ link) ?_ ?_
  · exact agrees.sound.append (fun _ => by rw [closed]; rfl) noNumber
      (by simp [Item.Tidy, CountsBelow, noNumber])
  · rw [Summary.append_heading, agrees.heading_concat (plain_of_line kind).2]
  · rw [Summary.slots_append, noSlots,
      openItems_concat_of_other tokens (by simp [kind]), noItems]
    rfl
  · rw [noNumber, noItems]
    rfl
  · rw [Summary.finish_append agrees.sound.settled, linksFrom_append, linksFrom_chapter, noSlots]
    rfl

/-- In a list item that has its chapter, a link does not count. -/
theorem Agrees.extra {summary : Summary} (agrees : Agrees tokens summary)
    (kind : token.kind = "inline") {opened : OpenChapter} {outer : List (Option OpenChapter)}
    (isOpen : summary.opened = some opened :: outer) : Agrees (tokens ++ [token]) summary := by
  have slots := agrees.slots
  rw [Summary.slots, isOpen, Summary.indices] at slots
  obtain ⟨item, rest, items, filled, -⟩ := List.map_eq_cons_iff.mp slots.symm
  obtain ⟨place, first, -⟩ := Option.map_eq_some_iff.mp filled
  have unused : isUsed (tokens ++ [token]) tokens.length = false := by
    simp [isUsed_concat, items, first]
  exact agrees.plain (plain_of_line kind) unused agrees.sound rfl rfl rfl

/-- The chapter that the last token brings into its list item has the place behind all others. -/
theorem slotOf_concat_first {item : Nat} {rest : List Nat} (items : openItems tokens = item :: rest)
    (noFirst : linkIn? tokens item = none)
    (used : isUsed (tokens ++ [token]) tokens.length = true) :
    slotOf (tokens ++ [token]) item = some (usedLinks tokens).length := by
  have link : (linkAt? (tokens ++ [token]) tokens.length).isSome = true := by
    rw [isUsed_concat, Bool.and_eq_true] at used
    exact used.1
  have fresh : tokens.length ∉ usedLinks tokens := fun member =>
    Nat.lt_irrefl _ (List.mem_range.mp (List.mem_of_mem_filter member))
  rw [slotOf, linkIn?_concat, noFirst, if_pos ⟨link, by rw [items]; rfl⟩, Option.none_or,
    Option.map_some, usedLinks_concat, used, if_pos rfl, List.idxOf_append_of_notMem fresh,
    List.idxOf_cons_self, Nat.add_zero]

/-- In a list item without chapter, a link gives it one. -/
theorem Agrees.first {summary : Summary} (agrees : Agrees tokens summary)
    (kind : token.kind = "inline") {chapter : Chapter} (noNumber : chapter.number = none)
    (link : linkAt? (tokens ++ [token]) tokens.length = some chapter)
    {outer : List (Option OpenChapter)} (isOpen : summary.opened = none :: outer) :
    Agrees (tokens ++ [token]) (summary.openChapter outer chapter) := by
  have slots := agrees.slots
  rw [Summary.slots, isOpen, Summary.indices] at slots
  obtain ⟨item, rest, items, empty, -⟩ := List.map_eq_cons_iff.mp slots.symm
  have noFirst : linkIn? tokens item = none := Option.map_eq_none_iff.mp empty
  have used : isUsed (tokens ++ [token]) tokens.length = true := by
    simp [isUsed_concat, link, items, noFirst]
  -- Every list item around was opened before this one, so the link is not directly in it.
  have around : ∀ other ∈ rest, slotOf (tokens ++ [token]) other = slotOf tokens other := by
    intro other member
    have sorted := (List.pairwise_cons.mp (openItems_sorted tokens)).2
    rw [items, List.pairwise_cons] at sorted
    have distinct : item ≠ other := Nat.ne_of_gt (sorted.1 other member)
    exact slotOf_concat (by rw [linkIn?_concat, items]; simp [distinct])
  have unnumbered : chapter = { chapter with number := none } := by rw [← noNumber]
  have links : linksFrom none 0 (summary.openChapter outer chapter).finish =
      linksFrom none 0 summary.finish ++
        [({ chapter with number := some (summary.nextNumber outer) }, summary.slots.findSome? id)] := by
    rw [Summary.finish_openChapter isOpen, Summary.linksFrom_plug agrees.sound.settled,
      linksFrom_chapter]
    rfl
  refine agrees.used used (agrees.sound.openChapter isOpen chapter) ?_ ?_ ?_ ?_ links
  · rw [Summary.openChapter_eq, ← agrees.heading_concat (plain_of_line kind).2]
  · rw [Summary.slots_openChapter agrees.sound.settled isOpen, agrees.count, agrees.slots,
      openItems_concat_of_other tokens (by simp [kind]), items, List.map_cons,
      List.map_cons, List.tail_cons, slotOf_concat_first items noFirst used,
      List.map_congr_left around]
  · rw [link]
    exact congrArg some unnumbered
  · rw [items]
    rfl

/-- The chapters that a line brings in are those of its links that count. -/
theorem Agrees.line {summary : Summary} (agrees : Agrees tokens summary)
    (kind : token.kind = "inline") : Agrees (tokens ++ [token]) (summary.addLine token.children) := by
  by_cases noLink : summary.heading.isSome = true ∨ firstLink? token.children = none
  · exact agrees.plainLine kind noLink
  · obtain ⟨noHeading, isLink⟩ := not_or.mp noLink
    obtain ⟨chapter, first⟩ := Option.ne_none_iff_exists'.mp isLink
    have noNumber := number_of_firstLink? first
    have link : linkAt? (tokens ++ [token]) tokens.length = some chapter := by
      rw [linkAt?_concat, ← agrees.heading]
      simp [kind, noHeading, first]
    rw [Summary.addLine_of_link (by simpa using noHeading) first, Summary.addChapter]
    split
    · next closed => exact agrees.outside kind noNumber link closed
    · next opened outer isOpen => exact agrees.extra kind isOpen
    · next outer isOpen => exact agrees.first kind noNumber link isOpen

/-! ### The whole text -/

theorem Agrees.step {summary next : Summary} (agrees : Agrees tokens summary)
    (ok : summary.step token = .ok next) : Agrees (tokens ++ [token]) next := by
  have sound := agrees.sound.step ok
  have unused (kind : token.kind ≠ "inline") : isUsed (tokens ++ [token]) tokens.length = false := by
    simp [isUsed_concat, linkAt?_concat, kind]
  cases Summary.takes_of_step ok with
  | opensItem kind =>
      refine agrees.unused (unused (by simp [kind])) sound
        (agrees.heading_concat (by simp [isHeadingMark, kind])) ?_ rfl
      -- The new item is known by the place of this token, and all links so far are in older items.
      have fresh : slotOf tokens tokens.length = none := by
        rw [slotOf, linkIn?_of_unopened tokens (Nat.le_refl _), Option.map_none]
      rw [openItems_concat_of_open tokens kind, List.map_cons, fresh, ← agrees.slots]
      rfl
  | closesItem kind closed =>
      refine agrees.unused (unused (by simp [kind])) sound ?_ ?_
        (by rw [Summary.finish_closeItem closed])
      · rw [Summary.heading_closeItem closed]
        exact agrees.heading_concat (by simp [isHeadingMark, kind])
      · rw [Summary.slots_closeItem closed, openItems_concat_of_close tokens kind, agrees.slots,
          List.map_tail]
  | rule kind =>
      exact agrees.plain (by simp [Plain, isHeadingMark, kind]) (unused (by simp [kind])) sound
        (Summary.append_heading _ _) (Summary.slots_append _ _)
        (Summary.linksFrom_finish_append agrees.sound.settled rfl)
  | opensHeading kind =>
      exact agrees.unused (unused (by simp [kind])) sound
        (by simp [inHeading_concat, isHeadingMark, kind]) (agrees.slots_concat (by simp [kind])) rfl
  | closesHeading kind =>
      exact agrees.unused (unused (by simp [kind])) sound
        (by simp [inHeading_concat, isHeadingMark, kind]) (agrees.slots_concat (by simp [kind])) rfl
  | line kind => exact agrees.line kind
  | other kinds =>
      simp only [List.mem_cons, List.not_mem_nil, or_false, not_or] at kinds
      exact agrees.plain (by simp [Plain, isHeadingMark, kinds]) (unused (by simp [kinds])) sound
        rfl rfl rfl

theorem itemsNest_cons {rest : List Token}
    (nested : itemsNest (openItems tokens).length (token :: rest) = true) :
    (token.kind = "list_item_close" → openItems tokens ≠ []) ∧
      itemsNest (openItems (tokens ++ [token])).length rest = true := by
  rw [itemsNest] at nested
  split at nested
  · next kind =>
      rw [openItems_concat_of_open tokens kind]
      exact ⟨fun closes => by simp [kind] at closes, nested⟩
  · next kind =>
      rw [Bool.and_eq_true, decide_eq_true_eq] at nested
      rw [openItems_concat_of_close tokens kind, List.length_tail]
      exact ⟨fun _ => List.length_pos_iff.mp nested.1, nested.2⟩
  · next notOpen notClose =>
      rw [openItems_concat_of_other tokens (by simpa using ⟨notOpen, notClose⟩)]
      exact ⟨fun closes => absurd closes notClose, nested⟩

/-- As long as only open list items are closed, the rest of a text can be read. -/
theorem Agrees.run {summary : Summary} (agrees : Agrees tokens summary) (rest : List Token)
    (nested : itemsNest (openItems tokens).length rest = true) :
    ∃ next, rest.foldlM Summary.step summary = .ok next ∧ Agrees (tokens ++ rest) next := by
  induction rest generalizing tokens summary with
  | nil => exact ⟨summary, rfl, by rwa [List.append_nil]⟩
  | cons token rest ih =>
      -- The path and the open items are equally long, so that the item to close is there.
      obtain ⟨closes, nestedRest⟩ := itemsNest_cons nested
      have isOpen : token.kind = "list_item_close" → summary.opened ≠ [] := fun kind closed => by
        have length : summary.slots.length = (openItems tokens).length := by
          rw [agrees.slots, List.length_map]
        rw [Summary.length_slots, closed] at length
        exact closes kind (List.length_eq_zero_iff.mp length.symm)
      obtain ⟨between, okToken⟩ := Summary.exists_step isOpen
      obtain ⟨next, okRest, agreesRest⟩ := ih (agrees.step okToken) nestedRest
      refine ⟨next, ?_, by rwa [List.append_assoc] at agreesRest⟩
      rw [List.foldlM_cons, okToken]
      exact okRest

/-- What a chapter of a table of contents owes to the link at a place. -/
structure Follows (tokens : List Token) (entry : Entry) (place : Nat) : Prop where
  link : linkAt? tokens place = some { entry.chapter with number := none }
  outside : itemAround? tokens place = none → entry.chapter.number = none ∧ entry.subItems = []
  inside : itemAround? tokens place ≠ none → entry.chapter.number ≠ none
  parent : entry.parent = (parentLink? tokens place).map (usedLinks tokens).idxOf

theorem follows_of_linked {entry : Entry} {place : Nat} (linked : Linked tokens entry.link place)
    (counts : CountsBelow entry.chapter entry.subItems) : Follows tokens entry place where
  link := linked.chapter
  outside := by
    intro outside
    have noNumber : entry.chapter.number = none := by
      simpa [outside, Entry.link] using linked.numbered
    rw [CountsBelow, noNumber] at counts
    exact ⟨noNumber, counts⟩
  inside := by
    intro inside noNumber
    have numbered := linked.numbered
    rw [Entry.link, noNumber] at numbered
    exact inside (by simpa using numbered)
  parent := linked.parent

/-- The chapters of a table of contents are the links of its text that count, in their order, below the
    chapters of the list items around them; at top level and below each chapter they are numbered in a row. -/
theorem itemsOfTokens_of_itemsNest (tokens : List Token) (nested : itemsNest 0 tokens = true) :
    ∃ items, itemsOfTokens tokens = .ok items ∧
      (∃ count, items.filterMap Item.number? = countedTo count) ∧
      (∀ entry ∈ entries items, CountsBelow entry.chapter entry.subItems) ∧
      List.Forall₂ (Follows tokens) (entries items) (usedLinks tokens) := by
  obtain ⟨summary, ok, agrees⟩ := agrees_empty.run tokens nested
  have counts : ∀ entry ∈ entries summary.finish, CountsBelow entry.chapter entry.subItems :=
    countsBelow_of_mem_entriesFrom summary.finish none 0 agrees.sound.tidy
  have linked : List.Forall₂ (fun entry => Linked tokens entry.link) (entries summary.finish)
      (usedLinks tokens) := List.forall₂_map_left_iff.mp agrees.links
  refine ⟨summary.finish, by rw [itemsOfTokens, ok]; rfl, ⟨_, agrees.sound.counted⟩, counts, ?_⟩
  exact ((List.forall₂_and_left _ _).mpr ⟨counts, linked⟩).imp fun entry place both =>
    follows_of_linked both.2 both.1

def linkLine (name : String) : Token where
  kind := "inline"
  children := [{ kind := "link_open" }, { kind := "text", content := name }, { kind := "link_close" }]

/-- A link before the list, an item whose link comes after that of the item in it, and a second link. -/
def lateLinks : List Token :=
  [{ kind := "heading_open", tag := "h1" }, linkLine "Guide", { kind := "heading_close" },
   linkLine "Preface",
   { kind := "list_item_open" }, { kind := "list_item_open" }, linkLine "Early",
   { kind := "list_item_close" }, linkLine "Late", { kind := "list_item_open" }, linkLine "Below",
   linkLine "Again", { kind := "list_item_close" }, { kind := "list_item_close" }, { kind := "hr" }]

theorem itemsOfTokens_of_itemsNest_lateLinks :
    itemsNest 0 lateLinks = true ∧ usedLinks lateLinks = [3, 6, 8, 10] ∧
      (usedLinks lateLinks).map (parentLink? lateLinks) = [none, none, none, some 8] ∧
      ∃ items, itemsOfTokens lateLinks = .ok items ∧
        (∃ count, items.filterMap Item.number? = countedTo count) ∧
        (∀ entry ∈ entries items, CountsBelow entry.chapter entry.subItems) ∧
        List.Forall₂ (Follows lateLinks) (entries items) [3, 6, 8, 10] := by
  have nested : itemsNest 0 lateLinks = true := by decide
  have used : usedLinks lateLinks = [3, 6, 8, 10] := by decide +kernel
  have parents : (usedLinks lateLinks).map (parentLink? lateLinks) = [none, none, none, some 8] := by
    decide +kernel
  obtain ⟨items, ok, counted, counts, follows⟩ := itemsOfTokens_of_itemsNest lateLinks nested
  exact ⟨nested, used, parents, items, ok, counted, counts, used ▸ follows⟩

end Bindery.Book
