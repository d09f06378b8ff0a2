/-
Module: Bindery.Proofs.TokenLayout
Layer: Proofs
Purpose: The grammar of the tokens of a text. Leaves, lines and containers follow one another in blocks, a
  list holds items and nothing else, and items stand in lists only. A line holds texts, images and the
  containers of a line, and no blocks. Tokens that keep to the grammar nest, with every item directly inside
  a list.
Imports: Bindery.Proofs.SummaryLinks, Bindery.Proofs.TokenNesting
Main exports: standInLine, Around, Ends, Laid, Laid.openedFrom, Laid.itemsNest
-/
import Bindery.Proofs.SummaryLinks
import Bindery.Proofs.TokenNesting

namespace Bindery.Prose

/-! ### Lines -/

def lineContainers : List String := ["em", "strong", "s", "link"]

/-- The kinds of tokens that no line holds: lines, blocks of code, and the end of a table head. -/
def blockKinds : List String := ["inline", "fence", "code_block", "thead_close"]

mutual

/-- May a token stand in a line, with whatever an image holds? -/
def standsInLine : Token → Bool
  | token@⟨kind, _, nesting, _, _, _, _, _, children⟩ =>
    kind ∉ blockKinds && (nesting ≠ 1 || token.containerName ∈ lineContainers) &&
      (kind ≠ "image" || standInLine children)

def standInLine : List Token → Bool
  | [] => true
  | token :: rest => standsInLine token && standInLine rest

end

/-! ### Blocks -/

def itemKinds : List String := ["list_item_open", "list_item_close"]

/-- The kinds of blocks that are leaves. -/
def leafKinds : List String := ["code_block", "fence", "hr", "html_block"]

/-- What tokens stand in directly. In a document and in a quotation, blocks flow. -/
inductive Around where
  | flow
  | item
  | list
  | table
  | head
  | body
  | row
  | line
deriving DecidableEq

/-- The containers that stand among blocks, with what stands in them. -/
def blockContainers : List (String × Around) :=
  [("paragraph", .line), ("heading", .line), ("blockquote", .flow), ("bullet_list", .list),
   ("ordered_list", .list), ("table", .table)]

/-- The containers that stand somewhere, with what stands in them. -/
def Around.containers : Around → List (String × Around)
  | .flow | .item => blockContainers
  | .list => [("list_item", .item)]
  | .table => [("thead", .head), ("tbody", .body)]
  | .head | .body => [("tr", .row)]
  | .row => [("th", .line), ("td", .line)]
  | .line => []

/-- The tokens at the two ends of a container. -/
structure Ends (name : String) (first last : Token) : Prop where
  opens : first.nesting = 1
  opening : first.kind = name ++ "_open"
  numbered : hasNumber first = true
  closes : last.nesting = -1
  closing : last.kind = name ++ "_close"

/-- Tokens of blocks one after the other, which stand in something directly. Only what stands directly in an
    item may be hidden. What a line holds stands in a line, and nests by itself. -/
inductive Laid : Around → List Token → Prop where
  | nil {around : Around} : Laid around []
  | append {around : Around} {first second : List Token} :
      Laid around first → Laid around second → Laid around (first ++ second)
  | leaf {around : Around} {token : Token} (blocks : around = .flow ∨ around = .item)
      (step : token.nesting = 0) (kind : token.kind ∈ leafKinds) : Laid around [token]
  | line {token : Token} (step : token.nesting = 0) (kind : token.kind = "inline")
      (stand : standInLine token.children = true)
      (nest : Prose.openedFrom true [] token.children = some []) : Laid .line [token]
  | container {around inside : Around} {name : String} {first last : Token} {inner : List Token}
      (placed : (name, inside) ∈ around.containers) (ends : Ends name first last)
      (hides : first.hidden = true → around = .item) :
      Laid inside inner → Laid around (first :: inner ++ [last])

theorem containerName_of_kind {token : Token} {name : String} (kind : token.kind = name ++ "_open") :
    token.containerName = name := by
  rw [Token.containerName, kind]
  simp

theorem Ends.containerName {name : String} {first last : Token} (ends : Ends name first last) :
    first.containerName = name := containerName_of_kind ends.opening

/-- The kinds of opening tokens tell their containers apart, and a closing token is of another kind. -/
theorem opening_eq_iff {name other : String} : name ++ "_open" = other ++ "_open" ↔ name = other :=
  String.append_left_inj "_open"

theorem opening_ne_closing (name other : String) : name ++ "_open" ≠ other ++ "_close" := by
  intro same
  have last := congrArg (fun text => text.toList.getLast?) same
  simp at last

/-- No leaf is an end of a paragraph or of an item, nor an image. -/
theorem kind_ne_of_leaf {kind : String} (leaf : kind ∈ "inline" :: leafKinds) :
    kind ≠ "paragraph_open" ∧ kind ≠ "paragraph_close" ∧ kind ≠ "image" ∧ kind ∉ itemKinds := by
  simp only [leafKinds, List.mem_cons, List.not_mem_nil, or_false] at leaf
  rcases leaf with rfl | rfl | rfl | rfl | rfl <;> decide

theorem kind_ne_inline_of_leaf {kind : String} (leaf : kind ∈ leafKinds) : kind ≠ "inline" := by
  rintro rfl
  exact absurd leaf (by decide)

/-- A list item stands in a list. -/
theorem eq_list_of_item {around inside : Around} (placed : ("list_item", inside) ∈ around.containers) :
    around = .list ∧ inside = .item := by
  cases around <;> simp_all [Around.containers, blockContainers]

/-- What stands in a list is in a container named as one. -/
theorem opensList_of_list {around : Around} {name : String} (placed : (name, .list) ∈ around.containers) :
    opensList name = true := by
  cases around <;> simp_all [Around.containers, blockContainers, opensList]

/-! ### Nesting -/

/-- A container around tokens that leave open what was open. -/
theorem openedFrom_around {opened : List String} {first last : Token} {inner : List Token}
    (opens : first.nesting = 1) (closes : last.nesting = -1) (can : canOpen true opened first = true)
    (inside : openedFrom true (first.containerName :: opened) inner =
      some (first.containerName :: opened)) :
    openedFrom true opened (first :: inner ++ [last]) = some opened := by
  have closed : openedAfter true (first.containerName :: opened) last = some opened :=
    openedAfter_closing true _ opened closes
  rw [List.cons_append, openedFrom, openedAfter_opening opens can, Option.bind_some, openedFrom_append,
    inside, Option.bind_some, openedFrom, closed, Option.bind_some, openedFrom]

/-- Blocks nest wherever they stand, but items have to stand directly in a list. -/
theorem Laid.openedFrom {around : Around} {tokens : List Token} (laid : Laid around tokens)
    (opened : List String) (listed : around = .list → opened.head?.any opensList = true) :
    Prose.openedFrom true opened tokens = some opened := by
  induction laid generalizing opened with
  | nil => rw [Prose.openedFrom]
  | append _ _ ihFirst ihSecond =>
      rw [openedFrom_append, ihFirst opened listed, Option.bind_some, ihSecond opened listed]
  | @leaf _ token _ step kind =>
      have noImage := (kind_ne_of_leaf (List.mem_cons_of_mem _ kind)).2.2.1
      have noLine := kind_ne_inline_of_leaf kind
      rw [Prose.openedFrom, openedAfter_leaf true opened step ⟨noLine, noImage⟩, Option.bind_some,
        Prose.openedFrom]
  | line step _ _ nest =>
      rw [Prose.openedFrom, openedAfter_holder opened step nest, Option.bind_some, Prose.openedFrom]
  | @container around inside name first last inner placed ends _ _ ih =>
      have isName := ends.containerName
      apply openedFrom_around ends.opens ends.closes
      · rw [canOpen, ends.numbered, isName]
        by_cases item : name = "list_item"
        · subst item
          rw [listed (eq_list_of_item placed).1]
          rfl
        · simp [item]
      · apply ih
        rintro rfl
        rw [isName]
        exact opensList_of_list placed

/-- Blocks leave as many list items open as there were. -/
theorem Laid.itemsNest {around : Around} {tokens : List Token} (laid : Laid around tokens) (depth : Nat)
    (rest : List Token) : Book.itemsNest depth (tokens ++ rest) = Book.itemsNest depth rest := by
  have skipped {token : Token} (kind : token.kind ∉ itemKinds) (depth : Nat) (rest : List Token) :
      Book.itemsNest depth (token :: rest) = Book.itemsNest depth rest := by
    simp only [itemKinds, List.mem_cons, List.not_mem_nil, or_false, not_or] at kind
    rw [Book.itemsNest]
    split
    · next isOpening => exact absurd isOpening kind.1
    · next isClosing => exact absurd isClosing kind.2
    · rfl
  induction laid generalizing depth rest with
  | nil => rfl
  | append _ _ ihFirst ihSecond => rw [List.append_assoc, ihFirst, ihSecond]
  | leaf _ _ kind => exact skipped (kind_ne_of_leaf (List.mem_cons_of_mem _ kind)).2.2.2 depth rest
  | line step kind => exact skipped (by rw [kind]; decide) depth rest
  | @container around inside name first last inner placed ends _ _ ih =>
      rw [List.cons_append, List.cons_append, List.append_assoc, List.singleton_append]
      by_cases item : name = "list_item"
      · have isOpening : first.kind = "list_item_open" := by
          rw [ends.opening, item]
          rfl
        have isClosing : last.kind = "list_item_close" := by
          rw [ends.closing, item]
          rfl
        rw [Book.itemsNest]
        simp only [isOpening]
        rw [ih, Book.itemsNest]
        simp [isClosing]
      · have notItem : first.kind ∉ itemKinds ∧ last.kind ∉ itemKinds := by
          rw [ends.opening, ends.closing]
          simp only [itemKinds, List.mem_cons, List.not_mem_nil, or_false, not_or]
          refine ⟨⟨fun same => item (opening_eq_iff.mp same), opening_ne_closing name "list_item"⟩,
            fun same => (opening_ne_closing "list_item" name) same.symm, fun same => item ?_⟩
          exact (String.append_left_inj "_close").mp same
        rw [skipped notItem.1, ih, skipped notItem.2]

/-- The tokens of a text nest, with every item directly inside a list. -/
theorem Laid.nest {tokens : List Token} (laid : Laid .flow tokens) :
    Prose.openedFrom true [] tokens = some [] := laid.openedFrom [] nofun

end Bindery.Prose
