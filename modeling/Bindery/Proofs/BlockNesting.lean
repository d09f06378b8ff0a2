/-
Module: Bindery.Proofs.BlockNesting
Layer: Proofs
Purpose: The tokens of every text keep to the grammar. Every way to read a block does so, on any number of
  levels, and so do the lines that are read afterwards; what a tight list hides are paragraphs directly in
  its items. So the prose of every text nests, with every item directly inside a list.
Imports: Mathlib.Tactic.IntervalCases, Bindery.CommonMark.Block, Bindery.Proofs.LineNesting
Main exports: Laid.hide, laysOut_blocks, laid_map_readLine, laid_documentTokens
-/
import Mathlib.Tactic.IntervalCases
import Bindery.CommonMark.Block
import Bindery.Proofs.LineNesting

namespace Bindery.CommonMark

open Prose (Token)

/-! ### Hiding paragraphs -/

theorem hideParagraphs_cons {depth : Int} {token : Token}
    (opens : token.kind = "paragraph_open" → depth ≠ 0)
    (closes : token.kind = "paragraph_close" → depth ≠ 1) (rest : List Token) :
    hideParagraphs depth (token :: rest) = token :: hideParagraphs (depth + token.nesting) rest := by
  rw [hideParagraphs, if_neg]
  simp only [Bool.or_eq_true, Bool.and_eq_true, decide_eq_true_eq, not_or, not_and]
  exact ⟨opens, closes⟩

end Bindery.CommonMark

namespace Bindery.Prose

open CommonMark (hideParagraphs hideParagraphs_cons)

/-- Further in than directly in the item, no paragraph is hidden. -/
theorem Laid.hideParagraphs_append {around : Around} {tokens : List Token} (laid : Laid around tokens)
    {depth : Int} (inside : 1 ≤ depth) (rest : List Token) :
    hideParagraphs depth (tokens ++ rest) = tokens ++ hideParagraphs depth rest := by
  induction laid generalizing depth rest with
  | nil => rfl
  | append _ _ ihFirst ihSecond =>
      rw [List.append_assoc, ihFirst inside, ihSecond inside, List.append_assoc]
  | leaf _ step kind =>
      obtain ⟨noOpening, noClosing, -⟩ := kind_ne_of_leaf (List.mem_cons_of_mem _ kind)
      rw [List.singleton_append, List.singleton_append, hideParagraphs_cons
        (fun same => absurd same noOpening) (fun same => absurd same noClosing), step, Int.add_zero]
  | @line token step kind =>
      have leaf : token.kind ∈ "inline" :: leafKinds := by
        rw [kind]
        exact List.mem_cons_self
      obtain ⟨noOpening, noClosing, -⟩ := kind_ne_of_leaf leaf
      rw [List.singleton_append, List.singleton_append, hideParagraphs_cons
        (fun same => absurd same noOpening) (fun same => absurd same noClosing), step, Int.add_zero]
  | @container _ _ name first last inner _ ends _ _ ih =>
      have notClosing : first.kind = "paragraph_close" → depth ≠ 1 := by
        rw [ends.opening]
        exact fun same => absurd same (opening_ne_closing name "paragraph")
      simp only [List.cons_append, List.append_assoc, List.nil_append]
      rw [hideParagraphs_cons (by omega) notClosing, ends.opens, ih (by omega),
        hideParagraphs_cons (by omega) (by omega), ends.closes, Int.add_neg_cancel_right]

/-- Blocks may stand in an item as elsewhere, and the paragraphs that stand there directly may be hidden. -/
theorem Laid.hide {around : Around} {tokens : List Token} (laid : Laid around tokens)
    (flows : around = .flow) (rest : List Token) :
    Laid .item tokens ∧ ∃ hidden, hideParagraphs 0 (tokens ++ rest) = hidden ++ hideParagraphs 0 rest ∧
      Laid .item hidden := by
  induction laid generalizing rest with
  | nil => exact ⟨.nil, [], rfl, .nil⟩
  | append _ _ ihFirst ihSecond =>
      obtain ⟨laidSecond, hidden', hides', laidHidden'⟩ := ihSecond flows rest
      obtain ⟨laidFirst, hidden, hides, laidHidden⟩ := ihFirst flows (_ ++ rest)
      refine ⟨laidFirst.append laidSecond, hidden ++ hidden', ?_, laidHidden.append laidHidden'⟩
      rw [List.append_assoc, hides, hides', List.append_assoc]
  | @leaf _ token _ step kind =>
      obtain ⟨noOpening, noClosing, -⟩ := kind_ne_of_leaf (List.mem_cons_of_mem _ kind)
      have inItem : Laid .item [token] := .leaf (.inr rfl) step kind
      refine ⟨inItem, [token], ?_, inItem⟩
      rw [List.singleton_append, List.singleton_append, hideParagraphs_cons
        (fun same => absurd same noOpening) (fun same => absurd same noClosing), step, Int.add_zero]
  | line => cases flows
  | @container _ inside name first last inner placed ends _ laid _ =>
      subst flows
      have inItem : Laid .item (first :: inner ++ [last]) := .container placed ends (fun _ => rfl) laid
      have notClosing : first.kind ≠ "paragraph_close" := by
        rw [ends.opening]
        exact opening_ne_closing name "paragraph"
      refine ⟨inItem, ?_⟩
      simp only [List.cons_append, List.append_assoc, List.nil_append]
      by_cases paragraph : name = "paragraph"
      · subst paragraph
        have isOpening : first.kind = "paragraph_open" := ends.opening
        have isClosing : last.kind = "paragraph_close" := ends.closing
        refine ⟨{ first with hidden := true } :: inner ++ [{ last with hidden := true }], ?_, ?_⟩
        · rw [hideParagraphs]
          simp [isOpening, ends.opens, laid.hideParagraphs_append (Int.le_refl 1), hideParagraphs, isClosing,
            ends.closes]
        · exact .container placed ⟨ends.opens, ends.opening, ends.numbered, ends.closes, ends.closing⟩
            (fun _ => rfl) laid
      · refine ⟨first :: inner ++ [last], ?_, inItem⟩
        have notOpening : first.kind ≠ "paragraph_open" := by
          rw [ends.opening]
          exact fun same => paragraph (opening_eq_iff.mp same)
        have notClosed : last.kind ≠ "paragraph_close" := by
          rw [ends.closing]
          exact fun same => paragraph ((String.append_left_inj "_close").mp same)
        rw [hideParagraphs_cons (fun same => absurd same notOpening) (fun same => absurd same notClosing),
          ends.opens, Int.zero_add, laid.hideParagraphs_append (Int.le_refl 1),
          hideParagraphs_cons (fun _ => by omega) (fun same => absurd same notClosed), ends.closes]
        simp

end Bindery.Prose

namespace Bindery.CommonMark

open Prose (Token Around Ends Laid leafKinds containerName_of_kind hasNumber openedFrom standInLine)

/-! ### Blocks without blocks in them -/

/-- Before it is read, a line holds nothing. -/
theorem laid_lineToken (text : List Char) : Laid .line [lineToken text] :=
  .line rfl rfl rfl (by rw [lineToken, openedFrom])

/-- Only headings and ordered lists need a number. -/
theorem ends_of {name : String} {first last : Token} (opens : first.nesting = 1)
    (opening : first.kind = name ++ "_open") (closes : last.nesting = -1)
    (closing : last.kind = name ++ "_close") (plain : name ∉ ["heading", "ordered_list"]) :
    Ends name first last := by
  simp only [List.mem_cons, List.not_mem_nil, or_false, not_or] at plain
  refine ⟨opens, opening, ?_, closes, closing⟩
  simp [hasNumber, containerName_of_kind opening, plain]

/-- A container that needs no number around what stands in it. -/
theorem laid_enclose {around inside : Around} {inner : List Token} (laid : Laid inside inner)
    (name tag : String) (placed : (name, inside) ∈ around.containers)
    (plain : name ∉ ["heading", "ordered_list"]) :
    Laid around (opening (name ++ "_open") tag :: inner ++ [closing (name ++ "_close") tag]) := by
  have ends : Ends name (opening (name ++ "_open") tag) (closing (name ++ "_close") tag) :=
    ends_of rfl rfl rfl rfl plain
  apply Laid.container placed ends _ laid
  intro hidden
  cases hidden

/-- Headings have one of six levels. -/
theorem laid_headingTokens {level : Nat} (positive : 1 ≤ level) (bounded : level ≤ 6) (text : List Char) :
    Laid .flow (headingTokens level text) := by
  have numbered : hasNumber (opening "heading_open" (headingTag level)) = true := by
    interval_cases level <;> decide +kernel
  have ends : Ends "heading" (opening "heading_open" (headingTag level))
      (closing "heading_close" (headingTag level)) := ⟨rfl, rfl, numbered, rfl, rfl⟩
  apply Laid.container (by decide) ends _ (laid_lineToken text)
  intro hidden
  cases hidden

section Blocks

variable {page : Page} {start stop : Nat} {definitions : Definitions} {found : Outcome}

theorem laid_codeBlock? (is : codeBlock? page start stop definitions = some found) :
    Laid .flow found.tokens := by
  unfold codeBlock? at is
  dsimp only at is
  split at is
  · cases is
    exact .leaf (.inl rfl) rfl (by simp [leafKinds])
  · cases is

theorem laid_fencedBlock? (is : fencedBlock? page start stop definitions = some found) :
    Laid .flow found.tokens := by
  unfold fencedBlock? at is
  split at is
  · cases is
  · obtain ⟨_, -, rfl⟩ := Option.map_eq_some_iff.mp is
    exact .leaf (.inl rfl) rfl (by simp [leafKinds])

theorem laid_rule? (is : rule? page start definitions = some found) : Laid .flow found.tokens := by
  unfold rule? at is
  split at is
  · cases is
    exact .leaf (.inl rfl) rfl (by simp [leafKinds])
  · cases is

theorem laid_definition? (is : definition? page start definitions = some found) :
    Laid .flow found.tokens := by
  obtain ⟨_, -, rfl⟩ := Option.map_eq_some_iff.mp is
  exact .nil

theorem laid_htmlBlock? (is : htmlBlock? page start stop definitions = some found) :
    Laid .flow found.tokens := by
  unfold htmlBlock? at is
  split at is
  · cases is
  · obtain ⟨_, -, rfl⟩ := Option.map_eq_some_iff.mp is
    exact .leaf (.inl rfl) rfl (by simp [leafKinds])

theorem laid_heading? (is : heading? page start definitions = some found) : Laid .flow found.tokens := by
  unfold heading? at is
  split at is
  · cases is
  · obtain ⟨⟨level, text⟩, isHeading, rfl⟩ := Option.map_eq_some_iff.mp is
    unfold headingOf? at isHeading
    dsimp only at isHeading
    split at isHeading
    · next bounds =>
        cases isHeading
        exact laid_headingTokens bounds.1 bounds.2.1 _
    · cases isHeading

/-- An underlined heading has one of two levels. -/
theorem level_of_underline? {fuel index last level : Nat}
    (is : underline? page fuel index = some (last, level)) : 1 ≤ level ∧ level ≤ 6 := by
  induction fuel generalizing index with
  | zero => cases is
  | succ fuel ih =>
      rw [underline?] at is
      split at is
      · cases is
      · split at is
        · exact ih is
        · split at is
          · next found isLevel =>
              cases is
              split at isLevel
              · cases isLevel
              · unfold underlineLevel? at isLevel
                split at isLevel
                · split at isLevel
                  · cases isLevel
                    split <;> omega
                  · cases isLevel
                · cases isLevel
          · split at is
            · exact ih is
            · cases is

theorem laid_underlinedHeading? (is : underlinedHeading? page start stop definitions = some found) :
    Laid .flow found.tokens := by
  unfold underlinedHeading? at is
  split at is
  · cases is
  · obtain ⟨⟨last, level⟩, isHeading, rfl⟩ := Option.map_eq_some_iff.mp is
    obtain ⟨positive, bounded⟩ := level_of_underline? isHeading
    exact laid_headingTokens positive bounded _

theorem laid_paragraph (page : Page) (start : Nat) (definitions : Definitions) :
    Laid .flow (paragraph page start definitions).tokens :=
  laid_enclose (laid_lineToken _) "paragraph" "p" (by decide) (by decide)

end Blocks

/-! ### Tables -/

/-- The two kinds of cells. -/
def cellNames : List String := ["th", "td"]

theorem laid_cellTokens {name : String} (known : name ∈ cellNames) (alignment : String)
    (text : List Char) : Laid .row (cellTokens name alignment text) := by
  have plain : name ∉ ["heading", "ordered_list"] := by
    simp only [cellNames, List.mem_cons, List.not_mem_nil, or_false] at known
    rcases known with rfl | rfl <;> decide
  have placed : (name, Around.line) ∈ Around.row.containers := by
    simpa [Around.containers, cellNames] using known
  apply Laid.container placed (ends_of rfl rfl rfl rfl plain) _ (laid_lineToken (Text.trimList text))
  intro hidden
  cases hidden

theorem laid_rowTokens {name : String} (known : name ∈ cellNames) :
    ∀ (alignments : List String) (cells : List (List Char)), Laid .row (rowTokens name alignments cells)
  | [], _ => by
      rw [rowTokens]
      exact .nil
  | alignment :: alignments, [] => by
      rw [rowTokens]
      exact (laid_cellTokens known alignment []).append (laid_rowTokens known alignments [])
  | alignment :: alignments, cell :: cells => by
      rw [rowTokens]
      exact (laid_cellTokens known alignment cell).append (laid_rowTokens known alignments cells)

/-- Rows stand in both parts of a table. -/
theorem laid_rowOf {around : Around} (placed : ("tr", Around.row) ∈ around.containers) (name : String)
    (known : name ∈ cellNames) (alignments : List String) (cells : List (List Char)) :
    Laid around (rowOf name alignments cells) :=
  laid_enclose (laid_rowTokens known alignments cells) "tr" "tr" placed (by decide)

theorem laid_flatten {around : Around} {rows : List (List Token)} (laid : ∀ row ∈ rows, Laid around row) :
    Laid around rows.flatten := by
  induction rows with
  | nil => exact .nil
  | cons row rest ih =>
      rw [List.flatten_cons]
      apply (laid row List.mem_cons_self).append
      exact ih fun other member => laid other (List.mem_cons_of_mem _ member)

theorem laid_tableRows (page : Page) (alignments : List String) (fuel index : Nat) (filled : Int) :
    ∀ row ∈ (tableRows page alignments fuel index filled).1, Laid .body row := by
  induction fuel generalizing index filled with
  | zero => nofun
  | succ fuel ih =>
      rw [tableRows]
      split
      · nofun
      · dsimp only
        split
        · nofun
        · split
          · nofun
          · intro row member
            rcases List.mem_cons.mp member with rfl | member
            · exact laid_rowOf (by decide) "td" (by decide) alignments _
            · exact ih _ _ row member

theorem laid_table? {page : Page} {start stop : Nat} {definitions : Definitions} {found : Outcome}
    (is : table? page start stop definitions = some found) : Laid .flow found.tokens := by
  obtain ⟨head, -, rfl⟩ := Option.map_eq_some_iff.mp is
  have headRow : Laid .head (rowOf "th" head.alignments head.cells) :=
    laid_rowOf (by decide) "th" (by decide) head.alignments head.cells
  have headPart : Laid .table (opening "thead_open" "thead" :: rowOf "th" head.alignments head.cells ++
      [closing "thead_close" "thead"]) :=
    laid_enclose headRow "thead" "thead" (by decide) (by decide)
  have rows := laid_flatten
    (laid_tableRows page head.alignments (stop - (start + 2)) (start + 2) 0)
  have body : Laid .table
      (if (tableRows page head.alignments (stop - (start + 2)) (start + 2) 0).1 = [] then []
      else opening "tbody_open" "tbody" ::
        (tableRows page head.alignments (stop - (start + 2)) (start + 2) 0).1.flatten ++
          [closing "tbody_close" "tbody"]) := by
    split
    · exact .nil
    · exact laid_enclose rows "tbody" "tbody" (by decide) (by decide)
  have whole : Laid .flow (opening "table_open" "table" :: _ ++ [closing "table_close" "table"]) :=
    laid_enclose (headPart.append body) "table" "table" (by decide) (by decide)
  simpa using whole

/-! ### Quotations and lists -/

/-- A reader of blocks whose blocks are laid out. -/
def LaysOut (inner : BlockReader) : Prop :=
  ∀ page start stop definitions, Laid .flow (inner page start stop definitions).tokens

section Containers

variable {inner : BlockReader} {page : Page} {start stop : Nat} {definitions : Definitions}
  {found : Outcome}

theorem laid_quotation? (laysOut : LaysOut inner)
    (is : quotation? inner page start stop definitions = some found) : Laid .flow found.tokens := by
  unfold quotation? at is
  split at is
  · cases is
    exact laid_enclose (laysOut _ _ _ _) "blockquote" "blockquote" (by decide) (by decide)
  · cases is

theorem laid_itemRun (laysOut : LaysOut inner) (page : Page) (marker : ListMarker) (start stop : Nat)
    (definitions : Definitions) : Laid .flow (itemRun inner page marker start stop definitions).tokens := by
  unfold itemRun
  dsimp only
  split
  · exact .nil
  · exact laysOut _ _ _ _

theorem laid_listItems (laysOut : LaysOut inner) (page : Page) (stop fuel : Nat) (marker : ListMarker)
    (start : Nat) (afterEmpty : Bool) (definitions : Definitions) :
    ∀ content ∈ (listItems inner page stop fuel marker start afterEmpty definitions).1,
      Laid .flow content := by
  induction fuel generalizing marker start afterEmpty definitions with
  | zero => nofun
  | succ fuel ih =>
      have first := laid_itemRun laysOut page marker start stop definitions
      have single : ∀ content ∈ [(itemRun inner page marker start stop definitions).tokens],
          Laid .flow content := by
        intro content member
        rwa [List.mem_singleton.mp member]
      rw [listItems]
      dsimp only
      split
      · exact single
      · split
        · split
          · intro content member
            rcases List.mem_cons.mp member with rfl | member
            · exact first
            · exact ih _ _ _ _ content member
          · exact single
        · exact single

/-- Items of a list one after the other. -/
theorem laid_items {contents : List (List Token)} (laid : ∀ content ∈ contents, Laid .item content) :
    Laid .list (contents.flatMap itemTokens) := by
  induction contents with
  | nil => exact .nil
  | cons content rest ih =>
      rw [List.flatMap_cons]
      have item : Laid .list (itemTokens content) :=
        laid_enclose (laid content List.mem_cons_self) "list_item" "li" (by decide) (by decide)
      exact item.append (ih fun other member => laid other (List.mem_cons_of_mem _ member))

/-- A list around its items. The number that it starts with, if any, is a number. -/
theorem laid_listTokens (number : Option Nat) {items : List Token} (laid : Laid .list items) :
    Laid .flow (listTokens number items) := by
  cases number with
  | none => exact laid_enclose laid "bullet_list" "ul" (by decide) (by decide)
  | some value =>
      let first : Token := { opening "ordered_list_open" "ol" with
        attributes := if value = 1 then [] else [("start", .number value)] }
      have isOpening : first.kind = "ordered_list" ++ "_open" := rfl
      have numbered : hasNumber first = true := by
        unfold hasNumber
        rw [containerName_of_kind isOpening]
        by_cases one : value = 1
        · simp only [first, one]
          rfl
        · simp only [first, if_neg one]
          cases value <;> rfl
      have ends : Ends "ordered_list" first (closing "ordered_list_close" "ol") :=
        ⟨rfl, isOpening, numbered, rfl, rfl⟩
      apply Laid.container (by decide) ends _ laid
      intro hidden
      cases hidden

theorem laid_list? (laysOut : LaysOut inner)
    (is : list? inner page start stop definitions = some found) : Laid .flow found.tokens := by
  obtain ⟨marker, -, rfl⟩ := Option.map_eq_some_iff.mp is
  have items := laid_listItems laysOut page stop (stop - start) marker start false definitions
  apply laid_listTokens
  apply laid_items
  intro content member
  split at member
  · obtain ⟨shown, inItems, rfl⟩ := List.mem_map.mp member
    obtain ⟨-, hidden, hides, laidHidden⟩ := (items shown inItems).hide rfl []
    rw [List.append_nil, hideParagraphs, List.append_nil] at hides
    rw [hides]
    exact laidHidden
  · exact ((items content member).hide rfl []).1

end Containers

/-! ### All blocks -/

/-- The first of two ways to read a block that succeeds. -/
theorem orElse_of_both {P : Outcome → Prop} {first second : Option Outcome}
    (ofFirst : ∀ found, first = some found → P found)
    (ofSecond : ∀ found, second = some found → P found) :
    ∀ found, (first <|> second) = some found → P found := by
  intro found is
  cases first with
  | none => exact ofSecond found is
  | some other => exact ofFirst found is

theorem laid_blockAt {ofQuotation ofItem : BlockReader} (quotation : LaysOut ofQuotation)
    (item : LaysOut ofItem) (page : Page) (start stop : Nat) (definitions : Definitions) :
    Laid .flow (blockAt ofQuotation ofItem page start stop definitions).tokens := by
  unfold blockAt
  generalize chosen : (table? page start stop definitions <|> _) = choice
  have laid : ∀ found, choice = some found → Laid .flow found.tokens := by
    rw [← chosen]
    exact orElse_of_both (fun _ => laid_table?) <|
      orElse_of_both (fun _ => laid_codeBlock?) <|
      orElse_of_both (fun _ => laid_fencedBlock?) <|
      orElse_of_both (fun _ => laid_quotation? quotation) <|
      orElse_of_both (fun _ => laid_rule?) <|
      orElse_of_both (fun _ => laid_list? item) <|
      orElse_of_both (fun _ => laid_definition?) <|
      orElse_of_both (fun _ => laid_htmlBlock?) <|
      orElse_of_both (fun _ => laid_heading?) fun _ => laid_underlinedHeading?
  cases choice with
  | none => exact laid_paragraph page start definitions
  | some found => exact laid found rfl

theorem laid_blocksFrom {block : Page → Nat → Nat → Definitions → Outcome}
    (laid : ∀ page start stop definitions, Laid .flow (block page start stop definitions).tokens)
    (page : Page) (stop fuel index : Nat) (hasEmpty isTight : Bool) (definitions : Definitions) :
    Laid .flow (blocksFrom block page stop fuel index hasEmpty isTight definitions).tokens := by
  induction fuel generalizing index hasEmpty isTight definitions with
  | zero => exact .nil
  | succ fuel ih =>
      rw [blocksFrom]
      split
      · exact .nil
      · dsimp only
        split
        · exact .nil
        · exact (laid _ _ _ _).append (ih _ _ _ _)

theorem laysOut_skipBlocks : LaysOut skipBlocks := by
  intro page start stop definitions
  unfold skipBlocks
  dsimp only
  split
  · exact .nil
  · exact .nil

/-- However many levels are left, blocks are laid out. -/
theorem laysOut_blocks : ∀ levels, LaysOut (blocks levels)
  | 0 => laysOut_skipBlocks
  | 1 => fun page _ _ _ => by
      rw [blocks]
      exact laid_blocksFrom (laid_blockAt laysOut_skipBlocks laysOut_skipBlocks) page _ _ _ _ _ _
  | levels + 2 => fun page _ _ _ => by
      rw [blocks]
      exact laid_blocksFrom (laid_blockAt (laysOut_blocks (levels + 1)) (laysOut_blocks levels)) page _ _ _
        _ _ _

/-! ### Documents -/

/-- Only lines are read. -/
theorem readLine_of_kind (definitions : Definitions) {token : Token} (noLine : token.kind ≠ "inline") :
    readLine definitions token = token := if_neg noLine

/-- The ends of a container hold no line. -/
theorem readLine_of_ends (definitions : Definitions) {name : String} {first last : Token}
    (ends : Ends name first last) :
    readLine definitions first = first ∧ readLine definitions last = last := by
  have noLine {token : Token} {ending : String} (kind : token.kind = name ++ ending)
      (joined : '_' ∈ ending.toList) : readLine definitions token = token := by
    apply readLine_of_kind
    intro isLine
    rw [isLine] at kind
    have inLine : '_' ∈ "inline".toList := by
      rw [kind, String.toList_append]
      exact List.mem_append_right _ joined
    exact absurd inLine (by decide)
  exact ⟨noLine ends.opening (by decide), noLine ends.closing (by decide)⟩

/-- Reading the lines keeps the blocks, and fills in what stands in lines. -/
theorem laid_map_readLine (definitions : Definitions) {around : Around} {tokens : List Token}
    (laid : Laid around tokens) : Laid around (tokens.map (readLine definitions)) := by
  induction laid with
  | nil => exact .nil
  | append _ _ ihFirst ihSecond =>
      rw [List.map_append]
      exact ihFirst.append ihSecond
  | leaf blocks step kind =>
      rw [List.map_singleton, readLine_of_kind definitions (Prose.kind_ne_inline_of_leaf kind)]
      exact .leaf blocks step kind
  | line step kind =>
      rw [List.map_singleton, readLine, if_pos kind]
      exact .line step kind (standInLine_inlineTokens definitions _) (openedFrom_inlineTokens definitions _)
  | container placed ends hides _ ih =>
      obtain ⟨first, last⟩ := readLine_of_ends definitions ends
      rw [List.map_append, List.map_cons, List.map_singleton, first, last]
      exact .container placed ends hides ih

/-- The tokens of every text are laid out in blocks. -/
theorem laid_documentTokens (text : String) : Laid .flow (documentTokens text) :=
  laid_map_readLine _ (laysOut_blocks _ _ _ _ _)

end Bindery.CommonMark
