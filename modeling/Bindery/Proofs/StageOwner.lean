/-
Module: Bindery.Proofs.StageOwner
Layer: Proofs
Purpose: Which stage converts what. Every event has at most one stage that converts it, its owner. For the
  containers of prose there is a table of all that they become; what is said of converted containers is
  read off it.
Imports: Bindery.Convert.Pipeline
Main exports: owner, forProse_of_ownerOfProse, Stage.target, Converts, converts_of_target,
  target_of_unowned
-/
import Bindery.Convert.Pipeline

namespace Bindery.Convert

/-! ### Owners -/

/-- The stage that converts a prose container. -/
def ownerOfTag : Markdown.Tag → Option Stage
  | .paragraph => some .paragraphs
  | .heading _ => some .headings
  | .blockQuote => some .blockQuotes
  | .codeBlock _ => some .code
  | .list _ => some .lists
  | .item => some .lists
  | .emphasis => some .emphasis
  | .strong => some .strong
  | .strikethrough => some .strikethrough
  | .link _ _ _ => some .links
  | .image _ _ _ => none
  | .table _ => some .tables
  | .tableHead => some .tables
  | .tableRow => some .tables
  | .tableCell => some .tables

/-- The stage that converts a prose event. -/
def ownerOfProse : Markdown.Event → Option Stage
  | .start tag => ownerOfTag tag
  | .finish tag => ownerOfTag tag
  | .text _ => some .text
  | .code _ => some .code
  | .html _ => some .stripHtml
  | .softBreak => some .softBreaks
  | .hardBreak => some .hardBreaks
  | .rule => none

/-- Prose is converted by stages that come after the unwrapping. -/
theorem forProse_of_ownerOfProse {event : Markdown.Event} {stage : Stage}
    (owned : ownerOfProse event = some stage) : stage ∈ Stage.forProse.tail := by
  have ofTag {tag : Markdown.Tag} (ownedTag : ownerOfTag tag = some stage) :
      stage ∈ Stage.forProse.tail := by
    cases tag <;> cases ownedTag <;> decide
  cases event with
  | start tag => exact ofTag owned
  | finish tag => exact ofTag owned
  | text | code | html | softBreak | hardBreak => cases owned; decide
  | rule => cases owned

/-- The stage that converts a structural event. -/
def ownerOfBook : Book.Event → Option Stage
  | .start (.chapter _ _ _ _) => some .chapters
  | .finish (.chapter _ _ _ _) => some .chapters
  | .start .authorList => some .authors
  | .finish .authorList => some .authors
  | .author _ => some .authors
  | .title _ => some .title
  | .prose _ => some .content
  | _ => none

/-- The stage that converts an event, if there is one. -/
def owner : Event → Option Stage
  | .book event => ownerOfBook event
  | .markdown event => ownerOfProse event
  | .typst _ => none
  | .foreign _ => none

/-! ### Containers -/

/-- What a stage makes of a prose container, if it converts it. -/
def Stage.target (stage : Stage) (tag : Markdown.Tag) : Option Typst.Tag :=
  match stage with
  | .headings => headingTag tag
  | .paragraphs => if tag = .paragraph then some .paragraph else none
  | .strong => if tag = .strong then some .strong else none
  | .emphasis => if tag = .emphasis then some .emphasis else none
  | .strikethrough => if tag = .strikethrough then some .strikethrough else none
  | .blockQuotes => if tag = .blockQuote then some (.quote .block .auto none) else none
  | .lists => listTag tag
  | .code => codeTag tag
  | .tables => tableTag tag
  | .links =>
    match tag with
    | .link kind destination _ => linkTarget kind destination
    | _ => none
  | _ => none

/-- All that prose containers become, stage by stage. -/
inductive Converts : Stage → Markdown.Tag → Typst.Tag → Prop where
  | heading (level : Int) : Converts .headings (.heading level) (plainHeading level)
  | paragraph : Converts .paragraphs .paragraph .paragraph
  | strong : Converts .strong .strong .strong
  | emphasis : Converts .emphasis .emphasis .emphasis
  | strikethrough : Converts .strikethrough .strikethrough .strikethrough
  | blockQuote : Converts .blockQuotes .blockQuote (.quote .block .auto none)
  | bulletList : Converts .lists (.list none) (.bulletList none false)
  | numberedList (start : Int) :
      Converts .lists (.list (some start)) (.numberedList start none false)
  | item : Converts .lists .item .item
  | codeBlock (kind : Markdown.CodeKind) (label : Option String) :
      Converts .code (.codeBlock kind) (.codeBlock label .block)
  | table (alignments : List Markdown.Alignment) :
      Converts .tables (.table alignments) (.table (alignments.map cellAlignment))
  | tableHead : Converts .tables .tableHead .tableHead
  | tableRow : Converts .tables .tableRow .tableRow
  | tableCell : Converts .tables .tableCell .tableCell
  | link (kind : Markdown.LinkKind) (destination title : String) (kind' : Typst.LinkKind)
      (destination' : String) : Converts .links (.link kind destination title) (.link kind' destination')

/-- A conversion that knows one container only. -/
theorem eq_of_swap {source tag : Markdown.Tag} {target other : Typst.Tag}
    (converted : (if tag = source then some target else none) = some other) :
    tag = source ∧ target = other := by
  by_cases same : tag = source
  · rw [if_pos same] at converted
    exact ⟨same, Option.some.inj converted⟩
  · rw [if_neg same] at converted
    cases converted

theorem converts_of_listTag {tag : Markdown.Tag} {target : Typst.Tag}
    (converted : listTag tag = some target) : Converts .lists tag target := by
  unfold listTag at converted
  split at converted
  · cases converted
    exact .bulletList
  · cases converted
    exact .numberedList _
  · cases converted
    exact .item
  · cases converted

theorem converts_of_tableTag {tag : Markdown.Tag} {target : Typst.Tag}
    (converted : tableTag tag = some target) : Converts .tables tag target := by
  unfold tableTag at converted
  split at converted
  · cases converted
    exact .table _
  · cases converted
    exact .tableHead
  · cases converted
    exact .tableRow
  · cases converted
    exact .tableCell
  · cases converted

theorem converts_of_linkTarget {kind : Markdown.LinkKind} {destination : String} {target : Typst.Tag}
    (title : String) (converted : linkTarget kind destination = some target) :
    Converts .links (.link kind destination title) target := by
  unfold linkTarget at converted
  split at converted
  · cases converted
    exact .link _ _ _ _ _
  · cases converted
    exact .link _ _ _ _ _
  · cases converted
    exact .link _ _ _ _ _
  · cases converted

/-- A stage converts containers as the table says. -/
theorem converts_of_target {stage : Stage} {tag : Markdown.Tag} {target : Typst.Tag}
    (converted : stage.target tag = some target) : Converts stage tag target := by
  cases stage with
  | headings =>
      cases tag with
      | heading level =>
          cases converted
          exact .heading level
      | _ => cases converted
  | paragraphs =>
      rcases eq_of_swap converted with ⟨rfl, rfl⟩
      exact .paragraph
  | strong =>
      rcases eq_of_swap converted with ⟨rfl, rfl⟩
      exact .strong
  | emphasis =>
      rcases eq_of_swap converted with ⟨rfl, rfl⟩
      exact .emphasis
  | strikethrough =>
      rcases eq_of_swap converted with ⟨rfl, rfl⟩
      exact .strikethrough
  | blockQuotes =>
      rcases eq_of_swap converted with ⟨rfl, rfl⟩
      exact .blockQuote
  | lists => exact converts_of_listTag converted
  | code =>
      cases tag with
      | codeBlock kind =>
          cases kind <;> cases converted
          · exact .codeBlock _ _
          · exact .codeBlock _ _
      | _ => cases converted
  | tables => exact converts_of_tableTag converted
  | links =>
      cases tag with
      | link kind destination title => exact converts_of_linkTarget title converted
      | _ => cases converted
  | _ => cases converted

/-- A stage converts only the containers that it owns. -/
theorem target_of_unowned {stage : Stage} {tag : Markdown.Tag}
    (unowned : ownerOfTag tag ≠ some stage) : stage.target tag = none := by
  cases converted : stage.target tag with
  | none => rfl
  | some target =>
      have owned : ownerOfTag tag = some stage := by
        cases converts_of_target converted <;> rfl
      exact absurd owned unowned

end Bindery.Convert
