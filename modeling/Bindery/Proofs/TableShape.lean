/-
Module: Bindery.Proofs.TableShape
Layer: Proofs
Purpose: Tables keep their shape in the walk over tokens. A table that is laid out as a reader of Markdown
  does it becomes a table with one alignment a header cell, a head that holds the header cells themselves,
  and one row for each row of its body. It leaves the walk as it found it, so that what stands around it or
  comes later, other tables included, is walked as if the table were not there.
Imports: Bindery.Proofs.ListNumbers
Main exports: Plain, Steady, exists_steady_step, exists_steady_walk, Content, Table, Passes,
  Table.passes, Piece, walk_pieces, eventsOfTokens_tables
-/
import Bindery.Proofs.ListNumbers

namespace Bindery.Prose

/-! ### Tokens outside of tables -/

/-- The names of what tables are made of. The body of a table has no container of its own. -/
def tableNames : List String := ["table", "thead", "tr", "th", "td"]

/-- A token that has no part in a table, and neither have the tokens that it holds. -/
inductive Plain : Token → Prop where
  | intro {token : Token} (name : token.containerName ∉ tableNames) (kind : token.kind ≠ "thead_close")
      (children : ∀ child ∈ token.children, Plain child) : Plain token

def isTablePart : Markdown.Tag → Bool
  | .table _ | .tableHead | .tableRow | .tableCell => true
  | _ => false

/-- Does the event start or finish a part of a table? -/
def isTableMark : Markdown.Event → Bool
  | .start tag | .finish tag => isTablePart tag
  | _ => false

@[simp] theorem isTableMark_start (tag : Markdown.Tag) : isTableMark (.start tag) = isTablePart tag := rfl

@[simp] theorem isTableMark_finish (tag : Markdown.Tag) : isTableMark (.finish tag) = isTablePart tag := rfl

/-- No part of a table is open. -/
def Unmarked (opened : List (Option Markdown.Tag)) : Prop :=
  ∀ tag, some tag ∈ opened → isTablePart tag = false

theorem unmarked_nil : Unmarked [] := nofun

theorem not_isTablePart_of_simpleTag? {name : String} {tag : Markdown.Tag} (noHead : name ≠ "thead")
    (noHeader : name ≠ "th") (noCell : name ≠ "td") (found : simpleTag? name = some tag) :
    isTablePart tag = false := by
  unfold simpleTag? at found
  split at found
  · cases found; rfl
  · cases found; rfl
  · cases found; rfl
  · cases found; rfl
  · cases found; rfl
  · cases found; rfl
  · exact absurd rfl noHead
  · exact absurd rfl noHeader
  · exact absurd rfl noCell
  · cases found

/-- What a plain token opens is no part of a table, and does not depend on what follows or on a table head
    around it. -/
theorem openedTag_of_plain {token : Token} (name : token.containerName ∉ tableNames) :
    ∃ tag : Except TokenFault (Option Markdown.Tag),
      (∀ inHead following, openedTag inHead token following = tag) ∧
        ∀ found, tag = .ok (some found) → isTablePart found = false := by
  simp only [tableNames, List.mem_cons, List.not_mem_nil, or_false, not_or] at name
  obtain ⟨noTable, noHead, noRow, noHeader, noCell⟩ := name
  unfold openedTag
  split
  · refine ⟨_, fun _ _ => rfl, fun found ok => ?_⟩
    cases level : numeral (String.ofList (token.tag.toList.drop 1)) <;> rw [level] at ok <;> cases ok
    rfl
  · exact ⟨_, fun _ _ => rfl, by rintro _ ⟨⟩; rfl⟩
  · refine ⟨_, fun _ _ => rfl, fun found ok => ?_⟩
    cases start : listStart token <;> rw [start] at ok <;> cases ok
    rfl
  · refine ⟨_, fun _ _ => rfl, fun found ok => ?_⟩
    obtain ⟨kind, address, title, isLink⟩ := exists_linkTag token
    rw [isLink] at ok
    cases ok
    rfl
  · next isTable => exact absurd isTable noTable
  · next isRow => exact absurd isRow noRow
  · refine ⟨_, fun _ _ => rfl, fun found ok => ?_⟩
    split at ok
    · cases ok
    · exact not_isTablePart_of_simpleTag? noHead noHeader noCell (Except.ok.inj ok)

/-! ### Walks that do not look around -/

/-- A walk from open containers, with these events and this outcome, that does not depend on whether a table
    head is open or on the containers around, and has no part in a table. -/
structure Steady (walk : List (Option Markdown.Tag) → Bool → Walk) (opened : List (Option Markdown.Tag))
    (events : List Markdown.Event) (outcome : Except TokenFault (List (Option Markdown.Tag))) : Prop where
  same : ∀ inHead, walk opened inHead = ⟨events, outcome.map (Walker.mk · inHead)⟩
  below : ∀ opened', outcome = .ok opened' → ∀ base inHead,
    walk (opened ++ base) inHead = ⟨events, .ok ⟨opened' ++ base, inHead⟩⟩
  unmarked : Unmarked opened → (∀ event ∈ events, isTableMark event = false) ∧
    ∀ opened', outcome = .ok opened' → Unmarked opened'

section Walks

variable {walk next : List (Option Markdown.Tag) → Bool → Walk} {opened : List (Option Markdown.Tag)}
  {events : List Markdown.Event} {outcome : Except TokenFault (List (Option Markdown.Tag))}

/-- Events in front of a steady walk. -/
theorem Steady.prepend (steady : Steady walk opened events outcome) {more : List Markdown.Event}
    (plain : ∀ event ∈ more, isTableMark event = false) :
    Steady (fun opened inHead => (walk opened inHead).prepend more) opened (more ++ events) outcome where
  same inHead := by rw [steady.same inHead]; rfl
  below opened' ok base inHead := by rw [steady.below opened' ok base inHead]; rfl
  unmarked outside := by
    obtain ⟨noMarks, ends⟩ := steady.unmarked outside
    refine ⟨fun event member => ?_, ends⟩
    rcases List.mem_append.mp member with before | behind
    · exact plain event before
    · exact noMarks event behind

/-- A steady walk that goes on with a steady one. -/
theorem Steady.exists_andThen (steady : Steady walk opened events outcome)
    (goesOn : ∀ opened', ∃ events outcome, Steady next opened' events outcome) :
    ∃ events outcome, Steady (fun opened inHead =>
      (walk opened inHead).andThen fun state => next state.opened state.inHead) opened events outcome := by
  cases outcome with
  | error fault =>
      refine ⟨events, .error fault, fun inHead => ?_, nofun, fun outside => ?_⟩
      · rw [steady.same inHead]
        rfl
      · exact ⟨(steady.unmarked outside).1, nofun⟩
  | ok opened' =>
      obtain ⟨more, ended, steadyNext⟩ := goesOn opened'
      refine ⟨events ++ more, ended, fun inHead => ?_, fun last ok base inHead => ?_, fun outside => ?_⟩
      · rw [steady.same inHead]
        exact congrArg (Walk.prepend events) (steadyNext.same inHead)
      · rw [steady.below opened' rfl base inHead]
        exact congrArg (Walk.prepend events) (steadyNext.below last ok base inHead)
      · obtain ⟨noMarks, ends⟩ := steady.unmarked outside
        obtain ⟨noMarksNext, endsNext⟩ := steadyNext.unmarked (ends opened' rfl)
        refine ⟨fun event member => ?_, endsNext⟩
        rcases List.mem_append.mp member with before | behind
        · exact noMarks event before
        · exact noMarksNext event behind

end Walks

/-- Leaves have no part in a table. -/
theorem isTableMark_leafEvents (token : Token) :
    ∀ event ∈ leafEvents token, isTableMark event = false := by
  have text (content : String) : ∀ event ∈ textEvents content, isTableMark event = false := by
    intro event member
    unfold textEvents at member
    split at member
    · cases member
    · obtain rfl := List.mem_singleton.mp member
      rfl
  have code (kind : Markdown.CodeKind) (content : String) :
      ∀ event ∈ codeBlockEvents kind content, isTableMark event = false := by
    intro event member
    simp only [codeBlockEvents, List.cons_append, List.mem_cons, List.mem_append, List.not_mem_nil,
      or_false] at member
    rcases member with rfl | inside | rfl
    · rfl
    · exact text content event inside
    · rfl
  unfold leafEvents
  split
  all_goals first
    | exact text _
    | exact code _ _
    | simp [isTableMark]

/-- Events without a part in a table, that change nothing about what is open. -/
theorem exists_steady_leaf {events : List Markdown.Event}
    (plain : ∀ event ∈ events, isTableMark event = false) (opened : List (Option Markdown.Tag)) :
    ∃ events' outcome,
      Steady (fun opened inHead => ⟨events, .ok ⟨opened, inHead⟩⟩) opened events' outcome := by
  refine ⟨events, .ok opened, fun _ => rfl, fun opened' ok _ _ => ?_, fun outside => ⟨plain, ?_⟩⟩
  · rw [← Except.ok.inj ok]
  · intro opened' ok
    rwa [← Except.ok.inj ok]

/-- Opening what is no part of a table. -/
theorem exists_steady_enter {token : Token} (name : token.containerName ∉ tableNames)
    (opened : List (Option Markdown.Tag)) :
    ∃ events outcome, ∀ following,
      Steady (fun opened inHead => Walker.enter ⟨opened, inHead⟩ token following) opened events
        outcome := by
  have noHead : token.containerName ≠ "thead" := by
    rintro isHead
    exact name (by rw [isHead]; decide)
  obtain ⟨tag, opens, unmarked⟩ := openedTag_of_plain name
  cases tag with
  | error fault =>
      refine ⟨[], .error fault, fun following =>
        ⟨fun inHead => ?_, nofun, fun _ => ⟨nofun, nofun⟩⟩⟩
      simp only [Walker.enter, opens]
      rfl
  | ok tag =>
      have enters (opened : List (Option Markdown.Tag)) (inHead : Bool) (following : List Token) :
          Walker.enter ⟨opened, inHead⟩ token following =
            ⟨(tag.map Markdown.Event.start).toList, .ok ⟨tag :: opened, inHead⟩⟩ := by
        simp [Walker.enter, opens, noHead]
      refine ⟨(tag.map Markdown.Event.start).toList, .ok (tag :: opened), fun following =>
        ⟨fun inHead => enters opened inHead following, fun opened' ok base inHead => ?_,
          fun outside => ⟨fun event member => ?_, fun opened' ok other isOpen => ?_⟩⟩⟩
      · rw [← Except.ok.inj ok]
        exact enters (opened ++ base) inHead following
      · obtain ⟨found, isTag, rfl⟩ : ∃ found, tag = some found ∧ .start found = event := by
          simpa using member
        exact unmarked found (by rw [isTag])
      · rw [← Except.ok.inj ok] at isOpen
        rcases List.mem_cons.mp isOpen with isNew | before
        · exact unmarked other (by rw [isNew])
        · exact outside other before

/-- Closing what is not the head of a table. -/
theorem exists_steady_leave {token : Token} (kind : token.kind ≠ "thead_close")
    (opened : List (Option Markdown.Tag)) :
    ∃ events outcome,
      Steady (fun opened inHead => Walker.leave ⟨opened, inHead⟩ token) opened events outcome := by
  cases opened with
  | nil => exact ⟨[], .error .unopened, fun _ => rfl, nofun, fun _ => ⟨nofun, nofun⟩⟩
  | cons tag outer =>
      have leaves (outer : List (Option Markdown.Tag)) (inHead : Bool) :
          Walker.leave ⟨tag :: outer, inHead⟩ token =
            ⟨(tag.map Markdown.Event.finish).toList, .ok ⟨outer, inHead⟩⟩ := by
        simp [Walker.leave, kind]
      refine ⟨(tag.map Markdown.Event.finish).toList, .ok outer, leaves outer,
        fun opened' ok base inHead => ?_,
        fun outside => ⟨fun event member => ?_, fun opened' ok other isOpen => ?_⟩⟩
      · rw [← Except.ok.inj ok]
        exact leaves (outer ++ base) inHead
      · obtain ⟨found, rfl, rfl⟩ : ∃ found, tag = some found ∧ .finish found = event := by
          simpa using member
        exact outside found List.mem_cons_self
      · rw [← Except.ok.inj ok] at isOpen
        exact outside other (List.mem_cons_of_mem _ isOpen)

/-- Steps over plain tokens in a row. -/
theorem exists_steady_walk_of_steps {tokens : List Token}
    (steps : ∀ token ∈ tokens, ∀ opened, ∃ events outcome, ∀ following,
      Steady (fun opened inHead => Walker.step ⟨opened, inHead⟩ following token) opened events outcome)
    (opened : List (Option Markdown.Tag)) :
    ∃ events outcome, Steady (fun opened inHead => Walker.walk ⟨opened, inHead⟩ tokens) opened events
      outcome := by
  induction tokens generalizing opened with
  | nil =>
      refine ⟨[], .ok opened, fun inHead => rfl, fun opened' ok base inHead => ?_, fun outside => ?_⟩
      · obtain rfl := Except.ok.inj ok
        rfl
      · refine ⟨by simp, fun opened' ok => ?_⟩
        obtain rfl := Except.ok.inj ok
        exact outside
  | cons token rest ih =>
      obtain ⟨events, outcome, steady⟩ := steps token List.mem_cons_self opened
      obtain ⟨events', outcome', steady'⟩ := (steady rest).exists_andThen
        fun opened' => ih (fun other member => steps other (List.mem_cons_of_mem _ member)) opened'
      refine ⟨events', outcome', ?_⟩
      have same : (fun opened inHead => Walker.walk ⟨opened, inHead⟩ (token :: rest)) =
          fun opened inHead => (Walker.step ⟨opened, inHead⟩ rest token).andThen
            fun state => Walker.walk ⟨state.opened, state.inHead⟩ rest := by
        funext opened inHead
        rw [Walker.walk]
      rw [same]
      exact steady'

/-- The step over a plain token. -/
theorem exists_steady_step {token : Token} (plain : Plain token) (opened : List (Option Markdown.Tag)) :
    ∃ events outcome, ∀ following,
      Steady (fun opened inHead => Walker.step ⟨opened, inHead⟩ following token)
        opened events outcome := by
  induction plain generalizing opened with
  | @intro token name kind _ ih =>
      simp only [step_eq]
      split
      · exact exists_steady_enter name opened
      · split
        · obtain ⟨events, outcome, steady⟩ := exists_steady_leave kind opened
          exact ⟨events, outcome, fun _ => steady⟩
        · have inside := exists_steady_walk_of_steps ih
          split
          · obtain ⟨events, outcome, steady⟩ := inside opened
            exact ⟨events, outcome, fun _ => steady⟩
          · split
            · obtain ⟨events, outcome, steady⟩ := inside opened
              have starts : ∀ event ∈ [Markdown.Event.start (imageTag token)],
                  isTableMark event = false := by
                simp [imageTag, isTablePart]
              have finishes : ∀ event ∈ [Markdown.Event.finish (imageTag token)],
                  isTableMark event = false := by simp [imageTag, isTablePart]
              obtain ⟨events', outcome', steady'⟩ := (steady.prepend starts).exists_andThen
                (exists_steady_leaf finishes)
              exact ⟨events', outcome', fun _ => steady'⟩
            · obtain ⟨events, outcome, steady⟩ :=
                exists_steady_leaf (isTableMark_leafEvents token) opened
              exact ⟨events, outcome, fun _ => steady⟩

/-- The walk over plain tokens. -/
theorem exists_steady_walk {tokens : List Token} (plain : ∀ token ∈ tokens, Plain token)
    (opened : List (Option Markdown.Tag)) :
    ∃ events outcome, Steady (fun opened inHead => Walker.walk ⟨opened, inHead⟩ tokens) opened events
      outcome :=
  exists_steady_walk_of_steps (fun token member => exists_steady_step (plain token member)) opened

theorem Walk.andThen_assoc (walk : Walk) (next last : Walker → Walk) :
    (walk.andThen next).andThen last = walk.andThen fun state => (next state).andThen last := by
  cases outcome : walk.outcome with
  | error fault => simp [Walk.andThen, outcome]
  | ok state =>
      rw [Walk.andThen_of_ok outcome, Walk.andThen_of_ok outcome]
      cases ended : (next state).outcome with
      | error fault => simp [Walk.andThen, Walk.prepend, ended]
      | ok last => simp [Walk.andThen, Walk.prepend, ended]

/-- Behind plain tokens, the walk goes on with the others. -/
theorem walk_append_of_plain {tokens : List Token} (plain : ∀ token ∈ tokens, Plain token)
    (state : Walker) (behind : List Token) :
    state.walk (tokens ++ behind) = (state.walk tokens).andThen fun next => next.walk behind := by
  induction tokens generalizing state with
  | nil => rfl
  | cons token rest ih =>
      obtain ⟨events, outcome, steady⟩ := exists_steady_step (plain token List.mem_cons_self) state.opened
      have sameStep : state.step (rest ++ behind) token = state.step rest token :=
        ((steady (rest ++ behind)).same state.inHead).trans ((steady rest).same state.inHead).symm
      have goesOn := ih fun other member => plain other (List.mem_cons_of_mem _ member)
      rw [List.cons_append, Walker.walk, Walker.walk, sameStep, Walk.andThen_assoc]
      simp only [goesOn]

/-! ### The layout of tables -/

/-- Tokens that have no part in a table and close what they open, with the events that they have by
    themselves. -/
structure Content where
  tokens : List Token
  events : List Markdown.Event
  plain : ∀ token ∈ tokens, Plain token
  walks : Walker.initial.walk tokens = ⟨events, .ok .initial⟩

/-- Something between the tokens that open and close the container with a name. -/
structure Enclosed (name : String) (α : Type) where
  opening : Token
  inside : α
  closing : Token
  opens : opening.kind = name ++ "_open" ∧ opening.nesting = 1
  closes : closing.kind = name ++ "_close" ∧ closing.nesting = -1

abbrev Row (name : String) : Type := Enclosed "tr" (List (Enclosed name Content))

/-- A table as it is laid out: a head with one row of header cells and, if there are any rows, a body with
    them. -/
abbrev Table : Type :=
  Enclosed "table" (Enclosed "thead" (Row "th") × Option (Enclosed "tbody" (List (Row "td"))))

def Enclosed.around {name : String} {α : Type} (enclosed : Enclosed name α) (tokens : α → List Token) :
    List Token := enclosed.opening :: tokens enclosed.inside ++ [enclosed.closing]

def cellTokens {name : String} (cell : Enclosed name Content) : List Token := cell.around Content.tokens

def Row.tokens {name : String} (row : Row name) : List Token :=
  Enclosed.around row fun cells => cells.flatMap cellTokens

namespace Table

/-- The head of a table and its body, if it has one. -/
def tokens (table : Table) : List Token :=
  Enclosed.around table fun (head, body) => head.around Row.tokens ++
    body.toList.flatMap fun body => body.around fun rows => rows.flatMap Row.tokens

def headerCells (table : Table) : List (Enclosed "th" Content) := table.inside.1.inside.inside

def bodyRows (table : Table) : List (Row "td") := table.inside.2.toList.flatMap (·.inside)

/-- The alignments, one a header cell. -/
def alignments (table : Table) : List Markdown.Alignment :=
  table.headerCells.map fun cell => cellAlignment cell.opening

end Table

/-- A cell of events, which shows something of its content. -/
def cellEvents (shown : Content → List Markdown.Event) {name : String} (cell : Enclosed name Content) :
    List Markdown.Event := .start .tableCell :: shown cell.inside ++ [.finish .tableCell]

def rowEvents (shown : Content → List Markdown.Event) (row : Row "td") : List Markdown.Event :=
  .start .tableRow :: row.inside.flatMap (cellEvents shown) ++ [.finish .tableRow]

/-- A table of events: its head holds the header cells themselves, and behind it comes one row for each row
    of the body. -/
def Table.events (shown : Content → List Markdown.Event) (table : Table) : List Markdown.Event :=
  .start (.table table.alignments) :: .start .tableHead :: table.headerCells.flatMap (cellEvents shown) ++
    .finish .tableHead :: table.bodyRows.flatMap (rowEvents shown) ++ [.finish (.table table.alignments)]

/-! ### The walk through a table -/

/-- The walk passes tokens with these events, whatever is open and whatever comes behind: what is open stays
    open. -/
def Passes (tokens : List Token) (inHead : Bool) (events : List Markdown.Event) (inHead' : Bool) : Prop :=
  ∀ opened behind, Walker.walk ⟨opened, inHead⟩ (tokens ++ behind) =
    (Walker.walk ⟨opened, inHead'⟩ behind).prepend events

theorem passes_nil (inHead : Bool) : Passes [] inHead [] inHead := fun _ _ => rfl

theorem Passes.append {first second : List Token} {inHead inHead' inHead'' : Bool}
    {events more : List Markdown.Event} (passes : Passes first inHead events inHead')
    (passes' : Passes second inHead' more inHead'') :
    Passes (first ++ second) inHead (events ++ more) inHead'' := by
  intro opened behind
  rw [List.append_assoc, passes opened, passes' opened, Walk.prepend_append]

/-- Pieces in a row, each of which leaves the table head as it is. -/
theorem passes_flatMap {α : Type} {pieces : List α} {tokens : α → List Token}
    {events : α → List Markdown.Event} {inHead : Bool}
    (passes : ∀ piece ∈ pieces, Passes (tokens piece) inHead (events piece) inHead) :
    Passes (pieces.flatMap tokens) inHead (pieces.flatMap events) inHead := by
  induction pieces with
  | nil => exact passes_nil inHead
  | cons piece rest ih =>
      rw [List.flatMap_cons, List.flatMap_cons]
      exact (passes piece List.mem_cons_self).append
        (ih fun other member => passes other (List.mem_cons_of_mem _ member))

/-- Content has its own events wherever it stands. -/
theorem Content.passes (content : Content) (inHead : Bool) :
    Passes content.tokens inHead content.events inHead := by
  intro opened behind
  obtain ⟨events, outcome, steady⟩ := exists_steady_walk content.plain []
  have alone : (⟨content.events, .ok .initial⟩ : Walk) = ⟨events, outcome.map (Walker.mk · false)⟩ :=
    content.walks.symm.trans (steady.same false)
  obtain ⟨sameEvents, sameOutcome⟩ := Walk.mk.inj alone
  have ended : outcome = .ok [] := by
    cases outcome with
    | error fault => cases sameOutcome
    | ok opened' => rw [(Walker.mk.inj (Except.ok.inj sameOutcome)).1]
  have walked : Walker.walk ⟨opened, inHead⟩ content.tokens =
      ⟨content.events, .ok ⟨opened, inHead⟩⟩ := by
    rw [sameEvents]
    exact steady.below [] ended opened inHead
  rw [walk_append_of_plain content.plain, walked]
  rfl

section Containers

variable {name : String} {α : Type}

theorem Enclosed.containerName_opening (enclosed : Enclosed name α) :
    enclosed.opening.containerName = name := by
  rw [Token.containerName, enclosed.opens.1]
  simp

/-- What is enclosed passes between its own start and finish, if it has any. -/
theorem Enclosed.passes (enclosed : Enclosed name α) {tokens : α → List Token} {inHead inHead' : Bool}
    {events : List Markdown.Event} {tag : Option Markdown.Tag}
    (opened : ∀ behind, openedTag (inHead || name = "thead") enclosed.opening
      (tokens enclosed.inside ++ enclosed.closing :: behind) = .ok tag)
    (inside : Passes (tokens enclosed.inside) (inHead || name = "thead") events inHead') :
    Passes (enclosed.around tokens) inHead
      ((tag.map Markdown.Event.start).toList ++ events ++ (tag.map Markdown.Event.finish).toList)
      (if enclosed.closing.kind = "thead_close" then false else inHead') := by
  intro outer behind
  have enters : Walker.step ⟨outer, inHead⟩ (tokens enclosed.inside ++ enclosed.closing :: behind)
      enclosed.opening =
        ⟨(tag.map Markdown.Event.start).toList, .ok ⟨tag :: outer, inHead || name = "thead"⟩⟩ := by
    rw [step_of_opens enclosed.opens.2, Walker.enter, enclosed.containerName_opening]
    simp only [opened]
  have leaves : Walker.step ⟨tag :: outer, inHead'⟩ behind enclosed.closing =
      ⟨(tag.map Markdown.Event.finish).toList,
        .ok ⟨outer, if enclosed.closing.kind = "thead_close" then false else inHead'⟩⟩ := by
    rw [step_of_closes enclosed.closes.2]
    rfl
  have written : enclosed.around tokens ++ behind =
      enclosed.opening :: (tokens enclosed.inside ++ enclosed.closing :: behind) := by
    simp [Enclosed.around]
  rw [written, Walker.walk, enters, Walk.andThen_of_ok rfl, inside, Walker.walk, leaves,
    Walk.andThen_of_ok rfl, Walk.prepend_append, Walk.prepend_append]

end Containers

/-- A cell, of the head or of the body. -/
theorem passes_cell {name : String} (isCell : name = "th" ∨ name = "td") (cell : Enclosed name Content)
    (inHead : Bool) : Passes (cellTokens cell) inHead (cellEvents Content.events cell) inHead := by
  have notHead : decide (name = "thead") = false := by
    rcases isCell with rfl | rfl <;> decide
  have stays : (if cell.closing.kind = "thead_close" then false else inHead) = inHead := by
    rw [cell.closes.1]
    rcases isCell with rfl | rfl <;> rfl
  have opened (inHead : Bool) (following : List Token) :
      openedTag inHead cell.opening following = .ok (some .tableCell) := by
    rw [openedTag, cell.containerName_opening]
    rcases isCell with rfl | rfl <;> rfl
  have passes : Passes (cell.around Content.tokens) inHead _ _ :=
    cell.passes (fun _ => opened _ _) (cell.inside.passes _)
  rw [notHead, Bool.or_false, stays] at passes
  exact passes

/-- A row, around its cells. In the head of a table it has no events of its own. -/
theorem passes_row {name : String} (isCell : name = "th" ∨ name = "td") (row : Row name) (inHead : Bool) :
    Passes row.tokens inHead
      (((if inHead then none else some Markdown.Tag.tableRow).map Markdown.Event.start).toList ++
        row.inside.flatMap (cellEvents Content.events) ++
        ((if inHead then none else some Markdown.Tag.tableRow).map Markdown.Event.finish).toList) inHead := by
  have notHead : decide ("tr" = "thead") = false := by decide
  have stays : (if row.closing.kind = "thead_close" then false else inHead) = inHead := by
    rw [row.closes.1]
    rfl
  have opened (following : List Token) : openedTag inHead row.opening following =
      .ok (if inHead then none else some .tableRow) := by
    rw [openedTag, row.containerName_opening]
    rfl
  have cells : Passes (row.inside.flatMap cellTokens) inHead
      (row.inside.flatMap (cellEvents Content.events)) inHead :=
    passes_flatMap fun cell _ => passes_cell isCell cell inHead
  have passes : Passes (Enclosed.around row fun cells => cells.flatMap cellTokens) inHead _ _ :=
    Enclosed.passes row (by rw [notHead, Bool.or_false]; exact fun _ => opened _)
      (by rw [notHead, Bool.or_false]; exact cells)
  rw [stays] at passes
  exact passes

/-- The head of a table opens it for its row, and leaves it closed. -/
theorem passes_head (head : Enclosed "thead" (Row "th")) (inHead : Bool) :
    Passes (head.around Row.tokens) inHead
      (.start .tableHead :: head.inside.inside.flatMap (cellEvents Content.events) ++ [.finish .tableHead])
      false := by
  have isHead : decide ("thead" = "thead") = true := by decide
  have closes : head.closing.kind = "thead_close" := head.closes.1
  have opened (inHead : Bool) (following : List Token) :
      openedTag inHead head.opening following = .ok (some .tableHead) := by
    rw [openedTag, head.containerName_opening]
    rfl
  have row := passes_row (.inl rfl) head.inside true
  have passes : Passes (head.around Row.tokens) inHead _ _ :=
    head.passes (fun _ => opened _ _) (by rw [isHead, Bool.or_true]; exact row)
  rw [if_pos closes] at passes
  simpa using passes

/-- The body of a table has the events of its rows. -/
theorem passes_body (body : Enclosed "tbody" (List (Row "td"))) :
    Passes (body.around fun rows => rows.flatMap Row.tokens) false
      (body.inside.flatMap (rowEvents Content.events)) false := by
  have notHead : (false || decide ("tbody" = "thead")) = false := by decide
  have opened (following : List Token) : openedTag false body.opening following = .ok none := by
    rw [openedTag, body.containerName_opening]
    rfl
  have rows : Passes (body.inside.flatMap Row.tokens) false
      (body.inside.flatMap (rowEvents Content.events)) false :=
    passes_flatMap fun row _ => passes_row (.inr rfl) row false
  have passes : Passes (body.around fun rows => rows.flatMap Row.tokens) false _ _ :=
    body.passes (by rw [notHead]; exact fun _ => opened _) (by rw [notHead]; exact rows)
  rw [ite_self] at passes
  simpa using passes

/-! ### Alignments -/

/-- A plain token opens no header cell and closes no head. -/
theorem Plain.kind_ne {token : Token} (plain : Plain token) :
    token.kind ≠ "th_open" ∧ token.kind ≠ "thead_close" := by
  cases plain with
  | intro name kind _ =>
      refine ⟨fun isHeader => name ?_, kind⟩
      rw [Token.containerName, isHeader]
      decide

/-- The openings of header cells are found among the tokens of a cell. -/
theorem filter_cellTokens (cell : Enclosed "th" Content) :
    (cellTokens cell).filter (·.kind = "th_open") = [cell.opening] := by
  have opens : cell.opening.kind = "th_open" := cell.opens.1
  have closes : cell.closing.kind ≠ "th_open" := by
    rw [cell.closes.1]
    decide
  have inside : cell.inside.tokens.filter (·.kind = "th_open") = [] := by
    rw [List.filter_eq_nil_iff]
    intro token member
    simpa using (cell.inside.plain token member).kind_ne.1
  simp [cellTokens, Enclosed.around, opens, closes, inside]

/-- In front of the closing of a head, the openings of header cells are those of its cells. -/
theorem filter_headTokens (head : Enclosed "thead" (Row "th")) :
    (head.opening :: head.inside.tokens).filter (·.kind = "th_open") =
      head.inside.inside.map (·.opening) := by
  have opens : head.opening.kind ≠ "th_open" := by
    rw [head.opens.1]
    decide
  have opensRow : head.inside.opening.kind ≠ "th_open" := by
    rw [head.inside.opens.1]
    decide
  have closesRow : head.inside.closing.kind ≠ "th_open" := by
    rw [head.inside.closes.1]
    decide
  simp [Row.tokens, Enclosed.around, opens, opensRow, closesRow, List.filter_flatMap, filter_cellTokens,
    List.map_eq_flatMap]

/-- A head is closed by its own closing, and not before. -/
theorem kind_ne_of_mem_headTokens (head : Enclosed "thead" (Row "th")) :
    ∀ token ∈ head.opening :: head.inside.tokens, token.kind ≠ "thead_close" := by
  have opens {name : String} {α : Type} (enclosed : Enclosed name α)
      (differ : name ++ "_open" ≠ "thead_close") : enclosed.opening.kind ≠ "thead_close" := by
    rw [enclosed.opens.1]
    exact differ
  have inCell (cell : Enclosed "th" Content) :
      ∀ token ∈ cellTokens cell, token.kind ≠ "thead_close" := by
    intro token member
    simp only [cellTokens, Enclosed.around, List.cons_append, List.mem_cons, List.mem_append,
      List.not_mem_nil, or_false] at member
    rcases member with rfl | inside | rfl
    · exact opens cell (by decide)
    · exact (cell.inside.plain token inside).kind_ne.2
    · rw [cell.closes.1]
      decide
  intro token member
  simp only [Row.tokens, Enclosed.around, List.cons_append, List.mem_cons, List.mem_append,
    List.not_mem_nil, or_false] at member
  rcases member with rfl | rfl | inside | rfl
  · exact opens head (by decide)
  · exact opens head.inside (by decide)
  · obtain ⟨cell, -, inside⟩ := List.mem_flatMap.mp inside
    exact inCell cell token inside
  · rw [head.inside.closes.1]
    decide

/-- The alignments of a table are those of its header cells: the first head that is closed is its own. -/
theorem tableAlignments_tokens (table : Table) (behind : List Token) :
    tableAlignments ((table.inside.1.around Row.tokens ++
        table.inside.2.toList.flatMap fun body => body.around fun rows => rows.flatMap Row.tokens) ++
      behind) = table.alignments := by
  let head := table.inside.1
  have closes : head.closing.kind = "thead_close" := head.closes.1
  have before : ∀ token ∈ head.opening :: head.inside.tokens,
      decide (token.kind ≠ "thead_close") = true := fun token member =>
    decide_eq_true (kind_ne_of_mem_headTokens head token member)
  have written (more : List Token) : head.around Row.tokens ++ more =
      (head.opening :: head.inside.tokens) ++ head.closing :: more := by
    simp [Enclosed.around]
  rw [tableAlignments, List.append_assoc, written, List.takeWhile_append_of_pos before,
    List.takeWhile_cons_of_neg (by simp [closes]), List.append_nil, filter_headTokens, List.map_map]
  rfl

/-- The walk passes a table with its events, and no head stays open. -/
theorem Table.passes (table : Table) : Passes table.tokens false (table.events Content.events) false := by
  have notHead : (false || decide ("table" = "thead")) = false := by decide
  have opened (behind : List Token) : openedTag false table.opening
      ((table.inside.1.around Row.tokens ++
        table.inside.2.toList.flatMap fun body => body.around fun rows => rows.flatMap Row.tokens) ++
          table.closing :: behind) = .ok (some (.table table.alignments)) := by
    rw [openedTag, Enclosed.containerName_opening table, tableAlignments_tokens]
    rfl
  have body : Passes
      (table.inside.2.toList.flatMap fun body => body.around fun rows => rows.flatMap Row.tokens) false
      (table.inside.2.toList.flatMap fun body => body.inside.flatMap (rowEvents Content.events)) false :=
    passes_flatMap fun body _ => passes_body body
  have passes : Passes table.tokens false _ _ :=
    Enclosed.passes table (by rw [notHead]; exact opened)
      (by rw [notHead]; exact (passes_head table.inside.1 false).append body)
  rw [ite_self] at passes
  have shown : table.events Content.events =
      ((some (Markdown.Tag.table table.alignments)).map Markdown.Event.start).toList ++
        ((.start .tableHead :: table.inside.1.inside.inside.flatMap (cellEvents Content.events) ++
          [.finish .tableHead]) ++
          table.inside.2.toList.flatMap fun body => body.inside.flatMap (rowEvents Content.events)) ++
        ((some (Markdown.Tag.table table.alignments)).map Markdown.Event.finish).toList := by
    simp [Table.events, Table.headerCells, Table.bodyRows, List.flatMap_assoc]
  rw [shown]
  exact passes

/-! ### Streams with tables -/

/-- A piece of a stream: a token that has no part in a table, or a table. -/
inductive Piece where
  | other (token : Token) (plain : Plain token)
  | table (table : Table)

def Piece.tokens : Piece → List Token
  | .other token _ => [token]
  | .table laid => laid.tokens

/-- The parts of tables that a piece has. -/
def Piece.marks : Piece → List Markdown.Event
  | .other _ _ => []
  | .table laid => laid.events fun _ => []

/-- The walk over a piece. A table does not look at what is open, and leaves it as it is. -/
def Piece.walk (state : Walker) : Piece → Walk
  | .other token _ => state.step [] token
  | .table laid => ⟨laid.events Content.events, .ok state⟩

def walkPieces (state : Walker) : List Piece → Walk
  | [] => ⟨[], .ok state⟩
  | piece :: rest => (piece.walk state).andThen fun next => walkPieces next rest

/-- The walk over the tokens of pieces goes from piece to piece. -/
theorem walk_pieces (pieces : List Piece) (opened : List (Option Markdown.Tag)) :
    Walker.walk ⟨opened, false⟩ (pieces.flatMap Piece.tokens) =
      walkPieces ⟨opened, false⟩ pieces := by
  induction pieces generalizing opened with
  | nil => rfl
  | cons piece rest ih =>
      rw [List.flatMap_cons, walkPieces]
      cases piece with
      | table table =>
          rw [Piece.tokens, Table.passes table opened, ih, Piece.walk, Walk.andThen_of_ok rfl]
      | other token plain =>
          obtain ⟨events, outcome, steady⟩ := exists_steady_step plain opened
          rw [Piece.tokens, List.singleton_append, Walker.walk, (steady _).same false, Piece.walk,
            (steady []).same false]
          cases outcome with
          | error fault => rfl
          | ok opened' =>
              rw [Walk.andThen_of_ok rfl, Walk.andThen_of_ok rfl, ih]

/-- The parts of a table are its own, since its cells have none. -/
theorem filter_events (table : Table) :
    (table.events Content.events).filter isTableMark = table.events fun _ => [] := by
  have content (content : Content) : content.events.filter isTableMark = [] := by
    obtain ⟨events, outcome, steady⟩ := exists_steady_walk content.plain []
    have sameEvents := (Walk.mk.inj (content.walks.symm.trans (steady.same false))).1
    rw [List.filter_eq_nil_iff, sameEvents]
    intro event member
    rw [(steady.unmarked unmarked_nil).1 event member]
    exact Bool.false_ne_true
  have cell {name : String} (cell : Enclosed name Content) :
      (cellEvents Content.events cell).filter isTableMark = cellEvents (fun _ => []) cell := by
    simp [cellEvents, List.filter_cons, isTablePart, content]
  have row (row : Row "td") :
      (rowEvents Content.events row).filter isTableMark = rowEvents (fun _ => []) row := by
    simp [rowEvents, List.filter_cons, isTablePart, List.filter_flatMap, cell]
  simp [Table.events, List.filter_cons, isTablePart, List.filter_flatMap, cell, row]

/-- The parts of tables that the walk over pieces makes are those of the tables that it reaches. -/
theorem exists_reached (pieces : List Piece) {opened : List (Option Markdown.Tag)}
    (outside : Unmarked opened) :
    ∃ reached, reached <+: pieces ∧
      (∀ last, (walkPieces ⟨opened, false⟩ pieces).outcome = .ok last → reached = pieces) ∧
        (walkPieces ⟨opened, false⟩ pieces).events.filter isTableMark = reached.flatMap Piece.marks := by
  induction pieces generalizing opened with
  | nil => exact ⟨[], List.prefix_rfl, fun _ _ => rfl, rfl⟩
  | cons piece rest ih =>
      cases piece with
      | table table =>
          obtain ⟨reached, isPrefix, whole, marks⟩ := ih outside
          refine ⟨.table table :: reached, (List.prefix_cons_inj _).mpr isPrefix, fun last ok => ?_, ?_⟩
          · rw [whole last ok]
          · rw [walkPieces, Piece.walk, Walk.andThen_of_ok rfl, Walk.prepend, List.filter_append, marks,
              filter_events]
            rfl
      | other token plain =>
          obtain ⟨events, outcome, steady⟩ := exists_steady_step plain opened
          obtain ⟨noMarks, ends⟩ := (steady []).unmarked outside
          have unmarked : events.filter isTableMark = [] := by
            rw [List.filter_eq_nil_iff]
            intro event member
            rw [noMarks event member]
            exact Bool.false_ne_true
          have walked : (Piece.other token plain).walk ⟨opened, false⟩ =
              ⟨events, outcome.map (Walker.mk · false)⟩ := (steady []).same false
          rw [walkPieces, walked]
          cases outcome with
          | error fault =>
              refine ⟨[], List.nil_prefix, fun last ok => ?_, unmarked⟩
              cases ok
          | ok opened' =>
              obtain ⟨reached, isPrefix, whole, marks⟩ := ih (ends opened' rfl)
              rw [Walk.andThen_of_ok rfl]
              refine ⟨.other token plain :: reached, (List.prefix_cons_inj _).mpr isPrefix,
                fun last ok => ?_, ?_⟩
              · rw [whole last ok]
              · rw [Walk.prepend, List.filter_append, unmarked, marks]
                rfl

/-! ### Styles of cells -/

/-- The styles that stand for an alignment. -/
def knownStyles : List (String × Markdown.Alignment) :=
  [("text-align:left", .left), ("text-align:center", .center), ("text-align:right", .right)]

/-- The style of a cell, without spaces. -/
def cellStyle (token : Token) : String :=
  String.ofList ((token.attributeText "style").toList.filter (· ≠ ' '))

/-- A cell has the alignment that its style stands for. -/
theorem cellAlignment_eq_lookup (token : Token) :
    cellAlignment token = (knownStyles.lookup (cellStyle token)).getD .none := by
  unfold cellAlignment
  split
  · next style =>
      have isLeft : cellStyle token = "text-align:left" := style
      rw [isLeft]
      rfl
  · next style =>
      have isCenter : cellStyle token = "text-align:center" := style
      rw [isCenter]
      rfl
  · next style =>
      have isRight : cellStyle token = "text-align:right" := style
      rw [isRight]
      rfl
  · next notLeft notCenter notRight =>
      have unknown : knownStyles.lookup (cellStyle token) = none := by
        rw [List.lookup_eq_none_iff]
        intro pair member
        simp only [knownStyles, List.mem_cons, List.not_mem_nil, or_false] at member
        rcases member with rfl | rfl | rfl
        · exact bne_iff_ne.mpr notLeft
        · exact bne_iff_ne.mpr notCenter
        · exact bne_iff_ne.mpr notRight
      rw [unknown]
      rfl

/-- A cell without a style has no alignment. -/
theorem cellAlignment_of_no_style {token : Token} (absent : token.attribute? "style" = none) :
    cellAlignment token = .none := by
  rw [cellAlignment_eq_lookup, cellStyle, Token.attributeText, absent]
  rfl

/-- The tables of a stream keep their shape. The events of the stream are those of its pieces in order, with
    a table as its own events wherever it stands and whatever came before it; the parts of tables in them are
    those of the tables that are reached, which are all of them unless the stream fails; and each alignment
    is what the style of its cell stands for, or none. -/
theorem eventsOfTokens_tables (pieces : List Piece) :
    (eventsOfTokens (pieces.flatMap Piece.tokens)).items = (walkPieces .initial pieces).events ∧
      ((eventsOfTokens (pieces.flatMap Piece.tokens)).fault = none ↔
        ∃ last, (walkPieces .initial pieces).outcome = .ok last) ∧
      (∃ reached, reached <+: pieces ∧
        ((eventsOfTokens (pieces.flatMap Piece.tokens)).fault = none → reached = pieces) ∧
          (eventsOfTokens (pieces.flatMap Piece.tokens)).items.filter isTableMark =
            reached.flatMap Piece.marks) ∧
      ∀ token, (token.attribute? "style" = none → cellAlignment token = .none) ∧
        cellAlignment token = (knownStyles.lookup (cellStyle token)).getD .none := by
  have walked : Walker.initial.walk (pieces.flatMap Piece.tokens) = walkPieces .initial pieces :=
    walk_pieces pieces []
  have items : (eventsOfTokens (pieces.flatMap Piece.tokens)).items =
      (walkPieces .initial pieces).events := by
    rw [eventsOfTokens, walked]
    split <;> rfl
  have faultless : (eventsOfTokens (pieces.flatMap Piece.tokens)).fault = none ↔
      ∃ last, (walkPieces .initial pieces).outcome = .ok last := by
    rw [eventsOfTokens, walked]
    split
    · next last ok => exact iff_of_true rfl ⟨last, ok⟩
    · next fault failed => exact iff_of_false nofun (by simp [failed])
  obtain ⟨reached, isPrefix, whole, marks⟩ := exists_reached pieces unmarked_nil
  refine ⟨items, faultless, ⟨reached, isPrefix, fun noFault => ?_, by rw [items]; exact marks⟩,
    fun token => ⟨cellAlignment_of_no_style, cellAlignment_eq_lookup token⟩⟩
  obtain ⟨last, ok⟩ := faultless.mp noFault
  exact whole last ok

/-- A line with a text. -/
def lineContent : Content where
  tokens := [{ kind := "inline", children := [{ kind := "text", content := "a" }] }]
  events := [.text "a"]
  plain := by
    intro token member
    obtain rfl := List.mem_singleton.mp member
    refine .intro (by decide) (by decide) fun child member => ?_
    obtain rfl := List.mem_singleton.mp member
    exact .intro (by decide) (by decide) nofun
  walks := rfl

def styledCell (style : String) : Enclosed "th" Content where
  opening := { kind := "th_open", nesting := 1, attributes := [("style", .text style)] }
  inside := lineContent
  closing := { kind := "th_close", nesting := -1 }
  opens := ⟨rfl, rfl⟩
  closes := ⟨rfl, rfl⟩

/-- A table with header cells of these styles, and with a row of one cell below them if it has a body. -/
def styledTable (styles : List String) (hasBody : Bool) : Table where
  opening := { kind := "table_open", nesting := 1 }
  inside :=
    ({ opening := { kind := "thead_open", nesting := 1 }
       inside :=
        { opening := { kind := "tr_open", nesting := 1 }
          inside := styles.map styledCell
          closing := { kind := "tr_close", nesting := -1 }
          opens := ⟨rfl, rfl⟩
          closes := ⟨rfl, rfl⟩ }
       closing := { kind := "thead_close", nesting := -1 }
       opens := ⟨rfl, rfl⟩
       closes := ⟨rfl, rfl⟩ },
     if hasBody then some
      { opening := { kind := "tbody_open", nesting := 1 }
        inside := [
          { opening := { kind := "tr_open", nesting := 1 }
            inside := [
              { opening := { kind := "td_open", nesting := 1 }
                inside := lineContent
                closing := { kind := "td_close", nesting := -1 }
                opens := ⟨rfl, rfl⟩
                closes := ⟨rfl, rfl⟩ }]
            closing := { kind := "tr_close", nesting := -1 }
            opens := ⟨rfl, rfl⟩
            closes := ⟨rfl, rfl⟩ }]
        closing := { kind := "tbody_close", nesting := -1 }
        opens := ⟨rfl, rfl⟩
        closes := ⟨rfl, rfl⟩ }
      else none)
  closing := { kind := "table_close", nesting := -1 }
  opens := ⟨rfl, rfl⟩
  closes := ⟨rfl, rfl⟩

/-- A table in a quotation, and another behind it. -/
def quotedTable : List Piece :=
  [.other { kind := "blockquote_open", nesting := 1 } (.intro (by decide) (by decide) nofun),
   .table (styledTable ["text-align: right", "color: red"] true),
   .other { kind := "blockquote_close", nesting := -1 } (.intro (by decide) (by decide) nofun),
   .table (styledTable [""] false)]

theorem eventsOfTokens_tables_quotedTable :
    (eventsOfTokens (quotedTable.flatMap Piece.tokens)).items =
      [.start .blockQuote, .start (.table [.right, .none]), .start .tableHead, .start .tableCell, .text "a",
       .finish .tableCell, .start .tableCell, .text "a", .finish .tableCell, .finish .tableHead,
       .start .tableRow, .start .tableCell, .text "a", .finish .tableCell, .finish .tableRow,
       .finish (.table [.right, .none]), .finish .blockQuote, .start (.table [.none]), .start .tableHead,
       .start .tableCell, .text "a", .finish .tableCell, .finish .tableHead, .finish (.table [.none])] := by
  rw [(eventsOfTokens_tables quotedTable).1]
  rfl

end Bindery.Prose
