/-
Module: Bindery.Proofs.ProseLayout
Layer: Proofs
Purpose: The prose of tokens that are laid out is laid out in the document. A line becomes content of a line,
  in what holds lines or in an item by itself; blocks become containers that stand in what may hold them; and
  a heading stands behind a block, whose end starts a line, or in an item, where the paragraph in front of it
  may be hidden. Joining texts and leaving out formulas can only make more room for headings.
Imports: Bindery.Proofs.LineStarts, Bindery.Proofs.LinkTargets, Bindery.Proofs.TokenLayout,
  Bindery.Prose.OfText
Main exports: shownAll, Becomes, Reads, reads_walk, Admits, Encloses, exists_walk_of_laid, Milder,
  exists_through_pass, through_eventsOfText
-/
import Bindery.Proofs.LineStarts
import Bindery.Proofs.LinkTargets
import Bindery.Proofs.TokenLayout
import Bindery.Prose.OfText

namespace Bindery.Prose

open Bindery.Convert (counterpart Memory)
open Markup (Holding Place Spot isLineTag holding standing through_cons through_append)

/-! ### What prose shows -/

/-- What a prose event becomes inside `depth` chapters if it is no formula that is left out. -/
def shown (depth : Nat) : Markdown.Event → List Typst.Event
  | .start tag => ((counterpart depth tag).map .start).toList
  | .finish tag => ((counterpart depth tag).map .finish).toList
  | .text body => [.text body]
  | .code body => [.code body]
  | .softBreak => [.text " "]
  | .hardBreak => [.paragraphBreak]
  | .html _ | .rule => []

/-- What prose events become one after the other. -/
def shownAll (depth : Nat) (events : List Markdown.Event) : List Typst.Event := events.flatMap (shown depth)

theorem shownAll_append (depth : Nat) (first second : List Markdown.Event) :
    shownAll depth (first ++ second) = shownAll depth first ++ shownAll depth second := List.flatMap_append

/-- What events show goes on from where what is shown before them has led. -/
theorem through_shownAll_append {depth : Nat} {spot middle : Spot} {first : List Markdown.Event}
    (through : spot.through (shownAll depth first) = some middle) (second : List Markdown.Event) :
    spot.through (shownAll depth (first ++ second)) = middle.through (shownAll depth second) := by
  rw [shownAll_append, through_append, through, Option.bind_some]

/-! ### Lines -/

/-- Has the next place content of a line more in front of it, at most? -/
def Within (place next : Place) : Prop := next = place ∨ next = place.inLine

theorem Within.trans {first second third : Place} (within : Within first second)
    (within' : Within second third) : Within first third := by
  rcases within with rfl | rfl <;> rcases within' with rfl | rfl
  · exact .inl rfl
  · exact .inr rfl
  · exact .inr rfl
  · cases first <;> exact .inr rfl

theorem Within.ne_beyond {place next : Place} (within : Within place next) (here : place ≠ .beyond) :
    next ≠ .beyond := by
  rcases within with rfl | rfl
  · exact here
  · cases place <;> simp_all [Place.inLine]

/-- Does an open container of a line stand for one of the document? -/
def Becomes (tag : Option Markdown.Tag) (target : Typst.Tag) : Prop :=
  isLineTag target = true ∧ ∃ container, tag = some container ∧
    ∀ depth, counterpart depth container = some target

/-- The containers of a line become containers in a line. -/
theorem exists_becomes {token : Token} (inLine : token.containerName ∈ lineContainers) (inHead : Bool)
    (following : List Token) :
    ∃ container target, openedTag inHead token following = .ok (some container) ∧
      Becomes (some container) target := by
  simp only [lineContainers, List.mem_cons, List.not_mem_nil, or_false] at inLine
  rcases inLine with name | name | name | name
  · exact ⟨.emphasis, .emphasis, by simp [openedTag, name, simpleTag?], rfl, _, rfl, fun _ => rfl⟩
  · exact ⟨.strong, .strong, by simp [openedTag, name, simpleTag?], rfl, _, rfl, fun _ => rfl⟩
  · exact ⟨.strikethrough, .strikethrough, by simp [openedTag, name, simpleTag?], rfl, _, rfl, fun _ => rfl⟩
  · refine ⟨linkTag token, .link (targetKind token) (token.attributeText "href"), ?_, rfl, _, rfl, ?_⟩
    · simp [openedTag, name]
    · exact fun depth => counterpart_linkTag depth token

/-- Inside containers of a line there is more of the line. -/
theorem takes_line {inner : List (Option Markdown.Tag)} {targets outer : List Typst.Tag} {place next : Place}
    (become : List.Forall₂ Becomes inner targets) (takes : Spot.takes ⟨outer, place⟩ .line = true) :
    Spot.takes ⟨targets ++ outer, next⟩ .line = true := by
  cases become with
  | nil => exact takes
  | cons becomes _ =>
      have holds := Markup.holding_of_isLineTag becomes.1
      simp [Spot.takes, Spot.held, holds]

/-- Texts, inline code and breaks may stand wherever content of a line may. -/
theorem through_content {spot : Spot} (takes : spot.takes .line = true) {event : Typst.Event}
    (content : event = .paragraphBreak ∨ ∃ body, event = .text body ∨ event = .code body) :
    spot.through [event] = some { spot with place := spot.place.inLine } := by
  rw [through_cons]
  rcases content with rfl | ⟨body, rfl | rfl⟩ <;> simp [Spot.after, takes] <;> rfl

/-- A container may start where something of its kind may stand. -/
theorem through_start {spot : Spot} {target : Typst.Tag} {kind : Holding}
    (stands : standing target = some kind) (takes : spot.takes kind = true)
    (heads : Spot.isHeading target = true → spot.takesHeading = true) :
    spot.through [.start target] = some ⟨target :: spot.opened, spot.entered target⟩ := by
  rw [through_cons, Spot.after, stands, if_pos ⟨takes, heads⟩]
  rfl

/-- A container of a line is content of the line at both of its ends. -/
theorem places_of_isLineTag {target : Typst.Tag} (inLine : isLineTag target = true) (spot : Spot) :
    Spot.isHeading target = false ∧ spot.entered target = spot.place.inLine ∧
      spot.left target = spot.place.inLine := by
  unfold isLineTag at inLine
  split at inLine <;> first | exact ⟨rfl, rfl, rfl⟩ | cases inLine

/-- The innermost container may be closed. -/
theorem through_finish (target : Typst.Tag) (opened : List Typst.Tag) (place : Place) :
    Spot.through ⟨target :: opened, place⟩ [.finish target] =
      some ⟨opened, Spot.left ⟨target :: opened, place⟩ target⟩ := by
  rw [through_cons]
  simp [Spot.after]
  rfl

/-- A walk over tokens of a line: where `targets` are open of the line, it ends with containers for
    `names` open, and what it shows is content of a line wherever there may be some. -/
def Reads (base : List (Option Markdown.Tag)) (targets : List Typst.Tag) (inHead : Bool)
    (names : List String) (walk : Walk) : Prop :=
  ∃ inner' targets', walk.outcome = .ok ⟨inner' ++ base, inHead⟩ ∧ names.length = inner'.length ∧
    List.Forall₂ Becomes inner' targets' ∧
      ∀ depth outer place, Spot.takes ⟨outer, place⟩ .line = true → ∃ next, Within place next ∧
        Spot.through ⟨targets ++ outer, place⟩ (shownAll depth walk.events) = some ⟨targets' ++ outer, next⟩

section Lines

variable {inner base : List (Option Markdown.Tag)} {targets : List Typst.Tag} {inHead : Bool}
  {names names' : List String}

theorem Reads.andThen {walk : Walk} {next : Walker → Walk} (reads : Reads base targets inHead names walk)
    (goesOn : ∀ inner targets, names.length = inner.length → List.Forall₂ Becomes inner targets →
      Reads base targets inHead names' (next ⟨inner ++ base, inHead⟩)) :
    Reads base targets inHead names' (walk.andThen next) := by
  obtain ⟨middle, between, outcome, length, become, shows⟩ := reads
  obtain ⟨inner', targets', outcome', length', become', shows'⟩ := goesOn middle between length become
  refine ⟨inner', targets', ?_, length', become', fun depth outer place takes => ?_⟩
  · rw [Walk.andThen_of_ok outcome]
    exact outcome'
  · obtain ⟨place₁, within, through⟩ := shows depth outer place takes
    obtain ⟨place₂, within', through'⟩ := shows' depth outer place₁ (takes_line .nil takes)
    refine ⟨place₂, within.trans within', ?_⟩
    rw [Walk.andThen_of_ok outcome]
    exact (through_shownAll_append through _).trans through'

/-- The events of a leaf of a line are content of a line. -/
theorem exists_through_leafEvents {token : Token} (flat : token.kind ∉ blockKinds) (depth : Nat) {spot : Spot}
    (takes : spot.takes .line = true) :
    ∃ next, Within spot.place next ∧
      spot.through (shownAll depth (leafEvents token)) = some { spot with place := next } := by
  have nothing : ∃ next, Within spot.place next ∧ spot.through [] = some { spot with place := next } :=
    ⟨spot.place, .inl rfl, rfl⟩
  have single {event : Typst.Event}
      (content : event = .paragraphBreak ∨ ∃ body, event = .text body ∨ event = .code body) :
      ∃ next, Within spot.place next ∧ spot.through [event] = some { spot with place := next } :=
    ⟨spot.place.inLine, .inr rfl, through_content takes content⟩
  have text (content : String) : ∃ next, Within spot.place next ∧
      spot.through (shownAll depth (textEvents content)) = some { spot with place := next } := by
    unfold textEvents
    split
    · exact nothing
    · exact single (.inr ⟨content, .inl rfl⟩)
  simp only [blockKinds, List.mem_cons, not_or] at flat
  unfold leafEvents
  split
  · exact text token.content
  · exact text token.content
  · exact single (.inr ⟨" ", .inl rfl⟩)
  · exact single (.inl rfl)
  · exact single (.inr ⟨token.content, .inr rfl⟩)
  · exact nothing
  · exact nothing
  · exact nothing
  · next isCode => exact absurd isCode flat.2.2.1
  · next isFence => exact absurd isFence flat.2.1
  · exact nothing

theorem reads_leaf {token : Token} (flat : token.kind ∉ blockKinds) (length : names.length = inner.length)
    (become : List.Forall₂ Becomes inner targets) :
    Reads base targets inHead names ⟨leafEvents token, .ok ⟨inner ++ base, inHead⟩⟩ :=
  ⟨inner, targets, rfl, length, become, fun depth _ _ takes =>
    exists_through_leafEvents flat depth (takes_line become takes)⟩

/-- Opening a container of a line. -/
theorem reads_enter {token : Token} (inLine : token.containerName ∈ lineContainers)
    (following : List Token) (length : names.length = inner.length)
    (become : List.Forall₂ Becomes inner targets) :
    Reads base targets inHead (token.containerName :: names)
      (Walker.enter ⟨inner ++ base, inHead⟩ token following) := by
  have noHead : token.containerName ≠ "thead" := by
    intro isHead
    rw [isHead] at inLine
    exact absurd inLine (by decide)
  obtain ⟨container, target, opened, becomes⟩ := exists_becomes inLine inHead following
  have entered : Walker.enter ⟨inner ++ base, inHead⟩ token following =
      ⟨[.start container], .ok ⟨some container :: inner ++ base, inHead⟩⟩ := by
    simp [Walker.enter, noHead, opened]
  rw [entered]
  refine ⟨some container :: inner, target :: targets, rfl, by simp [length], .cons becomes become, ?_⟩
  intro depth outer place takes
  obtain ⟨isLine, _, same, isTarget⟩ := becomes
  cases same
  obtain ⟨noHeading, entered, -⟩ := places_of_isLineTag isLine ⟨targets ++ outer, place⟩
  have takesHere : Spot.takes ⟨targets ++ outer, place⟩ .line = true := takes_line become takes
  have through := through_start (Markup.standing_eq_line_iff.mpr isLine) takesHere fun isHeading =>
    absurd (noHeading.symm.trans isHeading) Bool.false_ne_true
  rw [entered] at through
  refine ⟨place.inLine, .inr rfl, ?_⟩
  simpa [shownAll, shown, isTarget] using through

/-- Closing a container of a line. -/
theorem reads_leave {token : Token} (flat : token.kind ∉ blockKinds) {name : String}
    (length : (name :: names).length = inner.length) (become : List.Forall₂ Becomes inner targets) :
    Reads base targets inHead names (Walker.leave ⟨inner ++ base, inHead⟩ token) := by
  have noHead : token.kind ≠ "thead_close" := by
    intro isHead
    rw [isHead] at flat
    exact flat (by decide)
  cases become with
  | nil => cases length
  | @cons tag target below targets becomes become =>
      obtain ⟨isLine, container, rfl, isTarget⟩ := becomes
      have left : Walker.leave ⟨some container :: below ++ base, inHead⟩ token =
          ⟨[.finish container], .ok ⟨below ++ base, inHead⟩⟩ := by
        simp [Walker.leave, noHead]
      rw [left]
      refine ⟨below, targets, rfl, by simpa using length, become, fun depth outer place takes => ?_⟩
      refine ⟨place.inLine, .inr rfl, ?_⟩
      have through := through_finish target (targets ++ outer) place
      rw [(places_of_isLineTag isLine _).2.2] at through
      simpa [shownAll, shown, isTarget] using through

/-- An image shows what it holds. -/
theorem reads_image {token : Token} {walk : Walk} (length : names.length = inner.length)
    (become : List.Forall₂ Becomes inner targets) (reads : Reads (inner ++ base) [] inHead [] walk) :
    Reads base targets inHead names
      ((walk.prepend [.start (imageTag token)]).andThen fun next =>
        ⟨[.finish (imageTag token)], .ok next⟩) := by
  obtain ⟨inner', targets', outcome, empty, become', shows⟩ := reads
  obtain rfl : inner' = [] := List.length_eq_zero_iff.mp empty.symm
  cases become'
  refine ⟨inner, targets, ?_, length, become, fun depth outer place takes => ?_⟩
  · simp only [Walk.andThen, Walk.prepend, outcome]
    rfl
  · obtain ⟨next, within, through⟩ := shows depth (targets ++ outer) place (takes_line become takes)
    refine ⟨next, within, ?_⟩
    simp only [Walk.andThen, Walk.prepend, outcome]
    simpa [shownAll, shown, imageTag, counterpart] using through

mutual

/-- The step over a token of a line. -/
theorem reads_step : ∀ (token : Token) (names names' : List String) (inner base : List (Option Markdown.Tag))
    (targets : List Typst.Tag) (inHead : Bool) (following : List Token),
    names.length = inner.length → List.Forall₂ Becomes inner targets → standsInLine token = true →
      openedAfter true names token = some names' →
        Reads base targets inHead names' (Walker.step ⟨inner ++ base, inHead⟩ following token)
  | token@⟨kind, _, nesting, _, _, _, _, _, children⟩ => by
      intro names names' inner base targets inHead following length become stands opened
      rw [standsInLine] at stands
      simp only [Bool.and_eq_true, Bool.or_eq_true, decide_eq_true_eq] at stands
      obtain ⟨⟨flat, inLine⟩, image⟩ := stands
      obtain ⟨opens, -, rfl⟩ | ⟨closes, name, rfl⟩ | ⟨⟨notOpening, notClosing⟩, rfl, nested⟩ :=
        openedAfter_cases opened
      · rw [step_of_opens opens]
        exact reads_enter (inLine.resolve_left (not_not_intro opens)) following length become
      · rw [step_of_closes closes]
        exact reads_leave flat length become
      · have notLine : kind ≠ "inline" := by
          rintro rfl
          exact flat (by decide)
        rw [step_eq, if_neg notOpening, if_neg notClosing, if_neg notLine]
        by_cases isImage : kind = "image"
        · have held := image.resolve_left (not_not_intro isImage)
          rw [if_pos isImage]
          exact reads_image length become
            (reads_walk children [] [] [] (inner ++ base) [] inHead rfl .nil held (nested (.inr isImage)))
        · rw [if_neg isImage]
          exact reads_leaf flat length become

/-- The walk over tokens of a line. -/
theorem reads_walk : ∀ (tokens : List Token) (names names' : List String)
    (inner base : List (Option Markdown.Tag)) (targets : List Typst.Tag) (inHead : Bool),
    names.length = inner.length → List.Forall₂ Becomes inner targets → standInLine tokens = true →
      openedFrom true names tokens = some names' →
        Reads base targets inHead names' (Walker.walk ⟨inner ++ base, inHead⟩ tokens)
  | [] => by
      intro names names' inner base targets inHead length become _ opened
      rw [openedFrom] at opened
      cases opened
      rw [Walker.walk]
      exact ⟨inner, targets, rfl, length, become, fun _ _ place _ => ⟨place, .inl rfl, rfl⟩⟩
  | token :: rest => by
      intro names names' inner base targets inHead length become stand opened
      rw [standInLine, Bool.and_eq_true] at stand
      rw [openedFrom] at opened
      obtain ⟨middle, openedFirst, openedRest⟩ := Option.bind_eq_some_iff.mp opened
      rw [Walker.walk]
      exact (reads_step token names middle inner base targets inHead rest length become stand.1
        openedFirst).andThen fun inner' targets' length' become' =>
          reads_walk rest middle names' inner' base targets' inHead length' become' stand.2 openedRest

end

end Lines

/-! ### Blocks -/

/-- May tokens that stand in something be read with a table head around, or without one? -/
def Allows (inHead : Bool) : Around → Prop
  | .head => inHead = true
  | .row | .line => True
  | _ => inHead = false

/-- May what stands in something begin at a spot? -/
def Admits (spot : Spot) : Around → Prop
  | .flow => spot.held = .blocks ∧ spot.opened.head? ≠ some .item ∧ spot.place = .fresh
  | .item => spot.opened.head? = some .item ∧ spot.place ≠ .beyond
  | .list => spot.held = .items ∧ spot.place = .fresh
  | .table | .body => spot.held = .rows
  | .head | .row => spot.held = .cells
  | .line => spot.takes .line = true ∧ (spot.opened.head? = some .item → spot.place ≠ .beyond)

/-- A container that blocks go around, if it is one of the document: what stands in it may begin behind its
    start, and where that ends, the container may be closed. -/
def Encloses (around inside : Around) (tag : Option Markdown.Tag) : Prop :=
  ∀ depth spot, Admits spot around → ∃ entered,
    spot.through (shownAll depth (tag.map Markdown.Event.start).toList) = some entered ∧
      Admits entered inside ∧ ∀ place, Admits ⟨entered.opened, place⟩ inside → ∃ next,
        Spot.through ⟨entered.opened, place⟩ (shownAll depth (tag.map Markdown.Event.finish).toList) =
          some ⟨spot.opened, next⟩ ∧ Admits ⟨spot.opened, next⟩ around

section Blocks

variable {around inside : Around} {inHead : Bool}

/-- Where a line starts, whatever may stand there may begin. -/
theorem Admits.fresh {spot : Spot} (admits : Admits spot around) : Admits ⟨spot.opened, .fresh⟩ around := by
  cases around with
  | flow => exact ⟨admits.1, admits.2.1, rfl⟩
  | item => exact ⟨admits.1, nofun⟩
  | list => exact ⟨admits.1, rfl⟩
  | line => exact ⟨admits.1, fun _ => nofun⟩
  | _ => exact admits

/-- Among blocks, blocks may stand, and headings as well. -/
theorem Admits.takes_blocks {spot : Spot} (admits : Admits spot around)
    (flows : around = .flow ∨ around = .item) :
    spot.takes .blocks = true ∧ spot.takesHeading = true := by
  rcases flows with rfl | rfl
  · obtain ⟨held, -, fresh⟩ := admits
    simp [Spot.takes, Spot.takesHeading, held, fresh]
  · obtain ⟨inItem, notBeyond⟩ := admits
    have held : spot.held = .blocks := by
      rw [Spot.held, inItem]
      rfl
    cases place : spot.place <;> simp_all [Spot.takes, Spot.takesHeading]

/-- A container without one in the document leaves everything where it is. -/
theorem encloses_none (same : ∀ spot, Admits spot around → Admits spot inside)
    (back : ∀ spot place, Admits spot around → Admits ⟨spot.opened, place⟩ inside →
      Admits ⟨spot.opened, place⟩ around) : Encloses around inside none :=
  fun _ spot admits => ⟨spot, rfl, same spot admits, fun place inner =>
    ⟨place, rfl, back spot place admits inner⟩⟩

/-- A container becomes one that may start in front of what stands in it and be closed behind that. -/
theorem encloses_some {container : Markdown.Tag} {target : Nat → Typst.Tag} {kind : Holding}
    (becomes : ∀ depth, counterpart depth container = some (target depth))
    (stands : ∀ depth, standing (target depth) = some kind)
    (takes : ∀ depth spot, Admits spot around →
      spot.takes kind = true ∧ (Spot.isHeading (target depth) = true → spot.takesHeading = true))
    (enters : ∀ depth spot, Admits spot around →
      Admits ⟨target depth :: spot.opened, spot.entered (target depth)⟩ inside)
    (leaves : ∀ depth spot place, Admits spot around → Admits ⟨target depth :: spot.opened, place⟩ inside →
      Admits ⟨spot.opened, Spot.left ⟨target depth :: spot.opened, place⟩ (target depth)⟩ around) :
    Encloses around inside (some container) := by
  intro depth spot admits
  obtain ⟨may, heads⟩ := takes depth spot admits
  refine ⟨_, ?_, enters depth spot admits, fun place inner => ⟨_, ?_, leaves depth spot place admits inner⟩⟩
  · simpa [shownAll, shown, becomes] using through_start (stands depth) may heads
  · simpa [shownAll, shown, becomes] using through_finish (target depth) spot.opened place

/-- The parts of lists and of tables stand only in what holds them. -/
theorem encloses_part {container : Markdown.Tag} {target : Typst.Tag} {kind : Holding}
    (becomes : ∀ depth, counterpart depth container = some target) (stands : standing target = some kind)
    (plain : Spot.isHeading target = false) (held : ∀ spot, Admits spot around → spot.held = kind)
    (enters : ∀ spot : Spot, Admits ⟨target :: spot.opened, spot.entered target⟩ inside)
    (leaves : ∀ spot place, Admits spot around →
      Admits ⟨spot.opened, Spot.left ⟨target :: spot.opened, place⟩ target⟩ around) :
    Encloses around inside (some container) := by
  apply encloses_some becomes (fun _ => stands)
  · intro _ spot admits
    refine ⟨by simp [Spot.takes, held spot admits], fun isHeading => ?_⟩
    rw [plain] at isHeading
    cases isHeading
  · exact fun _ spot _ => enters spot
  · exact fun _ spot place admits _ => leaves spot place admits

/-- What stands in a block. -/
def blockInside : Markdown.Tag → Option Around
  | .paragraph => some .line
  | .heading _ => some .line
  | .blockQuote => some .flow
  | .list _ => some .list
  | .table _ => some .table
  | _ => none

/-- Blocks stand in the document, in quotations and in items. -/
theorem encloses_block {container : Markdown.Tag} (flows : around = .flow ∨ around = .item)
    (block : blockInside container = some inside) : Encloses around inside (some container) := by
  have goesAround {target : Nat → Typst.Tag}
      (becomes : ∀ depth, counterpart depth container = some (target depth))
      (stands : ∀ depth, standing (target depth) = some .blocks)
      (enters : ∀ depth spot, Admits spot around →
        Admits ⟨target depth :: spot.opened, spot.entered (target depth)⟩ inside)
      (leaves : ∀ depth (spot : Spot) place, Admits ⟨target depth :: spot.opened, place⟩ inside →
        Spot.left ⟨target depth :: spot.opened, place⟩ (target depth) = .fresh) :
      Encloses around inside (some container) := by
    apply encloses_some becomes stands _ enters
    · intro depth spot place admits inner
      rw [leaves depth spot place inner]
      exact admits.fresh
    · intro depth spot admits
      obtain ⟨takes, heads⟩ := admits.takes_blocks flows
      exact ⟨takes, fun _ => heads⟩
  -- A list starts on a line of its own.
  have fresh (spot : Spot) (admits : Admits spot around) :
      (if spot.opened.head? = some .item then .fresh else spot.place) = Place.fresh := by
    split
    · rfl
    · next notItem =>
        rcases flows with rfl | rfl
        · exact admits.2.2
        · exact absurd admits.1 notItem
  cases container with
  | list start =>
      cases block
      cases start with
      | none =>
          exact goesAround (fun _ => rfl) (fun _ => rfl) (fun _ spot admits => ⟨rfl, fresh spot admits⟩)
            fun _ _ _ admits => admits.2
      | some start =>
          exact goesAround (fun _ => rfl) (fun _ => rfl) (fun _ spot admits => ⟨rfl, fresh spot admits⟩)
            fun _ _ _ admits => admits.2
  | paragraph | heading =>
      cases block
      exact goesAround (fun _ => rfl) (fun _ => rfl) (fun _ _ _ => ⟨rfl, nofun⟩) fun _ _ _ _ => rfl
  | blockQuote =>
      cases block
      exact goesAround (fun _ => rfl) (fun _ => rfl) (fun _ _ _ => ⟨rfl, nofun, rfl⟩) fun _ _ _ _ => rfl
  | table alignments =>
      cases block
      exact goesAround (fun _ => rfl) (fun _ => rfl) (fun _ _ _ => rfl) fun _ _ _ _ => rfl
  | _ => cases block

/-- A block opens its container, but a hidden paragraph does not. -/
theorem exists_openedTag_block {name : String} {token : Token} (isName : token.containerName = name)
    (placed : (name, inside) ∈ blockContainers) (numbered : hasNumber token = true) (inHead : Bool)
    (following : List Token) :
    ∃ tag, openedTag inHead token following = .ok tag ∧
      ((tag = none ∧ inside = .line ∧ token.hidden = true) ∨
        ∃ container, tag = some container ∧ blockInside container = some inside) := by
  simp only [blockContainers, List.mem_cons, List.not_mem_nil, or_false, Prod.mk.injEq] at placed
  rcases placed with ⟨rfl, rfl⟩ | ⟨rfl, rfl⟩ | ⟨rfl, rfl⟩ | ⟨rfl, rfl⟩ | ⟨rfl, rfl⟩ | ⟨rfl, rfl⟩
  · cases hidden : token.hidden with
    | true => exact ⟨none, by simp [openedTag, isName, hidden], .inl ⟨rfl, rfl, rfl⟩⟩
    | false => exact ⟨some .paragraph, by simp [openedTag, isName, hidden, simpleTag?], .inr ⟨_, rfl, rfl⟩⟩
  · cases level : numeral (String.ofList (token.tag.toList.drop 1)) with
    | error fault =>
        simp only [hasNumber, isName, level] at numbered
        cases numbered
    | ok value =>
        refine ⟨some (.heading value), ?_, .inr ⟨_, rfl, rfl⟩⟩
        simp only [openedTag, isName, level]
        rfl
  · exact ⟨some .blockQuote, by simp [openedTag, isName, simpleTag?], .inr ⟨_, rfl, rfl⟩⟩
  · exact ⟨some (.list none), by simp [openedTag, isName], .inr ⟨_, rfl, rfl⟩⟩
  · cases start : listStart token with
    | error fault =>
        simp only [hasNumber, isName, start] at numbered
        cases numbered
    | ok value =>
        refine ⟨some (.list (some value)), ?_, .inr ⟨_, rfl, rfl⟩⟩
        simp only [openedTag, isName, start]
        rfl
  · exact ⟨some (.table (tableAlignments following)), by simp [openedTag, isName], .inr ⟨_, rfl, rfl⟩⟩

/-- A block goes around what stands in it. The text of a hidden paragraph is content of the item. -/
theorem exists_encloses_block {name : String} {token : Token} (flows : around = .flow ∨ around = .item)
    (isName : token.containerName = name) (placed : (name, inside) ∈ blockContainers)
    (numbered : hasNumber token = true) (hides : token.hidden = true → around = .item) (inHead : Bool)
    (following : List Token) :
    ∃ tag, openedTag inHead token following = .ok tag ∧ Encloses around inside tag := by
  obtain ⟨tag, opened, ⟨rfl, rfl, hidden⟩ | ⟨container, rfl, isBlock⟩⟩ :=
    exists_openedTag_block isName placed numbered inHead following
  · obtain rfl := hides hidden
    refine ⟨none, opened, encloses_none (fun spot admits => ?_) fun spot place admits inner => ?_⟩
    · exact ⟨by simp [Spot.takes, admits.1], fun _ => admits.2⟩
    · exact ⟨admits.1, inner.2 admits.1⟩
  · exact ⟨some container, opened, encloses_block flows isBlock⟩

/-- What a container of blocks opens goes around what stands in it. -/
theorem exists_encloses {name : String} {first last : Token} (placed : (name, inside) ∈ around.containers)
    (ends : Ends name first last) (hides : first.hidden = true → around = .item)
    (allows : Allows inHead around) (following : List Token) :
    ∃ tag, openedTag (inHead || name = "thead") first following = .ok tag ∧ Encloses around inside tag := by
  have isName := ends.containerName
  cases around with
  | flow => exact exists_encloses_block (.inl rfl) isName placed ends.numbered hides _ following
  | item => exact exists_encloses_block (.inr rfl) isName placed ends.numbered hides _ following
  | list =>
      obtain ⟨rfl, rfl⟩ : name = "list_item" ∧ inside = .item := by simpa [Around.containers] using placed
      refine ⟨some .item, by simp [openedTag, isName, simpleTag?], ?_⟩
      apply encloses_part (fun _ => rfl) rfl rfl
      · exact fun spot admits => admits.1
      · exact fun spot => ⟨rfl, by simp [Spot.entered]⟩
      · exact fun spot _ admits => ⟨admits.1, rfl⟩
  | table =>
      simp only [Around.containers, List.mem_cons, List.not_mem_nil, or_false, Prod.mk.injEq] at placed
      rcases placed with ⟨rfl, rfl⟩ | ⟨rfl, rfl⟩
      · refine ⟨some .tableHead, by simp [openedTag, isName, simpleTag?], ?_⟩
        apply encloses_part (fun _ => rfl) rfl rfl
        · exact fun _ rows => rows
        · exact fun _ => rfl
        · exact fun _ _ rows => rows
      · refine ⟨none, by simp [openedTag, isName, simpleTag?], ?_⟩
        exact encloses_none (fun _ rows => rows) fun _ _ rows _ => rows
  | head =>
      obtain ⟨rfl, rfl⟩ : name = "tr" ∧ inside = .row := by simpa [Around.containers] using placed
      have inHead : inHead = true := allows
      refine ⟨none, by simp [openedTag, isName, inHead], ?_⟩
      exact encloses_none (fun _ cells => cells) fun _ _ cells _ => cells
  | body =>
      obtain ⟨rfl, rfl⟩ : name = "tr" ∧ inside = .row := by simpa [Around.containers] using placed
      have inHead : inHead = false := allows
      refine ⟨some .tableRow, by simp [openedTag, isName, inHead], ?_⟩
      apply encloses_part (fun _ => rfl) rfl rfl
      · exact fun _ rows => rows
      · exact fun _ => rfl
      · exact fun _ _ rows => rows
  | row =>
      obtain ⟨isCell, rfl⟩ : (name = "th" ∨ name = "td") ∧ inside = .line := by
        simpa [Around.containers, ← or_and_right] using placed
      have opened : openedTag (inHead || name = "thead") first following = .ok (some .tableCell) := by
        rcases isCell with rfl | rfl <;> simp [openedTag, isName, simpleTag?]
      refine ⟨some .tableCell, opened, ?_⟩
      apply encloses_part (fun _ => rfl) rfl rfl
      · exact fun _ cells => cells
      · exact fun _ => ⟨rfl, by simp⟩
      · exact fun _ _ cells => cells
  | line => cases placed

/-- Only a table head changes whether there is one, and its end takes that back. -/
theorem allows_inside {name : String} (placed : (name, inside) ∈ around.containers)
    (allows : Allows inHead around) :
    Allows (inHead || name = "thead") inside ∧
      (if name = "thead" then false else inHead || name = "thead") = inHead := by
  by_cases isHead : name = "thead"
  · subst isHead
    obtain ⟨rfl, rfl⟩ : around = .table ∧ inside = .head := by
      cases around <;> simp_all [Around.containers, blockContainers]
    have isFalse : inHead = false := allows
    exact ⟨by simp [Allows], by simp [isFalse]⟩
  · simp only [isHead, decide_false, Bool.or_false, if_false, and_true]
    cases around <;> simp only [Around.containers, blockContainers, List.mem_cons, Prod.mk.injEq,
      List.not_mem_nil, or_false] at placed
    all_goals grind [Allows]

/-- Code blocks, and the leaves that show nothing, stand among blocks. -/
theorem exists_through_leaf {token : Token} (kind : token.kind ∈ leafKinds) (depth : Nat)
    {spot : Spot} (admits : Admits spot around) (flows : around = .flow ∨ around = .item) :
    ∃ next, spot.through (shownAll depth (leafEvents token)) = some ⟨spot.opened, next⟩ ∧
      Admits ⟨spot.opened, next⟩ around := by
  have takes := (admits.takes_blocks flows).1
  have code (codeKind : Markdown.CodeKind) (language : Option String)
      (becomes : counterpart depth (.codeBlock codeKind) = some (.codeBlock language .block)) :
      ∃ next, spot.through (shownAll depth (codeBlockEvents codeKind token.content)) =
        some ⟨spot.opened, next⟩ ∧ Admits ⟨spot.opened, next⟩ around := by
    refine ⟨.fresh, ?_, admits.fresh⟩
    have starts : spot.through [.start (.codeBlock language .block)] =
        some ⟨.codeBlock language .block :: spot.opened, .fresh⟩ := through_start rfl takes nofun
    have ends (place : Place) : Spot.through ⟨.codeBlock language .block :: spot.opened, place⟩
        [.finish (.codeBlock language .block)] = some ⟨spot.opened, .fresh⟩ := through_finish _ _ place
    have text : ∃ place, Spot.through ⟨.codeBlock language .block :: spot.opened, .fresh⟩
        (shownAll depth (textEvents token.content)) =
          some ⟨.codeBlock language .block :: spot.opened, place⟩ := by
      unfold textEvents
      split
      · exact ⟨.fresh, rfl⟩
      · exact ⟨.inline, rfl⟩
    obtain ⟨place, text⟩ := text
    have isShown : shownAll depth (codeBlockEvents codeKind token.content) =
        [.start (.codeBlock language .block)] ++ shownAll depth (textEvents token.content) ++
          [.finish (.codeBlock language .block)] := by
      simp [shownAll, codeBlockEvents, shown, becomes]
    rw [isShown, through_append, through_append, starts, Option.bind_some, text, Option.bind_some, ends]
  simp only [leafKinds, List.mem_cons, List.not_mem_nil, or_false] at kind
  rcases kind with kind | kind | kind | kind
  · simp only [leafEvents, kind]
    exact code .indented none rfl
  · simp only [leafEvents, kind]
    exact code (.fenced (Text.trim token.info)) _ rfl
  · simp only [leafEvents, kind]
    exact ⟨spot.place, rfl, admits⟩
  · simp only [leafEvents, kind]
    exact ⟨spot.place, rfl, admits⟩

/-- The walk over tokens of blocks, with any tokens behind them: the alignments of a table are read from what
    follows its start. -/
theorem exists_walk_of_laid {tokens : List Token} (laid : Laid around tokens)
    (opened : List (Option Markdown.Tag)) (behind : List Token) (allows : Allows inHead around) :
    ∃ events, Walker.walk ⟨opened, inHead⟩ (tokens ++ behind) =
        (Walker.walk ⟨opened, inHead⟩ behind).prepend events ∧
      ∀ depth spot, Admits spot around → ∃ next,
        spot.through (shownAll depth events) = some ⟨spot.opened, next⟩ ∧
          Admits ⟨spot.opened, next⟩ around := by
  induction laid generalizing opened inHead behind with
  | nil => exact ⟨[], rfl, fun _ spot admits => ⟨spot.place, rfl, admits⟩⟩
  | @append around first second _ _ ihFirst ihSecond =>
      obtain ⟨events, walked, shows⟩ := ihFirst opened (second ++ behind) allows
      obtain ⟨events', walked', shows'⟩ := ihSecond opened behind allows
      refine ⟨events ++ events', ?_, fun depth spot admits => ?_⟩
      · rw [List.append_assoc, walked, walked', Walk.prepend_append]
      · obtain ⟨place, through, admits⟩ := shows depth spot admits
        obtain ⟨next, through', admits'⟩ := shows' depth _ admits
        refine ⟨next, ?_, admits'⟩
        rw [through_shownAll_append through, through']
  | @leaf around token blocks step kind =>
      have noLine := kind_ne_inline_of_leaf kind
      have noImage := (kind_ne_of_leaf (List.mem_cons_of_mem _ kind)).2.2.1
      have walked : Walker.step ⟨opened, inHead⟩ behind token =
          ⟨leafEvents token, .ok ⟨opened, inHead⟩⟩ := by
        simp [step_eq, step, noLine, noImage]
      refine ⟨leafEvents token, ?_, fun depth spot admits => ?_⟩
      · rw [List.singleton_append, Walker.walk, walked]
        rfl
      · exact exists_through_leaf kind depth admits blocks
  | @line token step kind stand nest =>
      have walked : Walker.step ⟨opened, inHead⟩ behind token =
          Walker.walk ⟨opened, inHead⟩ token.children := by
        rw [step_eq]
        simp [step, kind]
      obtain ⟨inner, targets, outcome, empty, become, shows⟩ :=
        reads_walk token.children [] [] [] opened [] inHead rfl .nil stand nest
      obtain rfl : inner = [] := List.length_eq_zero_iff.mp empty.symm
      cases become
      refine ⟨(Walker.walk ⟨opened, inHead⟩ token.children).events, ?_, fun depth spot admits => ?_⟩
      · rw [List.singleton_append, Walker.walk, walked]
        exact Walk.andThen_of_ok outcome _
      · obtain ⟨next, within, through⟩ := shows depth spot.opened spot.place admits.1
        exact ⟨next, through, admits.1, fun inItem => within.ne_beyond (admits.2 inItem)⟩
  | @container around inside name first last inner placed ends hides _ ih =>
      obtain ⟨allowsInside, back⟩ := allows_inside placed allows
      obtain ⟨tag, isTag, encloses⟩ := exists_encloses placed ends hides allows (inner ++ last :: behind)
      obtain ⟨events, walked, shows⟩ := ih (tag :: opened) (last :: behind) allowsInside
      rw [← ends.containerName] at isTag walked
      refine ⟨(tag.map Markdown.Event.start).toList ++ events ++ (tag.map Markdown.Event.finish).toList,
        ?_, ?_⟩
      · rw [List.cons_append, List.cons_append, List.append_assoc, List.singleton_append,
          ← List.cons_append]
        rw [walk_around ⟨opened, inHead⟩ behind ends.opens ends.closes isTag walked]
        have same : name ++ "_close" = "thead" ++ "_close" ↔ name = "thead" := String.append_left_inj "_close"
        have isClosing : last.kind = "thead_close" ↔ name = "thead" := by
          rw [ends.closing]
          exact same
        simp only [isClosing, ends.containerName, back]
      · intro depth spot admits
        obtain ⟨entered, through, admitsInside, closes⟩ := encloses depth spot admits
        obtain ⟨place, throughInner, admitsEnd⟩ := shows depth entered admitsInside
        obtain ⟨next, throughEnd, admitsBehind⟩ := closes place admitsEnd
        refine ⟨next, ?_, admitsBehind⟩
        rw [List.append_assoc, through_shownAll_append through, through_shownAll_append throughInner,
          throughEnd]

end Blocks

/-! ### Texts -/

/-- Where one text may stand, so may two. -/
theorem through_text_append (spot : Spot) (first second : String) (rest : List Typst.Event) :
    spot.through (.text (first ++ second) :: rest) = spot.through (.text first :: .text second :: rest) := by
  by_cases takes : spot.takes .line = true ∨ spot.takes .code = true
  · have shows (place : Place) (body : String) :
        Spot.after ⟨spot.opened, place⟩ (.text body) = some ⟨spot.opened, place.inLine⟩ := if_pos takes
    have twice : spot.place.inLine.inLine = spot.place.inLine := by cases spot.place <;> rfl
    rw [through_cons, through_cons, shows, shows, Option.bind_some, Option.bind_some, through_cons, shows,
      Option.bind_some, twice]
  · have refused (body : String) : spot.after (.text body) = none := if_neg takes
    rw [through_cons, through_cons, refused, refused, Option.bind_none, Option.bind_none]

/-- Joining texts does not change where anything stands. -/
theorem through_mergeFrom (depth : Nat) (spot : Spot) (run : Option String) (events : List Markdown.Event) :
    spot.through (shownAll depth (mergeFrom run events)) =
      spot.through (shownAll depth (flush run ++ events)) := by
  have goesOn (spot : Spot) (run : Option String) (event : Markdown.Event) (rest : List Markdown.Event)
      (ih : ∀ spot : Spot, spot.through (shownAll depth (mergeFrom none rest)) =
        spot.through (shownAll depth rest)) :
      spot.through (shownAll depth (flush run ++ event :: mergeFrom none rest)) =
        spot.through (shownAll depth (flush run ++ event :: rest)) := by
    have cut (rest : List Markdown.Event) : shownAll depth (flush run ++ event :: rest) =
        shownAll depth (flush run ++ [event]) ++ shownAll depth rest := by
      rw [List.append_cons, shownAll_append]
    rw [cut (mergeFrom none rest), cut rest, through_append, through_append]
    simp only [ih]
  induction events generalizing spot run with
  | nil => rw [mergeFrom, List.append_nil]
  | cons event rest ih =>
      cases event with
      | text body =>
          rw [mergeFrom, ih]
          cases run with
          | none => simp [flush]
          | some run => exact through_text_append spot run body (shownAll depth rest)
      | _ => exact goesOn spot run _ rest fun spot => ih spot none

/-- May one place stand for another? Where a line starts, all may stand that may stand behind content. -/
def Milder (actual expected : Place) : Prop := actual = expected ∨ actual = .fresh ∧ expected = .inline

/-- What may stand somewhere may stand at a milder place, and leads to a milder one. -/
theorem exists_after_of_milder {opened : List Typst.Tag} {actual expected : Place} {next : Spot}
    {event : Typst.Event} (milder : Milder actual expected)
    (allowed : Spot.after ⟨opened, expected⟩ event = some next) :
    ∃ place, Spot.after ⟨opened, actual⟩ event = some ⟨next.opened, place⟩ ∧ Milder place next.place := by
  obtain rfl | ⟨rfl, rfl⟩ := milder
  · exact ⟨next.place, allowed, .inl rfl⟩
  · cases event with
    | start tag =>
        -- Only a heading asks for the place, and the start of a line is one for it.
        obtain ⟨⟨kind, stands, takes⟩, -, rfl⟩ := Markup.after_start allowed
        refine ⟨Spot.entered ⟨opened, .fresh⟩ tag, ?_, ?_⟩
        · rw [Spot.after, stands, if_pos ⟨takes, fun _ => rfl⟩]
        · by_cases inItem : opened.head? = some .item <;>
            cases tag <;> simp [Milder, Spot.entered, Place.inLine, inItem]
    | finish tag =>
        obtain ⟨below, rfl, rfl⟩ := Markup.after_finish allowed
        refine ⟨Spot.left ⟨tag :: below, .fresh⟩ tag, by simp [Spot.after], ?_⟩
        cases tag <;> simp [Milder, Spot.left, Place.inLine]
    | text | code | paragraphBreak =>
        rw [Spot.after] at allowed
        split at allowed
        · next takes =>
            cases allowed
            exact ⟨.inline, if_pos takes, .inl rfl⟩
        · cases allowed
    | call | documentSet =>
        rw [Spot.after] at allowed
        split at allowed
        · next empty =>
            cases allowed
            exact ⟨.fresh, if_pos empty, .inl rfl⟩
        · cases allowed
    | _ => cases allowed

theorem exists_through_of_milder {opened : List Typst.Tag} {actual expected : Place} {next : Spot}
    {events : List Typst.Event} (milder : Milder actual expected)
    (through : Spot.through ⟨opened, expected⟩ events = some next) :
    ∃ place, Spot.through ⟨opened, actual⟩ events = some ⟨next.opened, place⟩ ∧ Milder place next.place := by
  induction events generalizing opened actual expected with
  | nil =>
      cases through
      exact ⟨actual, rfl, milder⟩
  | cons event rest ih =>
      rw [through_cons, Option.bind_eq_some_iff] at through
      obtain ⟨middle, allowed, through⟩ := through
      obtain ⟨place, allowed', milder'⟩ := exists_after_of_milder milder allowed
      obtain ⟨place', through', milder''⟩ := ih milder' through
      refine ⟨place', ?_, milder''⟩
      rw [through_cons, allowed', Option.bind_some, through']

/-- What a prose event becomes in the document may stand where what it shows may. -/
theorem exists_through_translateProse {opened : List Typst.Tag} {actual expected : Place} {next : Spot}
    {event : Markdown.Event} (memory : Memory) (milder : Milder actual expected)
    (through : Spot.through ⟨opened, expected⟩ (shown memory.depth event) = some next) :
    ∃ place, Spot.through ⟨opened, actual⟩ (Convert.translateProse memory event).1 =
      some ⟨next.opened, place⟩ ∧ Milder place next.place := by
  cases event with
  | text body =>
      rw [Convert.translateProse]
      dsimp only
      split
      · -- The formula was content of a line, without which the place can only be milder.
        rw [shown, through_cons, Option.bind_eq_some_iff] at through
        obtain ⟨middle, allowed, ends⟩ := through
        cases ends
        rw [Spot.after] at allowed
        split at allowed
        · cases allowed
          refine ⟨actual, rfl, ?_⟩
          obtain rfl | ⟨rfl, rfl⟩ := milder
          · cases actual <;> simp [Milder, Place.inLine]
          · exact .inr ⟨rfl, rfl⟩
        · cases allowed
      · exact exists_through_of_milder milder through
  | _ => exact exists_through_of_milder milder through

/-- What prose shows may stand in the document as well if formulas are left out of it. -/
theorem exists_through_pass {opened : List Typst.Tag} {actual expected : Place} {next : Spot}
    {events : List Markdown.Event} (memory : Memory) (milder : Milder actual expected)
    (through : Spot.through ⟨opened, expected⟩ (shownAll memory.depth events) = some next) :
    ∃ place, Spot.through ⟨opened, actual⟩ (Convert.pass memory (events.map .prose)) =
      some ⟨next.opened, place⟩ ∧ Milder place next.place := by
  induction events generalizing memory opened actual expected with
  | nil =>
      cases through
      exact ⟨actual, rfl, milder⟩
  | cons event rest ih =>
      rw [← List.singleton_append, shownAll_append, through_append, Option.bind_eq_some_iff] at through
      obtain ⟨middle, first, through⟩ := through
      -- Prose may open and close code blocks, but no chapters.
      have sameDepth : (Convert.translateProse memory event).2.depth = memory.depth := by
        rw [Convert.translateProse_memory]
      rw [← sameDepth] at through
      rw [shownAll, List.flatMap_singleton] at first
      obtain ⟨place, first', milder'⟩ := exists_through_translateProse memory milder first
      obtain ⟨place', through', milder''⟩ := ih (Convert.translateProse memory event).2 milder' through
      refine ⟨place', ?_, milder''⟩
      rw [List.map_cons, Convert.pass, through_append]
      rw [Convert.translate, first', Option.bind_some, through']

/-- The prose of a text whose tokens are laid out may stand in a chapter of every depth, with nothing open
    before and after it. -/
theorem through_eventsOfText {parser : Parser} {text : String} (laid : Laid .flow (parser text))
    (memory : Memory) :
    Spot.initial.through (Convert.pass memory ((eventsOfText parser text).map .prose)) =
      some .initial := by
  have noHead : Allows false .flow := rfl
  obtain ⟨events, walked, shows⟩ := exists_walk_of_laid laid [] [] noHead
  have nothing : Admits .initial .flow := ⟨rfl, nofun, rfl⟩
  obtain ⟨place, through, admits⟩ := shows memory.depth .initial nothing
  have fresh : place = .fresh := admits.2.2
  subst fresh
  have isText : eventsOfText parser text = mergeText events := by
    rw [List.append_nil, Walker.walk] at walked
    rw [eventsOfText, eventsOfTokens, Walker.initial, walked]
    simp [Walk.prepend, mergeDrained, Drained.done]
  rw [isText]
  have merged : Spot.initial.through (shownAll memory.depth (mergeText events)) = some .initial := by
    rw [mergeText, through_mergeFrom]
    exact through
  obtain ⟨place, passed, rfl | ⟨-, absurd⟩⟩ := exists_through_pass memory (.inl rfl) merged
  · exact passed
  · cases absurd

end Bindery.Prose
