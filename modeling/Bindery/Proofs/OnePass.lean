/-
Module: Bindery.Proofs.OnePass
Layer: Proofs
Purpose: The whole conversion as one pass. With every stage enabled, the document of a sequence of
  structural events is what a single pass from left to right makes of it, which remembers how many chapters
  and code blocks are open and which authors are pending, and looks every event up in one table. No stage
  sees what another has made, since every event has at most one owner. Event by event this is known for
  every choice of stages that keeps chapters and content. The main theorem also says which events have no
  place in the document.
Imports: Bindery.Proofs.StreamPieces, Mathlib.Data.List.Induction
Main exports: counterpart, translate, pass, Memory.passing, origin, targetFrom_singleton,
  targetFrom_ownedBy, pass_authors, targetFrom_pass, Silent, pendingAuthors, length_translate,
  authors_passing, convertToTypst_eq_pass
-/
import Bindery.Proofs.StreamPieces
import Mathlib.Data.List.Induction

namespace Bindery.Convert

open Markup (literal)

/-! ### The table -/

/-- What a prose container becomes inside `depth` chapters. Images have no counterpart, and of the kinds of
    links only three have one. -/
def counterpart (depth : Nat) : Markdown.Tag → Option Typst.Tag
  | .paragraph => some .paragraph
  | .heading level =>
    some (plainHeading (if depth > 1 then clampHeading (level + (depth - 1 : Nat)) else level))
  | .blockQuote => some (.quote .block .auto none)
  | .codeBlock .indented => some (.codeBlock none .block)
  | .codeBlock (.fenced info) => some (.codeBlock (if info = "" then none else some info) .block)
  | .list none => some (.bulletList none false)
  | .list (some start) => some (.numberedList start none false)
  | .item => some .item
  | .emphasis => some .emphasis
  | .strong => some .strong
  | .strikethrough => some .strikethrough
  | .link .inline destination _ => some (.link .content destination)
  | .link .autolink destination _ => some (.link .autolink destination)
  | .link .email destination _ => some (.link .url ("mailto:" ++ destination))
  | .link _ _ _ => none
  | .image _ _ _ => none
  | .table alignments => some (.table (alignments.map cellAlignment))
  | .tableHead => some .tableHead
  | .tableRow => some .tableRow
  | .tableCell => some .tableCell

/-- What an embedded prose event becomes, and what is remembered after it. -/
def translateProse (memory : Memory) : Markdown.Event → List Typst.Event × Memory
  | .start tag =>
    (((counterpart memory.depth tag).map .start).toList,
      if isCodeTag tag then { memory with codeDepth := memory.codeDepth + 1 } else memory)
  | .finish tag =>
    (((counterpart memory.depth tag).map .finish).toList,
      if isCodeTag tag then { memory with codeDepth := memory.codeDepth - 1 } else memory)
  | .text body =>
    (if memory.codeDepth = 0 ∧ isDisplayFormula body then [] else [.text body], memory)
  | .code body => ([.code body], memory)
  | .softBreak => ([.text " "], memory)
  | .hardBreak => ([.paragraphBreak], memory)
  | .html _ => ([], memory)
  | .rule => ([], memory)

/-- What a structural event becomes, and what is remembered after it. -/
def translate (memory : Memory) : Book.Event → List Typst.Event × Memory
  | .title body => ([.documentSet "title" (literal body)], memory)
  | .start .authorList => ([], { memory with authors := [] })
  | .author name => ([], { memory with authors := memory.authors ++ [name] })
  | .finish .authorList =>
    (if memory.authors = [] then [] else [.documentSet "author" (authorArray memory.authors)], memory)
  | .start (.chapter _ name _ _) =>
    let heading := plainHeading (clampHeading (1 + (memory.depth : Int)))
    ([.start heading, .text name, .finish heading], { memory with depth := memory.depth + 1 })
  | .finish (.chapter _ _ _ _) =>
    ([.call none "pagebreak" ["weak: true"]], { memory with depth := memory.depth - 1 })
  | .prose inner => translateProse memory inner
  | .root _ | .separator => ([], memory)
  | .start (.part _ _) | .finish (.part _ _) => ([], memory)
  | .start (.content _) | .finish (.content _) => ([], memory)

/-- The pass: one event after the other, each as the table says. -/
def pass (memory : Memory) : List Book.Event → List Typst.Event
  | [] => []
  | event :: rest => (translate memory event).1 ++ pass (translate memory event).2 rest

def Memory.passing (memory : Memory) (events : List Book.Event) : Memory :=
  events.foldl (fun memory event => (translate memory event).2) memory

theorem passing_append (memory : Memory) (before : List Book.Event) (event : Book.Event) :
    memory.passing (before ++ [event]) = (translate (memory.passing before) event).2 := by
  simp [Memory.passing]

theorem pass_append (memory : Memory) (before behind : List Book.Event) :
    pass memory (before ++ behind) = pass memory before ++ pass (memory.passing before) behind := by
  induction before generalizing memory with
  | nil => rfl
  | cons event rest ih =>
      rw [List.cons_append, pass, ih, pass, List.append_assoc]
      rfl

/-! ### One prose event -/

/-- An event with an owner that leaves prose wrapped, and an event without one, are touched by no other
    stage. -/
theorem untouched_of_owner {stage other : Stage} (wraps : stage ≠ .content) (differ : other ≠ stage)
    {event : Event} (owned : owner event = none ∨ owner event = some stage) :
    other.touches event = false := by
  rcases owned with none | some
  · simp [Stage.touches, none]
  · simp [Stage.touches, some, differ.symm, wraps]

/-- A stream that no stage touches passes all of them. -/
theorem convertFrom_of_untouched {stages : List Stage} {events : List Event} (memory : Memory)
    (untouched : ∀ stage ∈ stages, ∀ event ∈ events, stage.touches event = false) :
    convertFrom memory stages events = events := by
  induction stages with
  | nil => rfl
  | cons stage later ih =>
      rw [convertFrom_cons, run_of_untouched memory (untouched stage List.mem_cons_self)]
      exact ih fun other member => untouched other (List.mem_cons_of_mem _ member)

/-- Among stages of which none runs twice, an event becomes what its owner makes of it. -/
theorem convertFrom_owned {stages : List Stage} (distinct : stages.Nodup) {stage : Stage}
    (wraps : stage ≠ .content) (present : stage ∈ stages) (memory : Memory) {event : Event}
    (owned : owner event = some stage) :
    convertFrom memory stages [event] = (stage.replace memory event).1 := by
  induction stages with
  | nil => cases present
  | cons first later ih =>
      rcases List.nodup_cons.mp distinct with ⟨notLater, distinctLater⟩
      by_cases same : first = stage
      · subst same
        rw [convertFrom_cons, run_singleton]
        refine convertFrom_of_untouched memory fun other member target replaced => ?_
        have differ : other ≠ first := fun same => notLater (same ▸ member)
        have kept := owner_of_replaced wraps replaced
        rw [owned] at kept
        exact untouched_of_owner wraps differ kept
      · have passes : first.run memory [event] = [event] :=
          run_of_untouched memory fun single member => by
            rw [List.mem_singleton.mp member]
            exact untouched_of_owner wraps same (.inr owned)
        rw [convertFrom_cons, passes]
        exact ih distinctLater ((List.mem_cons.mp present).resolve_left (Ne.symm same))

/-- Bare prose becomes what its owner makes of it if the owner is among the stages. -/
theorem convertFrom_ownedProse {stages : List Stage} (distinct : stages.Nodup)
    {event : Markdown.Event} {stage : Stage} (owned : ownerOfProse event = some stage)
    (present : stage ∈ stages) (memory : Memory) :
    convertFrom memory stages [.markdown event] = (stage.replace memory (.markdown event)).1 := by
  have wraps : stage ≠ .content := by
    rintro rfl
    exact absurd (forProse_of_ownerOfProse owned) (by decide)
  exact convertFrom_owned distinct wraps present memory owned

/-- Bare prose without an owner among the stages stays and is dropped with what is left of prose. -/
theorem filter_convertFrom_strayProse {stages : List Stage} {event : Markdown.Event}
    (stray : ∀ stage ∈ stages, ownerOfProse event ≠ some stage) (memory : Memory) :
    filterDialect .typst (convertFrom memory stages [.markdown event]) = [] := by
  have noContent : ownerOfProse event ≠ some .content := fun owned =>
    absurd (forProse_of_ownerOfProse owned) (by decide)
  have passes : convertFrom memory stages [.markdown event] = [.markdown event] := by
    refine convertFrom_of_untouched memory fun stage present single member => ?_
    rw [List.mem_singleton.mp member]
    simp [Stage.touches, owner, stray stage present, noContent]
  rw [passes]
  rfl

/-- The owner of a container replaces both of its ends, or drops both. -/
theorem replace_container {tag : Markdown.Tag} {stage : Stage} (owned : ownerOfTag tag = some stage)
    (memory : Memory) :
    (stage.replace memory (.markdown (.start tag))).1 =
        ((stage.target tag).map fun target => Event.typst (.start target)).toList ∧
      (stage.replace memory (.markdown (.finish tag))).1 =
        ((stage.target tag).map fun target => Event.typst (.finish target)).toList := by
  cases tag with
  | list start => cases start <;> cases owned <;> exact ⟨rfl, rfl⟩
  | codeBlock kind => cases kind <;> cases owned <;> exact ⟨rfl, rfl⟩
  | image => cases owned
  | _ => cases owned; exact ⟨rfl, rfl⟩

/-- The table for containers is what the owners make of them after they have been moved down. -/
theorem counterpart_eq (depth : Nat) (tag : Markdown.Tag) :
    counterpart depth tag =
      (ownerOfTag tag).bind fun stage => stage.target (loweredTag (depth - 1) tag) := by
  cases tag with
  | heading level =>
      have moved : 0 < depth - 1 ↔ 1 < depth := Nat.sub_pos_iff_lt
      simp only [counterpart, ownerOfTag, Stage.target, loweredTag, headingTag, Option.bind_some, moved]
  | list start => cases start <;> rfl
  | codeBlock kind => cases kind <;> rfl
  | link kind destination title => cases kind <;> rfl
  | _ => rfl

theorem ownerOfTag_loweredTag (depth : Nat) (tag : Markdown.Tag) :
    ownerOfTag (loweredTag depth tag) = ownerOfTag tag := by
  cases tag <;> rfl

theorem ownerOfProse_lowered (depth : Nat) (inner : Markdown.Event) :
    ownerOfProse (lowered depth inner) = ownerOfProse inner := by
  cases inner with
  | start tag => rw [lowered_start, ownerOfProse, ownerOfTag_loweredTag, ownerOfProse]
  | finish tag => rw [lowered_finish, ownerOfProse, ownerOfTag_loweredTag, ownerOfProse]
  | _ =>
      unfold lowered
      split <;> rfl

/-- The owner of prose makes of it what the table says, after its headings have been moved down. -/
theorem filter_replace_lowered (memory : Memory) {inner : Markdown.Event} {stage : Stage}
    (owned : ownerOfProse inner = some stage) :
    filterDialect .typst (stage.replace memory (.markdown (lowered (memory.depth - 1) inner))).1 =
      (translateProse memory inner).1.map .typst := by
  have stays (event : Markdown.Event) (leaf : shiftHeading (memory.depth - 1) event = event) :
      lowered (memory.depth - 1) event = event := by
    unfold lowered
    rw [leaf, ite_self]
  have container {tag : Markdown.Tag} (ownedTag : ownerOfTag tag = some stage) :
      ownerOfTag (loweredTag (memory.depth - 1) tag) = some stage ∧
        counterpart memory.depth tag = stage.target (loweredTag (memory.depth - 1) tag) := by
    rw [ownerOfTag_loweredTag, counterpart_eq, ownedTag]
    exact ⟨rfl, rfl⟩
  cases inner with
  | start tag =>
      obtain ⟨ownedLowered, becomes⟩ := container owned
      rw [lowered_start, (replace_container ownedLowered memory).1, translateProse, becomes]
      cases stage.target _ <;> rfl
  | finish tag =>
      obtain ⟨ownedLowered, becomes⟩ := container owned
      rw [lowered_finish, (replace_container ownedLowered memory).2, translateProse, becomes]
      cases stage.target _ <;> rfl
  | text body =>
      rw [stays _ rfl]
      cases owned
      simp only [Stage.replace, replaceText, opensCode, closesCode, translateProse,
        Bool.false_eq_true, if_false]
      split <;> rfl
  | code | html | softBreak | hardBreak => rw [stays _ rfl]; cases owned; rfl
  | rule => cases owned

/-- Prose without an owner has no counterpart. -/
theorem translateProse_unowned (memory : Memory) {inner : Markdown.Event}
    (unowned : ownerOfProse inner = none) : (translateProse memory inner).1 = [] := by
  cases inner with
  | start tag | finish tag =>
      have noOwner : ownerOfTag tag = none := unowned
      rw [translateProse, counterpart_eq, noOwner]
      rfl
  | rule => rfl
  | _ => cases unowned

/-- Prose becomes what the table says, after its headings have been moved down, unless the stage that owns
    it does not run. -/
theorem filter_convertFrom_prose (runs : Stage → Bool) (memory : Memory) (inner : Markdown.Event) :
    filterDialect .typst (convertFrom memory (Stage.forProse.tail.filter runs)
        [.markdown (lowered (memory.depth - 1) inner)]) =
      (if (ownerOfProse inner).all runs then (translateProse memory inner).1 else []).map .typst := by
  have sameOwner := ownerOfProse_lowered (memory.depth - 1) inner
  have distinct : (Stage.forProse.tail.filter runs).Nodup :=
    List.filter_sublist.nodup (by decide)
  cases owned : ownerOfProse inner with
  | none =>
      rw [filter_convertFrom_strayProse (fun stage _ => by rw [sameOwner, owned]; simp) memory,
        translateProse_unowned memory owned]
      rfl
  | some stage =>
      rw [owned] at sameOwner
      by_cases enabled : runs stage = true
      · have present : stage ∈ Stage.forProse.tail.filter runs :=
          List.mem_filter.mpr ⟨forProse_of_ownerOfProse owned, enabled⟩
        rw [convertFrom_ownedProse distinct sameOwner present, filter_replace_lowered memory owned]
        simp [enabled]
      · have stray : ∀ other ∈ Stage.forProse.tail.filter runs,
            ownerOfProse (lowered (memory.depth - 1) inner) ≠ some other := by
          rintro other present same
          rw [sameOwner] at same
          rw [← Option.some.inj same] at present
          exact enabled (List.mem_filter.mp present).2
        rw [filter_convertFrom_strayProse stray memory]
        simp [enabled]

/-- What the pass remembers of prose is the count of open code blocks. -/
theorem translateProse_memory (memory : Memory) (inner : Markdown.Event) :
    (translateProse memory inner).2 = { memory with
      codeDepth := codeDepthAfter memory.codeDepth (.markdown (lowered (memory.depth - 1) inner)) } := by
  have sameKind (tag : Markdown.Tag) :
      isCodeTag (loweredTag (memory.depth - 1) tag) = isCodeTag tag := by
    cases tag <;> rfl
  cases inner with
  | start tag =>
      rw [lowered_start, codeDepthAfter_start, sameKind, translateProse]
      split <;> rfl
  | finish tag =>
      rw [lowered_finish, codeDepthAfter_finish, sameKind, translateProse]
      split <;> rfl
  | _ =>
      unfold lowered
      split <;> rfl

/-! ### Selected stages -/

/-- An embedded prose event becomes what the table says, unless the stage that owns it does not run. -/
theorem targetFrom_embedded {settings : Settings} (moves : settings.isEnabled .chapters = true)
    (unwraps : settings.isEnabled .content = true) (memory : Memory) (inner : Markdown.Event) :
    targetFrom settings memory [.book (.prose inner)] =
        (if (ownerOfProse inner).all settings.isEnabled then (translateProse memory inner).1
          else []).map .typst ∧
      Leads settings.selectedStages memory [.book (.prose inner)] (translateProse memory inner).2 := by
  have sameMemory := translateProse_memory memory inner
  obtain ⟨lowers, leads⟩ := convertFrom_structural settings memory [inner]
  rw [moved, if_pos moves] at lowers
  change convertFrom memory (Stage.structural.filter settings.isEnabled) [.book (.prose inner)] =
    [.book (.prose (lowered (memory.depth - 1) inner))] at lowers
  change Leads (Stage.structural.filter settings.isEnabled) memory [.book (.prose inner)] memory at leads
  constructor
  · rw [targetFrom, selectedStages_of_unwraps unwraps, convertFrom_stages, lowers, convertFrom_cons]
    exact filter_convertFrom_prose settings.isEnabled memory inner
  · have forProse : ∀ stage ∈ Stage.forProse.tail.filter settings.isEnabled,
        stage ∈ Stage.forProse.tail := fun stage member => (List.mem_filter.mp member).1
    have leadsProse := leads_forProse forProse memory
      [.markdown (lowered (memory.depth - 1) inner)]
    -- The structural stages do not read the count of code blocks.
    have blind : ∀ stage ∈ Stage.structural.filter settings.isEnabled,
        stage.Agrees memory (translateProse memory inner).2 := by
      intro stage member
      have structural := (List.mem_filter.mp member).1
      rw [sameMemory]
      cases stage with
      | authors | chapters => exact rfl
      | text => exact absurd structural (by decide)
      | _ => exact trivial
    rw [selectedStages_of_unwraps unwraps]
    apply leads_stages (leads.of_agrees blind)
    rw [lowers, sameMemory]
    exact ⟨trivial, leadsProse⟩

/-- The structural stages make of their events what the table says. -/
theorem replace_structural {stage : Stage} (structural : stage ∈ Stage.structural)
    {event : Book.Event} (owned : ownerOfBook event = some stage) (memory : Memory) :
    stage.replace memory (.book event) =
        ((translate memory event).1.map .typst, (translate memory event).2) ∧
      ∀ target ∈ (translate memory event).1, isPlainTarget (.typst target) = true := by
  cases event with
  | title body =>
      cases owned
      exact ⟨rfl, by simp [translate, isPlainTarget, opensCode, closesCode]⟩
  | author name =>
      cases owned
      exact ⟨rfl, by simp [translate]⟩
  | start tag =>
      cases tag with
      | authorList =>
          cases owned
          exact ⟨rfl, by simp [translate]⟩
      | chapter =>
          cases owned
          exact ⟨rfl, by simp [translate, isPlainTarget, opensCode, closesCode, plainHeading]⟩
      | part | content => cases owned
  | finish tag =>
      cases tag with
      | authorList =>
          cases owned
          cases gathered : memory.authors <;>
            simp [Stage.replace, replaceAuthors, translate, gathered, isPlainTarget, opensCode,
              closesCode]
      | chapter =>
          cases owned
          exact ⟨rfl, by simp [translate, isPlainTarget, opensCode, closesCode]⟩
      | part | content => cases owned
  | prose inner =>
      cases owned
      exact absurd structural (by decide)
  | root | separator => cases owned

/-- An event that no stage converts has no counterpart and leaves no trace. -/
theorem translate_unowned {event : Book.Event} (unowned : ownerOfBook event = none)
    (memory : Memory) : translate memory event = ([], memory) := by
  cases event with
  | start tag => cases tag <;> first | rfl | cases unowned
  | finish tag => cases tag <;> first | rfl | cases unowned
  | root | separator => rfl
  | title | author | prose => cases unowned

/-- What a stage for prose converts is embedded prose. -/
theorem exists_prose_of_owned {stage : Stage} (notStructural : stage ∉ Stage.structural)
    {event : Book.Event} (owned : ownerOfBook event = some stage) : ∃ inner, event = .prose inner := by
  cases event with
  | prose inner => exact ⟨inner, rfl⟩
  | start tag => cases tag <;> cases owned <;> exact absurd (by decide) notStructural
  | finish tag => cases tag <;> cases owned <;> exact absurd (by decide) notStructural
  | title | author => cases owned; exact absurd (by decide) notStructural
  | root | separator => cases owned

/-- The stage that makes something of an event after it has been unwrapped. -/
def origin : Book.Event → Option Stage
  | .prose inner => ownerOfProse inner
  | event => ownerOfBook event

theorem origin_of_structural {stage : Stage} (structural : stage ∈ Stage.structural)
    {event : Book.Event} (owned : ownerOfBook event = some stage) : origin event = some stage := by
  cases event with
  | prose inner =>
      cases owned
      exact absurd structural (by decide)
  | _ => exact owned

/-- One structural event becomes what the table says, unless its stage does not run. What is remembered of
    it is the same. -/
theorem targetFrom_singleton {settings : Settings} (moves : settings.isEnabled .chapters = true)
    (unwraps : settings.isEnabled .content = true) (memory : Memory) (event : Book.Event) :
    targetFrom settings memory [.book event] =
        (if (origin event).all settings.isEnabled then (translate memory event).1 else []).map .typst ∧
      Leads settings.selectedStages memory [.book event] (translate memory event).2 := by
  cases owned : ownerOfBook event with
  | none =>
      rw [translate_unowned owned, ite_self]
      exact targetFrom_unowned settings memory owned
  | some stage =>
      by_cases structural : stage ∈ Stage.structural
      · obtain ⟨replaced, plain⟩ := replace_structural structural owned memory
        obtain ⟨becomes, leads⟩ :=
          targetFrom_structural settings structural owned replaced (by simpa using plain)
        refine ⟨?_, leads⟩
        rw [becomes, origin_of_structural structural owned, Option.all_some]
        split <;> rfl
      · obtain ⟨inner, rfl⟩ := exists_prose_of_owned structural owned
        exact targetFrom_embedded moves unwraps memory inner

theorem targetFrom_nil (settings : Settings) (memory : Memory) : targetFrom settings memory [] = [] := by
  have nothing : convertFrom memory settings.selectedStages [] = [] :=
    (convertFrom_of_quiet memory fun _ _ _ member => absurd member List.not_mem_nil).1
  rw [targetFrom, nothing]
  rfl

/-- Events of one structural stage become what the pass makes of them, or nothing if the stage does not
    run. -/
theorem targetFrom_ownedBy (settings : Settings) {stage : Stage} (structural : stage ∈ Stage.structural)
    (memory : Memory) {events : List Book.Event} (owned : ∀ event ∈ events, ownerOfBook event = some stage) :
    targetFrom settings memory (events.map .book) =
        (if settings.isEnabled stage then pass memory events else []).map .typst ∧
      Leads settings.selectedStages memory (events.map .book) (memory.passing events) := by
  induction events generalizing memory with
  | nil =>
      refine ⟨?_, leads_nil _ memory⟩
      rw [List.map_nil, targetFrom_nil, pass, ite_self]
      rfl
  | cons event rest ih =>
      obtain ⟨replaced, plain⟩ := replace_structural structural (owned event List.mem_cons_self) memory
      obtain ⟨becomes, leads⟩ := targetFrom_structural settings structural
        (owned event List.mem_cons_self) replaced (by simpa using plain)
      obtain ⟨becomesRest, leadsRest⟩ :=
        ih (translate memory event).2 fun other member => owned other (List.mem_cons_of_mem _ member)
      rw [List.map_cons, ← List.singleton_append]
      refine ⟨?_, leads.append leadsRest⟩
      rw [targetFrom_append leads, becomes, becomesRest, pass]
      split
      · exact List.map_append.symm
      · rfl

/-- Authors in a row are listed at the end, behind those that were gathered before them. -/
theorem pass_authors (memory : Memory) (authors : List String) :
    pass memory (authors.map Book.Event.author ++ [.finish .authorList]) =
      if memory.authors ++ authors = [] then []
      else [.documentSet "author" (authorArray (memory.authors ++ authors))] := by
  induction authors generalizing memory with
  | nil => simp [pass, translate]
  | cons author rest ih =>
      rw [List.map_cons, List.cons_append, pass, ih]
      simp [translate]

/-- With every stage enabled, structural events become what the pass makes of them. -/
theorem targetFrom_pass (memory : Memory) (events : List Book.Event) :
    targetFrom .everything memory (events.map .book) = (pass memory events).map .typst := by
  induction events generalizing memory with
  | nil => exact targetFrom_nil .everything memory
  | cons event rest ih =>
      have moves : Settings.everything.isEnabled .chapters = true := rfl
      obtain ⟨becomes, leads⟩ := targetFrom_singleton moves rfl memory event
      have always : (origin event).all Settings.everything.isEnabled = true := by
        cases origin event <;> rfl
      rw [List.map_cons, ← List.singleton_append, targetFrom_append leads, becomes, always, if_pos rfl,
        ih, pass, List.map_append]

/-! ### What has no counterpart -/

/-- The authors named since the last start of a list of authors. -/
def pendingAuthors (events : List Book.Event) : List String :=
  (events.reverse.takeWhile (· ≠ .start .authorList)).reverse.filterMap fun
    | .author name => some name
    | _ => none

/-- The events that become nothing at their place. An author is listed where the list of authors
    finishes, and nowhere if it never does. -/
inductive Silent (memory : Memory) : Book.Event → Prop where
  | root (path : Path) : Silent memory (.root path)
  | separator : Silent memory .separator
  | partStart (title : Option String) (number : Option Int) :
      Silent memory (.start (.part title number))
  | partFinish (title : Option String) (number : Option Int) :
      Silent memory (.finish (.part title number))
  | contentStart (kind : Book.ContentKind) : Silent memory (.start (.content kind))
  | contentFinish (kind : Book.ContentKind) : Silent memory (.finish (.content kind))
  | authorsStart : Silent memory (.start .authorList)
  | author (name : String) : Silent memory (.author name)
  | noAuthors (empty : memory.authors = []) : Silent memory (.finish .authorList)
  | html (body : String) : Silent memory (.prose (.html body))
  | rule : Silent memory (.prose .rule)
  | formula (body : String) (outside : memory.codeDepth = 0) (display : isDisplayFormula body = true) :
      Silent memory (.prose (.text body))
  | imageStart (kind : Markdown.LinkKind) (destination title : String) :
      Silent memory (.prose (.start (.image kind destination title)))
  | imageFinish (kind : Markdown.LinkKind) (destination title : String) :
      Silent memory (.prose (.finish (.image kind destination title)))
  | linkStart (kind : Markdown.LinkKind) (destination title : String)
      (other : kind ≠ .inline ∧ kind ≠ .autolink ∧ kind ≠ .email) :
      Silent memory (.prose (.start (.link kind destination title)))
  | linkFinish (kind : Markdown.LinkKind) (destination title : String)
      (other : kind ≠ .inline ∧ kind ≠ .autolink ∧ kind ≠ .email) :
      Silent memory (.prose (.finish (.link kind destination title)))

/-- How many target events an event has if it has any: a chapter starts with a heading around its name. -/
def counterparts : Book.Event → Nat
  | .start (.chapter _ _ _ _) => 3
  | _ => 1

theorem translate_of_silent {memory : Memory} {event : Book.Event} (silent : Silent memory event) :
    (translate memory event).1 = [] := by
  have noLink {kind : Markdown.LinkKind} (depth : Nat) (destination title : String)
      (other : kind ≠ .inline ∧ kind ≠ .autolink ∧ kind ≠ .email) :
      counterpart depth (.link kind destination title) = none := by
    obtain ⟨inline, autolink, email⟩ := other
    cases kind <;> first | rfl | contradiction
  cases silent with
  | noAuthors empty => exact if_pos empty
  | formula body outside display => exact if_pos ⟨outside, display⟩
  | linkStart kind destination title other => simp [translate, translateProse, noLink _ _ _ other]
  | linkFinish kind destination title other => simp [translate, translateProse, noLink _ _ _ other]
  | _ => rfl

/-- Only the ends of images and of links of other kinds have no counterpart. -/
theorem silent_of_counterpart_none {memory : Memory} {tag : Markdown.Tag}
    (none : counterpart memory.depth tag = none) :
    Silent memory (.prose (.start tag)) ∧ Silent memory (.prose (.finish tag)) := by
  cases tag with
  | image kind destination title =>
      exact ⟨.imageStart kind destination title, .imageFinish kind destination title⟩
  | link kind destination title =>
      have other : kind ≠ .inline ∧ kind ≠ .autolink ∧ kind ≠ .email := by
        cases kind <;> simp_all [counterpart]
      exact ⟨.linkStart kind destination title other, .linkFinish kind destination title other⟩
  | codeBlock kind => cases kind <;> cases none
  | list start => cases start <;> cases none
  | _ => cases none

/-- Every event that is not silent has its counterparts. -/
theorem length_translate {memory : Memory} {event : Book.Event} (audible : ¬ Silent memory event) :
    (translate memory event).1.length = counterparts event := by
  cases event with
  | root path => exact absurd (.root path) audible
  | separator => exact absurd .separator audible
  | title body => rfl
  | author name => exact absurd (.author name) audible
  | start tag =>
      cases tag with
      | part title number => exact absurd (.partStart title number) audible
      | content kind => exact absurd (.contentStart kind) audible
      | authorList => exact absurd .authorsStart audible
      | chapter => rfl
  | finish tag =>
      cases tag with
      | part title number => exact absurd (.partFinish title number) audible
      | content kind => exact absurd (.contentFinish kind) audible
      | authorList =>
          have gathered : memory.authors ≠ [] := fun empty => audible (.noAuthors empty)
          simp [translate, gathered, counterparts]
      | chapter => rfl
  | prose inner =>
      cases inner with
      | text body =>
          have shown : ¬ (memory.codeDepth = 0 ∧ isDisplayFormula body = true) := fun display =>
            audible (.formula body display.1 display.2)
          simp only [translate, translateProse, if_neg shown]
          rfl
      | html body => exact absurd (.html body) audible
      | rule => exact absurd .rule audible
      | start tag =>
          cases target : counterpart memory.depth tag with
          | some target' => simp [translate, translateProse, target, counterparts]
          | none => exact absurd (silent_of_counterpart_none target).1 audible
      | finish tag =>
          cases target : counterpart memory.depth tag with
          | some target' => simp [translate, translateProse, target, counterparts]
          | none => exact absurd (silent_of_counterpart_none target).2 audible
      | code | softBreak | hardBreak => rfl

/-- An event that starts no list of authors adds its own author, if it names one. -/
theorem pendingAuthors_append {event : Book.Event} (goesOn : event ≠ .start .authorList)
    (before : List Book.Event) :
    pendingAuthors (before ++ [event]) = pendingAuthors before ++ pendingAuthors [event] := by
  simp [pendingAuthors, goesOn]

theorem authors_translate (memory : Memory) {event : Book.Event} (goesOn : event ≠ .start .authorList) :
    (translate memory event).2.authors = memory.authors ++ pendingAuthors [event] := by
  cases event with
  | start tag =>
      cases tag with
      | authorList => exact absurd rfl goesOn
      | _ => simp [translate, pendingAuthors]
  | finish tag => cases tag <;> simp [translate, pendingAuthors]
  | prose inner => simp [translate, translateProse_memory, pendingAuthors]
  | _ => simp [translate, pendingAuthors]

/-- The pass remembers the authors named since the last start of a list of authors. -/
theorem authors_passing (events : List Book.Event) :
    (Memory.initial.passing events).authors = pendingAuthors events := by
  induction events using List.reverseRecOn with
  | nil => rfl
  | append_singleton before event ih =>
      rw [passing_append]
      by_cases starts : event = .start .authorList
      · subst starts
        simp [translate, pendingAuthors]
      · rw [authors_translate _ starts, ih, pendingAuthors_append starts]

/-- An author is pending until the next start of a list of authors. -/
theorem mem_pendingAuthors (before : List Book.Event) (name : String) {between : List Book.Event}
    (goesOn : .start .authorList ∉ between) :
    name ∈ pendingAuthors (before ++ .author name :: between) := by
  induction between using List.reverseRecOn with
  | nil => simp [pendingAuthors]
  | append_singleton between event ih =>
      rw [List.mem_append, not_or, List.mem_singleton] at goesOn
      rw [← List.cons_append, ← List.append_assoc, pendingAuthors_append (Ne.symm goesOn.2)]
      exact List.mem_append_left _ (ih goesOn.1)

/-! ### The whole conversion -/

/-- What the pass remembers after the beginning of a sequence. -/
abbrev recalled (before : List Book.Event) : Memory := Memory.initial.passing before

/-- The conversion with every stage enabled is the pass. Each event becomes its own piece, and the pieces
    come in the order of the events; only silent events have an empty piece, and the others have one
    counterpart each, a chapter three. The authors at the end of a list are those named since its start, so
    that only authors that no end follows before the next start are listed nowhere. -/
theorem convertToTypst_eq_pass (events : List Book.Event) :
    convertToTypst .everything (events.map .book) = (pass .initial events).map .typst ∧
      (∀ before event behind, events = before ++ event :: behind →
        pass .initial events = pass .initial before ++ (translate (recalled before) event).1 ++
            pass (recalled (before ++ [event])) behind ∧
          (Silent (recalled before) event ∧ (translate (recalled before) event).1 = [] ∨
            ¬ Silent (recalled before) event ∧
              (translate (recalled before) event).1.length = counterparts event) ∧
          (recalled before).authors = pendingAuthors before) ∧
      ∀ before name between behind,
        events = before ++ .author name :: between ++ .finish .authorList :: behind →
          .start .authorList ∉ between →
            ∃ names, name ∈ names ∧
              (translate (recalled (before ++ .author name :: between)) (.finish .authorList)).1 =
                [.documentSet "author" (authorArray names)] := by
  refine ⟨targetFrom_pass .initial events, ?_, ?_⟩
  · rintro before event behind rfl
    refine ⟨?_, ?_, authors_passing before⟩
    · rw [pass_append, pass, List.append_assoc, recalled, recalled, passing_append]
    · by_cases silent : Silent (recalled before) event
      · exact .inl ⟨silent, translate_of_silent silent⟩
      · exact .inr ⟨silent, length_translate silent⟩
  · rintro before name between behind rfl goesOn
    have listed := mem_pendingAuthors before name goesOn
    rw [← authors_passing] at listed
    refine ⟨_, listed, ?_⟩
    exact if_neg (List.ne_nil_of_mem listed)

end Bindery.Convert
