/-
Module: Bindery.Proofs.MadeEvents
Layer: Proofs
Purpose: The vocabulary of conversions. Of the target events, stages make starts and finishes of the
  containers in the table of what prose becomes, texts, inline code, breaks, and the rules for title and
  authors with their literals. A source without target events becomes a document of nothing else, whatever
  stages are enabled.
Imports: Bindery.Proofs.OnePass
Main exports: IsMade, AllMade, isMade_translate, allMade_of_own_replaced, allMade_replace,
  allMade_convertToTypst
-/
import Bindery.Proofs.OnePass

namespace Bindery.Convert

open Markup (literal)

/-! ### What stages make -/

/-- The target events that stages make. -/
inductive IsMade : Typst.Event → Prop where
  | start {stage : Stage} {tag : Markdown.Tag} {target : Typst.Tag} (converts : Converts stage tag target) :
      IsMade (.start target)
  | finish {stage : Stage} {tag : Markdown.Tag} {target : Typst.Tag} (converts : Converts stage tag target) :
      IsMade (.finish target)
  | text (body : String) : IsMade (.text body)
  | code (body : String) : IsMade (.code body)
  | paragraphBreak : IsMade .paragraphBreak
  | pageBreak : IsMade (.call none "pagebreak" ["weak: true"])
  | title (body : String) : IsMade (.documentSet "title" (literal body))
  | authors (names : List String) : IsMade (.documentSet "author" (authorArray names))

def AllMade (events : List Event) : Prop := ∀ target, .typst target ∈ events → IsMade target

theorem allMade_nil : AllMade [] := fun _ member => absurd member List.not_mem_nil

theorem AllMade.append {first second : List Event} (made : AllMade first) (made' : AllMade second) :
    AllMade (first ++ second) := by
  intro target member
  exact (List.mem_append.mp member).elim (made target) (made' target)

theorem allMade_map {targets : List Typst.Event} (made : ∀ target ∈ targets, IsMade target) :
    AllMade (targets.map .typst) := by
  intro target member
  obtain ⟨_, inTargets, same⟩ := List.mem_map.mp member
  cases same
  exact made target inTargets

theorem allMade_single {event : Event} (noTarget : event.dialect ≠ some .typst) : AllMade [event] := by
  intro target member
  rw [← List.mem_singleton.mp member] at noTarget
  exact absurd rfl noTarget

theorem isMade_counterpart {depth : Nat} {tag : Markdown.Tag} {target : Typst.Tag}
    (converted : counterpart depth tag = some target) : IsMade (.start target) ∧ IsMade (.finish target) := by
  rw [counterpart_eq] at converted
  obtain ⟨stage, _, isTarget⟩ := Option.bind_eq_some_iff.mp converted
  have converts := converts_of_target isTarget
  exact ⟨.start converts, .finish converts⟩

theorem isMade_translateProse (memory : Memory) (event : Markdown.Event) :
    ∀ target ∈ (translateProse memory event).1, IsMade target := by
  have nothing : ∀ target ∈ ([] : List Typst.Event), IsMade target :=
    fun _ member => absurd member List.not_mem_nil
  cases event with
  | start tag =>
      intro target member
      obtain ⟨converted, isTarget, rfl⟩ := Option.map_eq_some_iff.mp (Option.mem_toList.mp member)
      exact (isMade_counterpart isTarget).1
  | finish tag =>
      intro target member
      obtain ⟨converted, isTarget, rfl⟩ := Option.map_eq_some_iff.mp (Option.mem_toList.mp member)
      exact (isMade_counterpart isTarget).2
  | text body =>
      intro target member
      simp only [translateProse] at member
      split at member
      · cases member
      · rw [List.mem_singleton.mp member]
        exact .text body
  | code body => simpa [translateProse] using IsMade.code body
  | softBreak => simpa [translateProse] using IsMade.text " "
  | hardBreak => simpa [translateProse] using IsMade.paragraphBreak
  | html | rule => exact nothing

/-- All that the table of the whole conversion gives is made by stages. -/
theorem isMade_translate (memory : Memory) (event : Book.Event) :
    ∀ target ∈ (translate memory event).1, IsMade target := by
  have nothing : ∀ target ∈ ([] : List Typst.Event), IsMade target :=
    fun _ member => absurd member List.not_mem_nil
  cases event with
  | title body => simpa [translate] using IsMade.title body
  | prose inner => exact isMade_translateProse memory inner
  | start tag =>
      cases tag with
      | chapter status name source number =>
          have heading := Converts.heading (clampHeading (1 + (memory.depth : Int)))
          simp [translate, IsMade.start heading, IsMade.finish heading, IsMade.text name]
      | part | content | authorList => exact nothing
  | finish tag =>
      cases tag with
      | chapter status name source number => simpa [translate] using IsMade.pageBreak
      | authorList =>
          simp only [translate]
          split
          · exact nothing
          · simpa using IsMade.authors memory.authors
      | part | content => exact nothing
  | author | root | separator => exact nothing

/-- What a stage puts in place of an event of its own is made, unless it is prose that is unwrapped. -/
theorem allMade_of_own_replaced {stage : Stage} {event : Event} (owned : owner event = some stage)
    (memory : Memory) : AllMade (stage.replace memory event).1 := by
  have container {tag : Markdown.Tag} (ends : Typst.Tag → Typst.Event)
      (made : ∀ target, Converts stage tag target → IsMade (ends target)) :
      AllMade ((stage.target tag).map fun target => Event.typst (ends target)).toList := by
    intro target member
    obtain ⟨converted, isTarget, same⟩ := Option.map_eq_some_iff.mp (Option.mem_toList.mp member)
    cases same
    exact made converted (converts_of_target isTarget)
  cases event with
  | typst | foreign => cases owned
  | book inner =>
      by_cases structural : stage ∈ Stage.structural
      · rw [(replace_structural structural owned memory).1]
        exact allMade_map (isMade_translate memory inner)
      · obtain ⟨prose, rfl⟩ := exists_prose_of_owned structural owned
        cases owned
        exact allMade_single fun same => by cases same
  | markdown inner =>
      cases inner with
      | start tag =>
          rw [(replace_container owned memory).1]
          exact container .start fun _ => .start
      | finish tag =>
          rw [(replace_container owned memory).2]
          exact container .finish fun _ => .finish
      | text body =>
          cases owned
          simp only [Stage.replace, replaceText, opensCode, closesCode, Bool.false_eq_true, if_false]
          split
          · exact allMade_nil
          · intro target member
            cases List.mem_singleton.mp member
            exact .text body
      | code body =>
          cases owned
          intro target member
          cases List.mem_singleton.mp member
          exact .code body
      | softBreak =>
          cases owned
          intro target member
          cases List.mem_singleton.mp member
          exact .text " "
      | hardBreak =>
          cases owned
          intro target member
          cases List.mem_singleton.mp member
          exact .paragraphBreak
      | html => cases owned; exact allMade_nil
      | rule => cases owned

/-- Stages keep a stream made by stages. -/
theorem allMade_replace (stage : Stage) (memory : Memory) {event : Event} (made : AllMade [event]) :
    AllMade (stage.replace memory event).1 := by
  by_cases owned : owner event = some stage
  · exact allMade_of_own_replaced owned memory
  · cases touches : stage.touches event with
    | false =>
        rw [replace_of_untouched memory touches]
        exact made
    | true =>
        -- Embedded prose is moved down and stays embedded.
        obtain ⟨rfl, wrapped⟩ : stage = .chapters ∧ owner event = some .content := by
          simpa [Stage.touches, owned] using touches
        cases event with
        | book inner =>
            obtain ⟨prose, rfl⟩ := exists_prose_of_owned (by decide) wrapped
            exact allMade_single fun same => by cases same
        | markdown inner => exact absurd (forProse_of_ownerOfProse wrapped) (by decide)
        | typst | foreign => cases wrapped

theorem AllMade.run (stage : Stage) (memory : Memory) {events : List Event} (made : AllMade events) :
    AllMade (stage.run memory events) := by
  induction events generalizing memory with
  | nil => exact allMade_nil
  | cons event rest ih =>
      rw [run_cons]
      have madeFirst : AllMade [event] := fun target member =>
        made target (List.mem_singleton.mp member ▸ List.mem_cons_self)
      have madeRest : AllMade rest := fun target member => made target (List.mem_cons_of_mem event member)
      exact (allMade_replace stage memory madeFirst).append (ih _ madeRest)

/-- All target events of a conversion are made by its stages if there were none in the source. -/
theorem allMade_convertToTypst (settings : Settings) {source : List Event}
    (noTarget : ∀ event ∈ source, event.dialect ≠ some .typst) : AllMade (convertToTypst settings source) := by
  have through (stages : List Stage) {events : List Event} (made : AllMade events) :
      AllMade (convertFrom .initial stages events) := by
    induction stages generalizing events with
    | nil => exact made
    | cons stage later ih => exact ih (made.run stage .initial)
  have madeSource : AllMade source := fun target member => absurd rfl (noTarget _ member)
  intro target member
  exact through settings.selectedStages madeSource target (List.mem_filter.mp member).1

end Bindery.Convert
