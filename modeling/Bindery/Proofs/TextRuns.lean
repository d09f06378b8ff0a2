/-
Module: Bindery.Proofs.TextRuns
Layer: Proofs
Purpose: Joining texts as a normal form. The events that are no texts cut a stream into runs of texts, one
  before each of them and one behind the last; a run may be empty. A stream is given by its runs and by what
  stands between them. Joining puts one text in the place of each run that is not empty and changes nothing
  else, so two streams become the same just if they differ in how their texts are cut, and what has been
  joined stays as it is.
Imports: Bindery.Proofs.TokenText, Mathlib.Data.List.Chain
Main exports: others, runs, joined, Apart, eq_of_runs_of_others, runs_mergeFrom, mergeText_eq_mergeText_iff,
  mergeText_normalForm
-/
import Bindery.Proofs.TokenText
import Mathlib.Data.List.Chain

namespace Bindery.Prose

open Markdown (Event)

/-! ### Runs of texts -/

/-- The events of a stream that are no texts, in their order. -/
def others (events : List Event) : List Event := events.filter (!isText ·)

/-- The runs of texts of a stream: what stands before the first event that is no text, what stands between
    each two of them that follow each other, and what stands behind the last. A run may be empty. -/
def runs (events : List Event) : List (List Event) := events.splitOnP (!isText ·)

/-- A run with its texts joined to one text. An empty run stays empty. -/
def joined : List Event → List Event
  | [] => []
  | text :: more => [.text (payloads (text :: more))]

/-- Is at most one of two events a text? -/
def Apart (first second : Event) : Prop := ¬ (isText first ∧ isText second)

theorem isText_eq_false {event : Event} (differs : ∀ body, event ≠ .text body) : isText event = false := by
  cases event with
  | text body => exact absurd rfl (differs body)
  | _ => rfl

/-- A stream is given by its runs and by the events that are no texts. -/
theorem eq_of_runs_of_others {first second : List Event} (sameRuns : runs first = runs second)
    (sameOthers : others first = others second) : first = second := by
  unfold runs at sameRuns
  unfold others at sameOthers
  rw [← List.splitOnP_spec (p := (!isText ·)) first, sameRuns, sameOthers, List.splitOnP_spec]

theorem runs_text (body : String) (events : List Event) :
    runs (.text body :: events) = (runs events).modifyHead (.text body :: ·) := by
  simp [runs, List.splitOnP_cons_eq_if_modifyHead, isText]

/-- What has been read of a run is one run. -/
theorem runs_flush (run : Option String) : runs (flush run) = [flush run] := by
  cases run <;> rfl

/-- An event that is no text ends the run before it. -/
theorem runs_flush_other (run : Option String) {event : Event} (noText : isText event = false)
    (rest : List Event) : runs (flush run ++ event :: rest) = flush run :: runs rest := by
  apply List.splitOnP_append_cons_of_forall_mem
  · cases run <;> simp [flush, isText]
  · simp [noText]

theorem exists_runs_cons (events : List Event) : ∃ run more, runs events = run :: more :=
  List.exists_cons_of_ne_nil (List.splitOnP_ne_nil _ _)

/-! ### Joined runs -/

/-- Joining leaves a run of at most one text as it is. -/
theorem joined_flush (run : Option String) : joined (flush run) = flush run := by
  cases run <;> simp [flush, joined, payload]

theorem joined_joined (run : List Event) : joined (joined run) = joined run := by
  cases run <;> simp [joined, payload]

/-- Two texts in front of a run may be joined first. -/
theorem joined_text_text (first second : String) (run : List Event) :
    joined (.text first :: .text second :: run) = joined (.text (first ++ second) :: run) := by
  simp [joined, payload, String.append_assoc]

theorem map_joined_text_text (first second : String) (events : List Event) :
    (runs (.text first :: .text second :: events)).map joined =
      (runs (.text (first ++ second) :: events)).map joined := by
  obtain ⟨run, more, cut⟩ := exists_runs_cons events
  simp only [runs_text, cut, List.modifyHead_cons, List.map_cons, joined_text_text]

/-! ### What joining does to a stream

The induction is over the stream, with the run that has been read before it as one text in front. -/

theorem mergeFrom_other (run : Option String) {event : Event} (noText : isText event = false)
    (rest : List Event) : mergeFrom run (event :: rest) = flush run ++ event :: mergeFrom none rest := by
  cases event with
  | text body => cases noText
  | _ => rfl

/-- Joining keeps the events that are no texts. -/
theorem others_mergeFrom (run : Option String) (events : List Event) :
    others (mergeFrom run events) = others events := by
  have noOthers (run : Option String) : others (flush run) = [] := by
    cases run <;> rfl
  induction run, events using mergeFrom.induct with
  | case1 run => exact noOthers run
  | case2 run body rest ih => exact ih
  | case3 run event rest differs ih =>
      rw [mergeFrom_other run (isText_eq_false differs)]
      unfold others at *
      rw [List.filter_append, noOthers, List.nil_append, List.filter_cons, List.filter_cons, ih]

/-- Joining joins each run. -/
theorem runs_mergeFrom (run : Option String) (events : List Event) :
    runs (mergeFrom run events) = (runs (flush run ++ events)).map joined := by
  induction run, events using mergeFrom.induct with
  | case1 run =>
      rw [mergeFrom, List.append_nil, runs_flush, List.map_singleton, joined_flush]
  | case2 run body rest ih =>
      rw [mergeFrom, ih]
      cases run with
      | none =>
          rw [Option.getD_none, String.empty_append]
          rfl
      -- What has been read and the next text are one text for the rest of the stream.
      | some first => exact (map_joined_text_text first body rest).symm
  | case3 run event rest differs ih =>
      have noText := isText_eq_false differs
      rw [mergeFrom_other run noText, runs_flush_other run noText, runs_flush_other run noText, ih,
        List.map_cons, joined_flush]
      rfl

/-- No two neighbours are texts after joining. -/
theorem isChain_mergeFrom (run : Option String) (events : List Event) :
    (mergeFrom run events).IsChain Apart := by
  induction run, events using mergeFrom.induct with
  | case1 run => cases run <;> simp [mergeFrom, flush]
  | case2 run body rest ih => exact ih
  | case3 run event rest differs ih =>
      have noText := isText_eq_false differs
      have behind : (event :: mergeFrom none rest).IsChain Apart :=
        List.isChain_cons.mpr ⟨fun next _ => by simp [Apart, noText], ih⟩
      rw [mergeFrom_other run noText]
      cases run with
      | none => exact behind
      | some body => exact List.isChain_cons_cons.mpr ⟨by simp [Apart, noText], behind⟩

/-! ### The normal form -/

theorem others_mergeText (events : List Event) : others (mergeText events) = others events :=
  others_mergeFrom none events

theorem runs_mergeText (events : List Event) : runs (mergeText events) = (runs events).map joined :=
  runs_mergeFrom none events

/-- Two streams become the same just if they have the same events that are no texts, and runs between them
    which say the same. -/
theorem mergeText_eq_mergeText_iff (first second : List Event) :
    mergeText first = mergeText second ↔
      others first = others second ∧ (runs first).map joined = (runs second).map joined := by
  constructor
  · intro same
    rw [← others_mergeText first, ← others_mergeText second, ← runs_mergeText, ← runs_mergeText, same]
    exact ⟨rfl, rfl⟩
  · rintro ⟨sameOthers, sameRuns⟩
    apply eq_of_runs_of_others
    · rw [runs_mergeText, runs_mergeText, sameRuns]
    · rw [others_mergeText, others_mergeText, sameOthers]

/-- Joining texts leaves no two texts next to each other, keeps the events that are no texts, puts for each run
    of texts between them one text that says the same, and none where there is no text, and changes nothing
    about a stream that has been joined. -/
theorem mergeText_normalForm (events : List Event) :
    (mergeText events).IsChain Apart ∧
      others (mergeText events) = others events ∧
        runs (mergeText events) = (runs events).map joined ∧
          mergeText (mergeText events) = mergeText events := by
  refine ⟨isChain_mergeFrom none events, others_mergeText events, runs_mergeText events, ?_⟩
  rw [mergeText_eq_mergeText_iff, others_mergeText, runs_mergeText, List.map_map]
  exact ⟨rfl, List.map_congr_left fun run _ => joined_joined run⟩

/-- A run of empty texts is an empty text, and the run at the end counts. -/
example : mergeText [.text "", .text "", .rule, .softBreak, .text "a", .text "", .text "b"] =
    [.text "", .rule, .softBreak, .text "ab"] := by
  decide

end Bindery.Prose
