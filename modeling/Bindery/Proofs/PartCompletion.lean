/-
Module: Bindery.Proofs.PartCompletion
Layer: Proofs
Purpose: What the repair of part boundaries does to a sequence, whatever boundaries it has. There are three
  outcomes: a part without title around everything, such a part around what stands before the first start,
  or no more than the start that the first boundary asks for and the finish that the last one asks for.
  Positions tell the same story, so that no sequence has positions that are a fault; a repaired sequence
  begins its boundaries with a start and ends them with a finish, and is not repaired again.
Imports: Bindery.Book.Parts, Mathlib.Data.List.TakeDrop
Main exports: missingStart, missingFinish, Repair, repair_normalizeParts, repairAt_of, Enclosed,
  normalizeParts_conservative
-/
import Bindery.Book.Parts
import Mathlib.Data.List.TakeDrop

namespace Bindery.Book

/-! ### Boundaries -/

/-- The start that a sequence lacks if its first boundary is a finish. -/
def missingStart (events : List Bindery.Event) : List Bindery.Event :=
  (((events.find? isPartMarker).filter finishesPart).map otherEnd).toList

/-- The finish that a sequence lacks if its last boundary is a start. -/
def missingFinish (events : List Bindery.Event) : List Bindery.Event :=
  (((events.reverse.find? isPartMarker).filter startsPart).map otherEnd).toList

theorem exists_of_startsPart {event : Bindery.Event} (starts : startsPart event = true) :
    ∃ title number, event = .book (.start (.part title number)) := by
  cases event with
  | book inner =>
      cases inner with
      | start tag =>
          cases tag with
          | part title number => exact ⟨title, number, rfl⟩
          | _ => cases starts
      | _ => cases starts
  | _ => cases starts

theorem exists_of_finishesPart {event : Bindery.Event} (finishes : finishesPart event = true) :
    ∃ title number, event = .book (.finish (.part title number)) := by
  cases event with
  | book inner =>
      cases inner with
      | finish tag =>
          cases tag with
          | part title number => exact ⟨title, number, rfl⟩
          | _ => cases finishes
      | _ => cases finishes
  | _ => cases finishes

/-- No event is both a start and a finish. -/
theorem not_finishes_of_starts {event : Bindery.Event} (starts : startsPart event = true) :
    finishesPart event = false := by
  obtain ⟨title, number, rfl⟩ := exists_of_startsPart starts
  rfl

theorem not_starts_of_finishes {event : Bindery.Event} (finishes : finishesPart event = true) :
    startsPart event = false := by
  obtain ⟨title, number, rfl⟩ := exists_of_finishesPart finishes
  rfl

theorem starts_or_finishes {event : Bindery.Event} (marker : isPartMarker event = true) :
    startsPart event = true ∨ finishesPart event = true := by
  simpa [isPartMarker] using marker

/-- The other end of a finish is a start. -/
theorem startsPart_otherEnd {event : Bindery.Event} (finishes : finishesPart event = true) :
    startsPart (otherEnd event) = true := by
  obtain ⟨title, number, rfl⟩ := exists_of_finishesPart finishes
  rfl

/-- The other end of a start is a finish. -/
theorem finishesPart_otherEnd {event : Bindery.Event} (starts : startsPart event = true) :
    finishesPart (otherEnd event) = true := by
  obtain ⟨title, number, rfl⟩ := exists_of_startsPart starts
  rfl

theorem any_isPartMarker (events : List Bindery.Event) :
    events.any isPartMarker = (events.any startsPart || events.any finishesPart) := by
  induction events with
  | nil => rfl
  | cons event rest ih =>
      simp only [List.any_cons, ih, isPartMarker]
      cases startsPart event <;> cases finishesPart event <;> simp

/-! ### What is missing at the ends -/

theorem missingStart_of_starts {events : List Bindery.Event} {first : Bindery.Event}
    (found : events.find? isPartMarker = some first) (starts : startsPart first = true) :
    missingStart events = [] := by
  simp [missingStart, found, not_finishes_of_starts starts]

theorem missingStart_of_finishes {events : List Bindery.Event} {first : Bindery.Event}
    (found : events.find? isPartMarker = some first) (finishes : finishesPart first = true) :
    missingStart events = [otherEnd first] := by
  simp [missingStart, found, finishes]

theorem missingFinish_of_finishes {events : List Bindery.Event} {last : Bindery.Event}
    (found : events.reverse.find? isPartMarker = some last) (finishes : finishesPart last = true) :
    missingFinish events = [] := by
  simp [missingFinish, found, not_starts_of_finishes finishes]

theorem missingFinish_of_starts {events : List Bindery.Event} {last : Bindery.Event}
    (found : events.reverse.find? isPartMarker = some last) (starts : startsPart last = true) :
    missingFinish events = [otherEnd last] := by
  simp [missingFinish, found, starts]

theorem exists_find?_of_marked {events : List Bindery.Event}
    (marked : events.any isPartMarker = true) : ∃ first, events.find? isPartMarker = some first := by
  apply Option.isSome_iff_exists.mp
  rw [List.find?_isSome]
  simpa using marked

/-- What stands before other boundaries has no say in the finish that is missing. -/
theorem missingFinish_append {behind : List Bindery.Event} (before : List Bindery.Event)
    (marked : behind.any isPartMarker = true) :
    missingFinish (before ++ behind) = missingFinish behind := by
  have markedReverse : behind.reverse.any isPartMarker = true := by rwa [List.any_reverse]
  obtain ⟨last, found⟩ := exists_find?_of_marked markedReverse
  rw [missingFinish, List.reverse_append, List.find?_append, found, missingFinish, found]
  rfl

theorem openFirst_eq (events : List Bindery.Event) :
    openFirst events = missingStart events ++ events := by
  unfold openFirst
  split
  · next tag found =>
      have marker : isPartMarker (.book (.finish tag)) = true := List.find?_some found
      have finishes : finishesPart (.book (.finish tag)) = true :=
        (starts_or_finishes marker).resolve_left Bool.false_ne_true
      rw [missingStart_of_finishes found finishes]
      rfl
  · next other =>
      cases found : events.find? isPartMarker with
      | none => simp [missingStart, found]
      | some first =>
          rcases starts_or_finishes (List.find?_some found) with starts | finishes
          · rw [missingStart_of_starts found starts]
            rfl
          · obtain ⟨title, number, rfl⟩ := exists_of_finishesPart finishes
            exact absurd found (other _)

theorem closeLast_eq (events : List Bindery.Event) :
    closeLast events = events ++ missingFinish events := by
  unfold closeLast
  split
  · next tag found =>
      have marker : isPartMarker (.book (.start tag)) = true := List.find?_some found
      have starts : startsPart (.book (.start tag)) = true :=
        (starts_or_finishes marker).resolve_right Bool.false_ne_true
      rw [missingFinish_of_starts found starts]
      rfl
  · next other =>
      cases found : events.reverse.find? isPartMarker with
      | none => simp [missingFinish, found]
      | some last =>
          rcases starts_or_finishes (List.find?_some found) with starts | finishes
          · obtain ⟨title, number, rfl⟩ := exists_of_startsPart starts
            exact absurd found (other _)
          · rw [missingFinish_of_finishes found finishes, List.append_nil]

/-! ### The three outcomes -/

/-- All that the repair can make of a sequence. -/
inductive Repair : List Bindery.Event → List Bindery.Event → Prop where
  | wrapped {events : List Bindery.Event} (unmarked : events.any isPartMarker = false) :
      Repair events (untitledStart :: events ++ [untitledFinish])
  | covered {leading rest : List Bindery.Event} {first : Bindery.Event} (inhabited : leading ≠ [])
      (unmarked : leading.any isPartMarker = false) (starts : startsPart first = true)
      (unfinished : rest.any finishesPart = false) :
      Repair (leading ++ first :: rest)
        (untitledStart :: leading ++ untitledFinish :: first :: rest ++ missingFinish (first :: rest))
  | completed {events : List Bindery.Event} (marked : events.any isPartMarker = true) :
      Repair events (missingStart events ++ events ++ missingFinish events)

/-- What stands before the first start, which comes next. -/
theorem exists_split_at_start {events : List Bindery.Event} (starts : events.any startsPart = true) :
    ∃ leading first rest, events = leading ++ first :: rest ∧ startsPart first = true ∧
      leading.any startsPart = false := by
  obtain ⟨first, found⟩ := Option.isSome_iff_exists.mp
    (List.find?_isSome.mpr (by simpa using starts) : (events.find? startsPart).isSome = true)
  obtain ⟨isStart, leading, rest, whole, before⟩ := List.find?_eq_some_iff_append.mp found
  exact ⟨leading, first, rest, whole, isStart, by simpa using before⟩

theorem coverLeading_split {leading rest : List Bindery.Event} {first : Bindery.Event}
    (starts : startsPart first = true) (before : leading.any startsPart = false) :
    coverLeading (leading ++ first :: rest) =
      if leading = [] then first :: rest
      else untitledStart :: leading ++ untitledFinish :: first :: rest := by
  have passes : ∀ event ∈ leading, (!startsPart event) = true := by simpa using before
  have spanned : (leading ++ first :: rest).span (fun event => !startsPart event) =
      (leading, first :: rest) := by
    rw [List.span_eq_takeWhile_dropWhile, List.takeWhile_append_of_pos passes,
      List.dropWhile_append_of_pos passes]
    simp [starts]
  rw [coverLeading, spanned]
  cases leading <;> rfl

theorem normalizeParts_of_unmarked {events : List Bindery.Event}
    (unmarked : events.any isPartMarker = false) :
    normalizeParts events = untitledStart :: events ++ [untitledFinish] := by
  rw [normalizeParts, if_pos (by simp [unmarked])]

theorem normalizeParts_of_finished {events : List Bindery.Event}
    (finished : events.any finishesPart = true) :
    normalizeParts events = missingStart events ++ events ++ missingFinish events := by
  have marked : events.any isPartMarker = true := by simp [any_isPartMarker, finished]
  rw [normalizeParts, if_neg (by simp [marked]), if_pos finished, openFirst_eq, closeLast_eq,
    missingFinish_append _ marked]

theorem normalizeParts_of_unfinished {leading rest : List Bindery.Event} {first : Bindery.Event}
    (starts : startsPart first = true) (before : leading.any startsPart = false)
    (unfinished : (leading ++ first :: rest).any finishesPart = false) :
    normalizeParts (leading ++ first :: rest) =
      (if leading = [] then first :: rest
        else untitledStart :: leading ++ untitledFinish :: first :: rest) ++
        missingFinish (first :: rest) := by
  have markedRest : (first :: rest).any isPartMarker = true := by simp [isPartMarker, starts]
  have marked : (leading ++ first :: rest).any isPartMarker = true := by
    rw [List.any_append, markedRest, Bool.or_true]
  rw [normalizeParts, if_neg (by simp [marked]), if_neg (by simp [unfinished]),
    coverLeading_split starts before, closeLast_eq]
  split
  · rfl
  · rw [List.append_cons _ untitledFinish, missingFinish_append _ markedRest]

/-- The repair has one of the three outcomes. -/
theorem repair_normalizeParts (events : List Bindery.Event) : Repair events (normalizeParts events) := by
  by_cases finished : events.any finishesPart = true
  · rw [normalizeParts_of_finished finished]
    exact .completed (by simp [any_isPartMarker, finished])
  rw [Bool.not_eq_true] at finished
  by_cases started : events.any startsPart = true
  · obtain ⟨leading, first, rest, rfl, starts, before⟩ := exists_split_at_start started
    rw [normalizeParts_of_unfinished starts before finished]
    simp only [List.any_append, List.any_cons, Bool.or_eq_false_iff] at finished
    by_cases empty : leading = []
    · have isMarker : isPartMarker first = true := by simp [isPartMarker, starts]
      have nothing : missingStart (first :: rest) = [] :=
        missingStart_of_starts (List.find?_cons_of_pos isMarker) starts
      have completed : Repair (first :: rest)
          (missingStart (first :: rest) ++ (first :: rest) ++ missingFinish (first :: rest)) :=
        .completed (by simp [isMarker])
      rw [nothing] at completed
      simpa [empty] using completed
    · rw [if_neg empty]
      exact .covered empty (by simp [any_isPartMarker, before, finished.1]) starts finished.2.2
  · have unmarked : events.any isPartMarker = false := by
      simpa [any_isPartMarker, finished] using started
    rw [normalizeParts_of_unmarked unmarked]
    exact .wrapped unmarked

/-! ### Positions -/

/-- Which of two kinds comes first is told by the positions where each kind comes first. -/
theorem filter_find?_or {α : Type} {first second : α → Bool}
    (disjoint : ∀ {value}, second value = true → first value = false) (values : List α) :
    (values.find? fun value => first value || second value).filter second =
      match values.findIdx? first, values.findIdx? second with
      | _, none => none
      | none, some j => values[j]?
      | some i, some j => if j < i then values[j]? else none := by
  induction values with
  | nil => rfl
  | cons value rest ih =>
      rw [List.find?_cons, List.findIdx?_cons, List.findIdx?_cons]
      cases isFirst : first value with
      | true =>
          have notSecond : second value = false := by
            rw [Bool.eq_false_iff]
            intro isSecond
            rw [disjoint isSecond] at isFirst
            cases isFirst
          cases rest.findIdx? second <;> simp [notSecond, Option.filter]
      | false =>
          cases isSecond : second value with
          | true => cases rest.findIdx? first <;> simp [isSecond, Option.filter]
          | false =>
              simp only [Bool.or_self, ih]
              cases rest.findIdx? first <;> cases rest.findIdx? second <;> simp

/-- What is found from the front is found from the back. -/
theorem positions_of_any {test : Bindery.Event → Bool} {events : List Bindery.Event}
    (present : events.any test = true) :
    ∃ first last, events.findIdx? test = some first ∧ lastIdx? test events = some last := by
  have presentReverse : events.reverse.any test = true := by rwa [List.any_reverse]
  rw [← List.findIdx?_isSome] at present presentReverse
  obtain ⟨first, foundFirst⟩ := Option.isSome_iff_exists.mp present
  obtain ⟨behind, foundLast⟩ := Option.isSome_iff_exists.mp presentReverse
  exact ⟨first, _, foundFirst, by rw [lastIdx?, foundLast]; rfl⟩

theorem positions_of_not_any {test : Bindery.Event → Bool} {events : List Bindery.Event}
    (absent : events.any test = false) : events.findIdx? test = none ∧ lastIdx? test events = none := by
  rw [List.any_eq_false] at absent
  have absentReverse : ∀ event ∈ events.reverse, test event = false := by simpa using absent
  constructor
  · exact List.findIdx?_eq_none_iff.mpr (by simpa using absent)
  · rw [lastIdx?, List.findIdx?_eq_none_iff.mpr absentReverse]
    rfl

/-- What is missing in front is told by the first positions. -/
theorem missingStart_eq (events : List Bindery.Event) :
    missingStart events =
      match events.findIdx? startsPart, events.findIdx? finishesPart with
      | _, none => []
      | none, some firstFinish => otherEndAt firstFinish events
      | some firstStart, some firstFinish =>
        if firstFinish < firstStart then otherEndAt firstFinish events else [] := by
  have earlier := filter_find?_or @not_starts_of_finishes events
  change (events.find? isPartMarker).filter finishesPart = _ at earlier
  rw [missingStart, earlier]
  cases events.findIdx? startsPart <;> cases events.findIdx? finishesPart
  · rfl
  · rfl
  · rfl
  · dsimp only
    split <;> rfl

/-- What is missing behind is told by the last positions. -/
theorem missingFinish_eq (events : List Bindery.Event) :
    missingFinish events =
      match lastIdx? startsPart events, lastIdx? finishesPart events with
      | none, _ => []
      | some lastStart, none => otherEndAt lastStart events
      | some lastStart, some lastFinish =>
        if lastFinish < lastStart then otherEndAt lastStart events else [] := by
  have later := filter_find?_or @not_finishes_of_starts events.reverse
  have same : (fun event => finishesPart event || startsPart event) = isPartMarker :=
    funext fun event => Bool.or_comm _ _
  rw [same] at later
  rw [missingFinish, later, lastIdx?, lastIdx?]
  cases starts : events.reverse.findIdx? startsPart with
  | none => cases events.reverse.findIdx? finishesPart <;> rfl
  | some i =>
      have inside : i < events.length := by
        simpa using (List.findIdx?_eq_some_iff_findIdx_eq.mp starts).1
      cases finishes : events.reverse.findIdx? finishesPart with
      | none => simp [otherEndAt, List.getElem?_reverse inside]
      | some j =>
          have inside' : j < events.length := by
            simpa using (List.findIdx?_eq_some_iff_findIdx_eq.mp finishes).1
          have mirrored : events.length - 1 - j < events.length - 1 - i ↔ i < j := by omega
          simp only [Option.map_some, mirrored]
          split <;> simp [otherEndAt, List.getElem?_reverse inside]

/-- The first start stands behind all that is before it. -/
theorem findIdx?_startsPart {leading : List Bindery.Event} {first : Bindery.Event}
    (starts : startsPart first = true) (before : leading.any startsPart = false)
    (rest : List Bindery.Event) :
    (leading ++ first :: rest).findIdx? startsPart = some leading.length := by
  rw [List.findIdx?_append, (positions_of_not_any before).1, List.findIdx?_cons, if_pos starts]
  simp

/-- The positions of a sequence fit it, and lead to the same repair. -/
theorem repairAt_of (events : List Bindery.Event) :
    repairAt (.of events) events = .ok (normalizeParts events) := by
  have inFront := missingStart_eq events
  have behind := missingFinish_eq events
  cases started : events.any startsPart with
  | false =>
      obtain ⟨noFirstStart, noLastStart⟩ := positions_of_not_any started
      cases finished : events.any finishesPart with
      | false =>
          obtain ⟨noFirstFinish, noLastFinish⟩ := positions_of_not_any finished
          have found : Outermost.of events = ⟨none, none, none, none⟩ := by
            simp [Outermost.of, noFirstStart, noLastStart, noFirstFinish, noLastFinish]
          rw [found, repairAt,
            normalizeParts_of_unmarked (by rw [any_isPartMarker, started, finished]; rfl)]
      | true =>
          obtain ⟨firstFinish, lastFinish, atFirst, atLast⟩ := positions_of_any finished
          have found : Outermost.of events = ⟨none, some firstFinish, none, some lastFinish⟩ := by
            simp [Outermost.of, noFirstStart, noLastStart, atFirst, atLast]
          rw [noFirstStart, atFirst] at inFront
          rw [noLastStart] at behind
          rw [found, repairAt, normalizeParts_of_finished finished, inFront, behind, List.append_nil]
  | true =>
      obtain ⟨firstStart, lastStart, atFirst, atLast⟩ := positions_of_any started
      cases finished : events.any finishesPart with
      | false =>
          obtain ⟨noFirstFinish, noLastFinish⟩ := positions_of_not_any finished
          have found : Outermost.of events = ⟨some firstStart, none, some lastStart, none⟩ := by
            simp [Outermost.of, atFirst, atLast, noFirstFinish, noLastFinish]
          rw [atLast, noLastFinish] at behind
          obtain ⟨leading, first, rest, rfl, starts, before⟩ := exists_split_at_start started
          obtain rfl : leading.length = firstStart := by
            rw [findIdx?_startsPart starts before] at atFirst
            exact Option.some.inj atFirst
          have markedRest : (first :: rest).any isPartMarker = true := by
            simp [isPartMarker, starts]
          rw [missingFinish_append leading markedRest] at behind
          rw [found, repairAt, normalizeParts_of_unfinished starts before finished, behind,
            List.take_left, List.drop_left]
          cases leading <;> rfl
      | true =>
          obtain ⟨firstFinish, lastFinish, atFirst', atLast'⟩ := positions_of_any finished
          have found : Outermost.of events =
              ⟨some firstStart, some firstFinish, some lastStart, some lastFinish⟩ := by
            simp [Outermost.of, atFirst, atLast, atFirst', atLast']
          rw [atFirst, atFirst'] at inFront
          rw [atLast, atLast'] at behind
          rw [found, repairAt, normalizeParts_of_finished finished, inFront, behind]

/-! ### Repaired sequences -/

/-- The boundaries of a sequence begin with a start and end with a finish. -/
structure Enclosed (events : List Bindery.Event) : Prop where
  starts : ∃ first, events.find? isPartMarker = some first ∧ startsPart first = true
  finishes : ∃ last, events.reverse.find? isPartMarker = some last ∧ finishesPart last = true

/-- Such a sequence lacks nothing. -/
theorem Enclosed.normalizeParts_eq {events : List Bindery.Event} (enclosed : Enclosed events) :
    normalizeParts events = events := by
  obtain ⟨first, foundFirst, starts⟩ := enclosed.starts
  obtain ⟨last, foundLast, finishes⟩ := enclosed.finishes
  have finished : events.any finishesPart = true := by
    have member := List.mem_reverse.mp (List.mem_of_find?_eq_some foundLast)
    exact List.any_eq_true.mpr ⟨last, member, finishes⟩
  rw [normalizeParts_of_finished finished, missingStart_of_starts foundFirst starts,
    missingFinish_of_finishes foundLast finishes, List.nil_append, List.append_nil]

/-- With the start that is missing, the first boundary is a start. -/
theorem exists_first_start {events : List Bindery.Event} (marked : events.any isPartMarker = true)
    (behind : List Bindery.Event) :
    ∃ first, (missingStart events ++ events ++ behind).find? isPartMarker = some first ∧
      startsPart first = true := by
  obtain ⟨first, found⟩ := exists_find?_of_marked marked
  rcases starts_or_finishes (List.find?_some found) with starts | finishes
  · refine ⟨first, ?_, starts⟩
    simp [missingStart_of_starts found starts, List.find?_append, found]
  · have starts := startsPart_otherEnd finishes
    refine ⟨otherEnd first, ?_, starts⟩
    have isMarker : isPartMarker (otherEnd first) = true := by simp [isPartMarker, starts]
    simp [missingStart_of_finishes found finishes, isMarker]

/-- With the finish that is missing, the last boundary is a finish. -/
theorem exists_last_finish {events : List Bindery.Event} (marked : events.any isPartMarker = true)
    (before : List Bindery.Event) :
    ∃ last, (before ++ events ++ missingFinish events).reverse.find? isPartMarker = some last ∧
      finishesPart last = true := by
  obtain ⟨last, found⟩ := exists_find?_of_marked (by rwa [List.any_reverse] : events.reverse.any _ = _)
  rcases starts_or_finishes (List.find?_some found) with starts | finishes
  · have finishes := finishesPart_otherEnd starts
    refine ⟨otherEnd last, ?_, finishes⟩
    have isMarker : isPartMarker (otherEnd last) = true := by simp [isPartMarker, finishes]
    simp [missingFinish_of_starts found starts, isMarker]
  · refine ⟨last, ?_, finishes⟩
    simp [missingFinish_of_finishes found finishes, List.find?_append, found]

theorem Repair.enclosed {events repaired : List Bindery.Event} (repair : Repair events repaired) :
    Enclosed repaired := by
  cases repair with
  | wrapped unmarked =>
      have isMarker : isPartMarker untitledFinish = true := rfl
      refine ⟨⟨untitledStart, rfl, rfl⟩, untitledFinish, ?_, rfl⟩
      rw [List.reverse_append, List.reverse_singleton, List.singleton_append,
        List.find?_cons_of_pos isMarker]
  | covered inhabited unmarked starts unfinished =>
      next leading rest first =>
        have marked : (first :: rest).any isPartMarker = true := by simp [isPartMarker, starts]
        have finishes := exists_last_finish marked (untitledStart :: leading ++ [untitledFinish])
        rw [← List.append_cons] at finishes
        exact ⟨⟨untitledStart, rfl, rfl⟩, finishes⟩
  | completed marked => exact ⟨exists_first_start marked _, exists_last_finish marked _⟩

/-! ### What is added -/

/-- At most one start is missing in front. -/
theorem missingStart_atMostOne (events : List Bindery.Event) :
    (missingStart events).length ≤ 1 ∧ ∀ event ∈ missingStart events, isPartMarker event = true := by
  cases found : events.find? isPartMarker with
  | none => simp [missingStart, found]
  | some first =>
      rcases starts_or_finishes (List.find?_some found) with starts | finishes
      · simp [missingStart_of_starts found starts]
      · simp [missingStart_of_finishes found finishes, isPartMarker, startsPart_otherEnd finishes]

/-- At most one finish is missing behind. -/
theorem missingFinish_atMostOne (events : List Bindery.Event) :
    (missingFinish events).length ≤ 1 ∧ ∀ event ∈ missingFinish events, isPartMarker event = true := by
  cases found : events.reverse.find? isPartMarker with
  | none => simp [missingFinish, found]
  | some last =>
      rcases starts_or_finishes (List.find?_some found) with starts | finishes
      · simp [missingFinish_of_starts found starts, isPartMarker, finishesPart_otherEnd starts]
      · simp [missingFinish_of_finishes found finishes]

/-- Nothing is removed or moved, and what is new is at most three boundaries. -/
theorem Repair.completes {events repaired : List Bindery.Event} (repair : Repair events repaired) :
    events.Sublist repaired ∧ ∃ added, repaired.Perm (added ++ events) ∧ added.length ≤ 3 ∧
      ∀ event ∈ added, isPartMarker event = true := by
  have isStart : isPartMarker untitledStart = true := rfl
  have isFinish : isPartMarker untitledFinish = true := rfl
  cases repair with
  | wrapped unmarked =>
      refine ⟨?_, [untitledStart, untitledFinish], ?_, by simp, by simp [isStart, isFinish]⟩
      · exact ((List.sublist_append_left events _).cons untitledStart)
      · exact (List.perm_append_comm : (events ++ [untitledFinish]).Perm _).cons untitledStart
  | covered inhabited unmarked starts unfinished =>
      next leading rest first =>
        obtain ⟨atMostOne, markers⟩ := missingFinish_atMostOne (first :: rest)
        refine ⟨?_, untitledStart :: untitledFinish :: missingFinish (first :: rest), ?_, ?_, ?_⟩
        · have keeps : (first :: rest).Sublist
              (untitledFinish :: first :: rest ++ missingFinish (first :: rest)) :=
            (List.sublist_append_left _ _).cons untitledFinish
          simpa using ((List.Sublist.refl leading).append keeps).cons untitledStart
        · rw [List.perm_iff_count]
          intro event
          simp only [List.count_append, List.count_cons]
          omega
        · simp only [List.length_cons]
          omega
        · simpa [isStart, isFinish] using markers
  | completed marked =>
      obtain ⟨atMostOne, markers⟩ := missingStart_atMostOne events
      obtain ⟨atMostOne', markers'⟩ := missingFinish_atMostOne events
      refine ⟨?_, missingStart events ++ missingFinish events, ?_, ?_, ?_⟩
      · exact (List.sublist_append_right _ events).trans (List.sublist_append_left _ _)
      · rw [List.perm_iff_count]
        intro event
        simp only [List.count_append]
        omega
      · simp only [List.length_append]
        omega
      · exact List.forall_mem_append.mpr ⟨markers, markers'⟩

/-! ### The repair -/

/-- The repair never meets positions that are a fault, keeps every event in its place among what it puts in,
    puts in at most three boundaries and nothing else, and has nothing left to repair afterwards. -/
theorem normalizeParts_conservative (events : List Bindery.Event) :
    repairAt (.of events) events = .ok (normalizeParts events) ∧
      events.Sublist (normalizeParts events) ∧
      (∃ added, (normalizeParts events).Perm (added ++ events) ∧ added.length ≤ 3 ∧
        ∀ event ∈ added, isPartMarker event = true) ∧
      normalizeParts (normalizeParts events) = normalizeParts events := by
  obtain ⟨keeps, adds⟩ := (repair_normalizeParts events).completes
  exact ⟨repairAt_of events, keeps, adds, (repair_normalizeParts events).enclosed.normalizeParts_eq⟩

/-- Positions of a start that is found from the front only are a fault. -/
example : (repairAt ⟨some 0, none, none, none⟩ [untitledStart]).mapError PositionFault.text =
    .error ("Inconsistent part marker positions (first_start=0, first_end=None, last_start=None, " ++
      "last_end=None) (stage=normalize-parts)") := by decide

end Bindery.Book
