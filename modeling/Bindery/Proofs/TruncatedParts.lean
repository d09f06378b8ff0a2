/-
Module: Bindery.Proofs.TruncatedParts
Layer: Proofs
Purpose: Sequences of parts that were cut off. If starts and finishes of parts take turns, each finish has
  the tag of the start before it, and what stands between boundaries is balanced, then only the start of the
  first part and the finish of the last one can be missing. The repair puts them in, with the tags of their
  other ends, and what comes out is balanced.
Imports: Bindery.Proofs.OpenTags, Bindery.Proofs.PartCompletion, Mathlib.Data.List.Chain
Main exports: Alternates, Segmented, segmented, fault_after_boundary,
  normalizeParts_truncated
-/
import Bindery.Proofs.OpenTags
import Bindery.Proofs.PartCompletion
import Mathlib.Data.List.Chain

namespace Bindery.Book

theorem fault_balancedFrom_finish (stack : List Bindery.Tag) (tag : Tag) (rest : List Bindery.Event) :
    (balancedFrom (.book tag :: stack) (.book (.finish tag) :: rest)).fault =
      (balancedFrom stack rest).fault := by
  simp [balancedFrom, Bindery.Event.bracket, Event.bracket, Drained.cons]

/-! ### Boundaries in turn -/

/-- Which boundary may come after another: after a start the finish with the same tag, after a finish some
    start. -/
inductive Alternates : Bindery.Event → Bindery.Event → Prop where
  | finish (tag : Tag) : Alternates (.book (.start tag)) (.book (.finish tag))
  | start (tag tag' : Tag) : Alternates (.book (.finish tag)) (.book (.start tag'))

/-- A sequence as segments without boundaries, with a boundary between each two of them. -/
inductive Segmented : List Bindery.Event → Prop where
  | last (segment : List Bindery.Event) (unmarked : ∀ event ∈ segment, isPartMarker event = false) :
      Segmented segment
  | boundary (segment : List Bindery.Event) {mark : Bindery.Event} {behind : List Bindery.Event}
      (unmarked : ∀ event ∈ segment, isPartMarker event = false) (marker : isPartMarker mark = true)
      (segmented : Segmented behind) : Segmented (segment ++ mark :: behind)

/-- Every sequence is made so. -/
theorem segmented (events : List Bindery.Event) : Segmented events := by
  induction events with
  | nil => exact .last [] (by simp)
  | cons event rest ih =>
      cases marker : isPartMarker event with
      | true => exact .boundary [] (by simp) marker ih
      | false =>
          cases ih with
          | last _ unmarked => exact .last (event :: rest) (List.forall_mem_cons.mpr ⟨marker, unmarked⟩)
          | boundary segment unmarked isMarker behind =>
              exact .boundary (event :: segment) (List.forall_mem_cons.mpr ⟨marker, unmarked⟩) isMarker
                behind

theorem filter_of_unmarked {segment : List Bindery.Event}
    (unmarked : ∀ event ∈ segment, isPartMarker event = false) : segment.filter isPartMarker = [] := by
  rw [List.filter_eq_nil_iff]
  intro event member
  simp [unmarked event member]

/-- The part that a boundary leaves open. -/
def partOpenedBy : Bindery.Event → List Bindery.Tag
  | .book (.start tag) => [.book tag]
  | _ => []

/-- A boundary that may come next changes the open part to its own. -/
theorem fault_balancedFrom_alternates {mark next : Bindery.Event} (alternates : Alternates mark next)
    (rest : List Bindery.Event) :
    (balancedFrom (partOpenedBy mark) (next :: rest)).fault =
      (balancedFrom (partOpenedBy next) rest).fault := by
  cases alternates with
  | finish tag => exact fault_balancedFrom_finish [] tag rest
  | start tag tag' => rfl

/-- What the last boundary leaves open is closed by the finish that it asks for. -/
theorem fault_balancedFrom_missingFinish {mark : Bindery.Event} (marker : isPartMarker mark = true) :
    (balancedFrom (partOpenedBy mark) (missingFinish [mark])).fault = none := by
  have found : [mark].reverse.find? isPartMarker = some mark := List.find?_cons_of_pos marker
  rcases starts_or_finishes marker with starts | finishes
  · obtain ⟨title, number, rfl⟩ := exists_of_startsPart starts
    rw [missingFinish_of_starts found starts]
    exact fault_balancedFrom_finish [] (.part title number) []
  · obtain ⟨title, number, rfl⟩ := exists_of_finishesPart finishes
    rw [missingFinish_of_finishes found finishes]
    rfl

/-- Behind a boundary, boundaries in turn with balanced segments between them are balanced together with
    the finish that is missing. -/
theorem fault_after_boundary {mark : Bindery.Event} (marker : isPartMarker mark = true)
    {events : List Bindery.Event} (inTurn : (mark :: events.filter isPartMarker).IsChain Alternates)
    (balanced : ∀ segment ∈ events.splitOnP isPartMarker, balanceFault? segment = none) :
    (balancedFrom (partOpenedBy mark) (events ++ missingFinish (mark :: events))).fault = none := by
  induction segmented events generalizing mark with
  | last segment unmarked =>
      rw [List.splitOnP_eq_singleton unmarked, List.forall_mem_singleton] at balanced
      have noMore : segment.reverse.find? isPartMarker = none := by
        rw [List.find?_eq_none]
        intro event member
        simp [unmarked event (List.mem_reverse.mp member)]
      have lastOne : missingFinish (mark :: segment) = missingFinish [mark] := by
        rw [missingFinish, List.reverse_cons, List.find?_append, noMore, Option.none_or]
        rfl
      rw [fault_balancedFrom_balanced _ balanced, lastOne]
      exact fault_balancedFrom_missingFinish marker
  | boundary segment unmarked isMarker segmentedBehind ih =>
      next next behind =>
        rw [List.filter_append, filter_of_unmarked unmarked, List.nil_append,
          List.filter_cons_of_pos isMarker, List.isChain_cons_cons] at inTurn
        rw [List.splitOnP_append_cons_of_forall_mem unmarked next isMarker,
          List.forall_mem_cons] at balanced
        have lastOne : missingFinish (mark :: (segment ++ next :: behind)) =
            missingFinish (next :: behind) :=
          missingFinish_append (mark :: segment) (by simp [isMarker])
        rw [lastOne, List.append_assoc, List.cons_append, fault_balancedFrom_balanced _ balanced.1,
          fault_balancedFrom_alternates inTurn.1]
        exact ih isMarker inTurn.2 balanced.2

/-! ### The repair -/

/-- Boundaries in turn with balanced segments between them are balanced together with the two that may be
    missing at the ends. -/
theorem fault_completed {events : List Bindery.Event} (marked : events.any isPartMarker = true)
    (inTurn : (events.filter isPartMarker).IsChain Alternates)
    (balanced : ∀ segment ∈ events.splitOnP isPartMarker, balanceFault? segment = none) :
    balanceFault? (missingStart events ++ events ++ missingFinish events) = none := by
  obtain ⟨first, found⟩ := exists_find?_of_marked marked
  -- A boundary that `first` may follow stands for all that was cut off in front.
  have behind (mark : Bindery.Event) (marker : isPartMarker mark = true)
      (alternates : Alternates mark first) :
      (balancedFrom (partOpenedBy mark) (events ++ missingFinish events)).fault = none := by
    have lastOne : missingFinish (mark :: events) = missingFinish events :=
      missingFinish_append [mark] marked
    rw [← lastOne]
    refine fault_after_boundary marker (List.isChain_cons.mpr ⟨fun next isNext => ?_, inTurn⟩) balanced
    rw [List.head?_filter, found] at isNext
    rwa [← Option.mem_some_iff.mp isNext]
  rcases starts_or_finishes (List.find?_some found) with starts | finishes
  · obtain ⟨title, number, rfl⟩ := exists_of_startsPart starts
    rw [missingStart_of_starts found starts, List.nil_append]
    exact behind untitledFinish rfl (.start _ _)
  · obtain ⟨title, number, rfl⟩ := exists_of_finishesPart finishes
    rw [missingStart_of_finishes found finishes]
    exact behind (.book (.start (.part title number))) rfl (.finish _)

/-- A part without title around a balanced piece can be left out of a stream. -/
theorem fault_balancedFrom_untitled {piece : List Bindery.Event} (balanced : balanceFault? piece = none)
    (rest : List Bindery.Event) :
    balanceFault? (untitledStart :: piece ++ untitledFinish :: rest) = balanceFault? rest := by
  change (balancedFrom [.book (.part none none)] (piece ++ untitledFinish :: rest)).fault = _
  rw [fault_balancedFrom_balanced _ balanced]
  exact fault_balancedFrom_finish [] (.part none none) rest

/-- Whatever the repair does, it keeps boundaries in turn balanced. -/
theorem Repair.balanced {events repaired : List Bindery.Event} (repair : Repair events repaired)
    (inTurn : (events.filter isPartMarker).IsChain Alternates)
    (balanced : ∀ segment ∈ events.splitOnP isPartMarker, balanceFault? segment = none) :
    balanceFault? repaired = none := by
  cases repair with
  | wrapped unmarked =>
      have noMarkers : ∀ event ∈ events, isPartMarker event = false := by
        simpa using List.any_eq_false.mp unmarked
      rw [List.splitOnP_eq_singleton noMarkers, List.forall_mem_singleton] at balanced
      exact fault_balancedFrom_untitled balanced []
  | covered inhabited unmarked starts unfinished =>
      next leading rest first =>
        have isMarker : isPartMarker first = true := by simp [isPartMarker, starts]
        have noMarkers : ∀ event ∈ leading, isPartMarker event = false := by
          simpa using List.any_eq_false.mp unmarked
        rw [List.filter_append, filter_of_unmarked noMarkers, List.nil_append] at inTurn
        rw [List.splitOnP_append_cons_of_forall_mem noMarkers first isMarker,
          List.forall_mem_cons] at balanced
        have segments : ∀ segment ∈ (first :: rest).splitOnP isPartMarker,
            balanceFault? segment = none := by
          rw [List.splitOnP_cons_eq_if_modifyHead, if_pos isMarker]
          exact List.forall_mem_cons.mpr ⟨rfl, balanced.2⟩
        have completed := fault_completed (by simp [isMarker]) inTurn segments
        rw [missingStart_of_starts (List.find?_cons_of_pos isMarker) starts, List.nil_append] at completed
        rw [List.append_assoc]
        exact (fault_balancedFrom_untitled balanced.1 _).trans completed
  | completed marked => exact fault_completed marked inTurn balanced

/-- The start that is missing in front has the tag of the first finish. -/
theorem Repair.opens {events repaired : List Bindery.Event} (repair : Repair events repaired) {tag : Tag}
    (first : events.find? isPartMarker = some (.book (.finish tag))) :
    ∃ behind, repaired = .book (.start tag) :: events ++ behind := by
  have finishes : finishesPart (.book (.finish tag)) = true :=
    (starts_or_finishes (List.find?_some first)).resolve_left Bool.false_ne_true
  cases repair with
  | wrapped unmarked =>
      rw [List.any_eq_false] at unmarked
      exact absurd (List.find?_some first) (unmarked _ (List.mem_of_find?_eq_some first))
  | covered inhabited unmarked starts unfinished =>
      next leading rest mark =>
        have isMarker : isPartMarker mark = true := by simp [isPartMarker, starts]
        have none : leading.find? isPartMarker = none := by
          rw [List.find?_eq_none]
          exact List.any_eq_false.mp unmarked
        rw [List.find?_append, none, List.find?_cons_of_pos isMarker, Option.none_or] at first
        rw [Option.some.inj first] at starts
        cases starts
  | completed marked =>
      rw [missingStart_of_finishes first finishes]
      exact ⟨missingFinish events, rfl⟩

/-- The finish that is missing behind has the tag of the last start, and stands behind everything. -/
theorem Repair.closes {events repaired : List Bindery.Event} (repair : Repair events repaired) {tag : Tag}
    (last : events.reverse.find? isPartMarker = some (.book (.start tag))) :
    ∃ before, events.Sublist before ∧ repaired = before ++ [.book (.finish tag)] := by
  have starts : startsPart (.book (.start tag)) = true :=
    (starts_or_finishes (List.find?_some last)).resolve_right Bool.false_ne_true
  have missing : missingFinish events = [.book (.finish tag)] := missingFinish_of_starts last starts
  cases repair with
  | wrapped unmarked =>
      rw [List.any_eq_false] at unmarked
      have member := List.mem_reverse.mp (List.mem_of_find?_eq_some last)
      exact absurd (List.find?_some last) (unmarked _ member)
  | covered inhabited unmarked starts unfinished =>
      next leading rest mark =>
        rw [missingFinish_append leading (by simp [isPartMarker, starts])] at missing
        rw [missing]
        refine ⟨_, ?_, rfl⟩
        have keeps : (mark :: rest).Sublist (untitledFinish :: mark :: rest) :=
          (List.Sublist.refl _).cons untitledFinish
        exact ((List.Sublist.refl leading).append keeps).cons untitledStart
  | completed marked =>
      rw [missing]
      exact ⟨_, List.sublist_append_right _ events, rfl⟩

/-- A sequence of parts that was cut off is balanced again after the repair: of the first part only the start
    may have been missing, which gets the tag of the first finish, and of the last part only the finish,
    which gets the tag of the last start. -/
theorem normalizeParts_truncated {events : List Bindery.Event}
    (inTurn : (events.filter isPartMarker).IsChain Alternates)
    (balanced : ∀ segment ∈ events.splitOnP isPartMarker, balanceFault? segment = none) :
    balanceFault? (normalizeParts events) = none ∧
      (∀ tag, (events.filter isPartMarker).head? = some (.book (.finish tag)) →
        ∃ behind, normalizeParts events = .book (.start tag) :: events ++ behind) ∧
      ∀ tag, (events.filter isPartMarker).getLast? = some (.book (.start tag)) →
        ∃ before, events.Sublist before ∧ normalizeParts events = before ++ [.book (.finish tag)] := by
  have repair := repair_normalizeParts events
  refine ⟨repair.balanced inTurn balanced, fun tag first => ?_, fun tag last => ?_⟩
  · rw [List.head?_filter] at first
    exact repair.opens first
  · rw [List.getLast?_filter] at last
    exact repair.closes last

def cutOff : List Bindery.Event :=
  [.book .separator, .book (.finish (.part (some "x") none)),
   .book (.start (.chapter .draft "A" none none)), .book (.finish (.chapter .draft "A" none none)),
   .book (.start (.part (some "m") (some 2))), .book (.start (.content .markdown)),
   .book (.prose (.start .paragraph)), .book (.prose (.finish .paragraph)),
   .book (.finish (.content .markdown)), .book (.finish (.part (some "m") (some 2))),
   .book (.start (.part (some "y") none)), .book .separator]

theorem normalizeParts_truncated_cutOff :
    ((cutOff.filter isPartMarker).IsChain Alternates ∧
      ∀ segment ∈ cutOff.splitOnP isPartMarker, balanceFault? segment = none) ∧
      balanceFault? (normalizeParts cutOff) = none ∧
      normalizeParts cutOff = .book (.start (.part (some "x") none)) :: cutOff ++
        [.book (.finish (.part (some "y") none))] := by
  have inTurn : (cutOff.filter isPartMarker).IsChain Alternates :=
    .cons_cons (.start _ _) (.cons_cons (.finish _) (.cons_cons (.start _ _) (.singleton _)))
  have balanced : ∀ segment ∈ cutOff.splitOnP isPartMarker, balanceFault? segment = none := by decide
  exact ⟨⟨inTurn, balanced⟩, (normalizeParts_truncated inTurn balanced).1, by decide⟩

end Bindery.Book
