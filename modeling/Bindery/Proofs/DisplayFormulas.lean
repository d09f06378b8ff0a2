/-
Module: Bindery.Proofs.DisplayFormulas
Layer: Proofs
Purpose: What the text stage drops. Every event keeps its place, and every text keeps its characters, except
  for texts outside of code blocks that look like a display formula from both of their ends. Such a text is
  one display formula, or it runs on behind a first formula up to the end of another, and then whatever stands
  between the two is dropped with them. Code blocks are counted as they are opened and closed in either
  dialect, and where more are closed than were open, the count starts over.
Imports: Bindery.Proofs.StageRun, Mathlib.Data.List.Basic, Mathlib.Data.List.Induction, Mathlib.Data.List.Infix
Main exports: IsOneFormula, RunsOn, isDisplayFormula_iff, openCode, openCode_surplus, carried, inPlace,
  run_text, inPlace_eq_iff, run_text_inPlace
-/
import Bindery.Proofs.StageRun
import Mathlib.Data.List.Basic
import Mathlib.Data.List.Induction
import Mathlib.Data.List.Infix

namespace Bindery.Convert

/-! ### Display formulas -/

def formulaStart : List Char := ['\\', '[']

/-- What a display formula ends with. -/
def formulaEnd : List Char := ['\\', ']']

/-- Is a text one single display formula, apart from blanks around it: does it start and end like one, with no
    end of a formula that anything stands behind? -/
def IsOneFormula (text : String) : Prop :=
  formulaStart <+: Text.trimList text.toList ∧ formulaEnd <:+ Text.trimList text.toList ∧
    ∀ before behind, Text.trimList text.toList = before ++ formulaEnd ++ behind → behind = []

/-- Does a text start with a display formula and run on behind it, up to the end of another formula? -/
def RunsOn (text : String) : Prop :=
  ∃ inside between, Text.trimList text.toList =
    formulaStart ++ inside ++ formulaEnd ++ between ++ formulaEnd

theorem isDisplayFormula_iff_ends (text : String) :
    isDisplayFormula text = true ↔
      formulaStart <+: Text.trimList text.toList ∧ formulaEnd <:+ Text.trimList text.toList := by
  simp [isDisplayFormula, formulaStart, formulaEnd]

/-- The end of a formula stands behind its start, wherever it stands. -/
theorem exists_inside {body before behind : List Char} (starts : formulaStart <+: body)
    (ends : body = before ++ formulaEnd ++ behind) : ∃ inside, before = formulaStart ++ inside := by
  obtain ⟨rest, rfl⟩ := starts
  match before with
  | [] => cases ends
  | [_] => cases ends
  | first :: second :: inside =>
      cases ends
      exact ⟨inside, rfl⟩

/-- What stands behind the end of a formula and itself ends with one has all of the second. -/
theorem exists_between {before behind : List Char} (filled : behind ≠ [])
    (ends : formulaEnd <:+ before ++ formulaEnd ++ behind) : ∃ between, behind = between ++ formulaEnd := by
  by_cases long : formulaEnd.length ≤ behind.length
  · obtain ⟨between, rfl⟩ := List.suffix_of_suffix_length_le ends (List.suffix_append _ _) long
    exact ⟨between, rfl⟩
  · obtain ⟨c, rfl⟩ : ∃ c, behind = [c] := by
      match behind with
      | [] => exact absurd rfl filled
      | [c] => exact ⟨c, rfl⟩
      | _ :: _ :: _ => simp [formulaEnd] at long
    -- The last two characters would be the bracket of the first end and one more.
    obtain ⟨front, same⟩ := ends
    have split : front ++ ['\\'] ++ [']'] = before ++ ['\\'] ++ [']'] ++ [c] := by
      simpa [formulaEnd] using same
    have impossible := (List.append_inj' (List.append_inj' split rfl).1 rfl).2
    cases impossible

/-- What looks like a display formula from both of its ends is one formula, or runs on behind a first one. -/
theorem isDisplayFormula_iff (text : String) :
    isDisplayFormula text = true ↔ IsOneFormula text ∨ RunsOn text := by
  rw [isDisplayFormula_iff_ends]
  constructor
  · rintro ⟨starts, ends⟩
    by_cases single : ∀ before behind, Text.trimList text.toList = before ++ formulaEnd ++ behind → behind = []
    · exact .inl ⟨starts, ends, single⟩
    · push Not at single
      obtain ⟨before, behind, split, filled⟩ := single
      obtain ⟨inside, rfl⟩ := exists_inside starts split
      rw [split] at ends
      obtain ⟨between, rfl⟩ := exists_between filled ends
      exact .inr ⟨inside, between, by rw [split, List.append_assoc, List.append_assoc]; simp⟩
  · rintro (⟨starts, ends, _⟩ | ⟨inside, between, split⟩)
    · exact ⟨starts, ends⟩
    · rw [split]
      exact ⟨⟨inside ++ formulaEnd ++ between ++ formulaEnd, by simp⟩, List.suffix_append _ _⟩

/-- Nothing stands behind any end of a formula exactly if none is left without the last character. -/
theorem single_iff (body : List Char) :
    ¬ formulaEnd <:+: body.dropLast ↔
      ∀ before behind, body = before ++ formulaEnd ++ behind → behind = [] := by
  constructor
  · intro notInside before behind split
    rcases List.eq_nil_or_concat behind with rfl | ⟨more, last, rfl⟩
    · rfl
    · rw [List.concat_eq_append, ← List.append_assoc] at split
      rw [split, List.dropLast_concat] at notInside
      exact absurd ⟨before, more, rfl⟩ notInside
  · rintro single ⟨before, more, split⟩
    have filled : body ≠ [] := by
      rintro rfl
      simp [formulaEnd] at split
    have whole := List.dropLast_append_getLast filled
    rw [← split, List.append_assoc] at whole
    exact absurd (single before _ whole.symm) (by simp)

instance (text : String) : Decidable (IsOneFormula text) :=
  decidable_of_iff (formulaStart <+: Text.trimList text.toList ∧ formulaEnd <:+ Text.trimList text.toList ∧
    ¬ formulaEnd <:+: (Text.trimList text.toList).dropLast) (by rw [IsOneFormula, single_iff])

/-- A text that runs on is not one formula. -/
theorem RunsOn.not_isOneFormula {text : String} (runsOn : RunsOn text) : ¬ IsOneFormula text := by
  obtain ⟨inside, between, split⟩ := runsOn
  rintro ⟨_, _, single⟩
  have nothing := single (formulaStart ++ inside) (between ++ formulaEnd) (by rw [split]; simp)
  simp [formulaEnd] at nothing

/-! ### Open code blocks -/

def openCode (events : List Event) : Nat := events.foldl codeDepthAfter 0

theorem openCode_append_singleton (events : List Event) (event : Event) :
    openCode (events ++ [event]) = codeDepthAfter (openCode events) event := by
  simp [openCode]

/-- No event both opens and closes code. -/
theorem not_closesCode {event : Event} (opens : opensCode event = true) : closesCode event = false := by
  unfold opensCode at opens
  split at opens
  · rfl
  · rfl
  · cases opens

/-- The open code blocks of a stream are the most by which some ending of it opens more code blocks than it
    closes. -/
theorem openCode_surplus (events : List Event) :
    (∃ front behind, events = front ++ behind ∧
        behind.countP opensCode = behind.countP closesCode + openCode events) ∧
      ∀ front behind, events = front ++ behind →
        behind.countP opensCode ≤ behind.countP closesCode + openCode events := by
  induction events using List.reverseRecOn with
  | nil =>
      refine ⟨⟨[], [], rfl, rfl⟩, ?_⟩
      intro front behind split
      obtain ⟨-, rfl⟩ := List.append_eq_nil_iff.mp split.symm
      exact Nat.zero_le _
  | append_singleton events event ih =>
      obtain ⟨⟨front, behind, rfl, most⟩, bounded⟩ := ih
      rw [openCode_append_singleton, codeDepthAfter]
      constructor
      · by_cases opens : opensCode event = true
        · exact ⟨front, behind ++ [event], List.append_assoc _ _ _, by
            simp [opens, not_closesCode opens, most]; omega⟩
        · by_cases closes : closesCode event = true
          · cases none : openCode (front ++ behind) with
            | zero => exact ⟨front ++ behind ++ [event], [], by simp, by simp [opens, closes]⟩
            | succ depth =>
                exact ⟨front, behind ++ [event], List.append_assoc _ _ _, by
                  simp [opens, closes, most, none]; omega⟩
          · exact ⟨front, behind ++ [event], List.append_assoc _ _ _, by simp [opens, closes, most]⟩
      · intro first last split
        rcases List.eq_nil_or_concat last with rfl | ⟨others, final, rfl⟩
        · exact Nat.zero_le _
        · rw [List.concat_eq_append, ← List.append_assoc] at split
          obtain ⟨same, isFinal⟩ := List.append_inj' split rfl
          cases isFinal
          have before := bounded first others same
          rw [List.concat_eq_append, List.countP_append, List.countP_append]
          by_cases opens : opensCode event = true
          · simp [opens, not_closesCode opens]; omega
          · by_cases closes : closesCode event = true
            · simp [opens, closes]; omega
            · simpa [opens, closes] using before

/-! ### The text stage -/

/-- What stands in place of an event with `depth` code blocks open, if outside of code the texts are dropped
    that `drops` says. -/
def carried (drops : String → Prop) [DecidablePred drops] (depth : Nat) : Event → Option Event
  | .markdown (.text body) => if depth = 0 ∧ drops body then none else some (.typst (.text body))
  | event => some event

/-- A stream in which every event is carried over in its place. -/
def inPlace (drops : String → Prop) [DecidablePred drops] (events : List Event) : List Event :=
  events.zipIdx.filterMap fun placed => carried drops (openCode (events.take placed.2)) placed.1

theorem inPlace_append_singleton (drops : String → Prop) [DecidablePred drops] (events : List Event)
    (event : Event) :
    inPlace drops (events ++ [event]) =
      inPlace drops events ++ (carried drops (openCode events) event).toList := by
  have before : (events.zipIdx.filterMap fun placed =>
        carried drops (openCode ((events ++ [event]).take placed.2)) placed.1) = inPlace drops events := by
    apply List.filterMap_congr
    intro placed member
    have within : placed.2 < events.length := by simpa using (List.mem_zipIdx member).2.1
    rw [List.take_append_of_le_length (Nat.le_of_lt within)]
  rw [inPlace, List.zipIdx_append, List.filterMap_append, before]
  cases found : carried drops (openCode events) event <;> simp [found]

theorem replaceText_eq (memory : Memory) (event : Event) :
    (replaceText memory event).1 =
      (carried (isDisplayFormula · = true) memory.codeDepth event).toList := by
  unfold replaceText
  split
  · next opens =>
      unfold opensCode at opens
      split at opens
      · rfl
      · rfl
      · cases opens
  · split
    · next closes =>
        unfold closesCode at closes
        split at closes
        · rfl
        · rfl
        · cases closes
    · split
      · rw [carried]
        split <;> rfl
      · next noText =>
          rw [carried]
          · rfl
          · exact noText

section Dropping

variable {drops drops' : String → Prop} [DecidablePred drops] [DecidablePred drops']

theorem carried_eq_iff (fewer : ∀ text, drops' text → drops text) (depth : Nat) (event : Event) :
    carried drops depth event = carried drops' depth event ↔
      ∀ body, event = .markdown (.text body) → depth = 0 → drops body → drops' body := by
  unfold carried
  split
  · next body => by_cases outside : depth = 0 <;> by_cases less : drops' body <;> simp_all
  · next noText => exact iff_of_true rfl fun body isText => (noText body isText).elim

/-- The more is dropped, the less is left. -/
theorem length_carried_le (fewer : ∀ text, drops' text → drops text) (depth : Nat) (event : Event) :
    (carried drops depth event).toList.length ≤ (carried drops' depth event).toList.length := by
  unfold carried
  split
  · next body => by_cases outside : depth = 0 <;> by_cases less : drops' body <;> simp_all
  · exact Nat.le_refl _

theorem length_inPlace_le (fewer : ∀ text, drops' text → drops text) (events : List Event) :
    (inPlace drops events).length ≤ (inPlace drops' events).length := by
  induction events using List.reverseRecOn with
  | nil => exact Nat.le_refl _
  | append_singleton events event ih =>
      rw [inPlace_append_singleton, inPlace_append_singleton, List.length_append, List.length_append]
      exact Nat.add_le_add ih (length_carried_le fewer _ event)

/-- Dropping more gives the same stream only if nothing more stands outside of code. -/
theorem inPlace_eq_iff (fewer : ∀ text, drops' text → drops text) (events : List Event) :
    inPlace drops events = inPlace drops' events ↔
      ∀ before body behind, events = before ++ .markdown (.text body) :: behind → openCode before = 0 →
        drops body → drops' body := by
  induction events using List.reverseRecOn with
  | nil => simp [inPlace]
  | append_singleton events event ih =>
      have sameInPlace : inPlace drops (events ++ [event]) = inPlace drops' (events ++ [event]) ↔
          inPlace drops events = inPlace drops' events ∧
            carried drops (openCode events) event = carried drops' (openCode events) event := by
        rw [inPlace_append_singleton, inPlace_append_singleton]
        constructor
        · intro same
          have shorter := length_inPlace_le fewer events
          have shorterLast := length_carried_le fewer (openCode events) event
          have lengths := congrArg List.length same
          rw [List.length_append, List.length_append] at lengths
          obtain ⟨sameFront, sameLast⟩ := List.append_inj same (by omega)
          exact ⟨sameFront, by simpa using congrArg List.head? sameLast⟩
        · rintro ⟨sameFront, sameLast⟩
          rw [sameFront, sameLast]
      rw [sameInPlace, ih, carried_eq_iff fewer]
      constructor
      · rintro ⟨earlier, last⟩ before body behind split
        rcases List.eq_nil_or_concat behind with rfl | ⟨more, final, rfl⟩
        · obtain ⟨rfl, isText⟩ := List.append_inj' split rfl
          exact last body (List.singleton_inj.mp isText)
        · rw [List.concat_eq_append, ← List.cons_append, ← List.append_assoc] at split
          obtain ⟨rfl, -⟩ := List.append_inj' split rfl
          exact earlier before body more rfl
      · intro all
        constructor
        · rintro before body behind rfl
          exact all before body (behind ++ [event]) (by simp)
        · rintro body rfl
          exact all events body [] rfl

end Dropping

/-- The text stage carries every event over in its place, with as many code blocks open as there are. -/
theorem run_text (events : List Event) :
    Stage.text.run .initial events = inPlace (isDisplayFormula · = true) events := by
  induction events using List.reverseRecOn with
  | nil => rfl
  | append_singleton events event ih =>
      rw [run_append, ih, run_singleton, after_text, inPlace_append_singleton]
      exact congrArg (inPlace _ events ++ ·) (replaceText_eq _ event)

/-- The text stage carries every event over in its place: a text becomes one with the same characters, and
    everything else stays as it is, except that outside of code blocks texts are dropped that look like a
    display formula from both of their ends. These are the texts that are one formula, and those that run on
    from one formula to the end of another. So only single formulas are dropped exactly if no text outside of
    code blocks runs on. The number of open code blocks, of either dialect, is at every place the most by which
    some ending of what came before opens more of them than it closes. -/
theorem run_text_inPlace (events : List Event) :
    Stage.text.run .initial events = inPlace (isDisplayFormula · = true) events ∧
      (∀ text, isDisplayFormula text = true ↔ IsOneFormula text ∨ RunsOn text) ∧
      (Stage.text.run .initial events = inPlace IsOneFormula events ↔
        ∀ before body behind, events = before ++ .markdown (.text body) :: behind → openCode before = 0 →
          ¬ RunsOn body) ∧
      ∀ before behind, events = before ++ behind →
        (Stage.text.after .initial before).codeDepth = openCode before ∧
          (∃ front last, before = front ++ last ∧
            last.countP opensCode = last.countP closesCode + openCode before) ∧
          ∀ front last, before = front ++ last →
            last.countP opensCode ≤ last.countP closesCode + openCode before := by
  refine ⟨run_text events, isDisplayFormula_iff, ?single, ?count⟩
  case single =>
    have fewer (text : String) (one : IsOneFormula text) : isDisplayFormula text = true :=
      (isDisplayFormula_iff text).mpr (.inl one)
    have more (text : String) : (isDisplayFormula text = true → IsOneFormula text) ↔ ¬ RunsOn text := by
      rw [isDisplayFormula_iff]
      constructor
      · exact fun isOne runsOn => runsOn.not_isOneFormula (isOne (.inr runsOn))
      · exact fun stops looks => looks.resolve_right stops
    rw [run_text, inPlace_eq_iff fewer]
    simp only [more]
  case count =>
    rintro before behind rfl
    rw [after_text]
    exact ⟨rfl, openCode_surplus before⟩

/-- Two formulas with prose between them are dropped as one. -/
theorem run_text_twoFormulas :
    Stage.text.run .initial [.markdown (.text "\\[a\\] and \\[b\\]")] = [] ∧
      RunsOn "\\[a\\] and \\[b\\]" ∧
      inPlace IsOneFormula [.markdown (.text "\\[a\\] and \\[b\\]")] =
        [.typst (.text "\\[a\\] and \\[b\\]")] := by
  have runsOn : RunsOn "\\[a\\] and \\[b\\]" := ⟨"a".toList, " and \\[b".toList, by decide⟩
  refine ⟨by decide, runsOn, ?_⟩
  simp [inPlace, carried, runsOn.not_isOneFormula]

end Bindery.Convert
