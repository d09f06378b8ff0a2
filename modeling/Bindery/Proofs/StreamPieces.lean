/-
Module: Bindery.Proofs.StreamPieces
Layer: Proofs
Purpose: From a piece of a book to a piece of its document. A piece yields a text if the stages and the
  renderer make that text of it, with the renderer as it was at first before and after the piece. Pieces
  one after the other yield their texts one after the other. The ends of a chapter, the title and the
  authors yield what their one stage makes of them, and prose yields what it yields by itself.
Imports: Bindery.Proofs.ChapterProse
Main exports: Yields, Yields.append, Yields.markup, yields_unowned, targetFrom_structural,
  yields_structural
-/
import Bindery.Proofs.ChapterProse

namespace Bindery.Convert

open Markup (Renders escapeText repeated)

/-- With `memory` before a piece, the piece becomes `text`, and the stages remember `next` after it. The
    renderer has nothing open around the piece. -/
structure Yields (settings : Settings) (memory : Memory) (events : List Event) (text : String)
    (next : Memory) : Prop where
  leads : Leads settings.selectedStages memory events next
  renders : ∃ fragments, Renders .initial (targetFrom settings memory events) fragments .initial ∧
    String.join fragments = text

variable {settings : Settings} {memory middle next : Memory}

theorem yields_nil (settings : Settings) (memory : Memory) : Yields settings memory [] "" memory := by
  have nothing : convertFrom memory settings.selectedStages [] = [] :=
    (convertFrom_of_quiet memory fun _ _ _ member => absurd member (by simp)).1
  refine ⟨leads_nil _ memory, [], ?_, rfl⟩
  rw [targetFrom, nothing]
  exact .nil _

/-- Pieces one after the other yield their texts one after the other. -/
theorem Yields.append {first second : List Event} {text more : String}
    (yieldsFirst : Yields settings memory first text middle)
    (yieldsSecond : Yields settings middle second more next) :
    Yields settings memory (first ++ second) (text ++ more) next := by
  rcases yieldsFirst with ⟨leadsFirst, fragments, rendersFirst, rfl⟩
  rcases yieldsSecond with ⟨leadsSecond, fragments', rendersSecond, rfl⟩
  refine ⟨leadsFirst.append leadsSecond, fragments ++ fragments', ?_, String.join_append⟩
  rw [targetFrom_append leadsFirst]
  exact rendersFirst.append rendersSecond

/-- The text that a stream yields from the start is its markup. -/
theorem Yields.markup {events : List Event} {text : String}
    (yields : Yields settings .initial events text next) :
    Markup.markup (convertToTypst settings events) = .ok text := by
  rcases yields with ⟨_, fragments, renders, rfl⟩
  exact renders.markup

/-! ### Structural events -/

/-- A structural event that no stage converts yields nothing. -/
theorem yields_unowned (settings : Settings) (memory : Memory) {event : Book.Event}
    (unowned : ownerOfBook event = none) : Yields settings memory [.book event] "" memory := by
  obtain ⟨vanishes, stays⟩ := targetFrom_unowned settings memory unowned
  refine ⟨stays, [], ?_, rfl⟩
  rw [vanishes]
  exact .nil _

/-- A structural event of one stage concerns no other. -/
theorem quiet_of_owned {event : Book.Event} {stage other : Stage}
    (structural : stage ∈ Stage.structural) (owned : ownerOfBook event = some stage)
    (differ : other ≠ stage) : other.Quiet [.book event] := by
  intro single member
  rw [List.mem_singleton.mp member]
  have owner : owner (.book event) = some stage := owned
  constructor
  · have noContent : stage ≠ .content := by
      rintro rfl
      exact absurd structural (by decide)
    simp [Stage.touches, owner, differ.symm, noContent]
  · cases other with
    | authors | chapters => simp [Stage.watches, owner, differ.symm]
    | _ => rfl

/-- Is the event one of the target that opens and closes no code block? -/
def isPlainTarget : Event → Bool
  | .typst inner => !opensCode (.typst inner) && !closesCode (.typst inner)
  | _ => false

/-- Such an event concerns no stage. -/
theorem quiet_of_plainTarget {events : List Event}
    (plain : ∀ event ∈ events, isPlainTarget event = true) (stage : Stage) : stage.Quiet events := by
  intro event member
  have plainEvent := plain event member
  cases event with
  | typst inner =>
      simp only [isPlainTarget, Bool.and_eq_true, Bool.not_eq_true'] at plainEvent
      have noOwner : owner (.typst inner) = none := rfl
      constructor
      · simp [Stage.touches, noOwner]
      · cases stage with
        | authors | chapters => simp [Stage.watches, noOwner]
        | text => simp [Stage.watches, plainEvent.1, plainEvent.2]
        | _ => rfl
  | book | markdown | foreign => cases plainEvent

/-- The filter leaves such events. -/
theorem filterDialect_of_plainTarget {events : List Event}
    (plain : ∀ event ∈ events, isPlainTarget event = true) : filterDialect .typst events = events := by
  apply List.filter_eq_self.mpr
  intro event member
  have plainEvent := plain event member
  cases event with
  | typst inner => rfl
  | book | markdown | foreign => cases plainEvent

theorem mem_selectedStages {stage : Stage} (structural : stage ∈ Stage.structural) :
    stage ∈ settings.selectedStages ↔ settings.isEnabled stage = true := by
  constructor
  · intro selected
    rcases List.mem_append.mp selected with inFront | later
    · exact (List.mem_filter.mp inFront).2
    · split at later
      · exact (List.mem_filter.mp later).2
      · cases later
  · intro runs
    exact List.mem_append_left _ (List.mem_filter.mpr ⟨structural, runs⟩)

/-- A structural event of one stage becomes what the stage makes of it, or nothing if the stage does not
    run. The stage remembers the event either way, since without the stage nobody reads that. -/
theorem targetFrom_structural (settings : Settings) {stage : Stage}
    (structural : stage ∈ Stage.structural) {event : Book.Event}
    (owned : ownerOfBook event = some stage) {targets : List Event}
    (replaced : stage.replace memory (.book event) = (targets, next))
    (plain : ∀ target ∈ targets, isPlainTarget target = true) :
    targetFrom settings memory [.book event] = (if settings.isEnabled stage then targets else []) ∧
      Leads settings.selectedStages memory [.book event] next := by
  have changes : (stage.replace memory (.book event)).2 = next := congrArg Prod.snd replaced
  by_cases runs : settings.isEnabled stage = true
  · rw [if_pos runs]
    have behind : ∀ other, other ≠ stage → other.Quiet (stage.replace memory (.book event)).1 := by
      intro other _
      rw [replaced]
      exact quiet_of_plainTarget plain other
    obtain ⟨converted, leads⟩ := convertFrom_private (selectedStages_nodup settings)
      ((mem_selectedStages structural).mpr runs)
      (fun other differ => quiet_of_owned structural owned differ) behind
    rw [changes] at leads
    refine ⟨?_, leads⟩
    rw [targetFrom, converted, replaced, filterDialect_of_plainTarget plain]
  · rw [if_neg runs]
    have differ : ∀ other ∈ settings.selectedStages, other ≠ stage := by
      rintro other selected rfl
      exact runs ((mem_selectedStages structural).mp selected)
    obtain ⟨passes, leads⟩ := convertFrom_of_quiet memory
      fun other selected => quiet_of_owned structural owned (differ other selected)
    refine ⟨?_, leads.of_agrees fun other selected => ?_⟩
    · rw [targetFrom, passes]
      rfl
    · rw [← changes]
      exact agrees_replace_of_ne (differ other selected) memory _

/-- Such an event yields the text of what its stage makes of it, or nothing. -/
theorem yields_structural {stage : Stage} (structural : stage ∈ Stage.structural) {event : Book.Event}
    (owned : ownerOfBook event = some stage) {targets : List Event}
    (replaced : stage.replace memory (.book event) = (targets, next))
    (plain : ∀ target ∈ targets, isPlainTarget target = true) {fragments : List String}
    (renders : Renders .initial targets fragments .initial) :
    Yields settings memory [.book event]
      (if settings.isEnabled stage then String.join fragments else "") next := by
  obtain ⟨becomes, leads⟩ := targetFrom_structural settings structural owned replaced plain
  refine ⟨leads, if settings.isEnabled stage then fragments else [], ?_, ?_⟩
  · rw [becomes]
    split
    · exact renders
    · exact .nil _
  · split <;> rfl

end Bindery.Convert
