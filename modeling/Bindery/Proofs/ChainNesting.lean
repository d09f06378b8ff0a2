/-
Module: Bindery.Proofs.ChainNesting
Layer: Proofs
Purpose: Chains of stages keep nesting. A stream is nested when it is balanced and both ends of every
  container are embedded in a book, or neither is; this is what the machine of open containers accepts
  unless it is strict. Whatever stages a chain has, and however often, what it gives of a nested stream is
  nested again. What is nested by itself is nested inside any containers.
Imports: Bindery.Proofs.LazyChain, Bindery.Proofs.StageNesting
Main exports: embeddedAlike, nestFrom_eq_nil_iff, nestFrom_of_uniform, nestFrom_append_stack, outputs_nested
-/
import Bindery.Proofs.LazyChain
import Bindery.Proofs.StageNesting

namespace Bindery

/-! ### Nested streams -/

/-- Are both ends of every container embedded, or neither? `stack` tells of the open containers, innermost
    first, which of them embedded prose opened. A finish without a container is no end of one. -/
def embeddedAlike (stack : List Bool) : List Event → Bool
  | [] => true
  | event :: rest =>
    match event.bracket with
    | .leaf => embeddedAlike stack rest
    | .opening _ => embeddedAlike (event.isEmbedded :: stack) rest
    | .closing _ => stack.head?.all (· = event.isEmbedded) && embeddedAlike stack.tail rest

/-- The machine accepts a stream that leaves nothing open if the stream is balanced and both ends of each
    container are embedded alike, and only then. -/
theorem nestFrom_eq_nil_iff (stack : List Frame) (events : List Event) :
    nestFrom false stack events = some [] ↔
      (balancedFrom (stack.map Frame.tag) events).fault = none ∧
        embeddedAlike (stack.map Frame.embedded) events = true := by
  induction events generalizing stack with
  | nil => cases stack <;> simp [nestFrom, balancedFrom, embeddedAlike, Drained.done, Drained.failed]
  | cons event rest ih =>
      rw [nestFrom, balancedFrom, embeddedAlike]
      cases bracket : event.bracket with
      | leaf =>
          rw [move_of_leaf bracket]
          exact ih stack
      | opening tag =>
          rw [move_of_opening bracket]
          exact ih (⟨tag, event.isEmbedded⟩ :: stack)
      | closing tag =>
          rw [move_of_closing bracket]
          cases stack with
          | nil => simp [Move.apply, Drained.failed]
          | cons top below =>
              rcases top with ⟨topTag, embedded⟩
              by_cases same : topTag = tag
              · by_cases alike : embedded = event.isEmbedded
                · simpa [Move.apply, same, alike, Drained.cons] using ih below
                · simp [Move.apply, same, alike]
              · simp [Move.apply, same, Drained.failed]

/-- A stream is nested if it is balanced and both ends of each container are embedded alike. -/
theorem nestFrom_nil_iff (events : List Event) :
    nestFrom false [] events = some [] ↔
      balanceFault? events = none ∧ embeddedAlike [] events = true :=
  nestFrom_eq_nil_iff [] events

/-- If all of a stream is embedded, or nothing, both ends of each container are embedded alike. -/
theorem embeddedAlike_of_uniform {embedded : Bool} {stack : List Bool} {events : List Event}
    (uniform : ∀ event ∈ events, event.isEmbedded = embedded)
    (uniformStack : ∀ opened ∈ stack, opened = embedded) : embeddedAlike stack events = true := by
  induction events generalizing stack with
  | nil => rfl
  | cons event rest ih =>
      have uniformRest : ∀ other ∈ rest, other.isEmbedded = embedded := fun other member =>
        uniform other (List.mem_cons_of_mem _ member)
      have isUniform := uniform event List.mem_cons_self
      rw [embeddedAlike]
      split
      · exact ih uniformRest uniformStack
      · exact ih uniformRest (List.forall_mem_cons.mpr ⟨isUniform, uniformStack⟩)
      · cases stack with
        | nil => simpa using ih uniformRest (by simp)
        | cons first below =>
            obtain ⟨isFirst, isBelow⟩ := List.forall_mem_cons.mp uniformStack
            simpa [isFirst, isUniform] using ih uniformRest isBelow

/-- A balanced stream that is embedded as a whole, or not at all, is nested. -/
theorem nestFrom_of_uniform {embedded : Bool} {events : List Event} (balanced : balanceFault? events = none)
    (uniform : ∀ event ∈ events, event.isEmbedded = embedded) : nestFrom false [] events = some [] :=
  (nestFrom_nil_iff events).mpr ⟨balanced, embeddedAlike_of_uniform uniform (by simp)⟩

/-! ### Inside other containers -/

/-- A container that fits also fits if there is more around. -/
theorem fits_append {frame : Frame} {stack : List Frame} (around : List Frame)
    (fits : frame.fits stack = true) : frame.fits (stack ++ around) = true := by
  unfold Frame.fits at fits ⊢
  split at fits
  · cases stack with
    | nil => simp at fits
    | cons first below => exact fits
  · cases fits
  · rfl

/-- What the machine does, it does with more containers around. -/
theorem apply_append_stack {strict : Bool} {stack stack' : List Frame} {move : Move}
    (around : List Frame) (step : move.apply strict stack = some stack') :
    move.apply strict (stack ++ around) = some (stack' ++ around) := by
  cases move with
  | stays => exact congrArg (fun held => some (held ++ around)) (Option.some.inj step)
  | opens frame =>
      rcases apply_opens step with ⟨rfl, fits⟩
      exact apply_opens_of_fits fun isStrict => fits_append around (fits isStrict)
  | closes frame =>
      obtain rfl := apply_closes step
      exact apply_closes_cons strict frame (stack' ++ around)

/-- What is nested is nested inside any containers. -/
theorem nestFrom_append_stack {strict : Bool} {stack stack' : List Frame} {events : List Event}
    (around : List Frame) (nested : nestFrom strict stack events = some stack') :
    nestFrom strict (stack ++ around) events = some (stack' ++ around) := by
  induction events generalizing stack with
  | nil => exact congrArg (fun held => some (held ++ around)) (Option.some.inj nested)
  | cons event rest ih =>
      rcases Option.bind_eq_some_iff.mp nested with ⟨middle, step, nestedRest⟩
      rw [nestFrom, apply_append_stack around step]
      exact ih nestedRest

namespace Convert

/-! ### Chains -/

/-- What a chain gives of a nested stream is nested, whatever its stages are, in any order and number. -/
theorem outputs_nested (stages : List (Option Stage)) {events : List Event}
    (balanced : balanceFault? events = none) (alike : embeddedAlike [] events = true) :
    balanceFault? ((Chain.ofStages stages).outputs events) = none ∧
      embeddedAlike [] ((Chain.ofStages stages).outputs events) = true := by
  have nested : nestFrom false [] events = some [] := (nestFrom_nil_iff events).mpr ⟨balanced, alike⟩
  rw [outputs_eq_owed, owed_ofStages, ← nestFrom_nil_iff]
  exact nestFrom_convertEagerly (stages.filterMap id) nested

/-- Embedded and bare prose, target events and a foreign value in chapters of chapters, with headings that
    move and links that lose their markers. -/
def mixedStream : List Event :=
  [.book (.start (.chapter .active "Outer" none none)), .typst (.start .paragraph),
   .book (.start (.chapter .active "Inner" none (some 1))), .book (.start .authorList),
   .book (.prose (.start (.heading 2))), .book (.author "Ann"),
   .book (.prose (.start (.link .reference "a.md" ""))), .foreign "x",
   .book (.prose (.finish (.link .reference "a.md" ""))), .book (.prose (.finish (.heading 2))),
   .book (.finish .authorList), .markdown (.start (.link .collapsed "b.md" "")),
   .markdown (.start (.heading 3)), .markdown (.finish (.heading 3)),
   .markdown (.finish (.link .collapsed "b.md" "")),
   .book (.finish (.chapter .active "Inner" none (some 1))), .typst (.finish .paragraph),
   .book (.finish (.chapter .active "Outer" none none))]

theorem outputs_nested_mixedStream :
    (balanceFault? mixedStream = none ∧ embeddedAlike [] mixedStream = true) ∧
      balanceFault? ((Chain.ofStages [some .links, some .chapters, none, some .content,
          some .chapters, some .links, some .authors]).outputs mixedStream) = none ∧
        embeddedAlike [] ((Chain.ofStages [some .links, some .chapters, none, some .content,
          some .chapters, some .links, some .authors]).outputs mixedStream) = true := by
  have balanced : balanceFault? mixedStream = none := by decide
  have alike : embeddedAlike [] mixedStream = true := by decide
  exact ⟨⟨balanced, alike⟩, outputs_nested _ balanced alike⟩

/-- In the inner of two chapters, a heading that is embedded at its start only moves there only. -/
example :
    let chapter : Book.Tag := .chapter .draft "A" none none
    let events : List Event :=
      [.book (.start chapter), .book (.start chapter), .book (.prose (.start (.heading 1))),
       .markdown (.finish (.heading 1)), .book (.finish chapter), .book (.finish chapter)]
    balanceFault? events = none ∧ embeddedAlike [] events = false ∧
      balanceFault? (Stage.chapters.run .initial events) ≠ none := by
  decide

end Convert

end Bindery
