/-
Module: Bindery.Proofs.FilteredNesting
Layer: Proofs
Purpose: Filters on the dialect of events keep nesting. A container is kept or dropped as a whole where both
  of its ends are of one dialect. In a balanced stream that is so of the containers of the target and of the
  book, and of those of prose if both ends are embedded in a book, or neither. The filter to the target drops
  prose however it is embedded, and so asks nothing of it.
Imports: Bindery.Proofs.ChainNesting
Main exports: Event.bare, nestFrom_map_bare, filterDialect_map_bare, balanced_filterDialect
-/
import Bindery.Proofs.ChainNesting

namespace Bindery

/-! ### Prose that is embedded nowhere -/

/-- The event, as bare prose if it is embedded prose. -/
def Event.bare : Event → Event
  | .book (.prose inner) => .markdown inner
  | event => event

theorem bracket_bare (event : Event) : event.bare.bracket = event.bracket := by
  cases event with
  | book inner => cases inner <;> rfl
  | _ => rfl

theorem isEmbedded_bare (event : Event) : event.bare.isEmbedded = false := by
  cases event with
  | book inner => cases inner <;> rfl
  | _ => rfl

/-- Where nothing is embedded, a balanced stream is nested. -/
theorem nestFrom_map_bare {events : List Event} (balanced : balanceFault? events = none) :
    nestFrom false [] (events.map Event.bare) = some [] := by
  have sameBrackets : (events.map Event.bare).map Event.bracket = events.map Event.bracket := by
    rw [List.map_map]
    exact List.map_congr_left fun event _ => bracket_bare event
  have noneEmbedded : ∀ event ∈ events.map Event.bare, event.isEmbedded = false := by
    intro event member
    obtain ⟨source, _, rfl⟩ := List.mem_map.mp member
    exact isEmbedded_bare source
  exact nestFrom_of_uniform ((fault_balancedFrom_congr sameBrackets).trans balanced) noneEmbedded

/-- Whether prose is embedded is nothing to the filter to the target. -/
theorem filterDialect_map_bare (events : List Event) :
    filterDialect .typst (events.map Event.bare) = filterDialect .typst events := by
  have single (event : Event) : filterDialect .typst [event.bare] = filterDialect .typst [event] := by
    cases event with
    | book inner => cases inner <;> rfl
    | _ => rfl
  rw [filterDialect_eq_flatMap, filterDialect_eq_flatMap .typst events, List.flatMap_map]
  exact congrArg events.flatMap (funext single)

/-! ### Filtered streams -/

theorem balanced_filterDialect_of_nestFrom (dialect : Dialect) {events : List Event}
    (nested : nestFrom false [] events = some []) : balanceFault? (filterDialect dialect events) = none :=
  balanced_of_nestFrom (nestFrom_filterDialect dialect nested)

/-- The events of the target in a balanced stream are balanced; and if both ends of each container are embedded
    alike, so are the events of every dialect. -/
theorem balanced_filterDialect {events : List Event} (balanced : balanceFault? events = none) :
    balanceFault? (filterDialect .typst events) = none ∧
      (embeddedAlike [] events = true →
        ∀ dialect, balanceFault? (filterDialect dialect events) = none) := by
  constructor
  · rw [← filterDialect_map_bare]
    exact balanced_filterDialect_of_nestFrom .typst (nestFrom_map_bare balanced)
  · intro alike dialect
    have nested : nestFrom false [] events = some [] := (nestFrom_nil_iff events).mpr ⟨balanced, alike⟩
    exact balanced_filterDialect_of_nestFrom dialect nested

/-- A chapter with containers of all dialects in each other: an embedded list in a target paragraph, with bare
    prose and a foreign value in its item. -/
def interleaved : List Event :=
  [.book (.start (.chapter .draft "A" none none)), .typst (.start .paragraph),
   .book (.prose (.start (.list none))), .book (.prose (.start .item)), .markdown (.start .strong),
   .foreign "x", .typst (.start .emphasis), .book (.start .authorList), .typst (.text "y"),
   .book (.finish .authorList), .typst (.finish .emphasis), .markdown (.finish .strong),
   .book (.prose (.finish .item)), .markdown .rule, .book (.prose (.finish (.list none))),
   .typst (.finish .paragraph), .book (.finish (.chapter .draft "A" none none))]

theorem balanced_filterDialect_interleaved :
    (balanceFault? interleaved = none ∧ embeddedAlike [] interleaved = true) ∧
      balanceFault? (filterDialect .typst interleaved) = none ∧
        ∀ dialect, balanceFault? (filterDialect dialect interleaved) = none := by
  have balanced : balanceFault? interleaved = none := by decide
  have alike : embeddedAlike [] interleaved = true := by decide
  obtain ⟨target, every⟩ := balanced_filterDialect balanced
  exact ⟨⟨balanced, alike⟩, target, every alike⟩

/-- Of a container that is embedded at its start only, the filters to the book and to prose keep one end. -/
example :
    let events : List Event :=
      [.typst (.start .paragraph), .book (.prose (.start .strong)), .markdown (.finish .strong),
       .typst (.finish .paragraph)]
    balanceFault? events = none ∧ balanceFault? (filterDialect .typst events) = none ∧
      balanceFault? (filterDialect .book events) ≠ none ∧
        balanceFault? (filterDialect .markdown events) ≠ none := by
  decide

end Bindery
