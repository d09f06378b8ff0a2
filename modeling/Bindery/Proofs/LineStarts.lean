/-
Module: Bindery.Proofs.LineStarts
Layer: Proofs
Purpose: Where lines start in a document. A stream is laid out if every container stands in one that may hold
  it, content of lines in what has lines, and a heading where a line starts or behind the content of a line
  that stands in an item by itself. The check goes through the stream event by event, and what it remembers of
  the last line agrees with what the renderer has written. A heading holds content of a line only, so that
  what is written inside it goes on to another line exactly where a break or a line feed is shown.
Imports: Bindery.Proofs.RendererCounters, Mathlib.Data.List.Induction
Main exports: lastWritten, startsLine, isLineContent, Spot, Spot.after, Spot.through, follows_of_renders,
  BehindContent, heading_place, exists_finish_of_line, breaksLine, mem_join_iff
-/
import Bindery.Proofs.RendererCounters
import Mathlib.Data.List.Induction

namespace Bindery.Markup

/-! ### Lines -/

/-- The last event that something was written for, with what was written. -/
def lastWritten (events : List Event) (written : List String) : Option (Event × String) :=
  ((events.zip written).filter fun pair => pair.2 ≠ "").getLast?

def isStart : Event → Bool
  | .typst (.start _) => true
  | _ => false

/-- Does a line start behind what was written last? A line starts where nothing was written, behind a line
    feed, behind the marker of an item, and behind the bracket that a container opens. -/
def startsLine : Option (Event × String) → Bool
  | none => true
  | some (event, fragment) =>
    fragment.toList.getLast? = some '\n' || event = .typst (.start .item) ||
      (isStart event && fragment.toList.getLast? = some '[')

/-- Is the container one in a line? -/
def isLineTag : Typst.Tag → Bool
  | .emphasis | .strong | .strikethrough => true
  | .link _ _ => true
  | _ => false

def isLineContent : Typst.Event → Bool
  | .text _ | .code _ | .paragraphBreak => true
  | .start tag | .finish tag => isLineTag tag
  | _ => false

theorem lastWritten_append_singleton {events : List Event} {written : List String}
    (length : written.length = events.length) (event : Event) (fragment : String) :
    lastWritten (events ++ [event]) (written ++ [fragment]) =
      if fragment = "" then lastWritten events written else some (event, fragment) := by
  rw [lastWritten, List.zip_append length.symm, List.filter_append]
  by_cases empty : fragment = ""
  · simp [empty, lastWritten]
  · simp [empty]

/-! ### The layout of a document -/

/-- What a container can hold. -/
inductive Holding where
  | blocks
  | items
  | rows
  | cells
  | line
  | code
deriving DecidableEq, Repr

def holding : Typst.Tag → Holding
  | .quote _ _ _ | .item => .blocks
  | .bulletList _ _ | .numberedList _ _ _ => .items
  | .table _ => .rows
  | .tableHead | .tableRow => .cells
  | .codeBlock _ _ | .showRule _ _ _ _ => .code
  | .paragraph | .heading _ _ _ | .tableCell => .line
  | .emphasis | .strong | .strikethrough => .line
  | .link _ _ => .line

/-- What a container stands in. Some containers of documents never come from a book. -/
def standing : Typst.Tag → Option Holding
  | .paragraph | .codeBlock _ _ | .bulletList _ _ | .numberedList _ _ _ | .table _ => some .blocks
  | .heading _ .included .included => some .blocks
  | .quote .block _ _ => some .blocks
  | .item => some .items
  | .tableHead | .tableRow => some .rows
  | .tableCell => some .cells
  | .emphasis | .strong | .strikethrough => some .line
  | .link _ _ => some .line
  | .heading _ _ _ | .quote _ _ _ | .showRule _ _ _ _ => none

/-- What comes before the next event: the start of a line, content of a line, or something else. -/
inductive Place where
  | fresh
  | inline
  | beyond
deriving DecidableEq, Repr

/-- What is open, innermost first, and what comes before the next event. -/
structure Spot where
  opened : List Typst.Tag
  place : Place
deriving DecidableEq, Repr

def Place.inLine : Place → Place
  | .beyond => .beyond
  | _ => .inline

namespace Spot

/-- Nothing is open and nothing was written. -/
def initial : Spot := ⟨[], .fresh⟩

/-- What the innermost container holds. Outside of all containers there are blocks. -/
def held (spot : Spot) : Holding := (spot.opened.head?.map holding).getD .blocks

/-- May something of a kind stand here? Content of a line may stand in an item by itself. -/
def takes (spot : Spot) (kind : Holding) : Bool :=
  spot.held = kind || (kind = .line && spot.opened.head? = some .item)

/-- May a heading stand here? -/
def takesHeading (spot : Spot) : Bool :=
  spot.place = .fresh || (spot.place = .inline && spot.opened.head? = some .item)

def isHeading : Typst.Tag → Bool
  | .heading _ _ _ => true
  | _ => false

/-- The place behind the start of a container. -/
def entered (spot : Spot) : Typst.Tag → Place
  | .bulletList _ _ | .numberedList _ _ _ => if spot.opened.head? = some .item then .fresh else spot.place
  | .heading _ _ _ => .beyond
  | .emphasis | .strong | .strikethrough => spot.place.inLine
  | .link _ _ => spot.place.inLine
  | _ => .fresh

/-- The place behind the finish of a container. -/
def left (spot : Spot) : Typst.Tag → Place
  | .bulletList _ _ | .numberedList _ _ _ => spot.place
  | .tableCell => .beyond
  | .emphasis | .strong | .strikethrough => spot.place.inLine
  | .link _ _ => spot.place.inLine
  | _ => .fresh

/-- The spot behind an event that may stand here. -/
def after (spot : Spot) : Typst.Event → Option Spot
  | .start tag =>
    if (standing tag).any spot.takes ∧ (isHeading tag → spot.takesHeading) then
      some ⟨tag :: spot.opened, spot.entered tag⟩
    else none
  | .finish tag =>
    if spot.opened.head? = some tag then some ⟨spot.opened.tail, spot.left tag⟩ else none
  | .text _ =>
    if spot.takes .line ∨ spot.takes .code then some { spot with place := spot.place.inLine } else none
  | .code _ | .paragraphBreak =>
    if spot.takes .line then some { spot with place := spot.place.inLine } else none
  | .call _ _ _ | .documentSet _ _ => if spot.opened = [] then some initial else none
  | _ => none

end Spot

/-! ### The check and the renderer -/

def Place.Agrees (place : Place) (last : Option (Event × String)) : Prop :=
  match place with
  | .fresh => startsLine last = true
  | .inline =>
    startsLine last = true ∨ ∃ event fragment,
      last = some (.typst event, fragment) ∧ isLineContent event = true
  | .beyond => True

def lastAfter (last : Option (Event × String)) (event : Event) (fragment : String) :
    Option (Event × String) :=
  if fragment = "" then last else some (event, fragment)

/-- A text ends as the last piece of it does. -/
theorem getLast?_toList_append (text : String) {ending : String} {c : Char}
    (ends : ending.toList.getLast? = some c) : (text ++ ending).toList.getLast? = some c := by
  rw [String.toList_append, List.getLast?_append, ends]
  rfl

/-- Behind a fragment that ends with a line feed, a line starts. -/
theorem agrees_lineFeed {last : Option (Event × String)} (event : Typst.Event) {fragment : String}
    (ends : fragment.toList.getLast? = some '\n') :
    Place.fresh.Agrees (lastAfter last (.typst event) fragment) := by
  have written : fragment ≠ "" := by
    rintro rfl
    cases ends
  rw [lastAfter, if_neg written]
  simp [Place.Agrees, startsLine, ends]

/-- Behind a fragment that ends with the bracket of a container, a line starts. -/
theorem agrees_bracket {last : Option (Event × String)} (tag : Typst.Tag) {fragment : String}
    (ends : fragment.toList.getLast? = some '[') :
    Place.fresh.Agrees (lastAfter last (.typst (.start tag)) fragment) := by
  have written : fragment ≠ "" := by
    rintro rfl
    cases ends
  rw [lastAfter, if_neg written]
  simp [Place.Agrees, startsLine, isStart, ends]

/-- Content of a line is behind content of a line. -/
theorem Place.Agrees.inLine {place : Place} {last : Option (Event × String)} (agrees : place.Agrees last)
    {event : Typst.Event} (content : isLineContent event = true) (fragment : String) :
    place.inLine.Agrees (lastAfter last (.typst event) fragment) := by
  have behind : Place.inline.Agrees last → Place.inline.Agrees (lastAfter last (.typst event) fragment) := by
    intro agreesInline
    unfold lastAfter
    split
    · exact agreesInline
    · exact .inr ⟨event, fragment, rfl, content⟩
  cases place with
  | fresh => exact behind (.inl agrees)
  | inline => exact behind agrees
  | beyond => trivial

section Steps

variable {spot next : Spot} {state following : Renderer} {tag : Typst.Tag} {last : Option (Event × String)}
  {fragment : String}

/-- A marker is never empty. -/
theorem itemMarker_ne_empty (marked : state.itemMarker = .ok (fragment, following)) : fragment ≠ "" := by
  unfold Renderer.itemMarker at marked
  split at marked
  · cases marked
    simp
  · split at marked
    · cases marked
      simp
    · cases marked
      simp
  · cases marked

/-- The place behind a start agrees with what is written for it. -/
theorem agrees_enter (same : spot.opened = state.opened) (agrees : spot.place.Agrees last)
    (stands : (standing tag).isSome = true) (entered : state.enter tag = .ok (fragment, following)) :
    (spot.entered tag).Agrees (lastAfter last (.typst (.start tag)) fragment) := by
  have listStart (number : Option Int) :
      Place.Agrees (if spot.opened.head? = some .item then .fresh else spot.place)
        (lastAfter last (.typst (.start tag)) (state.listStart number).1) := by
    rw [Renderer.listStart, same]
    split
    · have feed : "\n".toList.getLast? = some '\n' := by decide
      exact agrees_lineFeed _ feed
    · exact agrees
  cases tag with
  | showRule => cases stands
  | heading => trivial
  | bulletList =>
      cases entered
      exact listStart none
  | numberedList start =>
      cases entered
      exact listStart (if start = 1 then none else some start)
  | item =>
      have written : fragment ≠ "" := itemMarker_ne_empty entered
      rw [lastAfter, if_neg written]
      simp [Spot.entered, Place.Agrees, startsLine]
  | emphasis | strong | strikethrough => exact agrees.inLine rfl fragment
  | link => exact agrees.inLine rfl fragment
  | paragraph | tableCell =>
      cases entered
      exact agrees_bracket _ (by decide)
  | quote =>
      cases entered
      exact agrees_bracket _ (getLast?_toList_append _ (by decide))
  | tableHead | tableRow =>
      cases entered
      exact agrees_lineFeed _ (by decide)
  | codeBlock | table =>
      cases entered
      exact agrees_lineFeed _ (getLast?_toList_append _ (by decide))

/-- The place behind a finish agrees with what is written for it. -/
theorem agrees_leave (agrees : spot.place.Agrees last) (stands : (standing tag).isSome = true)
    (left : state.leave tag = (fragment, following)) :
    (spot.left tag).Agrees (lastAfter last (.typst (.finish tag)) fragment) := by
  cases tag with
  | showRule => cases stands
  | tableCell => trivial
  | bulletList | numberedList =>
      cases left
      exact agrees
  | emphasis | strong | strikethrough => exact agrees.inLine rfl fragment
  | link => exact agrees.inLine rfl fragment
  | heading level outline bookmarks =>
      cases left
      apply agrees_lineFeed
      split <;> decide
  | codeBlock =>
      cases left
      exact agrees_lineFeed _ (getLast?_toList_append _ (by decide))
  | quote kind marks attribution =>
      cases kind with
      | inline => cases stands
      | block =>
          cases left
          exact agrees_lineFeed _ (by decide)
  | _ =>
      cases left
      exact agrees_lineFeed _ (by decide)

/-- All that the start of a container asks for. -/
theorem after_start (allowed : spot.after (.start tag) = some next) :
    (∃ kind, standing tag = some kind ∧ spot.takes kind = true) ∧
      (Spot.isHeading tag = true → spot.takesHeading = true) ∧
        next = ⟨tag :: spot.opened, spot.entered tag⟩ := by
  rw [Spot.after] at allowed
  split at allowed
  · next may =>
      obtain ⟨stands, heads⟩ := may
      rw [Option.any_eq_true] at stands
      exact ⟨stands, heads, (Option.some.inj allowed).symm⟩
  · cases allowed

/-- The finish of a container asks for the container to be the innermost one. -/
theorem after_finish (allowed : spot.after (.finish tag) = some next) :
    ∃ below, spot.opened = tag :: below ∧ next = ⟨below, spot.left tag⟩ := by
  rw [Spot.after] at allowed
  split at allowed
  · next innermost =>
      obtain ⟨below, opened⟩ := List.head?_eq_some_iff.mp innermost
      refine ⟨below, opened, ?_⟩
      rw [← Option.some.inj allowed, opened, List.tail_cons]
  · cases allowed

/-- Does a spot agree with a renderer and with what was written last? -/
structure Spot.Follows (spot : Spot) (state : Renderer) (last : Option (Event × String)) : Prop where
  opened : spot.opened = state.opened
  stands : ∀ tag ∈ spot.opened, (standing tag).isSome = true
  place : spot.place.Agrees last

/-- Where an event may stand, the check and the renderer go on alike. -/
theorem follows_step {event : Typst.Event} (follows : spot.Follows state last)
    (allowed : spot.after event = some next)
    (stepped : state.step (.typst event) = .ok (fragment, following)) :
    next.Follows following (lastAfter last (.typst event) fragment) := by
  obtain ⟨opened, stands, place⟩ := follows
  have inLine (content : isLineContent event = true) (goesOn : next = ⟨spot.opened, spot.place.inLine⟩)
      (stays : following = state) : next.Follows following (lastAfter last (.typst event) fragment) := by
    subst goesOn stays
    exact ⟨opened, stands, place.inLine content fragment⟩
  have alone (empty : spot.opened = []) (goesOn : next = .initial) (stays : following = state)
      (ends : fragment.toList.getLast? = some '\n') :
      next.Follows following (lastAfter last (.typst event) fragment) := by
    subst goesOn stays
    rw [empty] at opened
    exact ⟨opened, nofun, agrees_lineFeed event ends⟩
  cases event with
  | start tag =>
      obtain ⟨⟨kind, standsIn, _⟩, _, rfl⟩ := after_start allowed
      obtain ⟨inner, entered, rfl⟩ := enter_of_step stepped
      have isSome : (standing tag).isSome = true := by rw [standsIn]; rfl
      constructor
      · rw [enter_opened entered, opened]
      · rintro other (_ | ⟨_, member⟩)
        · exact isSome
        · exact stands other member
      · exact agrees_enter opened place isSome entered
  | finish tag =>
      obtain ⟨below, openedHere, rfl⟩ := after_finish allowed
      obtain ⟨below', openedThere, left⟩ := leave_of_step stepped
      rw [openedHere] at opened stands
      rw [openedThere] at opened
      obtain rfl := (List.cons.inj opened).2
      have afterwards := leave_opened { state with opened := below } tag
      rw [left] at afterwards
      constructor
      · exact afterwards.symm
      · exact fun other member => stands other (List.mem_cons_of_mem _ member)
      · exact agrees_leave place (stands tag List.mem_cons_self) left
  | text | code | paragraphBreak =>
      cases stepped
      rw [Spot.after] at allowed
      split at allowed
      · exact inLine rfl (Option.some.inj allowed).symm rfl
      · cases allowed
  | call | documentSet =>
      cases stepped
      rw [Spot.after] at allowed
      split at allowed
      · next empty =>
          exact alone empty (Option.some.inj allowed).symm rfl (getLast?_toList_append _ (by decide))
      · cases allowed
  | _ => cases allowed

end Steps

/-! ### Whole streams -/

/-- The spot behind events that may stand one after the other. -/
def Spot.through (spot : Spot) (events : List Typst.Event) : Option Spot := events.foldlM Spot.after spot

theorem through_cons (spot : Spot) (event : Typst.Event) (rest : List Typst.Event) :
    spot.through (event :: rest) = (spot.after event).bind (·.through rest) := List.foldlM_cons

theorem through_append (spot : Spot) (first second : List Typst.Event) :
    spot.through (first ++ second) = (spot.through first).bind (·.through second) := List.foldlM_append

/-- Wherever a stream has got to, the check and the renderer agree. -/
theorem follows_of_renders {events : List Typst.Event} {written : List String} {state : Renderer}
    {spot : Spot} (renders : Renders .initial (events.map .typst) written state)
    (laidOut : Spot.initial.through events = some spot) :
    spot.Follows state (lastWritten (events.map .typst) written) := by
  induction events using List.reverseRecOn generalizing written state spot with
  | nil =>
      cases renders
      cases laidOut
      exact ⟨rfl, nofun, rfl⟩
  | append_singleton before event ih =>
      rw [List.map_append, List.map_singleton] at renders ⊢
      obtain ⟨front, middle, behind, rfl, rendersFront, rendersEvent⟩ := renders.cut
      rw [through_append, Option.bind_eq_some_iff] at laidOut
      obtain ⟨spotFront, laidOutFront, laidOutEvent⟩ := laidOut
      rw [through_cons, Option.bind_eq_some_iff] at laidOutEvent
      obtain ⟨next, allowed, ends⟩ := laidOutEvent
      cases ends
      cases rendersEvent with
      | cons step nothing =>
          cases nothing
          rw [lastWritten_append_singleton rendersFront.length_eq]
          exact follows_step (ih rendersFront laidOutFront) allowed step

/-! ### In front of a heading -/

/-- Where the start of a container in a line ends with a bracket, something is written for its finish too. -/
theorem leave_ne_empty_of_bracket {state inner : Renderer} {tag : Typst.Tag} {fragment : String}
    (inLine : isLineTag tag = true) (entered : state.enter tag = .ok (fragment, inner))
    (bracket : fragment.toList.getLast? = some '[') (other : Renderer) : (other.leave tag).1 ≠ "" := by
  cases tag with
  | emphasis | strong | strikethrough => simp [Renderer.leave]
  | link kind address =>
      cases kind with
      | content => simp [Renderer.leave, isBare]
      | url | autolink =>
          cases entered
          have closed (address : String) : ("#link(" ++ literal address ++ ")").toList.getLast? = some ')' :=
            getLast?_toList_append _ (by decide)
          rw [closed] at bracket
          cases bracket
  | _ => cases inLine

/-- Behind the bracket of a container in a line, that container is still open, and no item inside it. -/
theorem exists_opened_of_bracket {events : List Event} {written : List String} {state : Renderer}
    {tag : Typst.Tag} {fragment : String} (renders : Renders .initial events written state)
    (inLine : isLineTag tag = true) (last : lastWritten events written = some (.typst (.start tag), fragment))
    (bracket : fragment.toList.getLast? = some '[') :
    (∃ inner below, state.opened = inner ++ tag :: below ∧ .item ∉ inner) ∧
      ∀ other : Renderer, (other.leave tag).1 ≠ "" := by
  induction events using List.reverseRecOn generalizing written state with
  | nil => cases last
  | append_singleton before event ih =>
      obtain ⟨front, middle, behind, rfl, rendersFront, rendersEvent⟩ := renders.cut
      cases rendersEvent with
      | @cons _ _ _ _ _ piece _ step nothing =>
          cases nothing
          rw [lastWritten_append_singleton rendersFront.length_eq] at last
          split at last
          · next empty =>
              -- Nothing was written for the event, so that the bracket is the one from before it.
              subst empty
              obtain ⟨⟨inner, below, opened, noItem⟩, closes⟩ := ih rendersFront last
              refine ⟨?_, closes⟩
              rcases step_cases step with ⟨other, next, rfl, entered, rfl⟩ |
                ⟨other, below', rfl, opened', left⟩ | ⟨-, rfl⟩
              · refine ⟨other :: inner, below, ?_, ?_⟩
                · simp [enter_opened entered, opened]
                · rw [List.mem_cons, not_or]
                  refine ⟨?_, noItem⟩
                  rintro rfl
                  exact itemMarker_ne_empty entered rfl
              · have sameBelow := leave_opened { middle with opened := below' } other
                rw [left] at sameBelow
                rw [opened'] at opened
                cases inner with
                | nil =>
                    obtain ⟨rfl, -⟩ := List.cons.inj opened
                    exact absurd (congrArg Prod.fst left) (closes _)
                | cons first inner =>
                    obtain ⟨-, rfl⟩ := List.cons.inj opened
                    exact ⟨inner, below, sameBelow, fun member => noItem (List.mem_cons_of_mem _ member)⟩
              · exact ⟨inner, below, opened, noItem⟩
          · cases last
            obtain ⟨next, entered, rfl⟩ := enter_of_step step
            exact ⟨⟨[], _, rfl, List.not_mem_nil⟩, leave_ne_empty_of_bracket inLine entered bracket⟩

/-- Is content of a line directly in an item the last that was written, with its line not ended? -/
def BehindContent (before : List Event) (written : List String) : Prop :=
  (openTags before).head? = some (.typst .item) ∧ ∃ event fragment,
    lastWritten before written = some (.typst event, fragment) ∧ isLineContent event = true ∧
      fragment.toList.getLast? ≠ some '\n'

/-- Behind content of a line directly in an item, no line starts. -/
theorem startsLine_of_behindContent {before : List Event} {written : List String} {state : Renderer}
    (renders : Renders .initial before written state) (behind : BehindContent before written) :
    startsLine (lastWritten before written) = false := by
  obtain ⟨inItem, event, fragment, last, content, unended⟩ := behind
  rw [← renders.openTags, List.head?_map] at inItem
  rw [last]
  have noItem : event ≠ .start .item := by
    rintro rfl
    cases content
  have noBracket : ¬ (isStart (.typst event) = true ∧ fragment.toList.getLast? = some '[') := by
    rintro ⟨starts, bracket⟩
    cases event with
    | start tag =>
        obtain ⟨⟨inner, below, opened, missing⟩, -⟩ := exists_opened_of_bracket renders content last bracket
        rw [opened] at inItem
        cases inner with
        | nil =>
            cases inItem
            cases content
        | cons first inner =>
            cases inItem
            exact missing List.mem_cons_self
    | _ => cases starts
  simp [startsLine, unended, noItem]
  simpa using noBracket

/-- A heading is a plain one, and a line starts in front of it if it does not stand directly in an item
    behind content of a line, and only then. -/
theorem heading_place {before behind : List Typst.Event} {level : Int} {outline : Typst.Outline}
    {bookmarks : Typst.Bookmarks} {final : Spot} {written : List String} {state : Renderer}
    (laidOut : Spot.initial.through (before ++ .start (.heading level outline bookmarks) :: behind) =
      some final)
    (renders : Renders .initial (before.map .typst) written state) :
    isPlainHeading outline bookmarks = true ∧
      (startsLine (lastWritten (before.map .typst) written) = false ↔
        BehindContent (before.map .typst) written) := by
  rw [through_append, Option.bind_eq_some_iff] at laidOut
  obtain ⟨spot, laidOutBefore, laidOutHeading⟩ := laidOut
  rw [through_cons, Option.bind_eq_some_iff] at laidOutHeading
  obtain ⟨next, allowed, -⟩ := laidOutHeading
  obtain ⟨⟨kind, stands, -⟩, heads, -⟩ := after_start allowed
  obtain ⟨opened, -, place⟩ := follows_of_renders renders laidOutBefore
  refine ⟨?_, fun noStart => ?_, startsLine_of_behindContent renders⟩
  · cases outline <;> cases bookmarks <;> first | rfl | cases stands
  · have takesHeading := heads rfl
    simp only [Spot.takesHeading, Bool.or_eq_true, Bool.and_eq_true, decide_eq_true_eq] at takesHeading
    rcases takesHeading with fresh | ⟨inline, inItem⟩
    · rw [fresh] at place
      exact absurd (place.symm.trans noStart) (by decide)
    · rw [inline] at place
      obtain starts | ⟨event, fragment, last, content⟩ := place
      · exact absurd (starts.symm.trans noStart) (by decide)
      · refine ⟨?_, event, fragment, last, content, fun ended => ?_⟩
        · rw [← renders.openTags, ← opened, List.head?_map, inItem]
          rfl
        · rw [last] at noStart
          simp [startsLine, ended] at noStart

/-! ### Inside a heading -/

/-- A container stands in a line if and only if it is one in a line. -/
theorem standing_eq_line_iff {tag : Typst.Tag} : standing tag = some .line ↔ isLineTag tag = true := by
  cases tag with
  | heading level outline bookmarks =>
      cases outline <;> cases bookmarks <;> simp [standing, isLineTag]
  | quote kind => cases kind <;> simp [standing, isLineTag]
  | _ => simp [standing, isLineTag]

theorem holding_of_isLineTag {tag : Typst.Tag} (inLine : isLineTag tag = true) : holding tag = .line := by
  cases tag <;> first | rfl | cases inLine

/-- What holds lines holds them to its finish: whatever is open inside it are containers in a line, and its
    events are content of a line. -/
theorem exists_finish_of_line {tag : Typst.Tag} (holds : holding tag = .line) {inner outer : List Typst.Tag}
    (inLine : ∀ other ∈ inner, isLineTag other = true) {place : Place} {rest : List Typst.Event}
    {final : Spot} (laidOut : Spot.through ⟨inner ++ tag :: outer, place⟩ rest = some final)
    (closed : final.opened = []) :
    ∃ inside behind, rest = inside ++ .finish tag :: behind ∧
      ∀ event ∈ inside, isLineContent event = true := by
  induction rest generalizing inner place with
  | nil =>
      cases laidOut
      cases inner <;> cases closed
  | cons event rest ih =>
      rw [through_cons, Option.bind_eq_some_iff] at laidOut
      obtain ⟨next, allowed, laidOutRest⟩ := laidOut
      -- The innermost container holds lines, whether it is the one at hand or one inside it.
      obtain ⟨top, below, split, holdsTop⟩ : ∃ top below, inner ++ tag :: outer = top :: below ∧
          holding top = .line := by
        cases inner with
        | nil => exact ⟨tag, outer, rfl, holds⟩
        | cons top inner =>
            exact ⟨top, inner ++ tag :: outer, rfl, holding_of_isLineTag (inLine top List.mem_cons_self)⟩
      have noItem : top ≠ .item := by
        rintro rfl
        cases holdsTop
      have takes (kind : Holding) : Spot.takes ⟨inner ++ tag :: outer, place⟩ kind = true → kind = .line := by
        rw [split]
        simp [Spot.takes, Spot.held, holdsTop, noItem, eq_comm]
      have goesOn {inner' : List Typst.Tag} {place' : Place}
          (inLine' : ∀ other ∈ inner', isLineTag other = true) (content : isLineContent event = true)
          (laidOutRest : Spot.through ⟨inner' ++ tag :: outer, place'⟩ rest = some final) :
          ∃ inside behind, event :: rest = inside ++ .finish tag :: behind ∧
            ∀ event ∈ inside, isLineContent event = true := by
        obtain ⟨inside, behind, rfl, contents⟩ := ih inLine' laidOutRest
        refine ⟨event :: inside, behind, rfl, ?_⟩
        rintro other (_ | ⟨_, member⟩)
        · exact content
        · exact contents other member
      cases event with
      | start other =>
          obtain ⟨⟨kind, stands, may⟩, -, rfl⟩ := after_start allowed
          rw [takes kind may] at stands
          have isLine := standing_eq_line_iff.mp stands
          have inLine' : ∀ tag' ∈ other :: inner, isLineTag tag' = true := by
            rintro tag' (_ | ⟨_, member⟩)
            · exact isLine
            · exact inLine tag' member
          exact goesOn inLine' isLine laidOutRest
      | finish other =>
          obtain ⟨below', opened, rfl⟩ := after_finish allowed
          cases inner with
          | nil =>
              obtain ⟨rfl, rfl⟩ := List.cons.inj opened
              exact ⟨[], rest, rfl, nofun⟩
          | cons first inner =>
              obtain ⟨rfl, rfl⟩ := List.cons.inj opened
              apply goesOn (fun tag' member => inLine tag' (List.mem_cons_of_mem _ member)) _ laidOutRest
              exact inLine first List.mem_cons_self
      | text | code | paragraphBreak =>
          rw [Spot.after] at allowed
          split at allowed
          · cases allowed
            exact goesOn inLine rfl laidOutRest
          · cases allowed
      | call | documentSet =>
          rw [Spot.after] at allowed
          split at allowed
          · next empty =>
              rw [split] at empty
              cases empty
          · cases allowed
      | _ => cases allowed

/-! ### Line feeds -/

/-- Does an event of a line go on to another line? A break does, and so does a line feed that is shown: a link
    that shows its address shows nothing else. -/
def breaksLine (bare : Bool) : Typst.Event → Bool
  | .paragraphBreak => true
  | .text body | .code body => !bare && '\n' ∈ body.toList
  | .start (.link _ address) => '\n' ∈ address.toList
  | _ => false

theorem mem_escapeText_iff (text : String) : '\n' ∈ (escapeText text).toList ↔ '\n' ∈ text.toList := by
  have mem_escapeChar (c : Char) : '\n' ∈ escapeChar c ↔ '\n' = c := by
    unfold escapeChar
    split
    · simp_all
    · split <;> simp
  rw [escapeText, String.toList_ofList, escapeChars, List.mem_flatMap]
  simp [mem_escapeChar]

theorem mem_literal_iff (text : String) : '\n' ∈ (literal text).toList ↔ '\n' ∈ text.toList := by
  have mem_literalChar (c : Char) : '\n' ∈ literalChar c ↔ '\n' = c := by
    unfold literalChar
    split <;> simp
  rw [literal, String.toList_ofList, literalChars]
  simp [mem_literalChar]

theorem mem_inlineCode_iff (text : String) : '\n' ∈ (inlineCode text).toList ↔ '\n' ∈ text.toList := by
  unfold inlineCode
  split
  · simp [mem_literal_iff]
  · simp

/-- What an event of a line writes holds a line feed if it goes on to another line, and only then. -/
theorem mem_fragment_iff {state next : Renderer} {event : Typst.Event} {fragment : String}
    (sound : state.Sound) (content : isLineContent event = true)
    (stepped : state.step (.typst event) = .ok (fragment, next)) :
    '\n' ∈ fragment.toList ↔ breaksLine (state.opened.any isBareLink) event = true := by
  cases event with
  | paragraphBreak =>
      cases stepped
      simp [breaksLine]
  | text body =>
      rw [step_text sound] at stepped
      cases stepped
      cases bare : state.opened.any isBareLink
      · simp only [Bool.false_eq_true, if_false]
        split <;> simp [breaksLine, mem_escapeText_iff]
      · simp [breaksLine]
  | code body =>
      rw [step_code sound] at stepped
      cases stepped
      cases bare : state.opened.any isBareLink <;> simp [breaksLine, mem_inlineCode_iff]
  | start tag =>
      obtain ⟨inner, entered, -⟩ := enter_of_step stepped
      cases tag with
      | link kind address =>
          cases kind <;> cases entered <;> simp [breaksLine, mem_literal_iff]
      | emphasis | strong | strikethrough =>
          cases entered
          simp [breaksLine]
      | _ => cases content
  | finish tag =>
      obtain ⟨below, -, left⟩ := leave_of_step stepped
      cases tag with
      | link kind address =>
          cases kind <;> cases left <;> simp [breaksLine]
      | emphasis | strong | strikethrough =>
          cases left
          simp [breaksLine]
      | _ => cases content
  | _ => cases content

/-- What is written for content of a line holds a line feed if one of its events goes on to another line, and
    only then. -/
theorem mem_join_iff {state last : Renderer} {inside : List Typst.Event} {written : List String}
    (renders : Renders state (inside.map .typst) written last) (sound : state.Sound)
    (contents : ∀ event ∈ inside, isLineContent event = true) :
    '\n' ∈ (String.join written).toList ↔ ∃ front event back fragments middle,
      inside = front ++ event :: back ∧ Renders state (front.map .typst) fragments middle ∧
        breaksLine (middle.opened.any isBareLink) event = true := by
  induction inside generalizing state written with
  | nil =>
      cases renders
      simp
  | cons event rest ih =>
      cases renders with
      | @cons _ next _ _ _ fragment fragments step more =>
          have here := mem_fragment_iff sound (contents event List.mem_cons_self) step
          have later := ih more (sound_step sound step) fun other member =>
            contents other (List.mem_cons_of_mem _ member)
          rw [String.join_cons, String.toList_append, List.mem_append, here, later]
          constructor
          · rintro (breaks | ⟨front, other, back, pieces, middle, rfl, rendersFront, breaks⟩)
            · exact ⟨[], event, rest, [], state, rfl, .nil state, breaks⟩
            · exact ⟨event :: front, other, back, fragment :: pieces, middle, rfl,
                .cons step rendersFront, breaks⟩
          · rintro ⟨front, other, back, pieces, middle, split, rendersFront, breaks⟩
            cases front with
            | nil =>
                cases split
                cases rendersFront
                exact .inl breaks
            | cons first front =>
                cases split
                cases rendersFront with
                | cons stepFirst rendersRest =>
                    obtain ⟨rfl, rfl⟩ := eq_of_ok step stepFirst
                    exact .inr ⟨front, other, back, _, middle, rfl, rendersRest, breaks⟩

end Bindery.Markup
