/-
Module: Bindery.Proofs.Nesting
Layer: Proofs
Purpose: Nesting as a machine on a stack of open containers that can be followed through a conversion.
  A frame is an open container together with whether embedded prose opened it, so that both ends of a
  container are of one kind. The strict machine moreover wants every item directly inside a list of its
  own kind and every show rule complete. A reframing maps the frames of a stack one by one, or drops
  them; what a machine does on a stack, it does on the reframed stack with the reframed events.
Imports: Bindery.Stream.Balance
Main exports: Frame, Move, Event.move, Frame.role, Move.apply, nestFrom, nestFrom_append, reframe,
  Reframing, apply_through, nestFrom_filterDialect, fault_balancedFrom_congr, balanced_of_nestFrom,
  itemsInLists, nestFrom_of_balanced, itemsInLists_of_nestFrom
-/
import Bindery.Stream.Balance

namespace Bindery

/-- An open container, and whether embedded prose opened it. -/
structure Frame where
  tag : Tag
  embedded : Bool
deriving DecidableEq, Repr

/-- What an event does to the open containers. -/
inductive Move where
  | opens (frame : Frame)
  | closes (frame : Frame)
  | stays
deriving DecidableEq, Repr

def Event.isEmbedded : Event → Bool
  | .book (.prose _) => true
  | _ => false

def Event.move (event : Event) : Move :=
  match event.bracket with
  | .opening tag => .opens ⟨tag, event.isEmbedded⟩
  | .closing tag => .closes ⟨tag, event.isEmbedded⟩
  | .leaf => .stays

/-! ### Items and lists -/

/-- The kinds of lists: embedded ones, those of bare prose, and those of the target. -/
inductive Family where
  | embedded
  | prose
  | target
deriving DecidableEq, Repr

def Family.ofProse : Bool → Family
  | true => .embedded
  | false => .prose

/-- What a container has to do with items. A show rule without its data fits nowhere. -/
inductive Role where
  | list (family : Family)
  | item (family : Family)
  | faulty
  | plain
deriving DecidableEq, Repr

def roleOfTarget : Typst.Tag → Role
  | .bulletList _ _ => .list .target
  | .numberedList _ _ _ => .list .target
  | .item => .item .target
  | .showRule .showSet _ none _ => .faulty
  | .showRule .function _ _ none => .faulty
  | _ => .plain

def roleOfProse (embedded : Bool) : Markdown.Tag → Role
  | .list _ => .list (.ofProse embedded)
  | .item => .item (.ofProse embedded)
  | _ => .plain

def Frame.role (frame : Frame) : Role :=
  match frame.tag with
  | .book _ => .plain
  | .markdown tag => roleOfProse frame.embedded tag
  | .typst tag => roleOfTarget tag

/-- May a container be opened inside others, innermost first? An item has to stand directly in a list
    of its family. -/
def Frame.fits (frame : Frame) (stack : List Frame) : Bool :=
  match frame.role with
  | .item family => stack.head?.map Frame.role = some (.list family)
  | .faulty => false
  | _ => true

/-! ### The machine -/

/-- A move on the open containers, innermost first. A container is closed by an equal one, and if the
    machine is strict, it is opened only where it fits. -/
def Move.apply (strict : Bool) (stack : List Frame) : Move → Option (List Frame)
  | .stays => some stack
  | .opens frame => if strict && !frame.fits stack then none else some (frame :: stack)
  | .closes frame => if stack.head? = some frame then some stack.tail else none

/-- The open containers after a stream, unless its nesting is broken. -/
def nestFrom (strict : Bool) (stack : List Frame) : List Event → Option (List Frame)
  | [] => some stack
  | event :: rest => (event.move.apply strict stack).bind fun stack => nestFrom strict stack rest

theorem nestFrom_append (strict : Bool) (stack : List Frame) (first second : List Event) :
    nestFrom strict stack (first ++ second) =
      (nestFrom strict stack first).bind fun stack => nestFrom strict stack second := by
  induction first generalizing stack with
  | nil => rfl
  | cons event rest ih =>
      rw [List.cons_append, nestFrom, nestFrom, Option.bind_assoc]
      exact congrArg _ (funext fun stack => ih stack)

theorem nestFrom_singleton (strict : Bool) (stack : List Frame) (event : Event) :
    nestFrom strict stack [event] = event.move.apply strict stack := by
  rw [nestFrom]
  cases event.move.apply strict stack <;> rfl

/-- A closed container was the innermost one. -/
theorem apply_closes {strict : Bool} {stack stack' : List Frame} {frame : Frame}
    (closed : (Move.closes frame).apply strict stack = some stack') : stack = frame :: stack' := by
  simp only [Move.apply] at closed
  split at closed
  · next top =>
      cases stack with
      | nil => cases top
      | cons first below =>
          rw [← Option.some.inj closed, ← Option.some.inj top]
          rfl
  · exact absurd closed (by simp)

/-- An opened container is innermost afterwards, and fits if the machine is strict. -/
theorem apply_opens {strict : Bool} {stack stack' : List Frame} {frame : Frame}
    (opened : (Move.opens frame).apply strict stack = some stack') :
    stack' = frame :: stack ∧ (strict = true → frame.fits stack = true) := by
  simp only [Move.apply] at opened
  split at opened
  · exact absurd opened (by simp)
  · next fits =>
      refine ⟨(Option.some.inj opened).symm, fun isStrict => ?_⟩
      simpa [isStrict] using fits

/-- A container that fits can be opened. -/
theorem apply_opens_of_fits {strict : Bool} {stack : List Frame} {frame : Frame}
    (fits : strict = true → frame.fits stack = true) :
    (Move.opens frame).apply strict stack = some (frame :: stack) := by
  cases strict with
  | false => rfl
  | true => simp [Move.apply, fits rfl]

theorem apply_closes_cons (strict : Bool) (frame : Frame) (stack : List Frame) :
    (Move.closes frame).apply strict (frame :: stack) = some stack := if_pos rfl

/-! ### Reframing -/

def Frame.isChapter (frame : Frame) : Bool :=
  match frame.tag with
  | .book (.chapter _ _ _ _) => true
  | _ => false

/-- How many chapters are open. -/
def chapterDepth (stack : List Frame) : Nat := stack.countP Frame.isChapter

/-- Maps or drops every container, given the number of chapters around it. -/
def reframe (convert : Nat → Frame → Option Frame) : List Frame → List Frame
  | [] => []
  | frame :: below => (convert (chapterDepth below) frame).toList ++ reframe convert below

/-- A move with its container mapped or dropped. -/
def Move.through (convert : Frame → Option Frame) : Move → Move
  | .stays => .stays
  | .opens frame => ((convert frame).map Move.opens).getD .stays
  | .closes frame => ((convert frame).map Move.closes).getD .stays

def Role.within (family : Family → Family) : Role → Role
  | .list kind => .list (family kind)
  | .item kind => .item (family kind)
  | role => role

/-- A mapping of containers that keeps items in their lists: it maps families of items and lists alike,
    never drops the list of an item that it keeps, and does to both ends of a container the same,
    although at its closing a chapter is still open itself. -/
structure Reframing (convert : Nat → Frame → Option Frame) (family : Family → Family) : Prop where
  role : ∀ {depth frame frame'}, convert depth frame = some frame' →
    frame'.role = frame.role.within family
  list : ∀ {depth depth' item list kind}, item.role = .item kind → list.role = .list kind →
    (convert depth item).isSome → (convert depth' list).isSome
  steady : ∀ frame below,
    convert (chapterDepth (frame :: below)) frame = convert (chapterDepth below) frame

section Reframing

variable {convert : Nat → Frame → Option Frame} {family : Family → Family}

theorem reframe_cons_some {frame frame' : Frame} {below : List Frame}
    (mapped : convert (chapterDepth below) frame = some frame') :
    reframe convert (frame :: below) = frame' :: reframe convert below := by
  rw [reframe, mapped]
  rfl

theorem reframe_cons_none {frame : Frame} {below : List Frame}
    (dropped : convert (chapterDepth below) frame = none) :
    reframe convert (frame :: below) = reframe convert below := by
  rw [reframe, dropped]
  rfl

/-- A mapped container fits where the container fitted. -/
theorem fits_reframe (reframing : Reframing convert family) {frame frame' : Frame}
    {stack : List Frame} (mapped : convert (chapterDepth stack) frame = some frame')
    (fits : frame.fits stack = true) : frame'.fits (reframe convert stack) = true := by
  have role := reframing.role mapped
  unfold Frame.fits at fits ⊢
  rw [role]
  cases ofFrame : frame.role with
  | item kind =>
      simp only [ofFrame, decide_eq_true_eq] at fits
      cases stack with
      | nil => simp at fits
      | cons list below =>
          have isList : list.role = .list kind := Option.some.inj fits
          have kept : (convert (chapterDepth below) list).isSome :=
            reframing.list ofFrame isList (Option.isSome_of_eq_some mapped)
          rcases Option.isSome_iff_exists.mp kept with ⟨list', mappedList⟩
          have isList' : list'.role = .list (family kind) := by
            rw [reframing.role mappedList, isList]
            rfl
          rw [reframe_cons_some mappedList]
          simp [Role.within, isList']
  | faulty => simp [ofFrame] at fits
  | list kind => rfl
  | plain => rfl

/-- What the machine does on a stack, it does on the reframed stack with the reframed move. -/
theorem apply_through (reframing : Reframing convert family) {strict : Bool}
    {stack stack' : List Frame} {move : Move} (step : move.apply strict stack = some stack') :
    (move.through (convert (chapterDepth stack))).apply strict (reframe convert stack) =
      some (reframe convert stack') := by
  cases move with
  | stays => exact congrArg (some ∘ reframe convert) (Option.some.inj step)
  | opens frame =>
      rcases apply_opens step with ⟨rfl, fits⟩
      cases mapped : convert (chapterDepth stack) frame with
      | none =>
          rw [reframe_cons_none mapped]
          simp [Move.through, mapped, Move.apply]
      | some frame' =>
          rw [reframe_cons_some mapped]
          simp only [Move.through, mapped, Option.map_some, Option.getD_some]
          exact apply_opens_of_fits fun isStrict =>
            fits_reframe reframing mapped (fits isStrict)
  | closes frame =>
      obtain rfl := apply_closes step
      have steady := reframing.steady frame stack'
      cases mapped : convert (chapterDepth stack') frame with
      | none =>
          rw [reframe_cons_none mapped]
          simp [Move.through, steady, mapped, Move.apply]
      | some frame' =>
          rw [reframe_cons_some mapped]
          simp only [Move.through, steady, mapped, Option.map_some, Option.getD_some]
          exact apply_closes_cons strict frame' _

/-- Replacing every event by events that move the reframed container keeps nesting. -/
theorem nestFrom_flatMap {α : Type} {convert : Frame → Option Frame}
    (reframing : Reframing (fun _ => convert) family) {source : α → Event} {replace : α → List Event}
    {strict : Bool}
    (moves : ∀ item stack,
      nestFrom strict stack (replace item) = ((source item).move.through convert).apply strict stack)
    {stack stack' : List Frame} {items : List α}
    (nested : nestFrom strict stack (items.map source) = some stack') :
    nestFrom strict (reframe (fun _ => convert) stack) (items.flatMap replace) =
      some (reframe (fun _ => convert) stack') := by
  induction items generalizing stack with
  | nil => exact congrArg (some ∘ reframe _) (Option.some.inj nested)
  | cons item rest ih =>
      rcases Option.bind_eq_some_iff.mp nested with ⟨middle, step, nestedRest⟩
      have stepReplaced := apply_through reframing step
      rw [List.flatMap_cons, nestFrom_append, moves, stepReplaced]
      exact ih nestedRest

end Reframing

/-! ### Filters -/

def Frame.dialect (frame : Frame) : Dialect :=
  match frame.tag with
  | .book _ => .book
  | .markdown _ => if frame.embedded then .book else .markdown
  | .typst _ => .typst

def Family.dialect : Family → Dialect
  | .embedded => .book
  | .prose => .markdown
  | .target => .typst

/-- A container after a filter, unless the filter drops it. -/
def keptFrame (dialect : Dialect) (frame : Frame) : Option Frame :=
  if frame.dialect = dialect then some frame else none

theorem Family.dialect_ofProse (embedded : Bool) :
    (Family.ofProse embedded).dialect = if embedded then .book else .markdown := by
  cases embedded <;> rfl

/-- The lists of a family and their items are of one dialect. -/
theorem Frame.dialect_of_role {frame : Frame} {kind : Family}
    (role : frame.role = .list kind ∨ frame.role = .item kind) : frame.dialect = kind.dialect := by
  unfold Frame.role at role
  unfold Frame.dialect
  split at role
  · simp at role
  · next tag =>
      unfold roleOfProse at role
      split at role
      · rcases role with equal | equal <;> cases equal
        exact (Family.dialect_ofProse frame.embedded).symm
      · rcases role with equal | equal <;> cases equal
        exact (Family.dialect_ofProse frame.embedded).symm
      · simp at role
  · next tag =>
      unfold roleOfTarget at role
      split at role <;> rcases role with equal | equal <;> cases equal <;> rfl

theorem reframing_keptFrame (dialect : Dialect) : Reframing (fun _ => keptFrame dialect) id where
  role mapped := by
    next frame frame' =>
      unfold keptFrame at mapped
      split at mapped
      · rw [← Option.some.inj mapped]
        cases frame.role <;> rfl
      · cases mapped
  list isItem isList kept := by
    unfold keptFrame at kept ⊢
    rw [Frame.dialect_of_role (.inl isList), ← Frame.dialect_of_role (.inr isItem)]
    split at kept
    · next same =>
        rw [if_pos same]
        rfl
    · cases kept
  steady _ _ := rfl

/-- The ends of a container are of its dialect. -/
theorem dialect_of_move {event : Event} {frame : Frame}
    (move : event.move = .opens frame ∨ event.move = .closes frame) :
    event.dialect = some frame.dialect := by
  cases event with
  | foreign text => simp [Event.move, Event.bracket] at move
  | markdown inner =>
      cases inner with
      | start | finish =>
          rcases move with equal | equal <;> cases equal
          rfl
      | _ => simp [Event.move, Event.bracket, Markdown.Event.bracket] at move
  | typst inner =>
      cases inner with
      | start | finish =>
          rcases move with equal | equal <;> cases equal
          rfl
      | _ => simp [Event.move, Event.bracket, Typst.Event.bracket] at move
  | book inner =>
      cases inner with
      | start | finish =>
          rcases move with equal | equal <;> cases equal
          rfl
      | prose inner =>
          cases inner with
          | start | finish =>
              rcases move with equal | equal <;> cases equal
              rfl
          | _ => simp [Event.move, Event.bracket, Book.Event.bracket, Markdown.Event.bracket] at move
      | _ => simp [Event.move, Event.bracket, Book.Event.bracket] at move

theorem nestFrom_filter_singleton (dialect : Dialect) (strict : Bool) (event : Event)
    (stack : List Frame) :
    nestFrom strict stack (filterDialect dialect [event]) =
      (event.move.through (keptFrame dialect)).apply strict stack := by
  have filtered : filterDialect dialect [event] =
      if event.dialect = some dialect then [event] else [] := by
    by_cases kept : event.dialect = some dialect <;> simp [filterDialect, kept]
  rw [filtered]
  cases move : event.move with
  | stays =>
      split
      · rw [nestFrom_singleton, move]
        rfl
      · rfl
  | opens frame =>
      rw [dialect_of_move (.inl move)]
      simp only [Option.some.injEq, Move.through, keptFrame]
      split
      · rw [nestFrom_singleton, move]
        rfl
      · rfl
  | closes frame =>
      rw [dialect_of_move (.inr move)]
      simp only [Option.some.injEq, Move.through, keptFrame]
      split
      · rw [nestFrom_singleton, move]
        rfl
      · rfl

theorem filterDialect_eq_flatMap (dialect : Dialect) (events : List Event) :
    filterDialect dialect events = events.flatMap fun event => filterDialect dialect [event] := by
  induction events with
  | nil => rfl
  | cons event rest ih =>
      rw [List.flatMap_cons, ← ih]
      exact List.filter_append [event] rest

/-- A filter keeps nesting. -/
theorem nestFrom_filterDialect (dialect : Dialect) {strict : Bool} {stack stack' : List Frame}
    {events : List Event} (nested : nestFrom strict stack events = some stack') :
    nestFrom strict (reframe (fun _ => keptFrame dialect) stack) (filterDialect dialect events) =
      some (reframe (fun _ => keptFrame dialect) stack') := by
  rw [← List.map_id events] at nested
  rw [filterDialect_eq_flatMap]
  exact nestFrom_flatMap (reframing_keptFrame dialect)
    (nestFrom_filter_singleton dialect strict) nested

/-! ### Balance -/

theorem move_of_leaf {event : Event} (leaf : event.bracket = .leaf) : event.move = .stays := by
  rw [Event.move, leaf]

theorem move_of_opening {event : Event} {tag : Tag} (opening : event.bracket = .opening tag) :
    event.move = .opens ⟨tag, event.isEmbedded⟩ := by
  rw [Event.move, opening]

theorem move_of_closing {event : Event} {tag : Tag} (closing : event.bracket = .closing tag) :
    event.move = .closes ⟨tag, event.isEmbedded⟩ := by
  rw [Event.move, closing]

/-- How the nesting of a stream is broken depends on its brackets alone. -/
theorem fault_balancedFrom_congr {stack : List Tag} {first second : List Event}
    (same : first.map Event.bracket = second.map Event.bracket) :
    (balancedFrom stack first).fault = (balancedFrom stack second).fault := by
  induction first generalizing second stack with
  | nil =>
      obtain rfl : second = [] := List.map_eq_nil_iff.mp same.symm
      rfl
  | cons event rest ih =>
      cases second with
      | nil => cases same
      | cons other otherRest =>
          obtain ⟨sameBracket, sameRest⟩ := List.cons.inj same
          rw [balancedFrom, balancedFrom, sameBracket]
          cases other.bracket with
          | leaf => exact ih sameRest
          | opening tag => exact ih sameRest
          | closing tag =>
              cases stack with
              | nil => rfl
              | cons top below =>
                  by_cases closes : top = tag
                  · simpa [closes, Drained.cons] using ih sameRest
                  · simp [closes, Drained.failed]

/-- A stream that leaves nothing open is balanced. -/
theorem balanced_of_nestFrom {strict : Bool} {stack : List Frame} {events : List Event}
    (nested : nestFrom strict stack events = some []) :
    (balancedFrom (stack.map Frame.tag) events).fault = none := by
  induction events generalizing stack with
  | nil =>
      obtain rfl : stack = [] := Option.some.inj nested
      rfl
  | cons event rest ih =>
      rcases Option.bind_eq_some_iff.mp nested with ⟨stack', step, nestedRest⟩
      have balancedRest := ih nestedRest
      unfold balancedFrom
      split
      · next leaf =>
          rw [move_of_leaf leaf] at step
          rw [Option.some.inj step]
          exact balancedRest
      · next tag opening =>
          rw [move_of_opening opening] at step
          rcases apply_opens step with ⟨rfl, _⟩
          exact balancedRest
      · next tag closing =>
          rw [move_of_closing closing] at step
          obtain rfl := apply_closes step
          simp only [List.map_cons, if_true]
          exact balancedRest

def isInList (stack : List Tag) : Bool :=
  match stack.head? with
  | some (.markdown (.list _)) => true
  | _ => false

/-- Does every item of prose stand directly inside a list, with the containers in `stack` open before?
    Embedded prose takes part. -/
def itemsInLists (stack : List Tag) : List Event → Bool
  | [] => true
  | event :: rest =>
    match event.bracket with
    | .leaf => itemsInLists stack rest
    | .opening tag => (tag ≠ .markdown .item || isInList stack) && itemsInLists (tag :: stack) rest
    | .closing _ => itemsInLists stack.tail rest

/-- Is an event structural, or bare prose where nothing is embedded? -/
def Event.isSource (embedded : Bool) : Event → Bool
  | .book _ => embedded
  | .markdown _ => !embedded
  | _ => false

/-- The frame of a container among structural events, or among bare prose. -/
def Frame.ofSource (embedded : Bool) (tag : Tag) : Frame :=
  match tag with
  | .markdown _ => ⟨tag, embedded⟩
  | _ => ⟨tag, false⟩

def Tag.isTarget : Tag → Bool
  | .typst _ => true
  | _ => false

/-- The containers of structural events, or of bare prose, are no target containers, and their frames
    are known. -/
theorem frame_of_isSource {embedded : Bool} {event : Event} (source : event.isSource embedded = true)
    {tag : Tag} (bracket : event.bracket = .opening tag ∨ event.bracket = .closing tag) :
    Frame.mk tag event.isEmbedded = Frame.ofSource embedded tag ∧ tag.isTarget = false := by
  have ofProse {inner : Markdown.Event} {opened : Tag}
      (bracketInner : inner.bracket = .opening opened ∨ inner.bracket = .closing opened) :
      ∃ prose, opened = .markdown prose := by
    cases inner with
    | start inner | finish inner =>
        rcases bracketInner with opening | closing
        · cases opening <;> exact ⟨inner, rfl⟩
        · cases closing <;> exact ⟨inner, rfl⟩
    | _ => simp [Markdown.Event.bracket] at bracketInner
  cases event with
  | markdown inner =>
      rcases ofProse bracket with ⟨prose, rfl⟩
      cases embedded with
      | true => cases source
      | false => exact ⟨rfl, rfl⟩
  | book inner =>
      obtain rfl : embedded = true := source
      cases inner with
      | prose inner =>
          rcases ofProse bracket with ⟨prose, rfl⟩
          exact ⟨rfl, rfl⟩
      | start inner | finish inner =>
          rcases bracket with opening | closing
          · cases opening <;> exact ⟨rfl, rfl⟩
          · cases closing <;> exact ⟨rfl, rfl⟩
      | _ => simp [Event.bracket, Book.Event.bracket] at bracket
  | typst | foreign => cases source

/-- A container that is no item, or an item in a list, fits into containers of the same source. -/
theorem fits_ofSource (embedded : Bool) {tag : Tag} {stack : List Tag}
    (noTarget : tag.isTarget = false) (listed : tag ≠ .markdown .item ∨ isInList stack = true) :
    (Frame.ofSource embedded tag).fits (stack.map (Frame.ofSource embedded)) = true := by
  cases tag with
  | typst tag => cases noTarget
  | book tag => rfl
  | markdown tag =>
      cases tag with
      | item =>
          have inList : isInList stack = true := listed.resolve_left fun differ => differ rfl
          unfold isInList at inList
          split at inList
          · next start inner =>
              cases stack with
              | nil => cases inner
              | cons first below =>
                  rw [List.head?_cons, Option.some.injEq] at inner
                  subst inner
                  simp [Frame.fits, Frame.ofSource, Frame.role, roleOfProse]
          · cases inList
      | _ => rfl

/-- A balanced stream of one source with its items in lists passes the strict machine. -/
theorem nestFrom_of_balanced {embedded : Bool} {stack : List Tag} {events : List Event}
    (source : ∀ event ∈ events, event.isSource embedded = true)
    (balanced : (balancedFrom stack events).fault = none)
    (listed : itemsInLists stack events = true) :
    nestFrom true (stack.map (Frame.ofSource embedded)) events = some [] := by
  induction events generalizing stack with
  | nil =>
      cases stack with
      | nil => rfl
      | cons first below => cases balanced
  | cons event rest ih =>
      have sourceRest : ∀ other ∈ rest, other.isSource embedded = true := fun other member =>
        source other (List.mem_cons_of_mem _ member)
      have frame {tag : Tag}
          (bracket : event.bracket = .opening tag ∨ event.bracket = .closing tag) :=
        frame_of_isSource (source event List.mem_cons_self) bracket
      rw [nestFrom, Option.bind_eq_some_iff]
      simp only [balancedFrom, itemsInLists] at balanced listed
      cases bracket : event.bracket with
      | leaf =>
          simp only [bracket] at balanced listed
          exact ⟨_, by rw [move_of_leaf bracket]; rfl, ih sourceRest balanced listed⟩
      | opening tag =>
          simp only [bracket, Bool.and_eq_true, Bool.or_eq_true, decide_eq_true_eq] at balanced listed
          obtain ⟨sameFrame, noTarget⟩ := frame (.inl bracket)
          refine ⟨(tag :: stack).map (Frame.ofSource embedded), ?_,
            ih sourceRest balanced listed.2⟩
          rw [move_of_opening bracket, sameFrame]
          exact apply_opens_of_fits fun _ => fits_ofSource embedded noTarget listed.1
      | closing tag =>
          simp only [bracket] at balanced listed
          cases stack with
          | nil => cases balanced
          | cons top below =>
              simp only at balanced
              split at balanced
              · next same =>
                  subst same
                  refine ⟨below.map (Frame.ofSource embedded), ?_, ih sourceRest balanced listed⟩
                  rw [move_of_closing bracket, (frame (.inr bracket)).1]
                  exact apply_closes_cons true _ _
              · cases balanced

/-- An item fits only where a list of prose is innermost. -/
theorem isInList_of_fits {embedded : Bool} {stack : List Frame}
    (fits : Frame.fits ⟨.markdown .item, embedded⟩ stack = true) :
    isInList (stack.map Frame.tag) = true := by
  cases stack with
  | nil => simp [Frame.fits, Frame.role, roleOfProse] at fits
  | cons top below =>
      have isList : top.role = .list (.ofProse embedded) := by
        simpa [Frame.fits, Frame.role, roleOfProse] using fits
      have ofProse := Frame.dialect_of_role (.inl isList)
      rw [Family.dialect_ofProse] at ofProse
      unfold Frame.role at isList
      split at isList
      · cases isList
      · next prose same =>
          cases prose with
          | list start => simp [isInList, same]
          | _ => cases isList
      · next target same =>
          rw [Frame.dialect, same] at ofProse
          cases embedded <;> cases ofProse

/-- In a stream that passes the strict machine items stand in lists. -/
theorem itemsInLists_of_nestFrom {stack stack' : List Frame} {events : List Event}
    (nested : nestFrom true stack events = some stack') :
    itemsInLists (stack.map Frame.tag) events = true := by
  induction events generalizing stack with
  | nil => rfl
  | cons event rest ih =>
      rcases Option.bind_eq_some_iff.mp nested with ⟨middle, step, nestedRest⟩
      have listedRest := ih nestedRest
      unfold itemsInLists
      split
      · next leaf =>
          rw [move_of_leaf leaf] at step
          rw [Option.some.inj step]
          exact listedRest
      · next tag opening =>
          rw [move_of_opening opening] at step
          obtain ⟨rfl, fits⟩ := apply_opens step
          rw [Bool.and_eq_true, Bool.or_eq_true, decide_eq_true_eq]
          refine ⟨?_, listedRest⟩
          by_cases isItem : tag = .markdown .item
          · subst isItem
            exact .inr (isInList_of_fits (fits rfl))
          · exact .inl isItem
      · next tag closing =>
          rw [move_of_closing closing] at step
          obtain rfl := apply_closes step
          exact listedRest

end Bindery
