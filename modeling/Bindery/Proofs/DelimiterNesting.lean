/-
Module: Bindery.Proofs.DelimiterNesting
Layer: Proofs
Purpose: Tags of emphasis and strikethrough never close what they have not opened. A closing delimiter is
  paired with one in front of it, and no delimiter is used twice; so every tag takes the place of a mark of
  its own. An opening tag in front of a closing one lifts the levels between the two and leaves the others
  alone, and a lone mark that goes behind closing tags lowers none below the level behind them. Pairs may
  overlap: only the levels count, not what the tags are called.
Imports: Mathlib.Algebra.Ring.Int.Defs, Bindery.CommonMark.Delimiter, Bindery.Proofs.TokenLayout
Main exports: level, Closed, OfLine, openedFrom_of_line, Paired, LineTokens,
  lineTokens_resolveDelimiters
-/
import Mathlib.Algebra.Ring.Int.Defs
import Bindery.CommonMark.Delimiter
import Bindery.Proofs.TokenLayout

namespace Bindery.CommonMark

open Prose (Token blockKinds lineContainers standInLine standsInLine)

/-! ### Levels -/

/-- How many containers are open behind the first steps: each step up opens one, each step down closes
    one. -/
def level (steps : List Int) (count : Nat) : Int := (steps.take count).sum

def stepsOf (tokens : List Token) : List Int := tokens.map Token.nesting

/-- Steps that never go below their start, and end there. -/
structure Closed (steps : List Int) : Prop where
  above : ∀ count, 0 ≤ level steps count
  settled : steps.sum = 0

@[simp] theorem level_nil (count : Nat) : level [] count = 0 := by
  simp [level]

@[simp] theorem level_zero (steps : List Int) : level steps 0 = 0 := by
  rw [level, List.take_zero, List.sum_nil]

@[simp] theorem level_cons (step : Int) (rest : List Int) (count : Nat) :
    level (step :: rest) (count + 1) = step + level rest count := by
  simp [level]

theorem level_length (steps : List Int) : level steps steps.length = steps.sum := by
  rw [level, List.take_length]

theorem level_append (first second : List Int) (count : Nat) :
    level (first ++ second) count = level first count + level second (count - first.length) := by
  simp [level, List.take_append, List.sum_append]

theorem level_succ {steps : List Int} {count : Nat} {step : Int} (there : steps[count]? = some step) :
    level steps (count + 1) = level steps count + step := by
  rw [level, level, List.take_add_one, there]
  simp [List.sum_append]

/-- A change of one step shifts the levels behind it. -/
theorem level_set {steps : List Int} {place : Nat} {step : Int} (there : steps[place]? = some step)
    (changed : Int) (count : Nat) :
    level (steps.set place changed) count =
      level steps count + if place < count then changed - step else 0 := by
  induction steps generalizing place count with
  | nil => simp at there
  | cons first rest ih =>
      cases count with
      | zero => simp
      | succ count =>
          cases place with
          | zero =>
              obtain rfl : first = step := by simpa using there
              simp only [List.set_cons_zero, level_cons, Nat.zero_lt_succ, if_true]
              omega
          | succ place =>
              have shifted := ih (by simpa using there) count
              simp only [List.set_cons_succ, level_cons, shifted, Nat.succ_lt_succ_iff]
              omega

theorem closed_nil : Closed [] := ⟨by simp, rfl⟩

theorem Closed.append {first second : List Int} (closed : Closed first) (closed' : Closed second) :
    Closed (first ++ second) where
  above := by
    intro count
    rw [level_append]
    have := closed.above count
    have := closed'.above (count - first.length)
    omega
  settled := by rw [List.sum_append, closed.settled, closed'.settled, Int.add_zero]

/-- A step that opens and closes nothing. -/
theorem closed_singleton : Closed [0] where
  above count := by
    cases count <;> simp
  settled := rfl

/-- A container around steps. -/
theorem Closed.wrap {inner : List Int} (closed : Closed inner) : Closed (1 :: inner ++ [-1]) where
  above := by
    intro count
    cases count with
    | zero => simp
    | succ count =>
        rw [List.cons_append, level_cons, level_append]
        have := closed.above count
        cases count - inner.length <;> simp <;> omega
  settled := by simp [List.sum_append, closed.settled]

/-- An opening and a closing behind it may take the place of steps that open and close nothing. -/
theorem Closed.place {steps : List Int} (closed : Closed steps) {first last : Nat} (order : first < last)
    (atFirst : steps[first]? = some 0) (atLast : steps[last]? = some 0) :
    Closed ((steps.set first 1).set last (-1)) := by
  have still : (steps.set first 1)[last]? = some 0 := by
    rw [List.getElem?_set_ne (by omega), atLast]
  have levels (count : Nat) : level ((steps.set first 1).set last (-1)) count =
      level steps count + if first < count ∧ count ≤ last then 1 else 0 := by
    rw [level_set still, level_set atFirst]
    split <;> split <;> split <;> omega
  constructor
  · intro count
    have := closed.above count
    rw [levels]
    split <;> omega
  · have := levels ((steps.set first 1).set last (-1)).length
    rw [level_length] at this
    obtain ⟨inside, _⟩ := List.getElem?_eq_some_iff.mp atLast
    simp only [List.length_set, level_length, closed.settled] at this
    rw [this, if_neg (by omega), Int.add_zero]

/-- A step that opens nothing may go behind closings that follow it. -/
theorem Closed.move {steps : List Int} (closed : Closed steps) {first last : Nat} {step : Int}
    (order : first < last) (atFirst : steps[first]? = some step) (low : step = 0 ∨ step = -1)
    (closing : ∀ place, first < place → place ≤ last → steps[place]? = some (-1)) :
    Closed ((steps.set first (-1)).set last step) := by
  have still : (steps.set first (-1))[last]? = some (-1) := by
    rw [List.getElem?_set_ne (by omega), closing last order (Nat.le_refl _)]
  have levels (count : Nat) : level ((steps.set first (-1)).set last step) count =
      level steps count + if first < count ∧ count ≤ last then -1 - step else 0 := by
    rw [level_set still, level_set atFirst]
    split <;> split <;> split <;> omega
  -- In front of a closing, the level is one above the level behind it.
  have lifted : ∀ count, first < count → count ≤ last → 1 ≤ level steps count := by
    intro count after before
    have := level_succ (closing count after before)
    have := closed.above (count + 1)
    omega
  constructor
  · intro count
    have := closed.above count
    rw [levels]
    split
    · next between =>
        have := lifted count between.1 between.2
        omega
    · omega
  · have := levels ((steps.set first (-1)).set last step).length
    rw [level_length] at this
    obtain ⟨inside, _⟩ := List.getElem?_eq_some_iff.mp (closing last order (Nat.le_refl _))
    simp only [List.length_set, level_length, closed.settled] at this
    rw [this, if_neg (by omega), Int.add_zero]

/-! ### Tokens of a line -/

/-- A token of a line. What an image holds are tokens of a line as well, and nests by itself. -/
structure OfLine (token : Token) : Prop where
  step : token.nesting = 1 ∨ token.nesting = -1 ∨ token.nesting = 0
  opening : token.nesting = 1 → token.containerName ∈ lineContainers
  flat : token.kind ∉ blockKinds
  image : token.kind = "image" →
    Prose.openedFrom true [] token.children = some [] ∧ standInLine token.children = true
  text : token.kind = "text" → token.nesting = 0
  struck : token.kind = "s_close" → token.nesting = -1

theorem OfLine.ne_inline {token : Token} (line : OfLine token) : token.kind ≠ "inline" := by
  have flat := line.flat
  simp only [blockKinds, List.mem_cons, not_or] at flat
  exact flat.1

theorem standsInLine_of_line {token : Token} (line : OfLine token) : standsInLine token = true := by
  obtain ⟨-, opening, flat, image, -, -⟩ := line
  rcases token with ⟨kind, tag, nesting, attributes, content, markup, info, hidden, children⟩
  rw [standsInLine]
  simp only [Bool.and_eq_true, Bool.or_eq_true, decide_eq_true_eq]
  refine ⟨⟨flat, ?_⟩, ?_⟩
  · by_cases opens : nesting = 1
    · exact .inr (opening opens)
    · exact .inl opens
  · by_cases isImage : kind = "image"
    · exact .inr (image isImage).2
    · exact .inl isImage

theorem standInLine_of_forall {tokens : List Token} (line : ∀ token ∈ tokens, OfLine token) :
    standInLine tokens = true := by
  induction tokens with
  | nil => rfl
  | cons token rest ih =>
      rw [standInLine, standsInLine_of_line (line token List.mem_cons_self),
        ih fun other member => line other (List.mem_cons_of_mem _ member)]
      rfl

/-- A container of a line may be opened anywhere. -/
theorem canOpen_of_line {token : Token} (contained : token.containerName ∈ lineContainers)
    (opened : List String) : Prose.canOpen true opened token = true := by
  simp only [lineContainers, List.mem_cons, List.not_mem_nil, or_false] at contained
  rcases contained with name | name | name | name <;> simp [Prose.canOpen, Prose.hasNumber, name]

/-- Tokens of a line that never go below the outermost open container nest. -/
theorem openedFrom_of_line {tokens : List Token} {opened : List String}
    (line : ∀ token ∈ tokens, OfLine token)
    (above : ∀ count, 0 ≤ opened.length + level (stepsOf tokens) count) :
    ∃ opened', Prose.openedFrom true opened tokens = some opened' ∧
      (opened'.length : Int) = opened.length + (stepsOf tokens).sum := by
  induction tokens generalizing opened with
  | nil => exact ⟨opened, by rw [Prose.openedFrom], by simp [stepsOf]⟩
  | cons token rest ih =>
      have noLine := (line token List.mem_cons_self).ne_inline
      obtain ⟨step, opening, -, image, -, -⟩ := line token List.mem_cons_self
      have lineRest : ∀ other ∈ rest, OfLine other := fun other member =>
        line other (List.mem_cons_of_mem _ member)
      have aboveRest (count : Nat) :
          0 ≤ opened.length + (token.nesting + level (stepsOf rest) count) := by
        simpa [stepsOf] using above (count + 1)
      have goesOn {opened' : List String} (after : Prose.openedAfter true opened token = some opened')
          (length : (opened'.length : Int) = opened.length + token.nesting) :
          ∃ opened'', Prose.openedFrom true opened (token :: rest) = some opened'' ∧
            (opened''.length : Int) = opened.length + (stepsOf (token :: rest)).sum := by
        obtain ⟨opened'', ok, length'⟩ := @ih opened' lineRest fun count => by
          have := aboveRest count
          omega
        refine ⟨opened'', ?_, ?_⟩
        · rw [Prose.openedFrom, after, Option.bind_some, ok]
        · simp only [stepsOf, List.map_cons, List.sum_cons] at length' ⊢
          omega
      rcases step with opens | closes | stays
      · refine goesOn (Prose.openedAfter_opening opens (canOpen_of_line (opening opens) opened)) ?_
        simp [opens]
      · cases opened with
        | nil =>
            have := aboveRest 0
            simp [closes] at this
        | cons name outer =>
            refine goesOn (Prose.openedAfter_closing true name outer closes) ?_
            rw [closes, List.length_cons]
            omega
      · have after : Prose.openedAfter true opened token = some opened := by
          by_cases isImage : token.kind = "image"
          · exact Prose.openedAfter_holder opened stays (image isImage).1
          · exact Prose.openedAfter_leaf true opened stays ⟨noLine, isImage⟩
        exact goesOn after (by simp [stays])

/-- Closed tokens of a line. -/
structure LineTokens (tokens : List Token) : Prop where
  line : ∀ token ∈ tokens, OfLine token
  closed : Closed (stepsOf tokens)

theorem lineTokens_nil : LineTokens [] := ⟨by simp, closed_nil⟩

theorem LineTokens.append {first second : List Token} (tokens : LineTokens first)
    (tokens' : LineTokens second) : LineTokens (first ++ second) where
  line := by
    intro token member
    rcases List.mem_append.mp member with inFirst | inSecond
    · exact tokens.line token inFirst
    · exact tokens'.line token inSecond
  closed := by
    rw [stepsOf, List.map_append]
    exact tokens.closed.append tokens'.closed

theorem LineTokens.standInLine {tokens : List Token} (line : LineTokens tokens) :
    standInLine tokens = true := standInLine_of_forall line.line

/-- Closed tokens of a line nest by themselves. -/
theorem LineTokens.openedFrom {tokens : List Token} (line : LineTokens tokens) :
    Prose.openedFrom true [] tokens = some [] := by
  obtain ⟨opened, ok, length⟩ := @openedFrom_of_line tokens [] line.line fun count => by
    simpa using line.closed.above count
  rw [line.closed.settled] at length
  obtain rfl : opened = [] := List.eq_nil_of_length_eq_zero (by simpa using length)
  exact ok

/-! ### Pairing -/

theorem getElem!_modify {α : Type} [Inhabited α] (xs : Array α) {place : Nat} (inside : place < xs.size)
    (change : α → α) (other : Nat) :
    (xs.modify place change)[other]! = if place = other then change xs[other]! else xs[other]! := by
  by_cases same : place = other
  · subst same
    rw [getElem!_def, getElem!_def, Array.getElem?_modify, if_pos rfl, if_pos rfl,
      Array.getElem?_eq_getElem inside]
    rfl
  · rw [getElem!_def, getElem!_def, Array.getElem?_modify, if_neg same, if_neg same]

/-- The delimiters after those in front of `seen` have been passed: each partner has been passed, and is
    behind its opener; no two openers share a partner; and a partner opens nothing. -/
structure Paired (seen : Nat) (delimiters : Array Delimiter) : Prop where
  ahead : ∀ {opener closer : Nat}, (delimiters[opener]!).partner = some closer →
    opener < closer ∧ closer < seen
  single : ∀ {first second closer : Nat}, (delimiters[first]!).partner = some closer →
    (delimiters[second]!).partner = some closer → first = second
  spent : ∀ {opener closer : Nat}, (delimiters[opener]!).partner = some closer →
    (delimiters[closer]!).partner = none ∧ (delimiters[closer]!).opens = false

/-- At first, nothing has a partner. -/
theorem paired_zero {delimiters : Array Delimiter}
    (fresh : ∀ place : Nat, (delimiters[place]!).partner = none) : Paired 0 delimiters where
  ahead found := by cases (fresh _).symm.trans found
  single found := by cases (fresh _).symm.trans found
  spent found := by cases (fresh _).symm.trans found

theorem Paired.succ {seen : Nat} {delimiters : Array Delimiter} (paired : Paired seen delimiters) :
    Paired (seen + 1) delimiters where
  ahead found := ⟨(paired.ahead found).1, Nat.lt_succ_of_lt (paired.ahead found).2⟩
  single := paired.single
  spent := paired.spent

namespace Pairing

/-- An opener that is found is in front of the candidates, and opens something. -/
theorem findOpener?_some {delimiters : Array Delimiter} {jumps : Array Nat} {closer : Delimiter}
    {bound candidate opener : Nat}
    (found : findOpener? delimiters jumps closer bound candidate = some opener) :
    opener < candidate ∧ (delimiters[opener]!).opens = true := by
  fun_induction findOpener? delimiters jumps closer bound candidate with
  | case1 => cases found
  | case2 => cases found
  | case3 index _ _ fits =>
      obtain rfl : index = opener := Option.some.inj found
      exact ⟨Nat.lt_succ_self index, fits.2.1⟩
  | case4 index _ _ _ ih =>
      obtain ⟨before, able⟩ := ih found
      exact ⟨by omega, able⟩

/-- Joining an opener with the delimiter that is passed. -/
theorem paired_join {state : Pairing} {opener index : Nat} (paired : Paired index state.delimiters)
    (before : opener < index) (inside : index < state.delimiters.size)
    (opens : (state.delimiters[opener]!).opens = true) :
    Paired (index + 1) (state.join opener index).delimiters := by
  have joined (place : Nat) : ((state.join opener index).delimiters[place]!).partner =
      if opener = place then some index else (state.delimiters[place]!).partner := by
    rw [join, getElem!_modify _ (by simp; omega), getElem!_modify _ inside]
    split <;> split <;> rfl
  have closing (place : Nat) : ((state.join opener index).delimiters[place]!).opens =
      if index = place then false else (state.delimiters[place]!).opens := by
    rw [join, getElem!_modify _ (by simp; omega), getElem!_modify _ inside]
    split <;> split <;> rfl
  -- The delimiter that is passed has been neither an opener nor a partner.
  have unpaired : (state.delimiters[index]!).partner = none := by
    cases partner : (state.delimiters[index]!).partner with
    | none => rfl
    | some closer =>
        have := paired.ahead partner
        omega
  constructor
  · intro first closer found
    rw [joined] at found
    split at found
    · next same =>
        obtain rfl : index = closer := Option.some.inj found
        omega
    · have := paired.ahead found
      omega
  · intro first second closer foundFirst foundSecond
    rw [joined] at foundFirst foundSecond
    split at foundFirst <;> split at foundSecond
    · omega
    · have := paired.ahead foundSecond
      have : index = closer := Option.some.inj foundFirst
      omega
    · have := paired.ahead foundFirst
      have : index = closer := Option.some.inj foundSecond
      omega
    · exact paired.single foundFirst foundSecond
  · intro first closer found
    rw [joined] at found
    rw [joined, closing]
    split at found
    · obtain rfl : index = closer := Option.some.inj found
      rw [if_neg (by omega), if_pos rfl]
      exact ⟨unpaired, rfl⟩
    · obtain ⟨none, shut⟩ := paired.spent found
      have notOpener : opener ≠ closer := by
        rintro rfl
        rw [opens] at shut
        cases shut
      rw [if_neg notOpener]
      refine ⟨none, ?_⟩
      split
      · rfl
      · exact shut

/-- Passing a delimiter keeps the pairs in order, and their tokens where they are. -/
structure Passed (original : Array Delimiter) (seen : Nat) (state : Pairing) : Prop where
  paired : Paired seen state.delimiters
  start : state.runStart ≤ seen
  places : state.delimiters.map Delimiter.token = original.map Delimiter.token

theorem size_of_places {first second : Array Delimiter}
    (places : first.map Delimiter.token = second.map Delimiter.token) : first.size = second.size := by
  simpa using congrArg Array.size places

theorem token_of_places {first second : Array Delimiter}
    (places : first.map Delimiter.token = second.map Delimiter.token) (place : Nat) :
    (first[place]!).token = (second[place]!).token := by
  have same := congrArg (fun tokens : Array Nat => tokens[place]?) places
  simp only [Array.getElem?_map] at same
  rw [getElem!_def, getElem!_def]
  cases atFirst : first[place]? with
  | none =>
      cases atSecond : second[place]? with
      | none => rfl
      | some delimiter => simp [atFirst, atSecond] at same
  | some delimiter =>
      cases atSecond : second[place]? with
      | none => simp [atFirst, atSecond] at same
      | some delimiter' => simpa [atFirst, atSecond] using same

theorem map_token_modify (delimiters : Array Delimiter) (place : Nat) {change : Delimiter → Delimiter}
    (still : ∀ delimiter, (change delimiter).token = delimiter.token) :
    (delimiters.modify place change).map Delimiter.token = delimiters.map Delimiter.token := by
  apply Array.ext
  · simp
  · intro other _ _
    simp only [Array.getElem_map, Array.getElem_modify]
    split
    · exact still _
    · rfl

theorem map_token_join (state : Pairing) (opener index : Nat) :
    (state.join opener index).delimiters.map Delimiter.token =
      state.delimiters.map Delimiter.token := by
  unfold join
  dsimp only
  rw [map_token_modify, map_token_modify]
  · intro delimiter
    rfl
  · intro delimiter
    rfl

/-- Looking for an opener of the delimiter that is passed. -/
theorem passed_close {original : Array Delimiter} {state : Pairing} {index : Nat}
    (inside : index < original.size) (passed : Passed original index state) :
    Passed original (index + 1) (state.close index) := by
  obtain ⟨paired, start, places⟩ := passed
  unfold close
  dsimp only
  split
  · next opener found =>
      obtain ⟨before, opens⟩ := findOpener?_some found
      have inside' : index < state.delimiters.size := by rwa [size_of_places places]
      exact ⟨paired_join paired (by omega) inside' opens, Nat.le_succ_of_le start,
        (map_token_join state opener index).trans places⟩
  · split
    · exact ⟨paired.succ, Nat.le_succ_of_le start, places⟩
    · exact ⟨paired.succ, Nat.le_succ_of_le start, places⟩

theorem passed_step {original : Array Delimiter} {state : Pairing} {index : Nat}
    (inside : index < original.size) (passed : Passed original index state) :
    Passed original (index + 1) (state.step index) := by
  unfold step
  dsimp only
  split
  · apply passed_close inside
    refine ⟨passed.paired, ?_, passed.places⟩
    dsimp only
    split
    · exact passed.start
    · exact Nat.le_refl index
  · refine ⟨passed.paired.succ, ?_, passed.places⟩
    dsimp only
    split
    · exact Nat.le_succ_of_le passed.start
    · exact Nat.le_succ index

/-- Passing delimiters one after the other, none of which has a partner before. -/
theorem passed_foldl {delimiters : Array Delimiter}
    (fresh : ∀ place : Nat, (delimiters[place]!).partner = none) :
    ∀ count ≤ delimiters.size, Passed delimiters count
      ((List.range count).foldl step ⟨delimiters, #[], [], 0, none⟩) := by
  intro count inside
  induction count with
  | zero => exact ⟨paired_zero fresh, Nat.le_refl 0, rfl⟩
  | succ count ih =>
      rw [List.range_succ, List.foldl_append]
      exact passed_step (by omega) (ih (by omega))

end Pairing

/-- What pairing makes of delimiters without partners. -/
theorem paired_pairDelimiters {delimiters : Array Delimiter}
    (fresh : ∀ place : Nat, (delimiters[place]!).partner = none) :
    Paired delimiters.size (pairDelimiters delimiters) ∧
      (pairDelimiters delimiters).map Delimiter.token = delimiters.map Delimiter.token := by
  have passed := Pairing.passed_foldl fresh delimiters.size (Nat.le_refl _)
  exact ⟨passed.paired, passed.places⟩

/-! ### Tags -/

/-- Paired delimiters whose tokens are in order, among `size` tokens. -/
structure Spread (size : Nat) (delimiters : Array Delimiter) : Prop where
  paired : Paired delimiters.size delimiters
  order : ∀ {first second : Nat}, first < second → second < delimiters.size →
    (delimiters[first]!).token < (delimiters[second]!).token
  inside : ∀ {place : Nat}, place < delimiters.size → (delimiters[place]!).token < size

/-- Does a pair that is still wanted have a mark at the place? -/
def Awaits (delimiters : Array Delimiter) (wanted : Nat → Prop) (place : Nat) : Prop :=
  ∃ opener closer, (delimiters[opener]!).partner = some closer ∧ wanted opener ∧
    (place = (delimiters[opener]!).token ∨ place = (delimiters[closer]!).token)

theorem Awaits.imp {delimiters : Array Delimiter} {wanted wanted' : Nat → Prop} {place : Nat}
    (awaits : Awaits delimiters wanted place) (weaker : ∀ opener, wanted opener → wanted' opener) :
    Awaits delimiters wanted' place := by
  obtain ⟨opener, closer, found, want, at_⟩ := awaits
  exact ⟨opener, closer, found, weaker opener want, at_⟩

theorem Spread.token_ne {size : Nat} {delimiters : Array Delimiter} (spread : Spread size delimiters)
    {first second : Nat} (insideFirst : first < delimiters.size) (insideSecond : second < delimiters.size)
    (differ : first ≠ second) : (delimiters[first]!).token ≠ (delimiters[second]!).token := by
  rcases Nat.lt_or_gt_of_ne differ with before | behind
  · exact Nat.ne_of_lt (spread.order before insideSecond)
  · exact Nat.ne_of_gt (spread.order behind insideFirst)

/-- The marks of other pairs are elsewhere. -/
theorem Spread.elsewhere {size : Nat} {delimiters : Array Delimiter} (spread : Spread size delimiters)
    {opener closer : Nat} (found : (delimiters[opener]!).partner = some closer) {wanted : Nat → Prop}
    (other : ∀ opener', wanted opener' → opener' ≠ opener) {place : Nat}
    (awaits : Awaits delimiters wanted place) :
    place ≠ (delimiters[opener]!).token ∧ place ≠ (delimiters[closer]!).token := by
  obtain ⟨opener', closer', found', want, atPlace⟩ := awaits
  have differ := other opener' want
  have ahead := spread.paired.ahead found
  have ahead' := spread.paired.ahead found'
  have spent := (spread.paired.spent found).1
  have spent' := (spread.paired.spent found').1
  -- A partner is no opener, and no other opener shares it.
  have openerCloser : opener' ≠ closer := by
    rintro rfl
    rw [spent] at found'
    cases found'
  have closerOpener : closer' ≠ opener := by
    rintro rfl
    rw [spent'] at found
    cases found
  have closers : closer' ≠ closer := by
    rintro rfl
    exact differ (spread.paired.single found' found)
  rcases atPlace with rfl | rfl
  · exact ⟨spread.token_ne (by omega) (by omega) differ, spread.token_ne (by omega) (by omega) openerCloser⟩
  · exact ⟨spread.token_ne (by omega) (by omega) closerOpener, spread.token_ne (by omega) (by omega) closers⟩

/-- The tags that take the place of marks. -/
theorem ofLine_tagToken {name : String} (known : name ∈ ["em", "strong", "s"]) (tag : String)
    (opening : Bool) : OfLine (tagToken name tag opening) := by
  simp only [List.mem_cons, List.not_mem_nil, or_false] at known
  rcases known with rfl | rfl | rfl <;> cases opening <;>
    constructor <;> simp [tagToken, Prose.Token.containerName, lineContainers, blockKinds]

section Places

variable {tokens : Array Token} {first last : Nat}

@[simp] theorem size_placeTags (tokens : Array Token) (name tag : String) (first last : Nat) :
    (placeTags tokens name tag first last).size = tokens.size := by
  simp [placeTags]

theorem getElem?_placeTags (name tag : String) {place : Nat} (notFirst : place ≠ first)
    (notLast : place ≠ last) : (placeTags tokens name tag first last)[place]? = tokens[place]? := by
  simp [placeTags, Ne.symm notFirst, Ne.symm notLast]

/-- Tags of a pair in the place of tokens that open and close nothing. -/
theorem lineTokens_placeTags (line : LineTokens tokens.toList) {name : String}
    (known : name ∈ ["em", "strong", "s"]) (tag : String) (order : first < last)
    (atFirst : tokens[first]?.map Token.nesting = some 0)
    (atLast : tokens[last]?.map Token.nesting = some 0) :
    LineTokens (placeTags tokens name tag first last).toList := by
  have shown : (placeTags tokens name tag first last).toList =
      (tokens.toList.set first (tagToken name tag true)).set last (tagToken name tag false) := by
    simp [placeTags]
  rw [shown]
  constructor
  · intro token member
    rcases List.mem_or_eq_of_mem_set member with member | rfl
    · rcases List.mem_or_eq_of_mem_set member with member | rfl
      · exact line.line token member
      · exact ofLine_tagToken known tag true
    · exact ofLine_tagToken known tag false
  · have still {place : Nat} (there : tokens[place]?.map Token.nesting = some 0) :
        (stepsOf tokens.toList)[place]? = some 0 := by
      rwa [stepsOf, List.getElem?_map, Array.getElem?_toList]
    have placed := line.closed.place order (still atFirst) (still atLast)
    simpa [stepsOf, List.map_set, tagToken] using placed

end Places

/-! ### Strikethrough -/

/-- Is there a text at the place that is no lone mark? -/
def IsMark (tokens : Array Token) (place : Nat) : Prop :=
  ∃ token, tokens[place]? = some token ∧ token.kind = "text" ∧ token.content ≠ "~"

def IsLone (tokens : Array Token) (place : Nat) : Prop :=
  ∃ token, tokens[place]? = some token ∧ isLoneMark token = true

theorem IsMark.ne_of_isLone {tokens : Array Token} {place other : Nat} (mark : IsMark tokens place)
    (lone : IsLone tokens other) : place ≠ other := by
  rintro rfl
  obtain ⟨token, found, _, content⟩ := mark
  obtain ⟨token', found', isLone⟩ := lone
  obtain rfl : token = token' := Option.some.inj (found.symm.trans found')
  simp only [isLoneMark, Bool.and_eq_true, decide_eq_true_eq] at isLone
  exact content isLone.2

theorem IsMark.flat {tokens : Array Token} {place : Nat} (line : LineTokens tokens.toList)
    (mark : IsMark tokens place) : tokens[place]?.map Token.nesting = some 0 := by
  obtain ⟨token, found, kind, _⟩ := mark
  have member := Array.mem_toList_iff.mpr (Array.mem_of_getElem? found)
  rw [found, Option.map_some, (line.line token member).text kind]

/-- The pairs whose tags are not yet in place when those of struck text in front of `count` are. -/
def unstruck (delimiters : Array Delimiter) (count opener : Nat) : Prop :=
  count ≤ opener ∨ (delimiters[opener]!).mark ≠ '~'

/-- Tags of struck text for the delimiters in front of `count` keep the tokens closed, the marks of other
    pairs as they are, and the lone marks that were noted. -/
structure Striking (size : Nat) (delimiters : Array Delimiter) (count : Nat)
    (state : Array Token × List Nat) : Prop where
  line : LineTokens state.1.toList
  size : state.1.size = size
  marks : ∀ {place}, Awaits delimiters (unstruck delimiters count) place → IsMark state.1 place
  lone : ∀ place ∈ state.2, IsLone state.1 place

theorem isLone_of_getElem! {tokens : Array Token} {place : Nat}
    (isLone : isLoneMark tokens[place]! = true) : IsLone tokens place := by
  rw [getElem!_def] at isLone
  split at isLone
  · next token there => exact ⟨token, there, isLone⟩
  · cases isLone

theorem striking_placeStrike {size : Nat} {delimiters : Array Delimiter}
    (spread : Spread size delimiters) {count : Nat} {state : Array Token × List Nat}
    (striking : Striking size delimiters count state) :
    Striking size delimiters (count + 1) (placeStrike delimiters state delimiters[count]!) := by
  have weaker : ∀ opener, unstruck delimiters (count + 1) opener → unstruck delimiters count opener :=
    fun opener => Or.imp_left (by omega)
  have unchanged : Striking size delimiters (count + 1) state :=
    ⟨striking.line, striking.size, fun awaits => striking.marks (awaits.imp weaker), striking.lone⟩
  unfold placeStrike
  split
  · next closer found =>
      split
      · next isStrike =>
          have awaited {place : Nat}
              (here : place = (delimiters[count]!).token ∨ place = (delimiters[closer]!).token) :
              IsMark state.1 place :=
            striking.marks ⟨count, closer, found, .inl (Nat.le_refl _), here⟩
          have atOpener := awaited (.inl rfl)
          have atCloser := awaited (.inr rfl)
          obtain ⟨before, inside⟩ := spread.paired.ahead found
          dsimp only
          generalize placing : placeTags state.1 "s" "s" (delimiters[count]!).token
            (delimiters[closer]!).token = placed
          have kept {place : Nat} (lone : IsLone state.1 place) : IsLone placed place := by
            have notOpener := atOpener.ne_of_isLone lone
            have notCloser := atCloser.ne_of_isLone lone
            obtain ⟨token, there, isLone⟩ := lone
            refine ⟨token, ?_, isLone⟩
            rw [← placing, getElem?_placeTags _ _ notOpener.symm notCloser.symm, there]
          refine ⟨?_, ?_, fun awaits => ?_, fun place member => ?_⟩
          · rw [← placing]
            exact lineTokens_placeTags striking.line (by decide) "s" (spread.order before inside)
              (atOpener.flat striking.line) (atCloser.flat striking.line)
          · rw [← placing, size_placeTags, striking.size]
          · have elsewhere := spread.elsewhere found (fun opener' want => by
              rintro rfl
              rcases want with behind | other
              · omega
              · exact other isStrike) awaits
            obtain ⟨token, there, mark⟩ := striking.marks (awaits.imp weaker)
            refine ⟨token, ?_, mark⟩
            rw [← placing, getElem?_placeTags _ _ elsewhere.1 elsewhere.2, there]
          · split at member
            · next isLone =>
                rcases List.mem_cons.mp member with rfl | member
                · exact isLone_of_getElem! isLone
                · exact kept (striking.lone place member)
            · exact kept (striking.lone place member)
      · exact unchanged
  · exact unchanged

theorem foldl_eq_foldl_range {α β : Type} [Inhabited α] (step : β → α → β) (xs : Array α) (start : β) :
    xs.foldl step start = (List.range xs.size).foldl (fun state place => step state xs[place]!) start := by
  have listed : xs.toList = (List.range xs.size).map fun place => xs[place]! := by
    apply List.ext_getElem
    · simp
    · intro place inside _
      simp at inside
      simp [inside]
  rw [← Array.foldl_toList, listed, List.foldl_map]

/-- The tokens with the tags of struck text in place. -/
theorem striking_placeStrikes {size : Nat} {delimiters : Array Delimiter}
    (spread : Spread size delimiters) {tokens : Array Token} (line : LineTokens tokens.toList)
    (same : tokens.size = size)
    (marks : ∀ place, place < delimiters.size → IsMark tokens (delimiters[place]!).token) :
    Striking size delimiters delimiters.size (placeStrikes delimiters tokens) := by
  rw [placeStrikes, foldl_eq_foldl_range]
  have run : ∀ count ≤ delimiters.size, Striking size delimiters count
      ((List.range count).foldl (fun state place => placeStrike delimiters state delimiters[place]!)
        (tokens, [])) := by
    intro count inside
    induction count with
    | zero =>
        refine ⟨line, same, fun awaits => ?_, fun place member => absurd member List.not_mem_nil⟩
        obtain ⟨opener, closer, found, -, rfl | rfl⟩ := awaits
        · have ahead := spread.paired.ahead found
          exact marks opener (by omega)
        · exact marks closer (spread.paired.ahead found).2
    | succ count ih =>
        rw [List.range_succ, List.foldl_append]
        exact striking_placeStrike spread (ih (by omega))
  exact run delimiters.size (Nat.le_refl _)

/-! ### Lone marks -/

def emphatic (delimiters : Array Delimiter) (opener : Nat) : Prop :=
  (delimiters[opener]!).mark ≠ '~'

/-- Lone marks that wait to be moved: their places hold a token that opens nothing, and no mark of
    emphasis, and the marks of emphasis are as they were. -/
structure Moving (size : Nat) (delimiters : Array Delimiter) (lone : List Nat) (tokens : Array Token) :
    Prop where
  line : LineTokens tokens.toList
  size : tokens.size = size
  low : ∀ place ∈ lone, ∃ token, tokens[place]? = some token ∧ (token.nesting = 0 ∨ token.nesting = -1)
  marks : ∀ {place}, Awaits delimiters (emphatic delimiters) place →
    place ∉ lone ∧ ∃ token, tokens[place]? = some token ∧ token.kind = "text"

/-- The tokens that are counted as closing tags of struck text are such. -/
theorem getElem?_of_lt_strikesFrom (tokens : Array Token) (start : Nat) {place : Nat} (behind : start ≤ place)
    (before : place < start + strikesFrom tokens start) :
    ∃ token, tokens[place]? = some token ∧ token.kind = "s_close" := by
  obtain ⟨offset, rfl⟩ := Nat.exists_eq_add_of_le behind
  let isStrike (token : Token) : Bool := token.kind = "s_close"
  have inside : offset < ((tokens.toList.drop start).takeWhile isStrike).length :=
    Nat.lt_of_add_lt_add_left before
  have parts := List.takeWhile_append_dropWhile (p := isStrike) (l := tokens.toList.drop start)
  have found : (tokens.toList.drop start)[offset]? =
      some ((tokens.toList.drop start).takeWhile isStrike)[offset] := by
    conv_lhs => rw [← parts]
    rw [List.getElem?_append_left inside, List.getElem?_eq_getElem inside]
  rw [List.getElem?_drop, Array.getElem?_toList] at found
  have all := List.all_eq_true.mp List.all_takeWhile _ (List.getElem_mem inside)
  exact ⟨_, found, of_decide_eq_true all⟩

/-- A token that opens nothing may change places with the last of the closing tags behind it. -/
theorem lineTokens_swap {tokens : Array Token} (line : LineTokens tokens.toList) {first last : Nat}
    (insideFirst : first < tokens.size) (insideLast : last < tokens.size) (order : first < last)
    (low : tokens[first].nesting = 0 ∨ tokens[first].nesting = -1)
    (closing : ∀ place, first < place → place ≤ last →
      ∃ token, tokens[place]? = some token ∧ token.nesting = -1) :
    LineTokens (tokens.swap first last).toList := by
  rw [Array.toList_swap]
  constructor
  · intro token member
    rcases List.mem_or_eq_of_mem_set member with member | rfl
    · rcases List.mem_or_eq_of_mem_set member with member | rfl
      · exact line.line token member
      · exact line.line _ (Array.mem_toList_iff.mpr (Array.getElem_mem insideLast))
    · exact line.line _ (Array.mem_toList_iff.mpr (Array.getElem_mem insideFirst))
  · have atFirst : (stepsOf tokens.toList)[first]? = some tokens[first].nesting := by
      simp [stepsOf, insideFirst]
    have moved := line.closed.move order atFirst low fun place behind before => by
      obtain ⟨token, found, closes⟩ := closing place behind before
      simp [stepsOf, found, closes]
    obtain ⟨token, found, closes⟩ := closing last order (Nat.le_refl _)
    have atLast : tokens[last].nesting = -1 := by
      rw [Array.getElem?_eq_getElem insideLast] at found
      rw [Option.some.inj found, closes]
    simpa [stepsOf, List.map_set, atLast] using moved

theorem swapIfInBounds_self {α : Type} (xs : Array α) (place : Nat) :
    xs.swapIfInBounds place place = xs := by
  apply Array.ext_getElem?
  intro other
  rw [Array.swapIfInBounds_def]
  split
  · next inside =>
      rw [Array.getElem?_swap]
      grind
  · rfl

theorem moving_moveLoneMark {size : Nat} {delimiters : Array Delimiter} {first : Nat} {lone : List Nat}
    {tokens : Array Token} (moving : Moving size delimiters (first :: lone) tokens) :
    Moving size delimiters lone (moveLoneMark tokens first) := by
  obtain ⟨token, there, low⟩ := moving.low first List.mem_cons_self
  obtain ⟨insideFirst, rfl⟩ := Array.getElem?_eq_some_iff.mp there
  have strikes (place : Nat) (behind : first < place)
      (before : place ≤ first + strikesFrom tokens (first + 1)) :
      ∃ token, tokens[place]? = some token ∧ token.kind = "s_close" ∧ token.nesting = -1 := by
    obtain ⟨token, found, kind⟩ :=
      getElem?_of_lt_strikesFrom tokens (first + 1) behind (by omega)
    have member := Array.mem_toList_iff.mpr (Array.mem_of_getElem? found)
    exact ⟨token, found, kind, (moving.line.line token member).struck kind⟩
  have order : first ≤ first + strikesFrom tokens (first + 1) := Nat.le_add_right _ _
  unfold moveLoneMark
  generalize first + strikesFrom tokens (first + 1) = last at strikes order
  rcases Nat.eq_or_lt_of_le order with rfl | order
  · rw [swapIfInBounds_self]
    refine ⟨moving.line, moving.size, fun place member => ?_, fun awaits => ?_⟩
    · exact moving.low place (List.mem_cons_of_mem _ member)
    · obtain ⟨elsewhere, text⟩ := moving.marks awaits
      exact ⟨fun member => elsewhere (List.mem_cons_of_mem _ member), text⟩
  · obtain ⟨tokenLast, foundLast, kindLast, closes⟩ := strikes last order (Nat.le_refl _)
    obtain ⟨insideLast, rfl⟩ := Array.getElem?_eq_some_iff.mp foundLast
    rw [Array.swapIfInBounds_def, dif_pos insideFirst, dif_pos insideLast]
    refine ⟨?_, by rw [Array.size_swap, moving.size], fun place member => ?_, fun {place} awaits => ?_⟩
    · refine lineTokens_swap moving.line insideFirst insideLast order low fun place behind before => ?_
      obtain ⟨token, found, -, closes⟩ := strikes place behind before
      exact ⟨token, found, closes⟩
    · rw [Array.getElem?_swap]
      split
      · exact ⟨_, rfl, low⟩
      · split
        · exact ⟨_, rfl, .inr closes⟩
        · exact moving.low place (List.mem_cons_of_mem _ member)
    · obtain ⟨elsewhere, token, found, kind⟩ := moving.marks awaits
      have notFirst : first ≠ place := by
        rintro rfl
        exact elsewhere List.mem_cons_self
      have notLast : last ≠ place := by
        rintro rfl
        rw [Array.getElem?_eq_getElem insideLast] at found
        rw [Option.some.inj found, kind] at kindLast
        simp at kindLast
      refine ⟨fun member => elsewhere (List.mem_cons_of_mem _ member), token, ?_, kind⟩
      rw [Array.getElem?_swap, if_neg notLast, if_neg notFirst, found]

/-- Moving lone marks one after the other. -/
theorem moving_foldl {size : Nat} {delimiters : Array Delimiter} {lone : List Nat} {tokens : Array Token}
    (moving : Moving size delimiters lone tokens) :
    Moving size delimiters [] (lone.foldl moveLoneMark tokens) := by
  induction lone generalizing tokens with
  | nil => exact moving
  | cons first rest ih => exact ih (moving_moveLoneMark moving)

/-- What struck text makes of closed tokens is closed, and leaves the marks of emphasis. -/
theorem moving_resolveStrikes {size : Nat} {delimiters : Array Delimiter}
    (spread : Spread size delimiters) {tokens : Array Token} (line : LineTokens tokens.toList)
    (same : tokens.size = size)
    (marks : ∀ place, place < delimiters.size → IsMark tokens (delimiters[place]!).token) :
    Moving size delimiters [] (resolveStrikes delimiters tokens) := by
  have striking := striking_placeStrikes spread line same marks
  unfold resolveStrikes
  apply moving_foldl
  refine ⟨striking.line, striking.size, fun place member => ?_, fun awaits => ?_⟩
  · obtain ⟨token, found, isLone⟩ := striking.lone place member
    have member := Array.mem_toList_iff.mpr (Array.mem_of_getElem? found)
    simp only [isLoneMark, Bool.and_eq_true, decide_eq_true_eq] at isLone
    exact ⟨token, found, .inl ((striking.line.line token member).text isLone.1)⟩
  · have mark := striking.marks (awaits.imp fun _ => Or.inr)
    obtain ⟨token, found, kind, -⟩ := id mark
    refine ⟨fun member => ?_, token, found, kind⟩
    exact mark.ne_of_isLone (striking.lone _ member) rfl

/-! ### Emphasis -/

/-- A token of a line may lose its text. -/
theorem OfLine.emptied {token : Token} (line : OfLine token) : OfLine { token with content := "" } :=
  ⟨line.step, line.opening, line.flat, line.image, line.text, line.struck⟩

theorem getElem?_emptyMark (tokens : Array Token) (emptied place : Nat) :
    (emptyMark tokens emptied)[place]? = tokens[place]? ∨
      ∃ token, tokens[place]? = some token ∧
        (emptyMark tokens emptied)[place]? = some { token with content := "" } := by
  rw [emptyMark, Array.getElem?_modify]
  split
  · cases tokens[place]? with
    | none => exact .inl rfl
    | some token => exact .inr ⟨token, rfl, rfl⟩
  · exact .inl rfl

/-- Emptied marks open and close what they did. -/
theorem map_nesting_emptyMark (tokens : Array Token) (emptied place : Nat) :
    (emptyMark tokens emptied)[place]?.map Token.nesting = tokens[place]?.map Token.nesting := by
  rcases getElem?_emptyMark tokens emptied place with same | ⟨token, found, changed⟩
  · rw [same]
  · rw [found, changed]
    rfl

/-- Closed tokens of which a mark is emptied. -/
theorem lineTokens_emptyMark {tokens : Array Token} (line : LineTokens tokens.toList) (emptied : Nat) :
    LineTokens (emptyMark tokens emptied).toList := by
  constructor
  · intro token member
    obtain ⟨place, found⟩ := List.mem_iff_getElem?.mp member
    rw [Array.getElem?_toList] at found
    rcases getElem?_emptyMark tokens emptied place with same | ⟨token', found', changed⟩
    · rw [same] at found
      exact line.line token (Array.mem_toList_iff.mpr (Array.mem_of_getElem? found))
    · obtain rfl := Option.some.inj (changed.symm.trans found)
      exact (line.line token' (Array.mem_toList_iff.mpr (Array.mem_of_getElem? found'))).emptied
  · have same : stepsOf (emptyMark tokens emptied).toList = stepsOf tokens.toList := by
      apply List.ext_getElem?
      intro place
      simpa [stepsOf] using map_nesting_emptyMark tokens emptied place
    rw [same]
    exact line.closed

/-- The pairs of emphasis in front of `bound`. -/
def unemphasized (delimiters : Array Delimiter) (bound opener : Nat) : Prop :=
  opener < bound ∧ emphatic delimiters opener

/-- Do the tokens at the marks of wanted pairs open and close nothing? -/
def Flat (delimiters : Array Delimiter) (bound : Nat) (tokens : Array Token) : Prop :=
  ∀ place, Awaits delimiters (unemphasized delimiters bound) place →
    tokens[place]?.map Token.nesting = some 0

theorem Flat.emptyMark {delimiters : Array Delimiter} {bound : Nat} {tokens : Array Token}
    (flat : Flat delimiters bound tokens) (emptied : Nat) :
    Flat delimiters bound (emptyMark tokens emptied) := by
  intro place awaits
  rw [map_nesting_emptyMark]
  exact flat place awaits

theorem Flat.mono {delimiters : Array Delimiter} {bound bound' : Nat} {tokens : Array Token}
    (flat : Flat delimiters bound tokens) (less : bound' ≤ bound) : Flat delimiters bound' tokens := by
  intro place awaits
  exact flat place (awaits.imp fun opener want => ⟨Nat.lt_of_lt_of_le want.1 less, want.2⟩)

/-- The tags of the last pair of emphasis leave the marks of the pairs in front of it. -/
theorem lineTokens_emphasize {size : Nat} {delimiters : Array Delimiter}
    (spread : Spread size delimiters) {index partner : Nat}
    (found : (delimiters[index]!).partner = some partner) (isEmphasis : emphatic delimiters index)
    {tokens : Array Token} (line : LineTokens tokens.toList) (flat : Flat delimiters (index + 1) tokens)
    (name tag : String) (known : name ∈ ["em", "strong", "s"]) :
    LineTokens (placeTags tokens name tag (delimiters[index]!).token (delimiters[partner]!).token).toList ∧
      Flat delimiters index
        (placeTags tokens name tag (delimiters[index]!).token (delimiters[partner]!).token) := by
  obtain ⟨before, inside⟩ := spread.paired.ahead found
  have awaited {place : Nat}
      (here : place = (delimiters[index]!).token ∨ place = (delimiters[partner]!).token) :
      tokens[place]?.map Token.nesting = some 0 :=
    flat place ⟨index, partner, found, ⟨Nat.lt_succ_self index, isEmphasis⟩, here⟩
  constructor
  · exact lineTokens_placeTags line known tag (spread.order before inside) (awaited (.inl rfl))
      (awaited (.inr rfl))
  · intro place awaits
    obtain ⟨notFirst, notLast⟩ :=
      spread.elsewhere found (fun opener want => Nat.ne_of_lt want.1) awaits
    rw [getElem?_placeTags _ _ notFirst notLast]
    exact flat.mono (Nat.le_succ index) place awaits

/-- What emphasis makes of closed tokens is closed. -/
theorem lineTokens_resolveEmphasis {size : Nat} {delimiters : Array Delimiter}
    (spread : Spread size delimiters) (tokens : Array Token) (bound : Nat)
    (line : LineTokens tokens.toList) (flat : Flat delimiters bound tokens) :
    LineTokens (resolveEmphasis delimiters tokens bound).toList := by
  have isEmphasis {index : Nat} (mark : (delimiters[index]!).mark = '*' ∨ (delimiters[index]!).mark = '_') :
      emphatic delimiters index := by
    rcases mark with mark | mark <;> rw [emphatic, mark] <;> decide
  fun_induction resolveEmphasis delimiters tokens bound with
  | case1 => exact line
  | case2 _ index _ _ ih => exact ih line (flat.mono (Nat.le_succ index))
  | case3 _ index _ partner found mark _ _ ih =>
      obtain ⟨line, flat⟩ := lineTokens_emphasize spread found (isEmphasis mark) line flat
        "strong" "strong" (by decide)
      exact ih (lineTokens_emptyMark (lineTokens_emptyMark line _) _)
        (((flat.mono (Nat.sub_le index 1)).emptyMark _).emptyMark _)
  | case4 _ index _ partner found mark _ _ ih =>
      obtain ⟨line, flat⟩ := lineTokens_emphasize spread found (isEmphasis mark) line flat
        "em" "em" (by decide)
      exact ih line flat
  | case5 _ index _ _ _ _ ih => exact ih line (flat.mono (Nat.le_succ index))

/-! ### Delimiters of a line -/

/-- The delimiters of a line that has been read: they have no partners yet, and mark texts that are in the
    same order. -/
structure Marked (delimiters : Array Delimiter) (tokens : Array Token) : Prop where
  fresh : ∀ place : Nat, (delimiters[place]!).partner = none
  order : ∀ {first second : Nat}, first < second → second < delimiters.size →
    (delimiters[first]!).token < (delimiters[second]!).token
  marks : ∀ {place : Nat}, place < delimiters.size → IsMark tokens (delimiters[place]!).token

/-- Tags in the place of paired marks keep the tokens of a line closed. -/
theorem lineTokens_resolveDelimiters {delimiters : Array Delimiter} {tokens : Array Token}
    (line : LineTokens tokens.toList) (marked : Marked delimiters tokens) :
    LineTokens (resolveDelimiters delimiters tokens).toList := by
  obtain ⟨paired, places⟩ := paired_pairDelimiters marked.fresh
  have sameSize := Pairing.size_of_places places
  have sameToken (place : Nat) : ((pairDelimiters delimiters)[place]!).token = (delimiters[place]!).token :=
    Pairing.token_of_places places place
  have spread : Spread tokens.size (pairDelimiters delimiters) := by
    refine ⟨by rwa [sameSize], fun before inside => ?_, fun {place} inside => ?_⟩
    · rw [sameToken, sameToken]
      exact marked.order before (by rwa [← sameSize])
    · have inside' : place < delimiters.size := by rwa [← sameSize]
      obtain ⟨token, found, _⟩ := marked.marks inside'
      rw [sameToken]
      exact (Array.getElem?_eq_some_iff.mp found).1
  have moving := moving_resolveStrikes spread line rfl fun place inside => by
    rw [sameToken]
    exact marked.marks (by rwa [← sameSize])
  unfold resolveDelimiters
  apply lineTokens_resolveEmphasis spread _ _ moving.line
  intro place awaits
  obtain ⟨-, token, found, kind⟩ := moving.marks (awaits.imp fun _ => And.right)
  have member := Array.mem_toList_iff.mpr (Array.mem_of_getElem? found)
  rw [found, Option.map_some, (moving.line.line token member).text kind]

end Bindery.CommonMark
