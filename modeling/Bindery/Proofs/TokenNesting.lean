/-
Module: Bindery.Proofs.TokenNesting
Layer: Proofs
Purpose: Nested tokens have nested events. Tokens nest when every closing finds an opening, in the stream
  and in whatever a token holds; the strict check moreover wants every list item directly inside a list.
  The walk over nested tokens never fails, and its events nest wherever they are put: every closing takes
  its tag from the stack on which its opening left it. Joining texts changes none of this.
Imports: Mathlib.Data.List.Forall2, Bindery.Proofs.Nesting, Bindery.Prose.OfText
Main exports: opensList, canOpen, openedAfter, openedFrom, openedFrom_append, openedAfter_cases, step_eq, Leads,
  leads_walk, exists_eventsOfTokens, nestFrom_mergeText,
  Parser.Nests, nestFrom_eventsOfText
-/
import Mathlib.Data.List.Forall2
import Bindery.Proofs.Nesting
import Bindery.Prose.OfText

namespace Bindery.Prose

/-! ### Nested tokens -/

/-- Is the name that of a list? -/
def opensList (name : String) : Bool := name = "bullet_list" || name = "ordered_list"

def hasNumber (token : Token) : Bool :=
  match token.containerName with
  | "heading" => (numeral (String.ofList (token.tag.toList.drop 1))).isOk
  | "ordered_list" => (listStart token).isOk
  | _ => true

/-- May a token open a container inside others, whose names are given innermost first? -/
def canOpen (strict : Bool) (opened : List String) (token : Token) : Bool :=
  hasNumber token &&
    (!strict || token.containerName ≠ "list_item" || opened.head?.any opensList)

mutual

/-- The names of the open containers after a token, innermost first, unless it breaks the nesting. What a
    token holds has to nest by itself. -/
def openedAfter (strict : Bool) (opened : List String) : Token → Option (List String)
  | token@⟨kind, _, nesting, _, _, _, _, _, children⟩ =>
    if nesting = 1 then
      if canOpen strict opened token then some (token.containerName :: opened) else none
    else if nesting = -1 then if opened.isEmpty then none else some opened.tail
    else if kind = "inline" ∨ kind = "image" then
      if openedFrom strict [] children = some [] then some opened else none
    else some opened

def openedFrom (strict : Bool) (opened : List String) : List Token → Option (List String)
  | [] => some opened
  | token :: rest =>
    (openedAfter strict opened token).bind fun opened => openedFrom strict opened rest

end

theorem openedFrom_append (strict : Bool) (opened : List String) (first second : List Token) :
    openedFrom strict opened (first ++ second) =
      (openedFrom strict opened first).bind fun opened => openedFrom strict opened second := by
  induction first generalizing opened with
  | nil => rw [List.nil_append, openedFrom, Option.bind_some]
  | cons token rest ih =>
      rw [List.cons_append, openedFrom, openedFrom, Option.bind_assoc]
      exact congrArg _ (funext fun opened => ih opened)

theorem openedAfter_opening {strict : Bool} {opened : List String} {token : Token}
    (opens : token.nesting = 1) (can : canOpen strict opened token = true) :
    openedAfter strict opened token = some (token.containerName :: opened) := by
  cases token
  simp_all [openedAfter]

theorem openedAfter_closing (strict : Bool) (name : String) (opened : List String) {token : Token}
    (closes : token.nesting = -1) : openedAfter strict (name :: opened) token = some opened := by
  cases token
  simp_all [openedAfter]

theorem openedAfter_leaf (strict : Bool) (opened : List String) {token : Token}
    (leaf : token.nesting = 0) (flat : token.kind ≠ "inline" ∧ token.kind ≠ "image") :
    openedAfter strict opened token = some opened := by
  cases token
  simp_all [openedAfter]

theorem openedAfter_holder {strict : Bool} (opened : List String) {token : Token}
    (leaf : token.nesting = 0) (nested : openedFrom strict [] token.children = some []) :
    openedAfter strict opened token = some opened := by
  cases token
  simp_all [openedAfter]

/-- All that a token can be that keeps the nesting: it opens a container, it closes the innermost one, or it
    opens and closes nothing, with tokens that nest by themselves if it is there to hold tokens. -/
theorem openedAfter_cases {strict : Bool} {names names' : List String} {token : Token}
    (opened : openedAfter strict names token = some names') :
    (token.nesting = 1 ∧ canOpen strict names token = true ∧ names' = token.containerName :: names) ∨
      (token.nesting = -1 ∧ ∃ name, names = name :: names') ∨
      ((token.nesting ≠ 1 ∧ token.nesting ≠ -1) ∧ names' = names ∧
        (token.kind = "inline" ∨ token.kind = "image" → openedFrom strict [] token.children = some [])) := by
  cases token
  rw [openedAfter] at opened
  split at opened
  · next opens =>
      split at opened
      · next can => exact .inl ⟨opens, can, (Option.some.inj opened).symm⟩
      · cases opened
  · next notOpening =>
      split at opened
      · next closes =>
          cases names with
          | nil => simp at opened
          | cons name outer =>
              cases opened
              exact .inr (.inl ⟨closes, name, rfl⟩)
      · next notClosing =>
          refine .inr (.inr ⟨⟨notOpening, notClosing⟩, ?_⟩)
          split at opened
          · split at opened
            · next nested => exact ⟨(Option.some.inj opened).symm, fun _ => nested⟩
            · cases opened
          · next flat => exact ⟨(Option.some.inj opened).symm, fun holds => absurd holds flat⟩

/-! ### Steps of the walk -/

/-- The step over a token, by what the token is. -/
theorem step_eq (state : Walker) (following : List Token) (token : Token) :
    state.step following token =
      if token.nesting = 1 then state.enter token following
      else if token.nesting = -1 then state.leave token
      else if token.kind = "inline" then state.walk token.children
      else if token.kind = "image" then
        ((state.walk token.children).prepend [.start (imageTag token)]).andThen fun next =>
          ⟨[.finish (imageTag token)], .ok next⟩
      else ⟨leafEvents token, .ok state⟩ := by
  cases token
  rw [Walker.step]

theorem step_of_opens {token : Token} (opens : token.nesting = 1) (state : Walker)
    (following : List Token) : state.step following token = state.enter token following := by
  rw [step_eq, if_pos opens]

theorem step_of_closes {token : Token} (closes : token.nesting = -1) (state : Walker)
    (following : List Token) : state.step following token = state.leave token := by
  rw [step_eq, closes]
  rfl

/-! ### Open containers -/

/-- The containers with events that are open in a walk. -/
def framesOf (opened : List (Option Markdown.Tag)) : List Frame :=
  opened.filterMap fun tag => tag.map fun tag => ⟨.markdown tag, false⟩

/-- Are the open containers of a walk those with the given names? What is named as a list is one. -/
def Named (names : List String) (opened : List (Option Markdown.Tag)) : Prop :=
  List.Forall₂ (fun name tag => opensList name = true → ∃ start, tag = some (Markdown.Tag.list start)) names
    opened

/-- The container of a link is one. -/
theorem exists_linkTag (token : Token) :
    ∃ kind address title, linkTag token = .link kind address title := by
  unfold linkTag
  dsimp only
  split
  · split
    · exact ⟨_, _, _, rfl⟩
    · exact ⟨_, _, _, rfl⟩
  · split
    · exact ⟨_, _, _, rfl⟩
    · exact ⟨_, _, _, rfl⟩

/-- A token that may open a container opens one: a list if it is named as one, and an item only if it is
    named as one. -/
theorem exists_openedTag {token : Token} (numbered : hasNumber token = true) (inHead : Bool)
    (following : List Token) :
    ∃ tag, openedTag inHead token following = .ok tag ∧
      (opensList token.containerName = true → ∃ start, tag = some (.list start)) ∧
        (tag = some .item → token.containerName = "list_item") := by
  have plain {name : String} (isName : token.containerName = name) (notList : opensList name = false)
      (tag : Option Markdown.Tag) :
      opensList token.containerName = true → ∃ start, tag = some (.list start) := by
    intro isList
    rw [isName, notList] at isList
    cases isList
  unfold hasNumber at numbered
  unfold openedTag
  split
  · next name =>
      cases level : numeral (String.ofList (token.tag.toList.drop 1)) with
      | error fault =>
          rw [name] at numbered
          simp only [level] at numbered
          cases numbered
      | ok value => exact ⟨_, rfl, plain name rfl _, by simp⟩
  · exact ⟨_, rfl, fun _ => ⟨_, rfl⟩, by simp⟩
  · next name =>
      cases start : listStart token with
      | error fault =>
          rw [name] at numbered
          simp only [start] at numbered
          cases numbered
      | ok value => exact ⟨_, rfl, fun _ => ⟨_, rfl⟩, by simp⟩
  · next name =>
      obtain ⟨kind, address, title, isLink⟩ := exists_linkTag token
      exact ⟨_, rfl, plain name rfl _, by simp [isLink]⟩
  · next name => exact ⟨_, rfl, plain name rfl _, by simp⟩
  · next name =>
      refine ⟨_, rfl, plain name rfl _, ?_⟩
      cases inHead <;> simp
  · next notBullet notOrdered _ _ _ =>
      refine ⟨_, rfl, fun isList => ?_, fun isItem => ?_⟩
      · simp only [opensList, Bool.or_eq_true, decide_eq_true_eq] at isList
        rcases isList with isBullet | isOrdered
        · exact absurd isBullet notBullet
        · exact absurd isOrdered notOrdered
      · split at isItem
        · cases isItem
        · unfold simpleTag? at isItem
          split at isItem <;> simp_all

/-! ### The walk -/

/-- A walk from open containers `inner` around which `base` are open: it ends with the containers of some
    names open in place of `inner`, and its events nest whatever they are put in. -/
def Leads (strict : Bool) (inner base : List (Option Markdown.Tag)) (names : List String)
    (walk : Walk) : Prop :=
  ∃ inner' inHead, walk.outcome = .ok ⟨inner' ++ base, inHead⟩ ∧ Named names inner' ∧
    ∀ stack, nestFrom strict (framesOf inner ++ stack) (walk.events.map .markdown) =
      some (framesOf inner' ++ stack)

section Walks

variable {strict : Bool} {inner base : List (Option Markdown.Tag)} {names names' : List String}

/-- A walk goes on from where another ended. -/
theorem Leads.andThen {walk : Walk} {next : Walker → Walk} (leads : Leads strict inner base names walk)
    (goesOn : ∀ inner' inHead, Named names inner' →
      Leads strict inner' base names' (next ⟨inner' ++ base, inHead⟩)) :
    Leads strict inner base names' (walk.andThen next) := by
  obtain ⟨middle, inHead, outcome, named, nested⟩ := leads
  obtain ⟨inner', inHead', outcome', named', nested'⟩ := goesOn middle inHead named
  refine ⟨inner', inHead', ?_, named', fun stack => ?_⟩
  · rw [Walk.andThen, outcome]
    exact outcome'
  · rw [Walk.andThen, outcome]
    simp only [Walk.prepend, List.map_append]
    rw [nestFrom_append, nested stack, Option.bind_some, nested' stack]

/-- Opening a container. -/
theorem leads_enter (named : Named names inner) {token : Token}
    (can : canOpen strict names token = true) (inHead : Bool) (following : List Token) :
    Leads strict inner base (token.containerName :: names)
      (Walker.enter ⟨inner ++ base, inHead⟩ token following) := by
  simp only [canOpen, Bool.and_eq_true, Bool.or_eq_true] at can
  rcases can with ⟨numbered, placed⟩
  obtain ⟨tag, ok, isList, isItem⟩ :=
    exists_openedTag numbered (inHead || token.containerName = "thead") following
  refine ⟨tag :: inner, inHead || token.containerName = "thead", ?_, .cons isList named,
    fun stack => ?_⟩
  · rw [Walker.enter]
    simp only [ok]
    rfl
  · rw [Walker.enter]
    simp only [ok]
    cases tag with
    | none => rfl
    | some tag =>
        simp only [Option.map_some, Option.toList_some, List.map_cons, List.map_nil]
        rw [nestFrom_singleton]
        refine apply_opens_of_fits fun isStrict => ?_
        -- Only an item has to be placed, and the strict check has placed it in a list.
        by_cases item : tag = .item
        · subst item
          cases names with
          | nil => simp_all
          | cons name outer =>
              cases named with
              | cons isFirst _ =>
                  obtain ⟨start, rfl⟩ := isFirst (by simpa [isStrict, isItem rfl] using placed)
                  rfl
        · cases tag <;> first | rfl | exact absurd rfl item

/-- Closing a container. -/
theorem leads_leave {name : String} (named : Named (name :: names) inner) (token : Token)
    (inHead : Bool) : Leads strict inner base names (Walker.leave ⟨inner ++ base, inHead⟩ token) := by
  cases named with
  | @cons _ tag _ below _ namedBelow =>
      refine ⟨below, _, rfl, namedBelow, fun stack => ?_⟩
      cases tag with
      | none => rfl
      | some tag =>
          simp only [Walker.leave, List.cons_append, Option.map_some, Option.toList_some, List.map_cons,
            List.map_nil]
          rw [nestFrom_singleton]
          exact apply_closes_cons strict _ _

/-- The events of a leaf open nothing that they do not close. -/
theorem nestFrom_leafEvents (token : Token) (stack : List Frame) :
    nestFrom strict stack ((leafEvents token).map .markdown) = some stack := by
  have text (content : String) (stack : List Frame) :
      nestFrom strict stack ((textEvents content).map .markdown) = some stack := by
    unfold textEvents
    split <;> rfl
  have code (kind : Markdown.CodeKind) (content : String) :
      nestFrom strict stack ((codeBlockEvents kind content).map .markdown) = some stack := by
    have opens : (Move.opens ⟨.markdown (.codeBlock kind), false⟩).apply strict stack =
        some (⟨.markdown (.codeBlock kind), false⟩ :: stack) := apply_opens_of_fits fun _ => rfl
    simp only [codeBlockEvents, List.map_cons, List.map_append, List.map_nil, List.cons_append]
    rw [nestFrom]
    refine Option.bind_eq_some_iff.mpr ⟨_, opens, ?_⟩
    rw [nestFrom_append, text, Option.bind_some, nestFrom_singleton]
    exact apply_closes_cons strict _ stack
  unfold leafEvents
  split
  · exact text _ stack
  · exact text _ stack
  all_goals first | rfl | exact code _ _

/-- A token without a walk of its own. -/
theorem leads_leaf (named : Named names inner) (token : Token) (inHead : Bool) :
    Leads strict inner base names ⟨leafEvents token, .ok ⟨inner ++ base, inHead⟩⟩ :=
  ⟨inner, inHead, rfl, named, fun _ => nestFrom_leafEvents token _⟩

/-- A walk over what a token holds, which nests by itself, leaves the containers around it open. -/
theorem Leads.inside {walk : Walk} (named : Named names inner)
    (leads : Leads strict [] (inner ++ base) [] walk) : Leads strict inner base names walk := by
  obtain ⟨inner', inHead, outcome, nothing, nested⟩ := leads
  cases nothing
  refine ⟨inner, inHead, outcome, named, fun stack => ?_⟩
  exact nested (framesOf inner ++ stack)

/-- An image stands around the walk over what it holds, but is not on the stack of the walk. -/
theorem leads_image {walk : Walk} (named : Named names inner) (tag : Markdown.Tag)
    (fits : ∀ stack, (Frame.mk (.markdown tag) false).fits stack = true)
    (leads : Leads strict [] (inner ++ base) [] walk) :
    Leads strict inner base names
      ((walk.prepend [.start tag]).andThen fun next => ⟨[.finish tag], .ok next⟩) := by
  obtain ⟨inner', inHead, outcome, nothing, nested⟩ := leads
  cases nothing
  refine ⟨inner, inHead, ?_, named, fun stack => ?_⟩
  · simp only [Walk.andThen, Walk.prepend, outcome]
    rfl
  · simp only [Walk.andThen, Walk.prepend, outcome, List.map_append, List.map_cons, List.map_nil]
    rw [nestFrom_append, nestFrom_append, nestFrom_singleton]
    have opens : (Move.opens ⟨.markdown tag, false⟩).apply strict (framesOf inner ++ stack) = _ :=
      apply_opens_of_fits fun _ => fits (framesOf inner ++ stack)
    have inside := nested (⟨.markdown tag, false⟩ :: (framesOf inner ++ stack))
    refine Option.bind_eq_some_iff.mpr ⟨_, Option.bind_eq_some_iff.mpr ⟨_, opens, inside⟩, ?_⟩
    rw [nestFrom_singleton]
    exact apply_closes_cons strict _ _

end Walks

mutual

/-- The step over a token that keeps the nesting. -/
theorem leads_step (strict : Bool) : ∀ (token : Token) (names names' : List String)
    (inner base : List (Option Markdown.Tag)) (inHead : Bool) (following : List Token),
    Named names inner → openedAfter strict names token = some names' →
      Leads strict inner base names' (Walker.step ⟨inner ++ base, inHead⟩ following token)
  | token@⟨kind, _, nesting, _, _, _, _, _, children⟩ => by
      intro names names' inner base inHead following named opened
      obtain ⟨opens, can, rfl⟩ | ⟨closes, name, rfl⟩ | ⟨⟨notOpening, notClosing⟩, rfl, nested⟩ :=
        openedAfter_cases opened
      · rw [step_of_opens opens]
        exact leads_enter named can inHead following
      · rw [step_of_closes closes]
        exact leads_leave named _ inHead
      · rw [step_eq, if_neg notOpening, if_neg notClosing]
        have inside (holds : kind = "inline" ∨ kind = "image") :=
          leads_walk strict children [] [] [] (inner ++ base) inHead .nil (nested holds)
        by_cases isLine : kind = "inline"
        · rw [if_pos isLine]
          exact (inside (.inl isLine)).inside named
        by_cases isImage : kind = "image"
        · rw [if_neg isLine, if_pos isImage]
          exact leads_image named _ (fun _ => rfl) (inside (.inr isImage))
        rw [if_neg isLine, if_neg isImage]
        exact leads_leaf named _ inHead

/-- The walk over tokens that keep the nesting. -/
theorem leads_walk (strict : Bool) : ∀ (tokens : List Token) (names names' : List String)
    (inner base : List (Option Markdown.Tag)) (inHead : Bool),
    Named names inner → openedFrom strict names tokens = some names' →
      Leads strict inner base names' (Walker.walk ⟨inner ++ base, inHead⟩ tokens)
  | [] => by
      intro names names' inner base inHead named opened
      rw [openedFrom] at opened
      cases opened
      rw [Walker.walk]
      exact ⟨inner, inHead, rfl, named, fun _ => rfl⟩
  | token :: rest => by
      intro names names' inner base inHead named opened
      rw [openedFrom] at opened
      rcases Option.bind_eq_some_iff.mp opened with ⟨middle, openedFirst, openedRest⟩
      rw [Walker.walk]
      exact (leads_step strict token names middle inner base inHead rest named openedFirst).andThen
        fun inner' inHead' named' =>
          leads_walk strict rest middle names' inner' base inHead' named' openedRest

end

/-! ### Events -/

/-- Joining texts changes nothing about nesting: a text opens and closes nothing. -/
theorem nestFrom_mergeFrom (strict : Bool) (stack : List Frame) (run : Option String)
    (events : List Markdown.Event) :
    nestFrom strict stack ((mergeFrom run events).map .markdown) =
      nestFrom strict stack (events.map .markdown) := by
  induction events generalizing stack run with
  | nil => cases run <;> rfl
  | cons event rest ih =>
      have flushed (stack : List Frame) : nestFrom strict stack ((flush run).map .markdown) = some stack := by
        cases run <;> rfl
      cases event with
      | text body =>
          rw [mergeFrom, ih]
          rfl
      | _ =>
          simp only [mergeFrom, List.map_append, List.map_cons]
          rw [nestFrom_append, flushed, Option.bind_some, nestFrom, nestFrom]
          exact congrArg _ (funext fun stack => ih stack none)

theorem nestFrom_mergeText (strict : Bool) (stack : List Frame) (events : List Markdown.Event) :
    nestFrom strict stack ((mergeText events).map .markdown) =
      nestFrom strict stack (events.map .markdown) :=
  nestFrom_mergeFrom strict stack none events

/-- Nested tokens have events, and these are nested. -/
theorem exists_eventsOfTokens {strict : Bool} {tokens : List Token}
    (nested : openedFrom strict [] tokens = some []) :
    ∃ events, eventsOfTokens tokens = .done events ∧
      nestFrom strict [] (events.map .markdown) = some [] := by
  obtain ⟨inner, inHead, outcome, nothing, nestedEvents⟩ :=
    leads_walk strict tokens [] [] [] [] false .nil nested
  cases nothing
  refine ⟨(Walker.initial.walk tokens).events, ?_, nestedEvents []⟩
  unfold eventsOfTokens
  have ended : (Walker.initial.walk tokens).outcome = .ok ⟨[], inHead⟩ := outcome
  simp only [ended]

/-! ### Texts -/

/-- A text whose tokens nest has prose events, and they are nested, with every item directly inside a list. -/
theorem nestFrom_eventsOfText {parser : Parser} {text : String}
    (nest : openedFrom true [] (parser text) = some []) :
    nestFrom true [] ((eventsOfText parser text).map .markdown) = some [] := by
  obtain ⟨events, done, nested⟩ := exists_eventsOfTokens nest
  rw [eventsOfText, done]
  exact (nestFrom_mergeText true [] events).trans nested

end Bindery.Prose
