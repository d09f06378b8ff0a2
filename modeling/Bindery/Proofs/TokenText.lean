/-
Module: Bindery.Proofs.TokenText
Layer: Proofs
Purpose: No text is lost or doubled on the way from tokens to events. Whatever a walk that succeeds tells in
  texts, inline code and HTML is what the leaves of its tokens hold, in the order of the walk, which goes
  through the tokens that line content and images hold; and joining texts does not change what is told.
Imports: Bindery.Prose.Merge, Bindery.Prose.OfTokens
Main exports: Token.leaves, leavesOf, textKinds, heldText, payload, payloads, Tells, Tells.andThen, tells_step,
  tells_walk, payloads_mergeText, payloads_mergeDrained
-/
import Bindery.Prose.Merge
import Bindery.Prose.OfTokens

namespace Bindery.Prose

/-! ### What tokens hold and what events tell -/

mutual

/-- The leaves that a walk meets at a token. Line content and images stand for the tokens that they hold;
    every other token that neither opens nor closes a container, so that its nesting is 0, is a leaf. -/
def Token.leaves : Token → List Token
  | token@⟨kind, _, nesting, _, _, _, _, _, children⟩ =>
    if nesting = 1 ∨ nesting = -1 then []
    else if kind = "inline" ∨ kind = "image" then leavesOf children
    else [token]

/-- The leaves that a walk meets, in its order. -/
def leavesOf : List Token → List Token
  | [] => []
  | token :: rest => token.leaves ++ leavesOf rest

end

/-- The kinds of leaves whose content is shown. -/
def textKinds : List String :=
  ["text", "text_special", "code_inline", "html_inline", "html_block", "code_block", "fence"]

/-- The contents of the leaves that show theirs, one after another. -/
def heldText (leaves : List Token) : String :=
  String.join ((leaves.filter fun leaf => leaf.kind ∈ textKinds).map Token.content)

/-- What an event tells: the payload of a text, of inline code or of HTML. -/
def payload : Markdown.Event → String
  | .text body => body
  | .code body => body
  | .html body => body
  | _ => ""

/-- What events tell, one after another. -/
def payloads (events : List Markdown.Event) : String := String.join (events.map payload)

theorem heldText_append (first second : List Token) :
    heldText (first ++ second) = heldText first ++ heldText second := by
  simp [heldText]

@[simp]
theorem payloads_nil : payloads [] = "" := rfl

@[simp]
theorem payloads_cons (event : Markdown.Event) (rest : List Markdown.Event) :
    payloads (event :: rest) = payload event ++ payloads rest := by
  simp [payloads]

@[simp]
theorem payloads_append (first second : List Markdown.Event) :
    payloads (first ++ second) = payloads first ++ payloads second := by
  simp [payloads]

/-! ### Leaves -/

theorem payloads_textEvents (content : String) : payloads (textEvents content) = content := by
  unfold textEvents
  split
  · next empty => exact empty.symm
  · simp [payload]

/-- A code block tells its content, between its ends. -/
theorem payloads_codeBlockEvents (kind : Markdown.CodeKind) (content : String) :
    payloads (codeBlockEvents kind content) = content := by
  simp [codeBlockEvents, payloads_textEvents, payload]

/-- A leaf tells its content if it is of a kind that shows it, and nothing otherwise. -/
theorem payloads_leafEvents (token : Token) : payloads (leafEvents token) = heldText [token] := by
  unfold leafEvents
  split
  all_goals simp_all [heldText, textKinds, payloads_textEvents, payloads_codeBlockEvents, payload]

/-! ### The walk -/

/-- Do the events of a walk tell a text, if the walk succeeds? -/
def Tells (walk : Walk) (text : String) : Prop := ∀ last, walk.outcome = .ok last → payloads walk.events = text

theorem tells_of_payloads {events : List Markdown.Event} {text : String} (same : payloads events = text)
    (outcome : Except TokenFault Walker) : Tells ⟨events, outcome⟩ text := fun _ _ => same

/-- A walk that goes on from where another ended tells its own text behind that of the other. -/
theorem Tells.andThen {walk : Walk} {next : Walker → Walk} {first second : String} (tells : Tells walk first)
    (goesOn : ∀ state, Tells (next state) second) : Tells (walk.andThen next) (first ++ second) := by
  intro last succeeded
  unfold Walk.andThen at succeeded ⊢
  cases outcome : walk.outcome with
  | error fault =>
      simp only [outcome] at succeeded
      cases succeeded
  | ok middle =>
      simp only [outcome] at succeeded
      simp only [Walk.prepend, payloads_append, tells middle outcome]
      rw [goesOn middle last succeeded]

/-- A container tells nothing by itself, whichever it is. -/
theorem tells_enter (state : Walker) (token : Token) (following : List Token) :
    Tells (state.enter token following) "" := by
  intro last _
  rw [Walker.enter]
  cases openedTag (state.inHead || token.containerName = "thead") token following with
  | error fault => rfl
  | ok tag => cases tag <;> rfl

theorem tells_leave (state : Walker) (token : Token) : Tells (state.leave token) "" := by
  intro last _
  rw [Walker.leave]
  cases state.opened with
  | nil => rfl
  | cons tag below => cases tag <;> rfl

/-- The markers of an image are around what it holds, and tell nothing. -/
theorem Tells.image {walk : Walk} {text : String} (tells : Tells walk text) (tag : Markdown.Tag) :
    Tells ((walk.prepend [.start tag]).andThen fun next => ⟨[.finish tag], .ok next⟩) text := by
  have started : Tells (walk.prepend [.start tag]) text := by
    intro last succeeded
    rw [Walk.prepend, payloads_append, tells last succeeded]
    simp [payload]
  have finished (state : Walker) : Tells ⟨[.finish tag], .ok state⟩ "" := tells_of_payloads rfl (.ok state)
  have around := started.andThen finished
  rwa [String.append_empty] at around

mutual

/-- A token tells what its leaves hold, whatever is open before it and whatever follows. -/
theorem tells_step : ∀ (token : Token) (state : Walker) (following : List Token),
    Tells (state.step following token) (heldText token.leaves)
  | token@⟨kind, _, nesting, _, _, _, _, _, children⟩ => by
      intro state following
      rw [Walker.step, Token.leaves]
      by_cases opens : nesting = 1
      · rw [if_pos opens, if_pos (.inl opens)]
        exact tells_enter state _ following
      by_cases closes : nesting = -1
      · rw [if_neg opens, if_pos closes, if_pos (.inr closes)]
        exact tells_leave state _
      have isLeaf : ¬ (nesting = 1 ∨ nesting = -1) := not_or.mpr ⟨opens, closes⟩
      rw [if_neg opens, if_neg closes, if_neg isLeaf]
      by_cases line : kind = "inline"
      · rw [if_pos line, if_pos (.inl line)]
        exact tells_walk children state
      by_cases image : kind = "image"
      · rw [if_neg line, if_pos image, if_pos (.inr image)]
        exact (tells_walk children state).image _
      have other : ¬ (kind = "inline" ∨ kind = "image") := not_or.mpr ⟨line, image⟩
      rw [if_neg line, if_neg image, if_neg other]
      exact tells_of_payloads (payloads_leafEvents _) (.ok state)

/-- Tokens tell what their leaves hold. -/
theorem tells_walk : ∀ (tokens : List Token) (state : Walker), Tells (state.walk tokens) (heldText (leavesOf tokens))
  | [] => fun state => tells_of_payloads rfl (.ok state)
  | token :: rest => by
      intro state
      rw [Walker.walk, leavesOf, heldText_append]
      exact (tells_step token state rest).andThen fun next => tells_walk rest next

end

/-! ### Joining texts -/

/-- Joining texts changes nothing about what is told; the run of texts before the events is told first. -/
theorem payloads_mergeFrom (run : Option String) (events : List Markdown.Event) :
    payloads (mergeFrom run events) = run.getD "" ++ payloads events := by
  induction events generalizing run with
  | nil => cases run <;> simp [mergeFrom, flush, payload]
  | cons event rest ih =>
      have flushed : payloads (flush run) = run.getD "" := by
        cases run <;> simp [flush, payload]
      cases event with
      | text body => simp [mergeFrom, ih, payload, String.append_assoc]
      | _ => simp [mergeFrom, ih, flushed]

theorem payloads_mergeText (events : List Markdown.Event) :
    payloads (mergeText events) = payloads events := by
  rw [mergeText, payloads_mergeFrom]
  exact String.empty_append

/-- If the walk over tokens succeeds, the events with their texts joined tell, in texts, inline code and HTML,
    just what the leaves of the tokens hold, in the order of the walk. -/
theorem payloads_mergeDrained {tokens : List Token} (succeeds : (eventsOfTokens tokens).fault = none) :
    ∃ events, eventsOfTokens tokens = .done events ∧
      mergeDrained (eventsOfTokens tokens) = .done (mergeText events) ∧
        payloads (mergeText events) = heldText (leavesOf tokens) := by
  cases outcome : (Walker.initial.walk tokens).outcome with
  | error fault =>
      simp only [eventsOfTokens, outcome] at succeeds
      cases succeeds
  | ok last =>
      have complete : eventsOfTokens tokens = .done (Walker.initial.walk tokens).events := by
        simp only [eventsOfTokens, outcome]
      refine ⟨_, complete, ?_, ?_⟩
      · rw [complete]
        rfl
      · rw [payloads_mergeText]
        exact tells_walk tokens .initial last outcome

/-- A heading of two texts, and a line with inline code, HTML and an image that holds a text in emphasis,
    before a code block whose text is that of its fence. -/
def captionedImage : List Token :=
  [{ kind := "heading_open", tag := "h1", nesting := 1 },
   { kind := "inline", content := "Ti*tle", children :=
      [{ kind := "text", content := "Ti" }, { kind := "text_special", content := "*" },
       { kind := "text", content := "tle" }] },
   { kind := "heading_close", tag := "h1", nesting := -1 },
   { kind := "inline", children :=
      [{ kind := "code_inline", content := "x" }, { kind := "softbreak" },
       { kind := "html_inline", content := "<br>" },
       { kind := "image", content := "alt", children :=
          [{ kind := "em_open", nesting := 1 }, { kind := "text", content := "a" },
           { kind := "text", content := "" }, { kind := "em_close", nesting := -1 }] }] },
   { kind := "fence", info := "rust", content := "fn f()" }]

theorem payloads_mergeDrained_captionedImage :
    ∃ events, eventsOfTokens captionedImage = .done events ∧
      mergeDrained (eventsOfTokens captionedImage) = .done (mergeText events) ∧
        payloads (mergeText events) = "Ti*tlex<br>afn f()" := by
  have succeeds : (eventsOfTokens captionedImage).fault = none := by decide
  obtain ⟨events, complete, merged, tells⟩ := payloads_mergeDrained succeeds
  have held : heldText (leavesOf captionedImage) = "Ti*tlex<br>afn f()" := by decide
  exact ⟨events, complete, merged, tells.trans held⟩

end Bindery.Prose
