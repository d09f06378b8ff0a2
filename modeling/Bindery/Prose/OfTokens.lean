/-
Module: Bindery.Prose.OfTokens
Layer: Prose
Purpose: Prose events of a token stream. A stack holds what is open; a container without an event of
  its own is kept there as `none`, so that every closing finds its opening.
Imports: Bindery.Event.Markdown, Bindery.Prose.Token, Bindery.Stream.Drained, Bindery.Text.Numeral,
  Bindery.Text.Quoted
Main exports: TokenFault, Walker, Walk, Walker.eventsOfTokens, eventsOfTokens
-/
import Bindery.Event.Markdown
import Bindery.Prose.Token
import Bindery.Stream.Drained
import Bindery.Text.Numeral
import Bindery.Text.Quoted

namespace Bindery.Prose

open Markdown (Tag)

/-- Why tokens have no events: a closing without an opening, or a level or number that is no
    numeral. -/
inductive TokenFault where
  | unopened
  | notNumeral (text : String)
deriving DecidableEq, Repr

/-- The text of a fault. Of a text that is no numeral, the first 200 characters are shown. -/
def TokenFault.text : TokenFault → String
  | .unopened => "pop from empty list"
  | .notNumeral text =>
    "invalid literal for int() with base 10: " ++
      String.ofList ((Text.quoted text).toList.take 200)

/-! ### Containers -/

/-- The integer that a text denotes. -/
def numeral (text : String) : Except TokenFault Int :=
  match Text.readNumeral? text with
  | some value => .ok value
  | none => .error (.notNumeral text)

def listStart (token : Token) : Except TokenFault Int :=
  match token.attribute? "start" with
  | none => .ok 1
  | some (.number value) => .ok value
  | some (.text text) => numeral text

def cellAlignment (token : Token) : Markdown.Alignment :=
  match (token.attributeText "style").toList.filter (· ≠ ' ') |> String.ofList with
  | "text-align:left" => .left
  | "text-align:center" => .center
  | "text-align:right" => .right
  | _ => .none

/-- The alignments of a table: those of the header cells among the tokens that follow. -/
def tableAlignments (following : List Token) : List Markdown.Alignment :=
  ((following.takeWhile (·.kind ≠ "thead_close")).filter (·.kind = "th_open")).map cellAlignment

/-- The container of a link. An address standing in the text is told apart from a mail address. -/
def linkTag (token : Token) : Tag :=
  let address := token.attributeText "href"
  let title := token.attributeText "title"
  if token.markup = "autolink" then
    match address.toList.splitAt 7 with
    | (scheme, mailbox) =>
      if scheme = "mailto:".toList then .link .email (String.ofList mailbox) title
      else .link .autolink address title
  else if token.markup = "linkify" then .link .autolink address title
  else .link .inline address title

/-- The containers that their name alone determines. -/
def simpleTag? : String → Option Tag
  | "paragraph" => some .paragraph
  | "blockquote" => some .blockQuote
  | "list_item" => some .item
  | "em" => some .emphasis
  | "strong" => some .strong
  | "s" => some .strikethrough
  | "thead" => some .tableHead
  | "th" => some .tableCell
  | "td" => some .tableCell
  | _ => none

/-- The container that a token opens, if it has events: hidden paragraphs, the row of a table head
    and unknown containers have none. -/
def openedTag (inHead : Bool) (token : Token) (following : List Token) :
    Except TokenFault (Option Tag) :=
  match token.containerName with
  | "heading" =>
    (numeral (String.ofList (token.tag.toList.drop 1))).map fun level => some (.heading level)
  | "bullet_list" => .ok (some (.list none))
  | "ordered_list" => (listStart token).map fun start => some (.list (some start))
  | "link" => .ok (some (linkTag token))
  | "table" => .ok (some (.table (tableAlignments following)))
  | "tr" => .ok (if inHead then none else some .tableRow)
  | name => .ok (if name = "paragraph" ∧ token.hidden then none else simpleTag? name)

/-! ### Leaves -/

/-- A text event, unless the text is empty. -/
def textEvents (content : String) : List Markdown.Event :=
  if content = "" then [] else [.text content]

/-- A code block and its text. -/
def codeBlockEvents (kind : Markdown.CodeKind) (content : String) : List Markdown.Event :=
  .start (.codeBlock kind) :: textEvents content ++ [.finish (.codeBlock kind)]

/-- The events of a leaf that holds no tokens. Unknown leaves have none. -/
def leafEvents (token : Token) : List Markdown.Event :=
  match token.kind with
  | "text" => textEvents token.content
  | "text_special" => textEvents token.content
  | "softbreak" => [.softBreak]
  | "hardbreak" => [.hardBreak]
  | "code_inline" => [.code token.content]
  | "html_inline" => [.html token.content]
  | "html_block" => [.html token.content]
  | "hr" => [.rule]
  | "code_block" => codeBlockEvents .indented token.content
  | "fence" => codeBlockEvents (.fenced (Text.trim token.info)) token.content
  | _ => []

/-- The container of an image. -/
def imageTag (token : Token) : Tag :=
  .image .inline (token.attributeText "src") (token.attributeText "title")

/-! ### The walk -/

/-- What is open, innermost first, and whether a table head is. -/
structure Walker where
  opened : List (Option Tag)
  inHead : Bool
deriving DecidableEq, Repr

/-- The events of a walk, and how it ended. -/
structure Walk where
  events : List Markdown.Event
  outcome : Except TokenFault Walker

namespace Walk

/-- Events in front of a walk. -/
def prepend (events : List Markdown.Event) (walk : Walk) : Walk :=
  ⟨events ++ walk.events, walk.outcome⟩

/-- A walk that goes on, unless it failed, from where it ended. -/
def andThen (walk : Walk) (next : Walker → Walk) : Walk :=
  match walk.outcome with
  | .ok state => (next state).prepend walk.events
  | .error _ => walk

end Walk

namespace Walker

/-- Nothing is open. -/
def initial : Walker := ⟨[], false⟩

/-- Opens a container. -/
def enter (state : Walker) (token : Token) (following : List Token) : Walk :=
  let inHead := state.inHead || token.containerName = "thead"
  match openedTag inHead token following with
  | .error fault => ⟨[], .error fault⟩
  | .ok tag => ⟨(tag.map Markdown.Event.start).toList, .ok ⟨tag :: state.opened, inHead⟩⟩

/-- Closes the innermost container. -/
def leave (state : Walker) (token : Token) : Walk :=
  match state.opened with
  | [] => ⟨[], .error .unopened⟩
  | tag :: below =>
    ⟨(tag.map Markdown.Event.finish).toList,
      .ok ⟨below, if token.kind = "thead_close" then false else state.inHead⟩⟩

mutual

/-- The events of one token, which others follow. -/
def step (state : Walker) (following : List Token) : Token → Walk
  | token@⟨kind, _, nesting, _, _, _, _, _, children⟩ =>
    if nesting = 1 then state.enter token following
    else if nesting = -1 then state.leave token
    else if kind = "inline" then state.walk children
    else if kind = "image" then
      (((state.walk children).prepend [.start (imageTag token)]).andThen fun next =>
        ⟨[.finish (imageTag token)], .ok next⟩)
    else ⟨leafEvents token, .ok state⟩

/-- The events of tokens in order. -/
def walk (state : Walker) : List Token → Walk
  | [] => ⟨[], .ok state⟩
  | token :: following =>
    (state.step following token).andThen fun next => next.walk following

end

end Walker

/-- The prose events of a token stream, up to the token that has none. -/
def eventsOfTokens (tokens : List Token) : Drained Markdown.Event TokenFault :=
  let walk := Walker.initial.walk tokens
  match walk.outcome with
  | .ok _ => .done walk.events
  | .error fault => ⟨walk.events, some fault⟩

end Bindery.Prose
