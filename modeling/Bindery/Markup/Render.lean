/-
Module: Bindery.Markup.Render
Layer: Markup
Purpose: Typst markup for a stream of document events, one fragment an event. Open containers are
  kept on a stack: list items take their marker from the list around them, indented by list depth;
  enums that do not start at 1 get explicit numbers; fences widen with nesting so that an inner
  fence never closes an outer one; text is suppressed inside links that show their address.
Imports: Bindery.Markup.Escape, Bindery.Markup.Literal, Bindery.Stream.Dialect
Main exports: RenderFault, Renderer, Renderer.step, Renderer.run, fragments, markup
-/
import Bindery.Markup.Escape
import Bindery.Markup.Literal
import Bindery.Stream.Dialect

namespace Bindery.Markup

/-- Why an event cannot be rendered where it stands. -/
inductive RenderFault where
  | unmatched (found : Typst.Tag)
  | mismatched (found expected : Typst.Tag)
  | itemOutsideList (enclosing : Option Typst.Tag)
  | showWithoutRule (tag : Typst.Tag)
  | showWithoutFunction (tag : Typst.Tag)
  | unsupported (event : Event)
deriving DecidableEq, Repr

/-- The text of a fault. A broken invariant names the rendering stage. -/
def RenderFault.text : RenderFault → String
  | .unmatched found => faultText "render" ("End without matching Start: " ++ found.debug)
  | .mismatched found expected =>
    faultText "render" ("End tag " ++ found.debug ++ " does not match open tag " ++ expected.debug)
  | .itemOutsideList enclosing =>
    faultText "render" ("List item outside of a list: " ++ Debug.optional Typst.Tag.debug enclosing)
  | .showWithoutRule tag => faultText "render" ("Show-set rule without set data: " ++ tag.debug)
  | .showWithoutFunction tag =>
    faultText "render" ("Show rule without function body: " ++ tag.debug)
  | .unsupported event => "Rendering not yet supported for event: " ++ event.debug

/-- Is the event a break of an invariant, rather than one that has no markup at all? -/
def RenderFault.isInvariant : RenderFault → Bool
  | .unsupported _ => false
  | _ => true

/-! ### Fragments that depend on nothing but the event -/

def repeated (n : Nat) (c : Char) : String := String.ofList (List.replicate n c)

/-- A truth value in Typst code. -/
def flag : Bool → String
  | true => "true"
  | false => "false"

def hasBacktick (text : String) : Bool := text.toList.contains '\x60'

/-- Inline code, between backticks when it holds none, as a call of `raw` otherwise. -/
def inlineCode (text : String) : String :=
  if hasBacktick text then "#raw(" ++ literal text ++ ")" else "`" ++ text ++ "`"

/-- One property of a line, if it is present. -/
def lineProperty {α : Type} (name : String) (value : Option α) (shown : α → String) : List String :=
  match value with
  | none => []
  | some v => [name ++ ": " ++ shown v]

def coordinates (pair : String × String) : String := "(" ++ pair.1 ++ ", " ++ pair.2 ++ ")"

/-- A straight line with the properties that are present. -/
def lineCall (shape : Typst.Line) : String :=
  "#line(" ++ ", ".intercalate
    (lineProperty "start" shape.start coordinates ++ lineProperty "end" shape.finish coordinates ++
      lineProperty "length" shape.length id ++ lineProperty "angle" shape.angle id ++
      lineProperty "stroke" shape.stroke id) ++ ")\n"

def quoteStart (kind : Typst.QuoteKind) (marks : Typst.QuoteMarks) (attribution : Option String) :
    String :=
  let block := match kind with
    | .block => "block: true,"
    | .inline => "block: false,"
  let credit := match attribution with
    | some source => " attribution: [" ++ source ++ "]"
    | none => ""
  "#quote(" ++ block ++ " quotes: " ++ marks.value ++ "," ++ credit ++ ")["

/-- Does a heading appear everywhere, so that it can be written with equals signs? -/
def isPlainHeading (outline : Typst.Outline) (bookmarks : Typst.Bookmarks) : Bool :=
  outline = .included && bookmarks = .included

def headingStart (level : Int) (outline : Typst.Outline) (bookmarks : Typst.Bookmarks) : String :=
  if isPlainHeading outline bookmarks then repeated level.toNat '=' ++ " "
  else
    "#heading(level: " ++ toString level ++ ", outlined: " ++ flag (outline = .included) ++
      ", bookmarked: " ++ flag (bookmarks = .included) ++ ")["

/-- Does a link show its address, so that no content of its own is written? -/
def isBare : Typst.LinkKind → Bool
  | .url => true
  | .autolink => true
  | .content => false

def isList : Typst.Tag → Bool
  | .bulletList _ _ => true
  | .numberedList _ _ _ => true
  | _ => false

def arguments (args : List String) : String := "(" ++ ", ".intercalate args ++ ")"

/-- The narrowest fence. -/
def fenceWidth : Nat := 6

/-! ### The renderer -/

/-- What has been opened so far, innermost first: the tags, how many of them are code blocks and how
    many are links that show their address, and for each open list the next explicit number (`none`
    where Typst counts by itself). -/
structure Renderer where
  opened : List Typst.Tag
  codeDepth : Nat
  bareLinks : Nat
  numbers : List (Option Int)
deriving DecidableEq, Repr

namespace Renderer

/-- Nothing is open. -/
def initial : Renderer := ⟨[], 0, 0, []⟩

/-- The fence of a code block with as many code blocks around it as are open. -/
def fence (state : Renderer) : String := repeated (fenceWidth + state.codeDepth) '\x60'

/-- Two spaces for every open list but the innermost. -/
def itemIndent (state : Renderer) : String :=
  repeated (2 * ((state.opened.filter isList).length - 1)) ' '

/-- The marker of an item in the innermost container, which has to be a list. -/
def itemMarker (state : Renderer) : Except RenderFault (String × Renderer) :=
  match state.opened.head? with
  | some (.bulletList _ _) => .ok (state.itemIndent ++ "- ", state)
  | some (.numberedList _ _ _) =>
    match state.numbers with
    | some number :: rest =>
      .ok (state.itemIndent ++ toString number ++ ". ",
        { state with numbers := some (number + 1) :: rest })
    | _ => .ok (state.itemIndent ++ "+ ", state)
  | enclosing => .error (.itemOutsideList enclosing)

/-- The start of a list: on a line of its own inside an item. -/
def listStart (state : Renderer) (number : Option Int) : String × Renderer :=
  (if state.opened.head? = some .item then "\n" else "",
    { state with numbers := number :: state.numbers })

/-- The fragment of a start, and the state before the tag is put on the stack. -/
def enter (state : Renderer) (tag : Typst.Tag) : Except RenderFault (String × Renderer) :=
  match tag with
  | .paragraph => .ok ("#par()[", state)
  | .showRule .showSet selector rule _ =>
    match rule with
    | none => .error (.showWithoutRule tag)
    | some (element, key, value) =>
      .ok ("#show " ++ selector ++ ": set " ++ element ++ "(" ++ key ++ ":" ++ value ++ ")", state)
  | .showRule .function selector _ function =>
    match function with
    | none => .error (.showWithoutFunction tag)
    | some body => .ok ("#show " ++ selector ++ ":" ++ body, state)
  | .heading level outline bookmarks => .ok (headingStart level outline bookmarks, state)
  | .codeBlock label _ =>
    .ok (state.fence ++ label.getD "" ++ "\n", { state with codeDepth := state.codeDepth + 1 })
  | .bulletList _ _ => .ok (state.listStart none)
  | .numberedList start _ _ => .ok (state.listStart (if start = 1 then none else some start))
  | .item => state.itemMarker
  | .emphasis => .ok ("#emph[", state)
  | .strong => .ok ("#strong[", state)
  | .strikethrough => .ok ("#strike[", state)
  | .link kind destination =>
    if isBare kind then
      .ok ("#link(" ++ literal destination ++ ")", { state with bareLinks := state.bareLinks + 1 })
    else .ok ("#link(" ++ literal destination ++ ")[", state)
  | .quote kind marks attribution => .ok (quoteStart kind marks attribution, state)
  | .table alignments =>
    .ok ("#table(align: [" ++ ", ".intercalate (alignments.map Typst.Alignment.value) ++ "])[\n",
      state)
  | .tableHead => .ok ("#row[\n", state)
  | .tableRow => .ok ("#row[\n", state)
  | .tableCell => .ok ("#cell[", state)

/-- The fragment of a finish, and the state after it. The tag has been taken off the stack. -/
def leave (state : Renderer) (tag : Typst.Tag) : String × Renderer :=
  match tag with
  | .paragraph => ("]\n", state)
  | .showRule _ _ _ _ => ("\n", state)
  | .heading _ outline bookmarks =>
    (if isPlainHeading outline bookmarks then "\n" else "]\n", state)
  | .codeBlock _ _ =>
    let outer := { state with codeDepth := state.codeDepth - 1 }
    (outer.fence ++ "\n", outer)
  | .bulletList _ _ => ("", { state with numbers := state.numbers.tail })
  | .numberedList _ _ _ => ("", { state with numbers := state.numbers.tail })
  | .item => ("\n", state)
  | .emphasis => ("]", state)
  | .strong => ("]", state)
  | .strikethrough => ("]", state)
  | .link kind _ =>
    if isBare kind then ("", { state with bareLinks := state.bareLinks - 1 }) else ("]", state)
  | .quote kind _ _ => (if kind = .block then "]\n" else "]", state)
  | .table _ => ("]\n", state)
  | .tableHead => ("\n]\n", state)
  | .tableRow => ("\n]\n", state)
  | .tableCell => ("]", state)

/-- The fragment of text: nothing in a link that shows its address, verbatim in code. -/
def textFragment (state : Renderer) (body : String) : String :=
  if state.bareLinks ≠ 0 then "" else if state.codeDepth ≠ 0 then body else escapeText body

/-- The fragment of inline code: nothing in a link that shows its address. -/
def codeFragment (state : Renderer) (body : String) : String :=
  if state.bareLinks ≠ 0 then "" else inlineCode body

/-- One document event: its fragment and the state after it. -/
def stepTypst (state : Renderer) : Typst.Event → Except RenderFault (String × Renderer)
  | .start tag =>
    (state.enter tag).map fun (fragment, inner) =>
      (fragment, { inner with opened := tag :: inner.opened })
  | .finish tag =>
    match state.opened with
    | [] => .error (.unmatched tag)
    | top :: below =>
      if top = tag then .ok ({ state with opened := below }.leave tag)
      else .error (.mismatched tag top)
  | .raw body => .ok (body, state)
  | .text body => .ok (state.textFragment body, state)
  | .code body => .ok (state.codeFragment body, state)
  | .lineBreak => .ok ("#linebreak()\n", state)
  | .paragraphBreak => .ok ("#parbreak()\n", state)
  | .pageBreak => .ok ("#pagebreak()\n", state)
  | .line shape => .ok (lineCall shape, state)
  | .binding lhs rhs => .ok ("#let " ++ lhs ++ " = " ++ rhs ++ "\n", state)
  | .call target name args =>
    let callee := match target with
      | some owner => owner ++ "." ++ name
      | none => name
    .ok ("#" ++ callee ++ arguments args ++ "\n", state)
  | .documentCall args => .ok ("#document" ++ arguments args ++ "\n", state)
  | .setRule element key value =>
    .ok ("#set " ++ element ++ "(" ++ key ++ ": " ++ value ++ ")\n", state)
  | .documentSet key value => .ok ("#set document(" ++ key ++ ": " ++ value ++ ")\n", state)

/-- One event: its fragment and the state after it. Only document events have markup. -/
def step (state : Renderer) : Event → Except RenderFault (String × Renderer)
  | .typst event => state.stepTypst event
  | event => .error (.unsupported event)

/-- The fragments of a stream, up to the first event that cannot be rendered. -/
def run (state : Renderer) : List Event → Drained String RenderFault
  | [] => .done []
  | event :: rest =>
    match state.step event with
    | .error fault => .failed fault
    | .ok (fragment, next) => (next.run rest).cons fragment

end Renderer

/-- The markup of a stream in fragments, one an event. -/
def fragments (events : List Event) : Drained String RenderFault := Renderer.initial.run events

def markup (events : List Event) : Except RenderFault String :=
  (fragments events).toExcept.map String.join

end Bindery.Markup
