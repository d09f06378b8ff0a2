/-
Module: Bindery.CommonMark.Html
Layer: CommonMark
Purpose: Raw HTML: tags, comments, declarations and the like within a line, and the ways in which a
  block of HTML starts and ends. A tag is recognised by following all readings of it at once, since
  a blank outside ASCII may belong to a value or end it.
Imports: Bindery.Text.Blank
Main exports: htmlLength?, isWholeTag, HtmlBlock, HtmlBlock.ofLine?, HtmlBlock.endsIn
-/
import Bindery.Text.Blank

namespace Bindery.CommonMark

/-! ### Tags -/

/-- Where a reading of a tag stands: in its name, behind a blank, in the name of an attribute,
    behind a blank after that, behind the equals sign, in a value with or without quotes, behind a
    quoted value, or behind the slash at its end. A closing tag has no attributes. -/
inductive TagState where
  | name
  | closingName
  | closingBlank
  | blank
  | attribute
  | afterAttribute
  | equals
  | bare
  | singleQuoted
  | doubleQuoted
  | quotedEnd
  | slash
deriving DecidableEq, Repr

def isTagChar (c : Char) : Bool := c.isAlphanum || c = '-'

def isAttributeStart (c : Char) : Bool := c.isAlpha || c = '_' || c = ':'

def isAttributeChar (c : Char) : Bool := isAttributeStart c || c.isDigit || c = '.' || c = '-'

/-- May the character stand in a value without quotes? -/
def isBareChar (c : Char) : Bool :=
  c.toNat > 0x20 && !(['"', '\'', '=', '<', '>', '\x60'].contains c)

/-- One way to go on, if its condition holds. -/
def option (holds : Bool) (state : TagState) : List TagState := if holds then [state] else []

/-- Where a reading can go on a character. The end of the tag is left out. -/
def TagState.next (state : TagState) (c : Char) : List TagState :=
  let blank := option (Text.isBlank c) .blank
  let slash := option (c = '/') .slash
  match state with
  | .name => option (isTagChar c) .name ++ blank ++ slash
  | .closingName => option (isTagChar c) .closingName ++ option (Text.isBlank c) .closingBlank
  | .closingBlank => option (Text.isBlank c) .closingBlank
  | .blank => blank ++ option (isAttributeStart c) .attribute ++ slash
  | .attribute =>
    option (isAttributeChar c) .attribute ++ option (Text.isBlank c) .afterAttribute ++
      option (c = '=') .equals ++ slash
  | .afterAttribute =>
    option (Text.isBlank c) .afterAttribute ++ option (c = '=') .equals ++
      option (isAttributeStart c) .attribute ++ slash
  | .equals =>
    option (Text.isBlank c) .equals ++ option (c = '"') .doubleQuoted ++
      option (c = '\'') .singleQuoted ++ option (isBareChar c) .bare
  | .bare => option (isBareChar c) .bare ++ blank ++ slash
  | .singleQuoted => [if c = '\'' then .quotedEnd else .singleQuoted]
  | .doubleQuoted => [if c = '"' then .quotedEnd else .doubleQuoted]
  | .quotedEnd => blank ++ slash
  | .slash => []

def TagState.mayEnd : TagState → Bool
  | .equals => false
  | .singleQuoted => false
  | .doubleQuoted => false
  | _ => true

/-- How many characters a tag has from here on, if some reading of it comes to an end. -/
def tagLengthFrom? (states : List TagState) : List Char → Option Nat
  | [] => none
  | c :: rest =>
    if c = '>' ∧ states.any TagState.mayEnd then some 1
    else
      match (states.flatMap (·.next c)).eraseDups with
      | [] => none
      | next => (tagLengthFrom? next rest).map (· + 1)

/-- The length of the opening or closing tag at the front of a text. -/
def tagLength? : List Char → Option Nat
  | '<' :: '/' :: c :: rest =>
    if c.isAlpha then (tagLengthFrom? [.closingName] rest).map (· + 3) else none
  | '<' :: c :: rest => if c.isAlpha then (tagLengthFrom? [.name] rest).map (· + 2) else none
  | _ => none

/-! ### Comments and the like -/

/-- How many characters there are up to the end of `mark`. -/
def lengthThrough? (mark : List Char) : List Char → Option Nat
  | [] => none
  | c :: rest =>
    if mark.isPrefixOf (c :: rest) then some mark.length
    else (lengthThrough? mark rest).map (· + 1)

/-- How many characters a comment has from here on. Two hyphens end it only in front of `>`, and
    otherwise are passed together with the character behind them. -/
def commentLengthFrom? (skip : Nat) : List Char → Option Nat
  | [] => none
  | c :: rest =>
    if skip > 0 then (commentLengthFrom? (skip - 1) rest).map (· + 1)
    else
      match c, rest with
      | '-', '-' :: '>' :: _ => some 3
      | '-', '-' :: _ :: _ => (commentLengthFrom? 2 rest).map (· + 1)
      | '-', _ => (commentLengthFrom? 1 rest).map (· + 1)
      | _, _ => (commentLengthFrom? 0 rest).map (· + 1)

/-- The length of the comment, instruction or declaration at the front of a text. -/
def markedLength? : List Char → Option Nat
  | '<' :: '!' :: '-' :: '-' :: rest =>
    match rest with
    | '>' :: _ => some 5
    | '-' :: '>' :: _ => some 6
    | _ => (commentLengthFrom? 0 rest).map (· + 4)
  | '<' :: '?' :: rest => (lengthThrough? ['?', '>'] rest).map (· + 2)
  | '<' :: '!' :: c :: rest =>
    if c.isAlpha then (lengthThrough? ['>'] rest).map (· + 3)
    else if "[CDATA[".toList.isPrefixOf (c :: rest) then
      (lengthThrough? [']', ']', '>'] (rest.drop 6)).map (· + 9)
    else none
  | _ => none

def htmlLength? (text : List Char) : Option Nat :=
  match tagLength? text with
  | some length => some length
  | none => markedLength? text

/-- Is the line one tag, apart from blanks behind it? -/
def isWholeTag (line : List Char) : Bool :=
  match tagLength? line with
  | some length => (line.drop length).all Text.isBlank
  | none => false

/-! ### Blocks -/

/-- How a block of HTML was started: by an element whose content is verbatim, by a comment, an
    instruction, a declaration, a literal section, an element of block level, or any other tag that
    is alone on its line. -/
inductive HtmlBlock where
  | verbatim
  | comment
  | instruction
  | declaration
  | literal
  | element
  | tag
deriving DecidableEq, Repr

/-- The lower case of a character when case is ignored: the four letters outside ASCII that match an
    ASCII letter count as that letter. -/
def looseLower (c : Char) : Char :=
  if c = '\u0130' ∨ c = '\u0131' then 'i'
  else if c = '\u017F' then 's'
  else if c = '\u212A' then 'k'
  else c.toLower

/-- Does the text start with a name, whatever its case? -/
def startsWithName (name : List Char) (text : List Char) : Bool :=
  name.isPrefixOf ((text.take name.length).map looseLower)

/-- Elements whose content is verbatim. -/
def verbatimNames : List (List Char) :=
  ["script".toList, "pre".toList, "style".toList, "textarea".toList]

/-- Elements of block level. -/
def blockNames : List (List Char) :=
  ["address", "article", "aside", "base", "basefont", "blockquote", "body", "caption", "center",
   "col", "colgroup", "dd", "details", "dialog", "dir", "div", "dl", "dt", "fieldset",
   "figcaption", "figure", "footer", "form", "frame", "frameset", "h1", "h2", "h3", "h4", "h5",
   "h6", "head", "header", "hr", "html", "iframe", "legend", "li", "link", "main", "menu",
   "menuitem", "nav", "noframes", "ol", "optgroup", "option", "p", "param", "search", "section",
   "summary", "table", "tbody", "td", "tfoot", "th", "thead", "title", "tr", "track",
   "ul"].map String.toList

/-- Does the name of an element end here, at the end of the line, a blank or the end of the tag? -/
def endsName (allowSlash : Bool) : List Char → Bool
  | [] => true
  | '/' :: '>' :: _ => allowSlash
  | c :: _ => c = '>' || Text.isBlank c

/-- Does one of the names stand at the front of a text? -/
def startsWithElement (names : List (List Char)) (allowSlash : Bool) (text : List Char) : Bool :=
  names.any fun name => startsWithName name text && endsName allowSlash (text.drop name.length)

/-- What is behind the slash of a closing tag, or the text itself. -/
def dropSlash : List Char → List Char
  | '/' :: rest => rest
  | text => text

def HtmlBlock.ofLine? (line : List Char) : Option HtmlBlock :=
  match line with
  | '<' :: rest =>
    if startsWithElement verbatimNames false rest then some .verbatim
    else if ['!', '-', '-'].isPrefixOf rest then some .comment
    else if ['?'].isPrefixOf rest then some .instruction
    else if (match rest with
      | '!' :: c :: _ => c.isUpper
      | _ => false) then some .declaration
    else if "![CDATA[".toList.isPrefixOf rest then some .literal
    else if startsWithElement blockNames true (dropSlash rest) then some .element
    else if isWholeTag line then some .tag
    else none
  | _ => none

def closesVerbatim : List Char → Bool
  | '<' :: '/' :: rest =>
    verbatimNames.any fun name =>
      startsWithName name rest && ['>'].isPrefixOf (rest.drop name.length)
  | _ => false

/-- Does a test hold somewhere in a text, its end included? -/
def holdsSomewhere (test : List Char → Bool) : List Char → Bool
  | [] => test []
  | c :: rest => test (c :: rest) || holdsSomewhere test rest

/-- Does the block end in the line? Blocks without an end mark end at an empty line. -/
def HtmlBlock.endsIn (block : HtmlBlock) (line : List Char) : Bool :=
  match block with
  | .verbatim => holdsSomewhere closesVerbatim line
  | .comment => holdsSomewhere ['-', '-', '>'].isPrefixOf line
  | .instruction => holdsSomewhere ['?', '>'].isPrefixOf line
  | .declaration => line.contains '>'
  | .literal => holdsSomewhere [']', ']', '>'].isPrefixOf line
  | .element => line = []
  | .tag => line = []

/-- Can the block end a paragraph? A lone tag of another element cannot. -/
def HtmlBlock.interrupts : HtmlBlock → Bool
  | .tag => false
  | _ => true

end Bindery.CommonMark
