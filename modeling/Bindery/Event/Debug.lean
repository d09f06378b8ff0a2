/-
Module: Bindery.Event.Debug
Layer: Event
Purpose: The text of events and tags in messages. A record is its name followed by its fields in
  order, `Heading(level=2)`; a member of an enumeration shows its type, its name and its value; an
  absent value is `None`, tuples stand in parentheses and lists in brackets.
Imports: Bindery.Event.Basic, Bindery.Text.Quoted
Main exports: Event.debug, Tag.debug, Path.debug
-/
import Bindery.Event.Basic
import Bindery.Text.Quoted

namespace Bindery

open Text (quoted)

namespace Debug

def record (name : String) (fields : List (String × String)) : String :=
  name ++ "(" ++ ", ".intercalate (fields.map fun field => field.1 ++ "=" ++ field.2) ++ ")"

def member (type name value : String) : String :=
  "<" ++ type ++ "." ++ name ++ ": " ++ quoted value ++ ">"

/-- A value that may be absent. -/
def optional {α : Type} (debug : α → String) : Option α → String
  | none => "None"
  | some value => debug value

/-- A truth value. -/
def flag : Bool → String
  | true => "True"
  | false => "False"

/-- A tuple. A single element is followed by a comma. -/
def tuple : List String → String
  | [] => "()"
  | [element] => "(" ++ element ++ ",)"
  | elements => "(" ++ ", ".intercalate elements ++ ")"

def list (elements : List String) : String := "[" ++ ", ".intercalate elements ++ "]"

def integer (n : Int) : String := toString n

end Debug

/-- A path with its text. -/
def Path.debug (path : Path) : String := "PosixPath(" ++ quoted path.toString ++ ")"

namespace Markdown

def LinkKind.names : LinkKind → String × String
  | .inline => ("INLINE", "inline")
  | .reference => ("REFERENCE", "reference")
  | .referenceUnknown => ("REFERENCE_UNKNOWN", "reference_unknown")
  | .collapsed => ("COLLAPSED", "collapsed")
  | .collapsedUnknown => ("COLLAPSED_UNKNOWN", "collapsed_unknown")
  | .shortcut => ("SHORTCUT", "shortcut")
  | .shortcutUnknown => ("SHORTCUT_UNKNOWN", "shortcut_unknown")
  | .autolink => ("AUTOLINK", "autolink")
  | .email => ("EMAIL", "email")

/-- A kind of link as an enumeration member. -/
def LinkKind.debug (kind : LinkKind) : String := Debug.member "LinkType" kind.names.1 kind.names.2

/-- An alignment as an enumeration member. -/
def Alignment.debug : Alignment → String
  | .none => Debug.member "Alignment" "NONE" "none"
  | .left => Debug.member "Alignment" "LEFT" "left"
  | .center => Debug.member "Alignment" "CENTER" "center"
  | .right => Debug.member "Alignment" "RIGHT" "right"

/-- A kind of code block as a record. -/
def CodeKind.debug : CodeKind → String
  | .indented => Debug.record "IndentedCode" []
  | .fenced info => Debug.record "FencedCode" [("info", quoted info)]

/-- A container of the prose dialect as a record. -/
def Tag.debug : Tag → String
  | .paragraph => Debug.record "Paragraph" []
  | .heading level => Debug.record "Heading" [("level", Debug.integer level)]
  | .blockQuote => Debug.record "BlockQuote" []
  | .codeBlock kind => Debug.record "CodeBlock" [("kind", kind.debug)]
  | .list start => Debug.record "List" [("start", Debug.optional Debug.integer start)]
  | .item => Debug.record "Item" []
  | .emphasis => Debug.record "Emphasis" []
  | .strong => Debug.record "Strong" []
  | .strikethrough => Debug.record "Strikethrough" []
  | .link kind destination title =>
    Debug.record "Link"
      [("link_type", kind.debug), ("destination", quoted destination), ("title", quoted title)]
  | .image kind destination title =>
    Debug.record "Image"
      [("link_type", kind.debug), ("destination", quoted destination), ("title", quoted title)]
  | .table alignments =>
    Debug.record "Table" [("alignments", Debug.tuple (alignments.map Alignment.debug))]
  | .tableHead => Debug.record "TableHead" []
  | .tableRow => Debug.record "TableRow" []
  | .tableCell => Debug.record "TableCell" []

/-- An event of the prose dialect as a record. -/
def Event.debug : Event → String
  | .start tag => Debug.record "Start" [("tag", tag.debug)]
  | .finish tag => Debug.record "End" [("tag", tag.debug)]
  | .text body => Debug.record "Text" [("text", quoted body)]
  | .code body => Debug.record "Code" [("text", quoted body)]
  | .html body => Debug.record "Html" [("text", quoted body)]
  | .softBreak => Debug.record "SoftBreak" []
  | .hardBreak => Debug.record "HardBreak" []
  | .rule => Debug.record "Rule" []

end Markdown

namespace Book

/-- A chapter status as an enumeration member. -/
def ChapterStatus.debug : ChapterStatus → String
  | .active => Debug.member "ChapterStatus" "ACTIVE" "active"
  | .draft => Debug.member "ChapterStatus" "DRAFT" "draft"

/-- A content format as an enumeration member. -/
def ContentKind.debug : ContentKind → String
  | .markdown => Debug.member "ContentType" "MARKDOWN" "markdown"

/-- A chapter source as a record. -/
def Source.debug : Source → String
  | .url address => Debug.record "UrlSource" [("url", quoted address)]
  | .path location => Debug.record "PathSource" [("path", location.debug)]

/-- A container of the structural dialect as a record. -/
def Tag.debug : Tag → String
  | .part title number =>
    Debug.record "Part"
      [("title", Debug.optional quoted title), ("number", Debug.optional Debug.integer number)]
  | .chapter status name source number =>
    Debug.record "Chapter"
      [("status", status.debug), ("name", quoted name),
        ("source", Debug.optional Source.debug source),
        ("number", Debug.optional Debug.integer number)]
  | .content kind => Debug.record "Content" [("kind", kind.debug)]
  | .authorList => Debug.record "AuthorList" []

/-- An event of the structural dialect as a record. -/
def Event.debug : Event → String
  | .start tag => Debug.record "Start" [("tag", tag.debug)]
  | .finish tag => Debug.record "End" [("tag", tag.debug)]
  | .root path => Debug.record "Root" [("path", path.debug)]
  | .title body => Debug.record "Title" [("text", quoted body)]
  | .author name => Debug.record "Author" [("name", quoted name)]
  | .separator => Debug.record "Separator" []
  | .prose event => Debug.record "MarkdownContent" [("event", event.debug)]

end Book

namespace Typst

/-- A display as an enumeration member. -/
def Display.debug : Display → String
  | .block => Debug.member "CodeBlockDisplay" "BLOCK" "block"
  | .inline => Debug.member "CodeBlockDisplay" "INLINE" "inline"

/-- A bookmark setting as an enumeration member. -/
def Bookmarks.debug : Bookmarks → String
  | .included => Debug.member "Bookmarks" "INCLUDE" "include"
  | .excluded => Debug.member "Bookmarks" "EXCLUDE" "exclude"

/-- An outline setting as an enumeration member. -/
def Outline.debug : Outline → String
  | .included => Debug.member "TableOfContents" "INCLUDE" "include"
  | .excluded => Debug.member "TableOfContents" "EXCLUDE" "exclude"

/-- A kind of show rule as an enumeration member. -/
def ShowKind.debug : ShowKind → String
  | .showSet => Debug.member "ShowType" "SHOW_SET" "show_set"
  | .function => Debug.member "ShowType" "FUNCTION" "function"

/-- A kind of link as an enumeration member. -/
def LinkKind.debug : LinkKind → String
  | .url => Debug.member "LinkType" "URL" "url"
  | .content => Debug.member "LinkType" "CONTENT" "content"
  | .autolink => Debug.member "LinkType" "AUTOLINK" "autolink"

/-- A kind of quotation as an enumeration member. -/
def QuoteKind.debug : QuoteKind → String
  | .block => Debug.member "QuoteType" "BLOCK" "block"
  | .inline => Debug.member "QuoteType" "INLINE" "inline"

def QuoteMarks.value : QuoteMarks → String
  | .wrap => "true"
  | .bare => "false"
  | .auto => "auto"

/-- A quote mark setting as an enumeration member. -/
def QuoteMarks.debug (marks : QuoteMarks) : String :=
  match marks with
  | .wrap => Debug.member "QuoteQuotes" "WRAP_IN_DOUBLE_QUOTES" marks.value
  | .bare => Debug.member "QuoteQuotes" "DO_NOT_WRAP_IN_DOUBLE_QUOTES" marks.value
  | .auto => Debug.member "QuoteQuotes" "AUTO" marks.value

def Alignment.value : Alignment → String
  | .left => "left"
  | .center => "center"
  | .right => "right"
  | .none => "none"

/-- An alignment as an enumeration member. -/
def Alignment.debug (alignment : Alignment) : String :=
  match alignment with
  | .left => Debug.member "TableCellAlignment" "LEFT" alignment.value
  | .center => Debug.member "TableCellAlignment" "CENTER" alignment.value
  | .right => Debug.member "TableCellAlignment" "RIGHT" alignment.value
  | .none => Debug.member "TableCellAlignment" "NONE" alignment.value

/-- A pair of texts as a tuple. -/
def debugPair (pair : String × String) : String := Debug.tuple [quoted pair.1, quoted pair.2]

/-- A set rule as a tuple. -/
def debugRule (rule : String × String × String) : String :=
  Debug.tuple [quoted rule.1, quoted rule.2.1, quoted rule.2.2]

/-- A container of the target dialect as a record. -/
def Tag.debug : Tag → String
  | .paragraph => Debug.record "Paragraph" []
  | .showRule kind selector rule function =>
    Debug.record "Show"
      [("show_type", kind.debug), ("selector", quoted selector),
        ("set_rule", Debug.optional debugRule rule),
        ("function", Debug.optional quoted function)]
  | .heading level outline bookmarks =>
    Debug.record "Heading"
      [("level", Debug.integer level), ("toc", outline.debug), ("bookmarks", bookmarks.debug)]
  | .codeBlock fence display =>
    Debug.record "CodeBlock" [("fence", Debug.optional quoted fence), ("display", display.debug)]
  | .bulletList marker tight =>
    Debug.record "BulletList"
      [("marker", Debug.optional quoted marker), ("tight", Debug.flag tight)]
  | .numberedList start pattern tight =>
    Debug.record "NumberedList"
      [("start", Debug.integer start), ("pattern", Debug.optional quoted pattern),
        ("tight", Debug.flag tight)]
  | .item => Debug.record "Item" []
  | .quote kind marks attribution =>
    Debug.record "Quote"
      [("quote_type", kind.debug), ("quotes", marks.debug),
        ("attribution", Debug.optional quoted attribution)]
  | .emphasis => Debug.record "Emphasis" []
  | .strong => Debug.record "Strong" []
  | .strikethrough => Debug.record "Strikethrough" []
  | .link kind destination =>
    Debug.record "Link" [("link_type", kind.debug), ("destination", quoted destination)]
  | .table alignments =>
    Debug.record "Table" [("alignments", Debug.tuple (alignments.map Alignment.debug))]
  | .tableHead => Debug.record "TableHead" []
  | .tableRow => Debug.record "TableRow" []
  | .tableCell => Debug.record "TableCell" []

/-- An event of the target dialect as a record. -/
def Event.debug : Event → String
  | .start tag => Debug.record "Start" [("tag", tag.debug)]
  | .finish tag => Debug.record "End" [("tag", tag.debug)]
  | .text body => Debug.record "Text" [("text", quoted body)]
  | .code body => Debug.record "Code" [("text", quoted body)]
  | .lineBreak => Debug.record "Linebreak" []
  | .paragraphBreak => Debug.record "Parbreak" []
  | .pageBreak => Debug.record "PageBreak" []
  | .line shape =>
    Debug.record "Line"
      [("start", Debug.optional debugPair shape.start),
        ("end", Debug.optional debugPair shape.finish),
        ("length", Debug.optional quoted shape.length),
        ("angle", Debug.optional quoted shape.angle),
        ("stroke", Debug.optional quoted shape.stroke)]
  | .binding lhs rhs => Debug.record "Let" [("lhs", quoted lhs), ("rhs", quoted rhs)]
  | .call target name args =>
    Debug.record "FunctionCall"
      [("target", Debug.optional quoted target), ("name", quoted name),
        ("args", Debug.tuple (args.map quoted))]
  | .documentCall args =>
    Debug.record "DocumentFunctionCall" [("args", Debug.tuple (args.map quoted))]
  | .setRule element key value =>
    Debug.record "Set" [("element", quoted element), ("key", quoted key), ("value", quoted value)]
  | .documentSet key value =>
    Debug.record "DocumentSet" [("key", quoted key), ("value", quoted value)]
  | .raw body => Debug.record "Raw" [("text", quoted body)]

end Typst

/-- The text of an event of any dialect in messages. A foreign value is shown in quotes. -/
def Event.debug : Event → String
  | .book event => event.debug
  | .markdown event => event.debug
  | .typst event => event.debug
  | .foreign text => quoted text

/-- The text of a tag of any dialect in messages. -/
def Tag.debug : Tag → String
  | .book tag => tag.debug
  | .markdown tag => tag.debug
  | .typst tag => tag.debug

end Bindery
