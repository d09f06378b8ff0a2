/-
Module: Bindery.Book.Load
Layer: Book
Purpose: Books from files. A directory holds a configuration, which may be missing, and a directory
  of sources with the summary and the texts of the chapters. Chapters are read in the order of the
  summary, and the first that cannot be read decides. What texts and prose are read with is given from
  outside.
Imports: Bindery.Book.Render, Bindery.CommonMark.Block, Bindery.Disk, Bindery.Text.Blank,
  Bindery.Text.Encoding, Bindery.Toml.Document
Main exports: Tools, Tools.common, LoadProblem, LoadFault, loadConfig, loadItems, loadBook, consultedPaths
-/
import Bindery.Book.Render
import Bindery.CommonMark.Block
import Bindery.Disk
import Bindery.Text.Blank
import Bindery.Text.Encoding
import Bindery.Toml.Document

namespace Bindery.Book

/-- What a book is read with: its files, its prose, and the texts of configurations that are nested too
    deep for the reader, each with the error that it ends with. -/
structure Tools where
  decoder : Text.Decoder
  parser : Prose.Parser
  exhaustion? : String → Option String := fun _ => none

def Tools.common : Tools := { decoder := .common, parser := CommonMark.documentTokens }

/-- What is wrong with a book. -/
inductive LoadProblem where
  | noDirectory
  | noSummary
  | unreadable (fault : AccessFault)
  | undecodable
  | invalidToml (detail : String)
  | bookNotTable
  | titleNotText
  | emptySource
  | authorsNotText
deriving DecidableEq, Repr

def LoadProblem.message : LoadProblem → String
  | .noDirectory => "Book directory does not exist"
  | .noSummary => "Missing SUMMARY.md"
  | .unreadable fault => "Cannot read file: " ++ fault.text
  | .undecodable => "Could not detect file encoding"
  | .invalidToml detail => "Invalid TOML: " ++ detail
  | .bookNotTable => "[book] must be a table"
  | .titleNotText => "book.title must be a string"
  | .emptySource => "book.src must be a non-empty string"
  | .authorsNotText => "book.authors must be a string or a list of strings"

/-- Why a book cannot be loaded: a problem with the file or directory at a path, a path that the
    system refuses to look at, a configuration on which the reader gave up, or a summary whose items
    are not nested. -/
inductive LoadFault where
  | problem (path : Path) (problem : LoadProblem)
  | access (error : AccessError)
  | givenUp (text : String)
  | summary (fault : SummaryFault)
deriving DecidableEq, Repr

def LoadProblem.textAt (problem : LoadProblem) (path : Path) : String :=
  problem.message ++ " (path=" ++ path.toString ++ ")"

def LoadFault.text : LoadFault → String
  | .problem path found => found.textAt path
  | .access error => error.text
  | .givenUp text => text
  | .summary fault => fault.text

/-- The text of a file. A path with a null character is never looked at. -/
def readText (decoder : Text.Decoder) (disk : Disk) (path : Path) : Except LoadFault String :=
  match disk.read path with
  | .error error =>
    match error.fault with
    | .nullCharacter => .error (.access error)
    | fault => .error (.problem path (.unreadable fault))
  | .ok bytes =>
    match decoder.text? bytes with
    | some text => .ok text
    | none => .error (.problem path .undecodable)

/-! ### The configuration -/

def configName : String := "book.toml"

def summaryName : String := "SUMMARY.md"

def textOf? : Toml.Value → Option String
  | .text shown => some shown
  | _ => none

/-- The authors: one, or a list of them. -/
def authorsOf : Option Toml.Value → Except LoadProblem (List String)
  | none => .ok []
  | some (.text author) => .ok [author]
  | some (.array items) =>
    match items.mapM textOf? with
    | some authors => .ok authors
    | none => .error .authorsNotText
  | some _ => .error .authorsNotText

/-- The title, if there is one. -/
def titleOf : Option Toml.Value → Except LoadProblem (Option String)
  | none => .ok none
  | some (.text title) => .ok (some title)
  | some _ => .error .titleNotText

/-- The directory of the sources, which must not be blank. -/
def sourceOf : Option Toml.Value → Except LoadProblem String
  | none => .ok ({} : Config).src
  | some (.text source) => if Text.trim source = "" then .error .emptySource else .ok source
  | some _ => .error .emptySource

/-- The configuration that a section holds. A language that is no text counts as none. -/
def configOf (entries : Toml.Table) : Except LoadProblem Config := do
  let title ← titleOf (entries.find? "title")
  let src ← sourceOf (entries.find? "src")
  let authors ← authorsOf (entries.find? "authors")
  return { title, authors, src, language := (entries.find? "language").bind textOf? }

def configOfDocument (document : Toml.Table) : Except LoadProblem Config :=
  match document.find? "book" with
  | none => configOf []
  | some (.table entries) => configOf entries
  | some _ => .error .bookNotTable

def configOfText (tools : Tools) (path : Path) (text : String) : Except LoadFault Config :=
  match tools.exhaustion? text with
  | some error => .error (.givenUp error)
  | none =>
    match Toml.readDocument text with
    | .error (.givenUp error) => .error (.givenUp error)
    | .error (.invalid detail) => .error (.problem path (.invalidToml detail))
    | .ok document => (configOfDocument document).mapError (LoadFault.problem path)

def inDirectory (directory : Path) (name : String) : Path := directory.join (Path.ofString name)

/-- The configuration of a book. Without a file, everything has its default. -/
def loadConfig (tools : Tools) (disk : Disk) (root : Path) : Except LoadFault Config :=
  let path := inDirectory root configName
  match disk.isFile path with
  | .error error => .error (.access error)
  | .ok false => .ok {}
  | .ok true =>
    match readText tools.decoder disk path with
    | .error fault => .error fault
    | .ok text => configOfText tools path text

/-! ### Chapters -/

/-- The text of a chapter. A draft has none. -/
def loadContent (decoder : Text.Decoder) (disk : Disk) (sources : Path) (chapter : Chapter) :
    Except LoadFault Chapter :=
  match chapter.source with
  | none => .ok chapter
  | some source =>
    (readText decoder disk (sources.join source)).map fun content => { chapter with content }

/-- Items with the texts of their chapters. -/
def loadItems (decoder : Text.Decoder) (disk : Disk) (sources : Path) :
    List Item → Except LoadFault (List Item)
  | [] => .ok []
  | .chapter chapter subItems :: rest =>
    match loadContent decoder disk sources chapter with
    | .error fault => .error fault
    | .ok loaded =>
      match loadItems decoder disk sources subItems with
      | .error fault => .error fault
      | .ok below =>
        (loadItems decoder disk sources rest).map fun more => .chapter loaded below :: more
  | item :: rest => (loadItems decoder disk sources rest).map (item :: ·)

/-- The items of the summary at a path, without the texts of their chapters. -/
def loadSummary (tools : Tools) (disk : Disk) (path : Path) : Except LoadFault (List Item) :=
  match disk.isFile path with
  | .error error => .error (.access error)
  | .ok false => .error (.problem path .noSummary)
  | .ok true =>
    match readText tools.decoder disk path with
    | .error fault => .error fault
    | .ok text => (parseSummary tools.parser text).mapError LoadFault.summary

def loadBook (tools : Tools) (disk : Disk) (root : Path) : Except LoadFault Manuscript :=
  match disk.isDirectory root with
  | .error error => .error (.access error)
  | .ok false => .error (.problem root .noDirectory)
  | .ok true =>
    match loadConfig tools disk root with
    | .error fault => .error fault
    | .ok config =>
      let sources := inDirectory root config.src
      match loadSummary tools disk (inDirectory sources summaryName) with
      | .error fault => .error fault
      | .ok items =>
        (loadItems tools.decoder disk sources items).map fun items => { root, config, items }

/-! ### What a book consists of -/

mutual

def Item.sources : Item → List Path
  | .chapter chapter subItems => chapter.source.toList ++ itemSources subItems
  | _ => []

/-- The sources of items, in the order they are read. -/
def itemSources : List Item → List Path
  | [] => []
  | item :: rest => item.sources ++ itemSources rest

end

/-- The paths that loading a book looks at, as far as the files tell: the summary is known from the
    configuration, and the chapters are known from the summary. -/
def consultedPaths (tools : Tools) (disk : Disk) (root : Path) : List Path :=
  root :: inDirectory root configName ::
    match loadConfig tools disk root with
    | .error _ => []
    | .ok config =>
      let sources := inDirectory root config.src
      let summary := inDirectory sources summaryName
      summary ::
        match loadSummary tools disk summary with
        | .error _ => []
        | .ok items => (itemSources items).map sources.join

end Bindery.Book
