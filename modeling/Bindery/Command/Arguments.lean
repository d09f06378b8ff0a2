/-
Module: Bindery.Command.Arguments
Layer: Command
Purpose: The arguments of the command line. Long options may be shortened as long as they stay
  unambiguous, and a value may be joined to them by an equals sign. What looks like an option is no
  value, unless it is a negative number or holds a space. Two hyphens end the options, and nothing
  may follow them.
Imports: Bindery.Convert.Stage, Bindery.Text.Numeral
Main exports: Options, Request, Request.ofArguments
-/
import Bindery.Convert.Stage
import Bindery.Text.Numeral

namespace Bindery.Command

open Bindery.Convert (Stage)

/-- What the command is asked to do. -/
structure Options where
  bookPath : String
  output : Option String
  disabled : List Stage
  isVerbose : Bool
deriving DecidableEq, Repr

/-- What the arguments amount to: a run, a call for help, or a misuse. -/
inductive Request where
  | run (options : Options)
  | help
  | misuse
deriving DecidableEq, Repr

/-- The options. -/
inductive Flag where
  | help
  | bookPath
  | output
  | disable
  | verbose
deriving DecidableEq, Repr

def Flag.name : Flag → String
  | .help => "--help"
  | .bookPath => "--book-path"
  | .output => "--output"
  | .disable => "--disable"
  | .verbose => "--verbose"

def Flag.all : List Flag := [.help, .bookPath, .output, .disable, .verbose]

/-- How an argument reads: as a value; as an option, with the value that is joined to it; as the end
    of options; as an option that there is not, or that could be several. -/
inductive Reading where
  | value
  | option (flag : Flag) (joined : Option String)
  | ending
  | unknown
  | ambiguous
deriving DecidableEq, Repr

def isDecimal (c : Char) : Bool := (Text.digitValue? c).isSome

/-- Is the text a number without sign? Digits may follow a point, and a line feed may end it. -/
def isPlainNumber (text : List Char) : Bool :=
  let body := match text.getLast? with
    | some '\n' => text.dropLast
    | _ => text
  match body.span isDecimal with
  | (digits, []) => digits ≠ []
  | (_, '.' :: fraction) => fraction ≠ [] && fraction.all isDecimal
  | _ => false

/-- The options that a text is the beginning of. An option that is written in full is the only
    one. -/
def candidates (written : List Char) : List Flag :=
  match Flag.all.find? fun flag => flag.name.toList = written with
  | some flag => [flag]
  | none => Flag.all.filter fun flag => written.isPrefixOf flag.name.toList

/-- Reads an argument that starts with two hyphens. -/
def readLong (text : List Char) : Reading :=
  let (written, joined) := match text.span (· ≠ '=') with
    | (written, '=' :: value) => (written, some (String.ofList value))
    | (written, _) => (written, none)
  match candidates written with
  | [flag] => .option flag joined
  | [] => if text.contains ' ' then .value else .unknown
  | _ => .ambiguous

/-- Reads an argument that starts with one hyphen. The short form of the call for help may be
    repeated in it, and hides what follows, unless that starts with an equals sign or a hyphen. -/
def readShort (text : List Char) : Reading :=
  match text with
  | ['-'] => .value
  | '-' :: 'h' :: rest =>
    match rest.dropWhile (· = 'h') with
    | '=' :: _ => .option .help (some "")
    | '-' :: _ => .option .help (some "")
    | _ => .option .help none
  | '-' :: rest => if isPlainNumber rest ∨ rest.contains ' ' then .value else .unknown
  | _ => .unknown

def Reading.ofArgument (argument : String) : Reading :=
  match argument.toList with
  | ['-', '-'] => .ending
  | '-' :: '-' :: rest => readLong ('-' :: '-' :: rest)
  | '-' :: rest => readShort ('-' :: rest)
  | _ => .value

/-- The options that have been read so far. -/
structure Given where
  bookPath : Option String
  output : Option String
  disabled : List Stage
  isVerbose : Bool
deriving DecidableEq, Repr

/-- No options have been read. -/
def Given.nothing : Given := ⟨none, none, [], false⟩

/-- Takes in an option with a value. Only stages can be disabled. -/
def Given.take? (given : Given) (flag : Flag) (value : String) : Option Given :=
  match flag with
  | .bookPath => some { given with bookPath := some value }
  | .output => some { given with output := some value }
  | .disable =>
    (Stage.ofName? value).map fun stage => { given with disabled := given.disabled ++ [stage] }
  | .help => none
  | .verbose => none

/-- The request of the options. The path of the book has to be given. -/
def Given.request (given : Given) : Request :=
  match given.bookPath with
  | none => .misuse
  | some bookPath => .run ⟨bookPath, given.output, given.disabled, given.isVerbose⟩

/-- Takes in arguments one after the other. `stray` tells that there was an argument that belongs to
    no option; it is a misuse, but a call for help behind it is answered. -/
def readArguments (given : Given) (stray : Bool) : List (String × Reading) → Request
  | [] => if stray then .misuse else given.request
  | (_, .value) :: rest => readArguments given true rest
  | (_, .unknown) :: rest => readArguments given true rest
  | (_, .ending) :: _ => .misuse
  | (_, .ambiguous) :: _ => .misuse
  | (_, .option flag (some joined)) :: rest =>
    match given.take? flag joined with
    | some next => readArguments next stray rest
    | none => .misuse
  | (_, .option .help none) :: _ => .help
  | (_, .option .verbose none) :: rest => readArguments { given with isVerbose := true } stray rest
  | (_, .option flag none) :: (value, .value) :: rest =>
    match given.take? flag value with
    | some next => readArguments next stray rest
    | none => .misuse
  | (_, .option _ none) :: _ => .misuse

/-- The request that arguments make. An argument that could be several options is a misuse wherever
    it stands in front of the end of options. -/
def Request.ofArguments (arguments : List String) : Request :=
  let readings := arguments.map fun argument => (argument, Reading.ofArgument argument)
  let before := readings.takeWhile fun reading => reading.2 ≠ .ending
  if before.any fun reading => reading.2 = .ambiguous then .misuse
  else readArguments .nothing false readings

end Bindery.Command
