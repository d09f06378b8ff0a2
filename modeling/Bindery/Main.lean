/-
Module: Bindery.Main
Layer: Main
Purpose: The command line program. It fetches the files that a command looks at, runs the command on
  them, and carries out what came of it.
Imports: Bindery.Command.Run
Main exports: main
-/
import Bindery.Command.Run

namespace Bindery.Program

open Command (Options Outcome Request Surroundings)

/-- What is on the disk at a place below a directory. What cannot be opened is not there, unless it
    is forbidden. -/
def nodeAt (place : Path) : IO (Option Node) := do
  try
    return some (.file (← IO.FS.readBinFile place.toString).toList)
  catch
    | .inappropriateType .. => return some .directory
    | .permissionDenied file code details => throw (.permissionDenied file code details)
    | _ => return none

/-- Fetches what a path leads to, step by step from a place on. -/
def fetchFrom (files : FileTree) (place : Path) : List String → IO FileTree
  | [] => return files
  | name :: rest => do
    let next := place.child name
    if next.isSurrounding then fetchFrom files next rest
    else
      match ← nodeAt next with
      | none => return files
      | some (.file bytes) => return files.put next (.file bytes)
      | some .directory => fetchFrom (files.put next .directory) next rest

def fetch (files : FileTree) (path : Path) : IO FileTree :=
  if path.hasNull then return files
  else fetchFrom files path.startingPlace path.components

/-- Fetches the files that a command looks at. The first round finds the configuration, the second
    the summary, the third the chapters. -/
def gather (surroundings : Surroundings) (options : Options) : IO FileTree := do
  let root := Path.ofString options.bookPath
  let mut files := surroundings.disk.files
  for _ in List.range 3 do
    for path in Book.consultedPaths surroundings.tools { surroundings.disk with files } root do
      files ← fetch files path
  match options.output with
  | none => return files
  | some output => fetch files (Path.ofString output)

def environment : IO (List (String × String)) := do
  let value ← IO.getEnv Convert.disabledStagesVariable
  return (value.map fun shown => (Convert.disabledStagesVariable, shown)).toList

/-- Writes the output file that came of a command. -/
def store (outcome : Outcome) (output : String) : IO Unit :=
  match outcome.files.read (Path.ofString output) with
  | .ok bytes => IO.FS.writeBinFile output bytes.toByteArray
  | .error _ => return ()

def carryOut (outcome : Outcome) (output : Option String) : IO UInt32 := do
  for error in outcome.errors do
    IO.eprintln error
  match outcome.ending with
  | .breakdown cause =>
    IO.print outcome.printed
    IO.eprintln cause.text
    return UInt32.ofNat Command.failureCode
  | .exit code =>
    if code = Command.successCode then
      output.forM (store outcome)
    IO.print outcome.printed
    return UInt32.ofNat code

end Bindery.Program

/-- Runs the command with the arguments of the program. -/
def main (arguments : List String) : IO UInt32 := do
  let surroundings : Bindery.Command.Surroundings :=
    { disk := { files := .empty }, environment := ← Bindery.Program.environment }
  match Bindery.Command.Request.ofArguments arguments with
  | .run options =>
    let files ← Bindery.Program.gather surroundings options
    let outcome := Bindery.Command.run { surroundings with disk := { files } } arguments
    Bindery.Program.carryOut outcome options.output
  | _ => Bindery.Program.carryOut (Bindery.Command.run surroundings arguments) none
