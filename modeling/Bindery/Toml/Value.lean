/-
Module: Bindery.Toml.Value
Layer: Toml
Purpose: The values of a TOML document. Tables keep their keys in the order in which they come.
  Numbers, dates and times are kept as they are written. A path of keys leads into nested tables;
  where it meets an array of tables, it goes on in the last of them.
Imports: none
Main exports: Value, Table, Table.find?, Table.set, Table.modifyNest?, Table.appendTable?
-/

namespace Bindery.Toml

/-- A value. -/
inductive Value where
  | text (text : String)
  | boolean (value : Bool)
  | number (written : String)
  | moment (written : String)
  | array (items : List Value)
  | table (entries : List (String × Value))
deriving Repr, Inhabited

/-- A path of keys. -/
abbrev Key := List String

abbrev Table := List (String × Value)

/-- Is the value an array or a table? -/
def Value.isNest : Value → Bool
  | .array _ => true
  | .table _ => true
  | _ => false

namespace Table

/-- The value of a key. -/
def find? (table : Table) (name : String) : Option Value := table.lookup name

/-- Puts a value in place of the one that a key has, or at the end. -/
def set (name : String) (value : Value) : Table → Table
  | [] => [(name, value)]
  | (other, old) :: rest =>
    if other = name then (name, value) :: rest else (other, old) :: set name value rest

/-- Changes the table at the end of a path, creating what is missing on the way. There is none if
    the path runs into a value that is no table. Arrays of tables are entered if `intoArrays` is
    set. -/
def modifyNest? (intoArrays : Bool) (change : Table → Option Table) :
    (path : Key) → Table → Option Table
  | [], table => change table
  | name :: rest, table =>
    match table.find? name with
    | none => (modifyNest? intoArrays change rest []).map fun nest => table.set name (.table nest)
    | some (.table nest) =>
      (modifyNest? intoArrays change rest nest).map fun nest' => table.set name (.table nest')
    | some (.array items) =>
      match intoArrays, items.getLast? with
      | true, some (.table nest) =>
        (modifyNest? intoArrays change rest nest).map fun nest' =>
          table.set name (.array (items.dropLast ++ [.table nest']))
      | _, _ => none
    | some _ => none

def appendTable? (path : Key) (table : Table) : Option Table :=
  match path.getLast? with
  | none => none
  | some name =>
    table.modifyNest? true (fun nest =>
      match nest.find? name with
      | none => some (nest.set name (.array [.table []]))
      | some (.array items) => some (nest.set name (.array (items ++ [.table []])))
      | some _ => none) path.dropLast

end Table

end Bindery.Toml
