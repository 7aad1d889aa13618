import SqlScript.Toml.Scalar

/-!
Values of TOML and the tables that hold them. A table remembers what it was made by, because that
decides how it may be extended: a table in braces is complete, a table with a header may not be
extended by dotted keys, and a table made by dotted keys may not get a header.
-/

namespace SqlScript.Toml

/-- What made a table. -/
inductive Origin where
  /-- A header of its own, or being the whole document. -/
  | header
  /-- Being on the path of a header. -/
  | path
  /-- Being on the path of a dotted key. -/
  | dotted
  | braces
deriving DecidableEq, Repr

inductive Value where
  | string (text : Text)
  | scalar (value : Scalar)
  | array (items : List Value)
  /-- An array whose tables each have a header. -/
  | tables (items : List Value)
  | table (origin : Origin) (entries : List (Text × Value))

namespace Value

mutual

/-- Whether every scalar in a value can be read. -/
def isReadable : Value → Bool
  | string _ => true
  | scalar s => s.isReadable
  | array items | tables items => itemsReadable items
  | table _ entries => entriesReadable entries

def itemsReadable : List Value → Bool
  | [] => true
  | v :: vs => v.isReadable && itemsReadable vs

def entriesReadable : List (Text × Value) → Bool
  | [] => true
  | (_, v) :: entries => v.isReadable && entriesReadable entries

end

/-- The entries of a table after `change` was applied to the value of `key`, where a missing key
has the value `none`. The change fails where the value does not allow it. -/
def modifyEntry (key : Text) (change : Option Value → Option Value) :
    List (Text × Value) → Option (List (Text × Value))
  | [] => (change none).map fun value => [(key, value)]
  | (k, v) :: entries =>
    if k = key then (change (some v)).map fun value => (k, value) :: entries
    else (modifyEntry key change entries).map ((k, v) :: ·)

def modifyLast (change : Value → Option Value) : List Value → Option (List Value)
  | [] => none
  | [v] => (change v).map ([·])
  | v :: vs => (modifyLast change vs).map (v :: ·)

def modifyKey (key : Text) (change : Option Value → Option Value) : Value → Option Value
  | table origin entries => (modifyEntry key change entries).map (table origin)
  | _ => none

/-- Applies a change to the table that the path of a header leads to. Missing tables are made on
the way, and of an array of tables the last one is meant. -/
def atHeaderPath (change : Value → Option Value) : List Text → Value → Option Value
  | [], v => change v
  | key :: path, v =>
    v.modifyKey key fun
      | none => atHeaderPath change path (table .path [])
      | some (tables items) => (modifyLast (atHeaderPath change path) items).map tables
      | some (table .braces _) => none
      | some v => atHeaderPath change path v

def atDottedPath (change : Value → Option Value) : List Text → Value → Option Value
  | [], v => change v
  | key :: path, v =>
    v.modifyKey key fun
      | none => atDottedPath change path (table .dotted [])
      | some (table .path entries) => atDottedPath change path (table .path entries)
      | some (table .dotted entries) => atDottedPath change path (table .dotted entries)
      | some (tables items) => (modifyLast (atDottedPath change path) items).map tables
      | _ => none

def isDotted : Value → Bool
  | table .dotted _ => true
  | _ => false

/-- Adds an entry, whose key may be dotted, to a table. The key must be new, and the table that a
dotted path leads to must have been made by such paths. -/
def addEntry (parent : Value) (path : List Text) (key : Text) (value : Value) : Option Value :=
  atDottedPath
    (fun v =>
      if path ≠ [] ∧ !v.isDotted then none
      else v.modifyKey key fun
        | none => some value
        | some _ => none)
    path parent

/-- Gives the table of a path a header. -/
def addTable (root : Value) (path : List Text) (key : Text) : Option Value :=
  atHeaderPath
    (modifyKey key fun
      | none => some (table .header [])
      | some (table .path entries) => some (table .header entries)
      | some _ => none)
    path root

def addTableItem (root : Value) (path : List Text) (key : Text) : Option Value :=
  atHeaderPath
    (modifyKey key fun
      | none => some (tables [table .header []])
      | some (tables items) => some (tables (items ++ [table .header []]))
      | some _ => none)
    path root

def get? (key : Text) : Value → Option Value
  | table _ entries => entries.lookup key
  | _ => none

end Value

end SqlScript.Toml
