import SqlScript.Settings
import SqlScript.Reading
import SqlScript.Toml.Document

/-!
Configuration files. The tables `lexer` and `extractor` of a TOML document hold the settings;
other keys are ignored, but a number under them that cannot be read spoils the file, as does a
setting with a value of the wrong type. A table of settings may also be written as the list of its
values in order, which may have any items behind them, and a date or a time stands for a table
without settings.
-/

namespace SqlScript.Settings

open Toml

/-- The path of an entry of a folder. An empty path is the working folder. -/
def joinPath (folder name : Text) : Text :=
  if folder = [] ∨ folder.getLast? = some '/' then folder ++ name else folder ++ '/' :: name

/-- The configuration file of the home folder. -/
def homePath (home : Text) : Text :=
  [".config".toList, "tabulify-sql".toList, "config.toml".toList].foldl joinPath home

def localPath : Text := ".tabulify-sql.toml"

def textOf? : Value → Option Text
  | .string text => some text
  | _ => none

def booleanOf? : Value → Option Bool
  | .scalar (.boolean b) => some b
  | _ => none

/-- The set of texts that a value lists, in order and without repetitions. -/
def textsOf? : Value → Option (List Text)
  | .array items => (items.mapM textOf?).map List.eraseDups
  | _ => none

/-- Reads an optional setting of a table: a missing key is no fault, a wrong type is. -/
def setting? {α : Type} (read : Value → Option α) (key : String) (table : Value) :
    Option (Option α) :=
  match table.get? key.toList with
  | none => some none
  | some value => (read value).map some

/-- The delimiter settings of the table `lexer`. -/
def overridesOf? : Value → Option DelimiterOverrides
  | .table origin entries => do
    let table := Value.table origin entries
    guard table.isReadable
    return {
      sqlLines := ← setting? textsOf? "sql_new_line_terminators" table
      psqlLines := ← setting? textsOf? "psql_new_line_terminators" table
      sqlEnds := ← setting? textsOf? "sql_end_of_line_terminators" table
      psqlEnds := ← setting? textsOf? "psql_end_of_line_terminators" table
      commentMarks := ← setting? textsOf? "comment_prefixes" table
      lineSeparator := ← setting? textOf? "line_separator" table }
  | .array
      (sqlLines :: psqlLines :: sqlEnds :: psqlEnds :: commentMarks :: lineSeparator :: _) => do
    return {
      sqlLines := ← textsOf? sqlLines
      psqlLines := ← textsOf? psqlLines
      sqlEnds := ← textsOf? sqlEnds
      psqlEnds := ← textsOf? psqlEnds
      commentMarks := ← textsOf? commentMarks
      lineSeparator := ← textOf? lineSeparator }
  | .scalar .moment => some {}
  | _ => none

/-- The naming settings of the table `extractor`, on top of the default. -/
def namingOf? : Value → Option Query.Naming
  | .table origin entries => do
    let table := Value.table origin entries
    guard table.isReadable
    let lowercase ← setting? booleanOf? "lowercase_identifiers" table
    let functionName ← setting? booleanOf? "function_name_as_identifier" table
    return { lowercase := lowercase.getD true, functionName := functionName.getD false }
  | .array [] => some {}
  | .array [lowercase] => do return { lowercase := ← booleanOf? lowercase }
  | .array (lowercase :: functionName :: _) => do
    return { lowercase := ← booleanOf? lowercase, functionName := ← booleanOf? functionName }
  | .scalar .moment => some {}
  | _ => none

/-- Whether the entries of a table can be read, those with settings left aside. -/
def othersReadable : Value → Bool
  | .table _ entries =>
    entries.all fun (key, value) =>
      key == "lexer".toList || key == "extractor".toList || value.isReadable
  | _ => true

def ofText (text : Text) : Except Failure Settings :=
  let settings? : Option Settings := do
    let root ← Toml.parse? text
    guard (othersReadable root)
    let overrides ← setting? overridesOf? "lexer" root
    let naming ← setting? namingOf? "extractor" root
    return { overrides := overrides.getD {}, naming := naming.getD {} }
  match settings? with
  | some settings => .ok settings
  | none => .error (.settings .malformed)

def ofSource (source : Source) : Except Failure Settings :=
  match source.fault, Reading.decode? source.bytes with
  | some fault, _ => .error (.settings (.unreadable fault))
  | none, some text => ofText text
  | none, none => .error (.settings (.unreadable .notUtf8))

def ofSource? (source? : Option Source) : Except Failure (Option Settings) :=
  match source? with
  | some source => (ofSource source).map some
  | none => .ok none

/-- The configuration in force, from the files and the environment. The file of the home folder is
read first, so its fault is the one that counts. -/
def load (home? local? : Option Source) (e : Environment) : Except Failure Settings := do
  layer (← ofSource? home?) (← ofSource? local?) e

end SqlScript.Settings
