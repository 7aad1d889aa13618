import SqlScript.CommandLine
import SqlScript.Settings.File
import SqlScript.Scan
import SqlScript.Query.Columns

/-!
The program as a function of its arguments and of what it finds around it.
-/

namespace SqlScript

open Text

/-- What the program finds around it. -/
structure World where
  homeConfig : Option Source := none
  localConfig : Option Source := none
  environment : Environment := {}
  input : Source := ⟨[], none⟩
  file : Text → Except ReadFault Source

structure Run where
  exitCode : Nat
  output : Text
  errorLine : Option Text
deriving DecidableEq, Repr

namespace Program

/-- The path that means standard input. -/
def inputPath : Text := ['-']

def readScript (w : World) (path : Text) : Except Failure Reading :=
  if path = inputPath then .ok (.ofSource w.input)
  else
    match w.file path with
    | .ok source => .ok (.ofSource source)
    | .error fault => .error (.file path fault)

def readStatements (w : World) (settings : Settings) (path : Text) :
    Except Failure (List Statement) := do
  ({ delimiters := settings.delimiters } : Dialect).statements (← readScript w path)

def split (w : World) (settings : Settings) (style : ListingStyle) (script : Text)
    (executable : Bool) : Except Failure Text := do
  let statements ← readStatements w settings script
  return Listing.statements style
    (if executable then statements.filter (·.isExecutable) else statements)

/-- The statements whose columns are listed: the queries, or all plain statements if others are to
be faults. -/
def candidates (strict : Bool) (statements : List Statement) : List Statement :=
  statements.filter fun s => s.category == .sql && (strict || s.isQuery)

def queryColumns (naming : Query.Naming) (unique : Bool) (s : Statement) :
    Except Failure QueryColumns := do
  let columns ← Query.columnsOfStatement naming s
  return ⟨s.startLine, if unique then Query.distinctNames columns else columns⟩

def columns (w : World) (settings : Settings) (style : ListingStyle) (script : Text)
    (naming : Query.Naming) (unique strict : Bool) : Except Failure Text := do
  let statements ← readStatements w settings script
  let queries ← (candidates strict statements).mapM (queryColumns naming unique)
  return Listing.queries style queries

/-- Runs a command. Colours are used on a terminal only. -/
def runCommand (w : World) (settings : Settings) (terminal : Bool)
    (invocation : CommandLine.Invocation) : Except Failure Text :=
  match invocation.command with
  | .split script format executable noColor =>
    split w settings ⟨format, terminal && !noColor, invocation.verbose⟩ script executable
  | .columns script format functionName preserveCase unique strict noColor =>
    columns w settings ⟨format, terminal && !noColor, false⟩ script
      (settings.effectiveNaming functionName preserveCase) unique strict

def runInvocation (w : World) (terminal : Bool) (invocation : CommandLine.Invocation) :
    Except Failure Text := do
  let settings ← Settings.load w.homeConfig w.localConfig w.environment
  runCommand w settings terminal invocation

def errorLine (f : Failure) : Text := "Error: ".toList ++ f.blame.label

def version : Text := "tabulify-sql 0.1.0"

def refuse : CommandLine.Refusal → Run
  | .displayVersion => ⟨0, version ++ ['\n'], none⟩
  | refusal => ⟨if refusal.isAnswer then 0 else 2, [], none⟩

/-- Runs the program. A failure leaves nothing on standard output. -/
def run (w : World) (terminal : Bool) (args : List Text) : Run :=
  match CommandLine.read args with
  | .error refusal => refuse refusal
  | .ok invocation =>
    match runInvocation w terminal invocation with
    | .ok listing => ⟨0, listing ++ ['\n'], none⟩
    | .error f => ⟨1, [], some (errorLine f)⟩

end Program

end SqlScript
