import SqlScript.Listing

/-!
The command line: its commands, flags and options, and how a list of arguments is read. An argument
is looked at only when it is its turn, so of two faults the earlier one is told, and the value of an
option is checked when the next argument has been recognised.
-/

namespace SqlScript.CommandLine

open Text

inductive CommandName where
  | split
  | columns
deriving DecidableEq, Repr

inductive Flag where
  | verbose
  | executable
  | functionName
  | preserveCase
  | unique
  | strict
  | noColor
deriving DecidableEq, Repr

/-- Why arguments are not run as a command. -/
inductive Refusal where
  | displayHelp
  | displayVersion
  /-- There are no arguments at all, which shows the help as a fault. -/
  | displayHelpOnMissing
  | missingSubcommand
  | invalidSubcommand
  | missingArgument
  | unknownArgument
  /-- A flag or option is given twice. -/
  | argumentConflict
  | invalidValue
  /-- A flag is given a value. -/
  | tooManyValues
deriving DecidableEq, Repr

/-- Whether a refusal is what was asked for. -/
def Refusal.isAnswer : Refusal → Bool
  | .displayHelp | .displayVersion => true
  | _ => false

def CommandName.word : CommandName → Text
  | .split => "split"
  | .columns => "columns"

def CommandName.ofWord? (s : Text) : Option CommandName :=
  [CommandName.split, .columns].find? fun name => name.word == s

def helpWord : Text := "help"

def Flag.long : Flag → Text
  | .verbose => "verbose"
  | .executable => "executable"
  | .functionName => "function-name"
  | .preserveCase => "preserve-case"
  | .unique => "unique"
  | .strict => "strict"
  | .noColor => "no-color"

def CommandName.flags : CommandName → List Flag
  | .split => [.verbose, .executable, .noColor]
  | .columns => [.verbose, .functionName, .preserveCase, .unique, .strict, .noColor]

def formatLong : Text := "output-format"

def formatOf? (s : Text) : Option Format :=
  [("text".toList, Format.text), ("json".toList, .json), ("yaml".toList, .yaml)].lookup s

/-- What an argument looks like. -/
inductive Word where
  /-- Two dashes, after which no argument is an option. -/
  | escape
  /-- Two dashes and a name, with the value after an equals sign. -/
  | long (name : Text) (value : Option Text)
  /-- A dash and letters. -/
  | short (letters : Text)
  | plain
deriving DecidableEq, Repr

/-- What an argument looks like; a lone dash is an ordinary value. -/
def Word.of : Text → Word
  | ['-', '-'] => .escape
  | '-' :: '-' :: s =>
    .long (s.takeWhile (· != '='))
      (match s.dropWhile (· != '=') with
        | [] => none
        | _ :: value => some value)
  | ['-'] => .plain
  | '-' :: letters => .short letters
  | _ => .plain

/-- A value that has been given but not yet checked. -/
inductive Unchecked where
  | nothing
  /-- The option for the format, whose value is still to come. -/
  | formatToCome
  | format (value : Text)
  | script (value : Text)
deriving DecidableEq, Repr

/-- The arguments of a command as far as they have been read. -/
structure Arguments where
  script : Option Text := none
  format : Option Format := none
  flags : List Flag := []
  unchecked : Unchecked := .nothing
deriving DecidableEq, Repr

namespace Arguments

def setFormat (a : Arguments) (value : Text) : Except Refusal Arguments :=
  if a.format.isSome then .error .argumentConflict
  else
    match formatOf? value with
    | some format => .ok { a with format := some format }
    | none => .error .invalidValue

/-- Checks the value that is not checked yet. -/
def settle (a : Arguments) : Except Refusal Arguments :=
  let settled := { a with unchecked := .nothing }
  match a.unchecked with
  | .nothing => .ok a
  | .formatToCome => .error .invalidValue
  | .format value => settled.setFormat value
  | .script value =>
    if value = [] then .error .invalidValue else .ok { settled with script := some value }

def hasScript (a : Arguments) : Bool :=
  a.script.isSome || a.unchecked matches .script _

def addFlag (a : Arguments) (flag : Flag) : Except Refusal Arguments := do
  let a ← a.settle
  if a.flags.contains flag then .error .argumentConflict
  else .ok { a with flags := flag :: a.flags }

/-- Adds the option for the format, with its value if the argument holds it. -/
def addFormat (a : Arguments) (value? : Option Text) : Except Refusal Arguments := do
  let a ← a.settle
  match value? with
  | some value => a.setFormat value
  | none => .ok { a with unchecked := .formatToCome }

def addScript (a : Arguments) (value : Text) : Except Refusal Arguments :=
  if a.hasScript then .error .unknownArgument
  else do return { ← a.settle with unchecked := .script value }

/-- Shows the help unless the value in front of the request is faulty. -/
def requestHelp (a : Arguments) : Except Refusal Arguments := do
  let _ ← a.settle
  .error .displayHelp

def addLong (command : CommandName) (a : Arguments) (name : Text) (value? : Option Text) :
    Except Refusal Arguments :=
  if name = formatLong then a.addFormat value?
  else if name = helpWord then
    if value?.isSome then .error .tooManyValues else a.requestHelp
  else
    match command.flags.find? fun flag => flag.long == name with
    | some flag => if value?.isSome then .error .tooManyValues else a.addFlag flag
    | none => .error .unknownArgument

/-- Adds the letters after a single dash. What follows the letter of the format, less an equals
sign, is its value. -/
def addShort (a : Arguments) : Text → Except Refusal Arguments
  | [] => .ok a
  | 'v' :: letters => do addShort (← a.addFlag .verbose) letters
  | 'h' :: _ => a.requestHelp
  | ['f'] => a.addFormat none
  | 'f' :: '=' :: value => a.addFormat (some value)
  | 'f' :: value => a.addFormat (some value)
  | _ => .error .unknownArgument

/-- Adds an argument that is no option: the value of the option in front of it, or the script. -/
def addPlain (a : Arguments) (arg : Text) : Except Refusal Arguments :=
  match a.unchecked with
  | .formatToCome => .ok { a with unchecked := .format arg }
  | _ => a.addScript arg

/-- Adds the arguments of a command; `escaped` tells whether they follow two lone dashes. -/
def addAll (command : CommandName) (escaped : Bool) (a : Arguments) :
    List Text → Except Refusal Arguments
  | [] => a.settle
  | arg :: args =>
    if escaped then do addAll command true (← a.addScript arg) args
    else
      match Word.of arg with
      | .escape => addAll command true a args
      | .long name value? => do addAll command false (← a.addLong command name value?) args
      | .short letters => do addAll command false (← a.addShort letters) args
      | .plain => do addAll command false (← a.addPlain arg) args

end Arguments

inductive Command where
  | split (script : Text) (format : Format) (executable noColor : Bool)
  | columns (script : Text) (format : Format)
      (functionName preserveCase unique strict noColor : Bool)
deriving DecidableEq, Repr

def Command.script : Command → Text
  | .split script .. | .columns script .. => script

structure Invocation where
  command : Command
  verbose : Bool
deriving DecidableEq, Repr

def Invocation.logFilter (i : Invocation) : Text :=
  if i.verbose then "tabulify_sql=debug" else "warn"

/-- The command of some arguments; without a format it is text, without a script it is none. -/
def Arguments.command (name : CommandName) (a : Arguments) : Except Refusal Command :=
  match a.script with
  | none => .error .missingArgument
  | some script =>
    let format := a.format.getD .text
    let has := fun flag => a.flags.contains flag
    .ok <|
      match name with
      | .split => .split script format (has .executable) (has .noColor)
      | .columns =>
        .columns script format (has .functionName) (has .preserveCase) (has .unique)
          (has .strict) (has .noColor)

def readCommand (name : CommandName) (verbose : Bool) (args : List Text) :
    Except Refusal Invocation := do
  let a ← Arguments.addAll name false {} args
  return ⟨← a.command name, verbose || a.flags.contains .verbose⟩

/-- Whether a word is the name of a command, the help command included. -/
def isCommandWord (s : Text) : Bool := (CommandName.ofWord? s).isSome || s == helpWord

/-- Reads the arguments after the help command: at most the name of one command. -/
def readHelp : List Text → Refusal
  | [] => .displayHelp
  | [name] => if isCommandWord name then .displayHelp else .invalidSubcommand
  | _ => .invalidSubcommand

/-- Reads the letters after a single dash in front of the command; gives whether output is
verbose. -/
def readShort (verbose : Bool) : Text → Except Refusal Bool
  | [] => .ok verbose
  | 'v' :: letters => if verbose then .error .argumentConflict else readShort true letters
  | 'h' :: _ => .error .displayHelp
  | 'V' :: _ => .error .displayVersion
  | _ => .error .unknownArgument

def readLong (verbose : Bool) (name : Text) (value? : Option Text) : Except Refusal Bool :=
  if name = Flag.verbose.long ∨ name = helpWord ∨ name = "version".toList then
    if value?.isSome then .error .tooManyValues
    else if name = helpWord then .error .displayHelp
    else if name = "version".toList then .error .displayVersion
    else if verbose then .error .argumentConflict
    else .ok true
  else .error .unknownArgument

/-- Reads the arguments, `verbose` and `escaped` telling what has been read in front of them. -/
def readFrom (verbose escaped : Bool) : List Text → Except Refusal Invocation
  | [] => .error (if verbose then .missingSubcommand else .displayHelpOnMissing)
  | arg :: args =>
    if escaped then .error (if isCommandWord arg then .unknownArgument else .invalidSubcommand)
    else
      match CommandName.ofWord? arg with
      | some name => readCommand name verbose args
      | none =>
        if arg = helpWord then .error (readHelp args)
        else
          match Word.of arg with
          | .escape => readFrom verbose true args
          | .long name value? => do readFrom (← readLong verbose name value?) false args
          | .short letters => do readFrom (← readShort verbose letters) false args
          | .plain => .error .invalidSubcommand

def read (args : List Text) : Except Refusal Invocation := readFrom false false args

def usageLines : List String :=
  ["Usage: tabulify-sql [-v] split <SCRIPT> [-f text|json|yaml] [--executable] [--no-color]",
    "       tabulify-sql [-v] columns <SCRIPT> [-f text|json|yaml] [--function-name]",
    "                    [--preserve-case] [--unique] [--strict] [--no-color]",
    "       tabulify-sql help | --help | --version"]

def usage : Text := usageLines.flatMap fun line => line.toList ++ ['\n']

end SqlScript.CommandLine
