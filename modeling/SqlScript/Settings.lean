import SqlScript.Delimiters
import SqlScript.Query.Expression
import SqlScript.Failure

/-!
The settings of the program and the sources they come from. A configuration says for each delimiter
setting whether it overrides the default, and it always says how columns are named. Of two
configuration files the nearer one replaces the other one as a whole; variables of the environment
and then flags of the command line change single settings.
-/

namespace SqlScript

open Text

/-- Delimiter settings that replace the defaults; `none` keeps the default. -/
structure DelimiterOverrides where
  sqlLines : Option (List Text) := none
  psqlLines : Option (List Text) := none
  sqlEnds : Option (List Text) := none
  psqlEnds : Option (List Text) := none
  commentMarks : Option (List Text) := none
  lineSeparator : Option Text := none
deriving DecidableEq, Repr

def DelimiterOverrides.apply (o : DelimiterOverrides) (d : Delimiters) : Delimiters where
  sqlLines := o.sqlLines.getD d.sqlLines
  psqlLines := o.psqlLines.getD d.psqlLines
  sqlEnds := o.sqlEnds.getD d.sqlEnds
  psqlEnds := o.psqlEnds.getD d.psqlEnds
  commentMarks := o.commentMarks.getD d.commentMarks
  lineSeparator := o.lineSeparator.getD d.lineSeparator

structure Settings where
  overrides : DelimiterOverrides := {}
  naming : Query.Naming := {}
deriving DecidableEq, Repr

structure Environment where
  lowercase : Option Text := none
  functionName : Option Text := none
  lineSeparator : Option Text := none
deriving DecidableEq, Repr

namespace Settings

def delimiters (s : Settings) : Delimiters := s.overrides.apply {}

/-- The naming of columns, changed by the flags. A flag works in one direction only. -/
def effectiveNaming (s : Settings) (functionName preserveCase : Bool) : Query.Naming where
  lowercase := s.naming.lowercase && !preserveCase
  functionName := s.naming.functionName || functionName

def lowercaseVariable : Text := "TABULIFY_SQL_LOWERCASE_IDENTIFIERS"

def functionNameVariable : Text := "TABULIFY_SQL_FUNCTION_NAME_AS_IDENTIFIER"

def lineSeparatorVariable : Text := "TABULIFY_SQL_LINE_SEPARATOR"

def yesWords : List Text := ["true", "1", "yes", "on"]

def noWords : List Text := ["false", "0", "no", "off"]

/-- Reads the value of a flag, whatever its case and the white space around it. -/
def readFlag (name value : Text) : Except Failure Bool :=
  let word := asciiLower (trim value)
  if yesWords.contains word then .ok true
  else if noWords.contains word then .ok false
  else .error (.settings (.badFlag name word))

/-- Reads the flag of a variable; one that is not set leaves the setting alone. -/
def readVariable (name : Text) (setting : Bool) : Option Text → Except Failure Bool
  | some value => readFlag name value
  | none => .ok setting

def applyEnvironment (s : Settings) (e : Environment) : Except Failure Settings := do
  let lowercase ← readVariable lowercaseVariable s.naming.lowercase e.lowercase
  let functionName ← readVariable functionNameVariable s.naming.functionName e.functionName
  return {
    overrides := { s.overrides with lineSeparator := e.lineSeparator <|> s.overrides.lineSeparator }
    naming := { lowercase, functionName } }

/-- The configuration in force: the local one if there is one, else the one of the home folder,
else the default, changed by the environment. -/
def layer (home? local? : Option Settings) (e : Environment) : Except Failure Settings :=
  ((local? <|> home?).getD {}).applyEnvironment e

end Settings

end SqlScript
