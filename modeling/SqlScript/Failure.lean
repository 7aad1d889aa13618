import SqlScript.Kind
import SqlScript.Text.Blank

/-!
What can go wrong, and the wording of it. A failure is either the fault of the input (a query or a
configuration that cannot be used) or of the system (a file or stream that cannot be read).
-/

namespace SqlScript

open Text

/-- Why bytes could not be read as text. -/
inductive ReadFault where
  | missing
  | notDirectory
  | isDirectory
  | nameTooLong
  | nulInName
  | notUtf8
  /-- Any other fault, in the words of the reader. -/
  | other (text : Text)
deriving DecidableEq, Repr

def ReadFault.message : ReadFault → Text
  | .missing => "No such file or directory (os error 2)"
  | .notDirectory => "Not a directory (os error 20)"
  | .isDirectory => "Is a directory (os error 21)"
  | .nameTooLong => "File name too long (os error 36)"
  | .nulInName => "file name contained an unexpected NUL byte"
  | .notUtf8 => "stream did not contain valid UTF-8"
  | .other text => text

inductive StatementFault where
  /-- It has no select list. -/
  | notQuery (kind : Kind)
  | other (text : Text)
deriving DecidableEq, Repr

def StatementFault.message : StatementFault → Text
  | .notQuery kind =>
    "a ".toList ++ kind.label ++
      " statement has no select list, only `select` and `with` queries do".toList
  | .other text => text

inductive SettingsFault where
  | malformed
  | unreadable (fault : ReadFault)
  /-- A flag has a value that means neither yes nor no. -/
  | badFlag (name value : Text)
  | other (text : Text)
deriving DecidableEq, Repr

def SettingsFault.message : SettingsFault → Text
  | .malformed => "Invalid config file"
  | .unreadable fault => "Failed to read config file: ".toList ++ fault.message
  | .badFlag name value =>
    "Invalid value for ".toList ++ name ++ ": '".toList ++ value ++
      "' (expected true or false)".toList
  | .other text => text

inductive Failure where
  /-- The text is not a single query. -/
  | notQueryText (text : Text)
  | statement (startLine : Nat) (fault : StatementFault)
  | settings (fault : SettingsFault)
  /-- The script could not be read beyond the line of this number. -/
  | script (line : Nat) (fault : ReadFault)
  | file (path : Text) (fault : ReadFault)
deriving DecidableEq, Repr

namespace Failure

def message : Failure → Text
  | .notQueryText text =>
    "Query parse error:\n  ".toList ++
      match singleLine text with
      | [] => "the query text is empty"
      | shown => "the query should start with `select` or `with`, got: ".toList ++ shown
  | .statement startLine fault =>
    "Statement at line ".toList ++ ofNat startLine ++ ":\n  ".toList ++ fault.message
  | .settings fault => fault.message
  | .script line fault =>
    "Failed to read script after line ".toList ++ ofNat line ++ ": ".toList ++ fault.message
  | .file path fault =>
    "Failed to read file '".toList ++ path ++ "': ".toList ++ fault.message

inductive Blame where
  | input
  | system
deriving DecidableEq, Repr

/-- The input is to blame unless a script could not be read. -/
def blame : Failure → Blame
  | .notQueryText _ | .statement _ _ | .settings _ => .input
  | .script _ _ | .file _ _ => .system

def Blame.label : Blame → Text
  | .input => "Bad request"
  | .system => "Internal server error"

end Failure

end SqlScript
