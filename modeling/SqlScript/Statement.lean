import SqlScript.Delimiters

/-!
The statements of a script.
-/

namespace SqlScript

open Text

structure Statement where
  kind : Kind
  /-- The text without its terminator. -/
  text : Text
  /-- The number of its first line, counted from one. -/
  startLine : Nat
deriving DecidableEq, Repr

/-- Whether the first word of a text is `select` or `with`. The word ends at white space, an
opening parenthesis or an asterisk. -/
def startsWithQueryWord (text : Text) : Bool :=
  let word := (trimStart text).takeWhile fun c => !(isBlank c || c == '(' || c == '*')
  sameWord word "select" || sameWord word "with"

namespace Statement

def category (s : Statement) : Category := s.kind.category

/-- Whether the statement is sent to the database, as all but comments are. -/
def isExecutable (s : Statement) : Bool := s.category != .comment

/-- Whether the statement has a select list. -/
def isQuery (s : Statement) : Bool := s.category == .sql && startsWithQueryWord s.text

end Statement

end SqlScript
