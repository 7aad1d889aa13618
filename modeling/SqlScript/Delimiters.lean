import SqlScript.Kind
import SqlScript.Text.Blank

/-!
Where statements end: the lines and line ends that close a statement of each category, the marks
that open a comment line, and the text that joins the lines of a statement.
-/

namespace SqlScript

open Text

/-- The settings that separate the statements of a script. -/
structure Delimiters where
  /-- Whole lines that close a plain statement. -/
  sqlLines : List Text := [";", "/", ""]
  /-- Whole lines that close a procedural block. -/
  psqlLines : List Text := [".", "/", "$$;"]
  /-- Line ends that close a plain statement. -/
  sqlEnds : List Text := [";"]
  /-- Line ends that close a procedural block. -/
  psqlEnds : List Text := ["//", "$$;"]
  /-- Beginnings of comment lines. -/
  commentMarks : List Text := ["--", "#"]
  /-- Stands between the lines of a statement. -/
  lineSeparator : Text := "\n"
deriving DecidableEq, Repr

namespace Delimiters

/-- The terminator of a dollar-quoted body. Only its semicolon separates statements, the dollar
quote itself stays in the text. -/
def dollarQuote : Text := "$$;"

def closingLines (d : Delimiters) : Category → List Text
  | .sql => d.sqlLines
  | .psql => d.psqlLines
  | .command | .comment => []

def closingEnds (d : Delimiters) : Category → List Text
  | .sql => d.sqlEnds
  | .psql => d.psqlEnds
  | .command | .comment => []

/-- Whether a line is a comment; the empty mark opens none. -/
def isComment (d : Delimiters) (line : Text) : Bool :=
  d.commentMarks.any fun mark => !mark.isEmpty && mark.isPrefixOf line

/-- Whether a line closes a statement of either category that spans lines. -/
def isSeparatorLine (d : Delimiters) (line : Text) : Bool :=
  d.sqlLines.contains line || d.psqlLines.contains line

def longer (t : Text) : Option Text → Text
  | some u => if t.length < u.length then u else t
  | none => t

/-- The longest of the terminators that is not empty and ends the line. -/
def longestEnd? (terminators : List Text) (line : Text) : Option Text :=
  terminators.foldr
    (fun t best => if t ≠ [] ∧ t <:+ line then some (longer t best) else best) none

/-- What is left of a line that `terminator` ends; a dollar quote loses its semicolon only. -/
def withoutEnd (terminator line : Text) : Text :=
  trim (line.take (line.length - if terminator = dollarQuote then 1 else terminator.length))

end Delimiters

/-- Whether a trimmed line is a call escape in braces, such as `{call p(?)}`. -/
def isCallEscape (line : Text) : Bool :=
  let body := trimEnd (dropTail ";" line)
  body.length ≥ 2 && body.head? == some '{' && body.getLast? == some '}'

end SqlScript
