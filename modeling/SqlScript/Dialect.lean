import SqlScript.Keywords.Standard
import SqlScript.Statement

/-!
A dialect says where the statements of a script end and what kind each of them is. Its rules look
at one line at a time: a statement is started by its first line, which also fixes its kind, and is
continued by the following lines until one of them closes it.
-/

namespace SqlScript

open Text

structure Dialect where
  delimiters : Delimiters := {}
  keywords : Keywords := Keywords.standard
deriving DecidableEq, Repr

/-- A statement whose last line has not been seen yet. -/
structure Draft where
  kind : Kind
  /-- Its lines so far, the newest first. -/
  lines : List Text
  startLine : Nat
deriving DecidableEq, Repr

/-- The text of a draft in front of `rest`: its lines in order, each with the separator. -/
def Draft.text (separator : Text) (draft : Draft) (rest : Text) : Text :=
  draft.lines.foldl (fun rest line => line ++ separator ++ rest) rest

/-- What a line makes of what came before it. -/
inductive Progress where
  /-- No statement is open. -/
  | idle
  | pending (draft : Draft)
  /-- A statement ends with this line. -/
  | closed (statement : Statement)
deriving DecidableEq, Repr

namespace Dialect

/-- The statement of a draft that ends with `rest`; white space at its end is dropped. -/
def close (d : Dialect) (draft : Draft) (rest : Text) : Statement :=
  ⟨draft.kind, trimEnd (draft.text d.delimiters.lineSeparator rest), draft.startLine⟩

/-- Adds a line to a draft, and closes it if the line has a closing end. -/
def append (d : Dialect) (draft : Draft) (line : Text) : Progress :=
  match Delimiters.longestEnd? (d.delimiters.closingEnds draft.kind.category) (trim line) with
  | some terminator => .closed (d.close draft (Delimiters.withoutEnd terminator (trim line)))
  | none => .pending { draft with lines := line :: draft.lines }

/-- The line `line`, whose number is `number`, where no statement is open. Blank lines and stray
terminators only separate statements. Comments, call escapes and commands end with their line. -/
def start (d : Dialect) (number : Nat) (line : Text) : Progress :=
  let trimmed := trim line
  if trimmed = [] ∨ d.delimiters.isSeparatorLine trimmed then .idle
  else if d.delimiters.isComment trimmed then .closed ⟨.comment, trimEnd line, number⟩
  else if isCallEscape trimmed then .closed ⟨.callable, trimmed, number⟩
  else
    let kind := d.keywords.classify trimmed
    match kind.category with
    | .command | .comment => .closed ⟨kind, trimEnd (dropTail ";" trimmed), number⟩
    | .sql | .psql => d.append ⟨kind, [], number⟩ line

/-- A further line of an open statement. A closing line is not part of the text, but the dollar
quote in front of its semicolon is. -/
def resume (d : Dialect) (draft : Draft) (line : Text) : Progress :=
  let trimmed := trim line
  if (d.delimiters.closingLines draft.kind.category).contains trimmed then
    .closed (d.close draft (if trimmed = Delimiters.dollarQuote then "$$" else ""))
  else d.append draft line

def advance (d : Dialect) (number : Nat) (line : Text) : Option Draft → Progress
  | none => d.start number line
  | some draft => d.resume draft line

end Dialect

end SqlScript
