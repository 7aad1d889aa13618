import SqlScript.Query.TopLevel
import SqlScript.Text.Blank
import SqlScript.Text.Case

/-!
The expressions of a select list and the name each of them gives to its column.
-/

namespace SqlScript.Query

open Text

/-- The expressions of a select list: the texts between its top-level commas, without white space
at their ends and without the empty ones. -/
def expressions (list : Text) : List Text :=
  (((mark (trim list)).cut ',').map fun part => trim part.text).filter fun e => !e.isEmpty

/-- The tokens of an expression: its parts between top-level spaces, without qualifiers. -/
def expressionTokens (expression : Text) : List Text :=
  (((mark (trim expression)).cut ' ').map fun part => (part.afterLast '.').text).filter
    fun t => !t.isEmpty

def continuesFormula (token : Text) : Bool :=
  token.head?.any fun c => c == '(' || c == '|' || c == '\''

/-- The name so far after one more token. The last token names the column, `as` is passed over, and
a token that continues a formula is kept together with it. -/
def acceptToken (name token : Text) : Text :=
  if sameWord "as" token then name
  else if continuesFormula token ∧ name ≠ [] then name ++ ' ' :: token
  else token

/-- The display name of an expression, with its quotes. -/
def displayName (expression : Text) : Text := (expressionTokens expression).foldl acceptToken []

structure Naming where
  /-- Unquoted names are put in lower case. -/
  lowercase : Bool := true
  /-- A formula is named by its function alone. -/
  functionName : Bool := false
deriving DecidableEq, Repr

namespace Naming

/-- The name of the function, if the name is a formula with both parentheses. -/
def functionOf? (name : Text) : Option Text :=
  if (name.dropWhile (· != '(')).contains ')' then
    match trim (name.takeWhile (· != '(')) with
    | [] => none
    | function => some function
  else none

def unquoted? : Text → Option Text
  | '"' :: c :: rest => if (c :: rest).getLast? = some '"' then some (c :: rest).dropLast else none
  | _ => none

theorem unquoted?_cons_of_ne {c : Char} (h : c ≠ '"') (rest : Text) :
    unquoted? (c :: rest) = none := by
  unfold unquoted?
  split
  next heq => exact absurd (List.cons.inj heq).1 h
  next => rfl

/-- The column name of a display name. A quoted name is taken as it stands between its quotes, and
an empty display name names no column. -/
def columnName? (naming : Naming) (display : Text) : Option Text :=
  if display = [] then none
  else
    match unquoted? display with
    | some name => some name
    | none =>
      let name := if naming.lowercase then lower display else display
      some (if naming.functionName then (functionOf? name).getD name else name)

end Naming

end SqlScript.Query
