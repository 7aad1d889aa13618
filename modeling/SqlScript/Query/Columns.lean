import SqlScript.Query.SelectList
import SqlScript.Query.Expression
import SqlScript.Statement
import SqlScript.Failure

/-!
The columns of a query, and names for them that do not repeat.
-/

namespace SqlScript.Query

open Text

def columnsOfList (naming : Naming) (list : Text) : List Text :=
  (expressions list).filterMap fun e => naming.columnName? (displayName e)

/-- The column names of a query; a text that starts with neither `select` nor `with` is none. -/
def columns (naming : Naming) (query : Text) : Except Failure (List Text) :=
  if startsWithQueryWord query then .ok (columnsOfList naming (selectList query))
  else .error (.notQueryText query)

def columnsOfStatement (naming : Naming) (s : Statement) : Except Failure (List Text) :=
  if s.isQuery then columns naming s.text
  else .error (.statement s.startLine (.notQuery s.kind))

/-- Names that are free in `taken`, for names at the positions from `position` on. A name that is
taken gets its position as a suffix. -/
def distinctFrom (position : Nat) (taken : List Text) : List Text → List Text
  | [] => []
  | name :: names =>
    let chosen := if taken.contains name then name ++ '-' :: ofNat position else name
    chosen :: distinctFrom (position + 1) (chosen :: taken) names

/-- The names, a repeated one with its position as a suffix. -/
def distinctNames (names : List Text) : List Text := distinctFrom 0 [] names

@[simp] theorem length_distinctFrom (position : Nat) (taken names : List Text) :
    (distinctFrom position taken names).length = names.length := by
  induction names generalizing position taken with
  | nil => rfl
  | cons name names ih => simp [distinctFrom, ih]

@[simp] theorem length_distinctNames (names : List Text) :
    (distinctNames names).length = names.length := length_distinctFrom 0 [] names

end SqlScript.Query
