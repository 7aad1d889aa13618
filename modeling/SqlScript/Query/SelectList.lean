import SqlScript.Query.Nesting
import SqlScript.Text.Blank

/-!
The top-level select list of a query: the text between its `select` and the `from` that belongs to
it. The query is put on one line and read token by token, where a token ends with a space. In front
of the select list only parentheses count, so that the `select` of a leading `with` block is passed
over. Inside the list every further `select` waits for a `from` of its own.
-/

namespace SqlScript.Query

open Text

def isBreak (c : Char) : Bool := c = '\t' || c = '\r' || c = '\n'

/-- Replaces each run of tabs and line breaks by one space; `inRun` tells whether the characters in
front are part of such a run. -/
def joinLines (inRun : Bool) : Text → Text
  | [] => []
  | c :: s =>
    if isBreak c then if inRun then joinLines true s else ' ' :: joinLines true s
    else c :: joinLines false s

/-- The query on one line, without white space at its ends. -/
def flatten (query : Text) : Text := trim (joinLines false query)

/-- Cuts a text after each space. -/
def tokens : Text → List Text
  | [] => []
  | c :: s =>
    if c = ' ' then [c] :: tokens s
    else
      match tokens s with
      | [] => [[c]]
      | t :: ts => (c :: t) :: ts

/-- Whether a token is the word, whatever its case and the parentheses and separators around it. -/
def spells (word token : Text) : Bool :=
  sameWord word
    (dropEndWhile (fun c => c == ')' || c == ',' || c == ';') ((trim token).dropWhile (· == '(')))

/-- A token cut in front of its first parenthesis, as `from(select` and `count(*)` hold two. -/
def subTokens (token : Text) : List Text :=
  [token.takeWhile (· != '('), token.dropWhile (· != '(')].filter fun part => !part.isEmpty

/-- The tokens after the top-level `select`, with the nesting there. -/
def afterSelect? (n : Nesting) : List Text → Option (Nesting × List Text)
  | [] => none
  | t :: ts =>
    if !n.isQuoted ∧ spells "select" t ∧ n.depth = 0 ∧ t.head? ≠ some '(' then some (n, ts)
    else afterSelect? (n.advance t) ts

/-- The text up to the `from` of the select list, where `waiting` counts the nested `select`s that
wait for theirs. -/
def untilFrom (waiting : Nat) (n : Nesting) : List Text → Text
  | [] => []
  | t :: ts =>
    if !n.isQuoted ∧ spells "select" t then t ++ untilFrom (waiting + 1) (n.advance t) ts
    else if !n.isQuoted ∧ spells "from" t then
      if waiting = 0 ∧ n.depth = 0 then [] else t ++ untilFrom (waiting - 1) (n.advance t) ts
    else t ++ untilFrom waiting (n.advance t) ts

/-- The top-level select list of a query; without a `from` it is everything after `select`. -/
def selectList (query : Text) : Text :=
  match afterSelect? {} (tokens (flatten query)) with
  | some (n, ts) => untilFrom 0 n (ts.flatMap subTokens)
  | none => []

@[simp] theorem flatten_tokens (s : Text) : (tokens s).flatten = s := by
  induction s with
  | nil => rfl
  | cons c s ih =>
    simp only [tokens]
    split
    · simp [ih]
    · split
      next h => simp [h] at ih; simp [ih]
      next t ts h => simp [h] at ih; simp [ih]

@[simp] theorem flatten_subTokens (t : Text) : (subTokens t).flatten = t := by
  have h : ∀ ps : List Text, (ps.filter fun part => !part.isEmpty).flatten = ps.flatten := by
    intro ps
    induction ps with
    | nil => rfl
    | cons p ps ih => cases p <;> simp [ih]
  rw [subTokens, h]
  simp

end SqlScript.Query
