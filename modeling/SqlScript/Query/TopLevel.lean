import SqlScript.Text.Basic

/-!
The top level of a list of expressions: which characters stand outside quotes, literals and
parentheses. Here a double quote opens an identifier only at the start or after a space, comma or
dot, and closes it only at the end or in front of one of these, so that a double quote within a
word does not hide what follows.
-/

namespace SqlScript.Query

/-- The quotes and parentheses that are open within an expression. -/
structure Enclosure where
  inQuote : Bool := false
  inLiteral : Bool := false
  depth : Int := 0
deriving DecidableEq, Repr

namespace Enclosure

def isTop (e : Enclosure) : Bool := !e.inQuote && !e.inLiteral && e.depth == 0

/-- Whether a neighbour of a double quote lets it open or close an identifier. -/
def isBoundary : Option Char → Bool
  | none => true
  | some c => c == ' ' || c == ',' || c == '.'

/-- The enclosure after the character `c`, which stands between the two others. -/
def step (e : Enclosure) (previous : Option Char) (c : Char) (next : Option Char) : Enclosure :=
  if c = '"' ∧ !e.inLiteral then
    { e with inQuote := if e.inQuote then !isBoundary next else isBoundary previous }
  else if c = '\'' ∧ !e.inQuote then { e with inLiteral := !e.inLiteral }
  else if c = '(' ∧ !e.inQuote ∧ !e.inLiteral then { e with depth := e.depth + 1 }
  else if c = ')' ∧ !e.inQuote ∧ !e.inLiteral then { e with depth := e.depth - 1 }
  else e

end Enclosure

/-- A character and whether it stands at the top level. -/
structure Mark where
  char : Char
  top : Bool
deriving DecidableEq, Repr

abbrev Marked := List Mark

/-- Marks the characters of a text, `previous` and `e` being what is in front of it. -/
def markFrom (previous : Option Char) (e : Enclosure) : Text → Marked
  | [] => []
  | c :: s => ⟨c, e.isTop⟩ :: markFrom (some c) (e.step previous c s.head?) s

def mark (s : Text) : Marked := markFrom none {} s

namespace Marked

def text (m : Marked) : Text := m.map Mark.char

/-- Cuts at each occurrence of `separator` at the top level. -/
def cut (separator : Char) (m : Marked) : List Marked := m.splitOnP (· == ⟨separator, true⟩)

def afterLast (separator : Char) (m : Marked) : Marked := (m.cut separator).getLast?.getD []

end Marked

@[simp] theorem text_markFrom (previous : Option Char) (e : Enclosure) (s : Text) :
    (markFrom previous e s).text = s := by
  induction s generalizing previous e with
  | nil => rfl
  | cons c s ih =>
    have := ih (some c) (e.step previous c s.head?)
    simp only [Marked.text] at this ⊢
    simp [markFrom, this]

@[simp] theorem text_mark (s : Text) : (mark s).text = s := text_markFrom none {} s

end SqlScript.Query
