import SqlScript.Text.Basic

/-!
Where in a query a character stands: inside a string literal, inside a quoted identifier, or in
how many parentheses. A quote inside the other kind of quotes is an ordinary character, and only
parentheses outside quotes count.
-/

namespace SqlScript

/-- The quotes and parentheses that are open. -/
structure Nesting where
  inLiteral : Bool := false
  inIdentifier : Bool := false
  depth : Int := 0
deriving DecidableEq, Repr

namespace Nesting

def isQuoted (n : Nesting) : Bool := n.inLiteral || n.inIdentifier

def step (n : Nesting) (c : Char) : Nesting :=
  if c = '\'' ∧ !n.inIdentifier then { n with inLiteral := !n.inLiteral }
  else if c = '"' ∧ !n.inLiteral then { n with inIdentifier := !n.inIdentifier }
  else if c = '(' ∧ !n.isQuoted then { n with depth := n.depth + 1 }
  else if c = ')' ∧ !n.isQuoted then { n with depth := n.depth - 1 }
  else n

def advance (n : Nesting) (s : Text) : Nesting := s.foldl step n

@[simp] theorem advance_nil (n : Nesting) : n.advance [] = n := rfl

@[simp] theorem advance_cons (n : Nesting) (c : Char) (s : Text) :
    n.advance (c :: s) = (n.step c).advance s := rfl

@[simp] theorem advance_append (n : Nesting) (s t : Text) :
    n.advance (s ++ t) = (n.advance s).advance t := List.foldl_append

end Nesting

end SqlScript
