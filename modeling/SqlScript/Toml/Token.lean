import SqlScript.Toml.Quoted

/-!
Tokens of TOML. White space is kept as a token, because brackets and bare texts that touch mean
something else than those that do not; comments are dropped.
-/

namespace SqlScript.Toml

open Text

inductive Token where
  | dot
  | equals
  | comma
  | openBracket
  | closeBracket
  | openBrace
  | closeBrace
  | blank (text : Text)
  | newline
  /-- A string in quotes, with its escapes resolved. -/
  | quoted (text : Text) (spansLines : Bool)
  /-- A text without quotes, which may be part of a key or of a value. -/
  | bare (text : Text)
deriving DecidableEq, Repr

namespace Token

def isBlank : Token → Bool
  | .blank _ => true
  | _ => false

def isSpace (c : Char) : Bool := c == ' ' || c == '\t'

def ofMark? : Char → Option Token
  | '.' => some .dot
  | '=' => some .equals
  | ',' => some .comma
  | '[' => some .openBracket
  | ']' => some .closeBracket
  | '{' => some .openBrace
  | '}' => some .closeBrace
  | '\n' => some .newline
  | _ => none

/-- Characters that end a bare text. A quote does not, because it opens a string only where a token
starts. -/
def endsBare (c : Char) : Bool := (ofMark? c).isSome || isSpace c || c == '#' || c == '\r'

def endsComment (c : Char) : Bool := c == '\n' || c == '\r'

theorem length_dropWhile_le (p : Char → Bool) (s : Text) :
    (s.dropWhile p).length ≤ s.length :=
  (List.dropWhile_suffix p).length_le

/-- The tokens of a text, or `none` where a character can be part of no token. -/
def ofText? : Text → Option (List Token)
  | [] => some []
  | c :: s =>
    match ofMark? c with
    | some token => (ofText? s).map (token :: ·)
    | none =>
      if isSpace c then
        (ofText? (s.dropWhile isSpace)).map (.blank (c :: s.takeWhile isSpace) :: ·)
      else if c = '#' then
        if (s.takeWhile fun c => !endsComment c).all isPlain then
          ofText? (s.dropWhile fun c => !endsComment c)
        else none
      else if c = '\r' then
        if s.head? = some '\n' then ofText? s else none
      else if c = '"' ∨ c = '\'' then
        match h : readQuoted c s with
        | some ((text, spansLines), rest) =>
          have := length_readQuoted h
          (ofText? rest).map (.quoted text spansLines :: ·)
        | none => none
      else
        (ofText? (s.dropWhile fun c => !endsBare c)).map
          (.bare (c :: s.takeWhile fun c => !endsBare c) :: ·)
termination_by s => s.length
decreasing_by
  all_goals simp only [List.length_cons, Nat.lt_add_one]
  · exact Nat.lt_succ_of_le (length_dropWhile_le _ _)
  · exact Nat.lt_succ_of_le (length_dropWhile_le _ _)
  · exact Nat.lt_succ_of_le this
  · exact Nat.lt_succ_of_le (length_dropWhile_le _ _)

end Token

end SqlScript.Toml
