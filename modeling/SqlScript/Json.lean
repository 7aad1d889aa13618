import SqlScript.Text.Basic

/-!
JSON values and their text over several lines, indented by two spaces for each level. Only quotes,
backslashes and control characters are escaped; all other characters stand for themselves.
-/

namespace SqlScript

open Text

/-- The JSON values that occur in listings. -/
inductive Json where
  | string (text : Text)
  | number (n : Nat)
  | array (items : List Json)
  | object (fields : List (Text × Json))

namespace Json

/-- A hexadecimal digit, in lower case. -/
def hexDigit (n : Nat) : Char := Nat.digitChar n

def escapeChar (c : Char) : Text :=
  if c = '"' then ['\\', '"']
  else if c = '\\' then ['\\', '\\']
  else if c = '\x08' then ['\\', 'b']
  else if c = '\x0C' then ['\\', 'f']
  else if c = '\n' then ['\\', 'n']
  else if c = '\r' then ['\\', 'r']
  else if c = '\t' then ['\\', 't']
  else if c.toNat < 0x20 then
    ['\\', 'u', '0', '0', hexDigit (c.toNat / 16), hexDigit (c.toNat % 16)]
  else [c]

def quote (s : Text) : Text := '"' :: s.flatMap escapeChar ++ ['"']

/-- Items between two brackets, each on a line of its own; without items the brackets touch. -/
def enclose (opening closing : Char) (margin : Text) (items : List Text) : Text :=
  match items with
  | [] => [opening, closing]
  | items =>
    opening :: '\n' :: join [',', '\n'] (items.map (margin ++ [' ', ' '] ++ ·)) ++
      '\n' :: margin ++ [closing]

mutual

/-- The text of a value whose lines after the first are indented by `margin`. -/
def pretty (margin : Text) : Json → Text
  | .string s => quote s
  | .number n => ofNat n
  | .array items => enclose '[' ']' margin (prettyItems (margin ++ [' ', ' ']) items)
  | .object fields => enclose '\x7b' '\x7d' margin (prettyFields (margin ++ [' ', ' ']) fields)

def prettyItems (margin : Text) : List Json → List Text
  | [] => []
  | item :: items => pretty margin item :: prettyItems margin items

def prettyFields (margin : Text) : List (Text × Json) → List Text
  | [] => []
  | (key, value) :: fields =>
    (quote key ++ [':', ' '] ++ pretty margin value) :: prettyFields margin fields

end

def render (value : Json) : Text := pretty [] value

end Json

end SqlScript
