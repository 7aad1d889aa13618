import SqlScript.Yaml.Lookalike

/-!
Strings in a YAML document. A string is written plain if it can be, else between single quotes,
else with escapes between double quotes; a string with line feeds is written as a literal block if
it can be. Lines are never folded.
-/

namespace SqlScript.Yaml

open Text

def isLineBreak (c : Char) : Bool :=
  c == '\n' || c == '\r' || c == '\x85' || c == '\u2028' || c == '\u2029'

def isPrintable (c : Char) : Bool :=
  c == '\n' || (0x20 ≤ c.toNat && c.toNat ≤ 0x7E) ||
    (0xA0 ≤ c.toNat && c.toNat ≤ 0xFFFD && c != '\uFEFF') || 0x10000 ≤ c.toNat

/-- Whether a place next to a mark gives the mark its meaning: white space, a line break, or an end
of the text. -/
def isGap : Option Char → Bool
  | none => true
  | some c => c == ' ' || c == '\t' || c == '\x00' || isLineBreak c

/-- Characters that a plain string may not start with. -/
def leadingMarks : Text := "#,[]\x7b\x7d&*!|>'\"%@\x60"

def startsWithMark (s : Text) : Bool :=
  s.take 3 == ['-', '-', '-'] || s.take 3 == ['.', '.', '.'] ||
    match s with
    | [] => false
    | c :: s => leadingMarks.contains c || ((c == '?' || c == '-') && isGap s.head?)

/-- Whether a text holds a colon in front of a gap or a number sign behind one, where `previous`
stands in front of the text. -/
def holdsMark (previous : Option Char) : Text → Bool
  | [] => false
  | c :: s =>
    (c == ':' && isGap s.head?) || (c == '#' && isGap previous) || holdsMark (some c) s

def holdsPair (p q : Char → Bool) (s : Text) : Bool := (s.zip s.tail).any fun (a, b) => p a && q b

def spaceBeforeBreak (s : Text) : Bool := holdsPair (· == ' ') isLineBreak s

def spaceAfterBreak (s : Text) : Bool := holdsPair isLineBreak (· == ' ') s

def plainAllowed (s : Text) : Bool :=
  s.all (fun c => isPrintable c && !isLineBreak c) && s.head? != some ' ' &&
    s.getLast? != some ' ' && !startsWithMark s && !holdsMark none s

def singleAllowed (s : Text) : Bool :=
  s.all isPrintable && !spaceBeforeBreak s && !spaceAfterBreak s

def literalAllowed (s : Text) : Bool :=
  s.all isPrintable && !spaceBeforeBreak s && s.getLast? != some ' '

inductive Style where
  | plain
  | single
  | double
  | literal
deriving DecidableEq, Repr

def styleOf (s : Text) : Style :=
  if s.contains '\n' then if literalAllowed s then .literal else .double
  else if !isLookalike s && plainAllowed s then .plain
  else if singleAllowed s then .single
  else .double

/-- The text with `margin` in front of each line that is not empty. `fresh` tells whether a line
has just begun. -/
def indentLines (margin : Text) (fresh : Bool) : Text → Text
  | [] => []
  | c :: s =>
    if isLineBreak c then c :: indentLines margin true s
    else (if fresh then margin else []) ++ c :: indentLines margin false s

/-- A single quote within single quotes is written twice. -/
def doubleQuote (c : Char) : Text := if c = '\'' then ['\'', '\''] else [c]

def single (margin s : Text) : Text :=
  '\'' :: indentLines margin false (s.flatMap doubleQuote) ++
    (if s.getLast?.any isLineBreak then margin else []) ++ ['\'']

/-- A number in hexadecimal, in upper case, filled up with zeros. -/
def hex (width n : Nat) : Text :=
  let digits := asciiUpper (Nat.toDigits 16 n)
  List.replicate (width - digits.length) '0' ++ digits

def escapeLetter? : Char → Option Char
  | '\x00' => some '0'
  | '\x07' => some 'a'
  | '\x08' => some 'b'
  | '\t' => some 't'
  | '\n' => some 'n'
  | '\x0B' => some 'v'
  | '\x0C' => some 'f'
  | '\r' => some 'r'
  | '\x1B' => some 'e'
  | '"' => some '"'
  | '\\' => some '\\'
  | '\x85' => some 'N'
  | '\u2028' => some 'L'
  | '\u2029' => some 'P'
  | _ => none

def escapeChar (c : Char) : Text :=
  if isPrintable c ∧ !isLineBreak c ∧ c ≠ '"' ∧ c ≠ '\\' then [c]
  else
    match escapeLetter? c with
    | some letter => ['\\', letter]
    | none =>
      if c.toNat ≤ 0xFF then '\\' :: 'x' :: hex 2 c.toNat
      else if c.toNat ≤ 0xFFFF then '\\' :: 'u' :: hex 4 c.toNat
      else '\\' :: 'U' :: hex 8 c.toNat

def double (s : Text) : Text := '"' :: s.flatMap escapeChar ++ ['"']

/-- The indentation that the first line of a block does not show by itself. -/
def indentHint (s : Text) : Text :=
  if s.head?.any fun c => c == ' ' || isLineBreak c then ['2'] else []

/-- How the line breaks at the end of a block are to be read: as none, as one, or as they are. -/
def chompHint (s : Text) : Text :=
  match s.reverse with
  | [] => ['-']
  | [c] => if isLineBreak c then ['+'] else ['-']
  | c :: d :: _ => if !isLineBreak c then ['-'] else if isLineBreak d then ['+'] else []

def literal (margin s : Text) : Text :=
  '|' :: indentHint s ++ chompHint s ++ '\n' :: indentLines margin true s

/-- The line end after a string, which a block that ends with a line break has already. -/
def lineEnd (s : Text) : Text :=
  if styleOf s = .literal ∧ s.getLast?.any isLineBreak then [] else ['\n']

/-- A string and the end of its line; its further lines are indented by `margin`. -/
def scalar (margin s : Text) : Text :=
  (match styleOf s with
    | .plain => s
    | .single => single margin s
    | .double => double s
    | .literal => literal margin s) ++ lineEnd s

end SqlScript.Yaml
