import SqlScript.Toml.Token
import SqlScript.Toml.Value

/-!
Documents of TOML: values and lines read from tokens, then the lines put together to one table.
-/

namespace SqlScript.Toml

/-- The greatest number of parts of a key, and of arrays and tables in braces around a value. -/
def maxDepth : Nat := 80

def skipBlank (ts : List Token) : List Token := ts.dropWhile Token.isBlank

def skipSpace (ts : List Token) : List Token := ts.dropWhile fun t => t.isBlank || t == .newline

def isKeyChar (c : Char) : Bool := c.isAlphanum || c == '_' || c == '-'

/-- The key that some tokens are, white space around it left aside. -/
def keyPart? (ts : List Token) : Option Text :=
  match ts.filter (!·.isBlank) with
  | [.quoted text false] => some text
  | [.bare text] => if text.all isKeyChar then some text else none
  | _ => none

/-- The path and the last part of the key, which may be dotted, that some tokens are. -/
def keyOf? (ts : List Token) : Option (List Text × Text) := do
  let parts ← (ts.splitOn .dot).mapM keyPart?
  let key ← parts.getLast?
  if parts.length ≤ maxDepth then some (parts.dropLast, key) else none

def endsKey : Token → Bool
  | .equals | .closeBracket | .newline => true
  | _ => false

def readKey (ts : List Token) : Option (List Text × Text × List Token) :=
  (keyOf? (ts.takeWhile (!endsKey ·))).map fun (path, key) =>
    (path, key, ts.dropWhile (!endsKey ·))

/-- The bare text at the front of some tokens, the dots within it included. -/
def cutBare : List Token → Text × List Token
  | .dot :: ts => let (text, rest) := cutBare ts; ('.' :: text, rest)
  | .bare part :: ts => let (text, rest) := cutBare ts; (part ++ text, rest)
  | ts => ([], ts)

/-- Reads a scalar. A date and a time may have one space between them. -/
def readScalar (ts : List Token) : Option (Scalar × List Token) :=
  match cutBare ts with
  | (text, .blank [' '] :: ts) =>
    match cutBare ts with
    | (c :: more, rest) =>
      if Scalar.afterDate? text = some [] ∧ c.isDigit then
        (Scalar.ofText? (text ++ ' ' :: c :: more)).map (·, rest)
      else (Scalar.ofText? text).map (·, .blank [' '] :: ts)
    | ([], _) => (Scalar.ofText? text).map (·, .blank [' '] :: ts)
  | (text, rest) => (Scalar.ofText? text).map (·, rest)

mutual

/-- Reads a value. The first number bounds the steps that may be taken, the second one how deep
arrays and tables in braces may still be nested. -/
def readValue : Nat → Nat → List Token → Option (Value × List Token)
  | 0, _, _ => none
  | _ + 1, _, .quoted text _ :: ts => some (.string text, ts)
  | steps + 1, depth + 1, .openBracket :: ts =>
    (readItems steps depth ts).map fun (items, rest) => (.array items, rest)
  | steps + 1, depth + 1, .openBrace :: ts => readFields steps depth (.table .braces []) ts
  | _ + 1, _, ts => (readScalar ts).map fun (scalar, rest) => (.scalar scalar, rest)

def readItems : Nat → Nat → List Token → Option (List Value × List Token)
  | 0, _, _ => none
  | steps + 1, depth, ts =>
    match skipSpace ts with
    | .closeBracket :: rest => some ([], rest)
    | ts => do
      let (value, rest) ← readValue steps depth ts
      match skipSpace rest with
      | .comma :: rest =>
        let (values, rest) ← readItems steps depth rest
        return (value :: values, rest)
      | .closeBracket :: rest => return ([value], rest)
      | _ => none

/-- Reads entries up to a closing brace and adds them to a table. Between its braces a line may end
anywhere but within a key. -/
def readFields : Nat → Nat → Value → List Token → Option (Value × List Token)
  | 0, _, _, _ => none
  | steps + 1, depth, table, ts =>
    match skipSpace ts with
    | .closeBrace :: rest => some (table, rest)
    | ts => do
      let (path, key, rest) ← readKey ts
      match skipSpace rest with
      | .equals :: rest =>
        let (value, rest) ← readValue steps depth (skipSpace rest)
        let table ← table.addEntry path key value
        match skipSpace rest with
        | .comma :: rest => readFields steps depth table rest
        | .closeBrace :: rest => return (table, rest)
        | _ => none
      | _ => none

end

inductive Line where
  | entry (path : List Text) (key : Text) (value : Value)
  | header (path : List Text) (key : Text)
  | itemHeader (path : List Text) (key : Text)

/-- The number of steps that reading a value from some tokens can take: two for each token. -/
def stepsFor (ts : List Token) : Nat := 2 * ts.length + 2

def readLine : List Token → Option (Line × List Token)
  | .openBracket :: .openBracket :: ts => do
    match ← readKey ts with
    | (path, key, .closeBracket :: .closeBracket :: rest) => return (.itemHeader path key, rest)
    | _ => none
  | .openBracket :: ts => do
    match ← readKey ts with
    | (path, key, .closeBracket :: rest) => return (.header path key, rest)
    | _ => none
  | ts => do
    match ← readKey ts with
    | (path, key, .equals :: rest) =>
      let (value, rest) ← readValue (stepsFor rest) maxDepth (skipBlank rest)
      return (.entry path key value, rest)
    | _ => none

/-- Reads the lines of a document, of which there may be as many as the number says. -/
def readLines : Nat → List Token → Option (List Line)
  | 0, _ => none
  | count + 1, ts =>
    match skipSpace ts with
    | [] => some []
    | ts => do
      let (line, rest) ← readLine ts
      match skipBlank rest with
      | [] => return [line]
      | .newline :: rest => return line :: (← readLines count rest)
      | _ => none

/-- A document that has been read in part, and the path of the header above the next line. -/
structure Partial where
  root : Value := .table .header []
  current : List Text := []

def Partial.add (p : Partial) : Line → Option Partial
  | .entry path key value => do
    return { p with root := ← p.root.atHeaderPath (·.addEntry path key value) p.current }
  | .header path key => do return ⟨← p.root.addTable path key, path ++ [key]⟩
  | .itemHeader path key => do return ⟨← p.root.addTableItem path key, path ++ [key]⟩

/-- The table of a document, which may start with a byte order mark. -/
def parse? (text : Text) : Option Value := do
  let tokens ← Token.ofText? (if text.head? = some '\uFEFF' then text.tail else text)
  let lines ← readLines (tokens.length + 1) tokens
  let document ← lines.foldlM Partial.add {}
  return document.root

end SqlScript.Toml
