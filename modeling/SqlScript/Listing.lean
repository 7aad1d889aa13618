import SqlScript.Record
import SqlScript.Statement

/-!
Listings of statements and of the columns of queries, as text with optional colours, in JSON or in
YAML.
-/

namespace SqlScript

open Text

inductive Format where
  | text
  | json
  | yaml
deriving DecidableEq, Repr

inductive Colour where
  | dimmed
  | boldYellow
  | boldMagenta
  | boldCyan
deriving DecidableEq, Repr

namespace Colour

def codes : Colour → Text
  | .dimmed => "2"
  | .boldYellow => "1;33"
  | .boldMagenta => "1;35"
  | .boldCyan => "1;36"

/-- The text in a colour: the codes, the text and the code that switches colours off. -/
def paint (colour : Colour) (s : Text) : Text :=
  "\x1b[".toList ++ colour.codes ++ 'm' :: s ++ "\x1b[0m".toList

end Colour

def Category.colour : Category → Colour
  | .comment => .dimmed
  | .command => .boldYellow
  | .psql => .boldMagenta
  | .sql => .boldCyan

/-- The columns of the query that starts at a line. -/
structure QueryColumns where
  startLine : Nat
  columns : List Text
deriving DecidableEq, Repr

structure ListingStyle where
  format : Format := .text
  colored : Bool := true
  /-- Headers tell the kind and the first line of each statement. -/
  verbose : Bool := false
deriving DecidableEq, Repr

namespace Listing

def header (style : ListingStyle) (colour : Colour) (s : Text) : Text :=
  if style.colored then colour.paint s else s

def statementRecord (s : Statement) : Record :=
  [("category".toList, .text s.category.name), ("text".toList, .text s.text)]

def queryRecord (q : QueryColumns) : Record :=
  [("start_line".toList, .number q.startLine), ("columns".toList, .texts q.columns)]

/-- The header of the statement at a position, counted from one. -/
def statementHeader (style : ListingStyle) (position : Nat) (s : Statement) : Text :=
  "Statement #".toList ++ ofNat position ++ " (".toList ++ s.category.label ++
    if style.verbose then
      ", ".toList ++ s.kind.label ++ ") at line ".toList ++ ofNat s.startLine ++ ":".toList
    else "):".toList

def statementText (style : ListingStyle) (position : Nat) (s : Statement) : Text :=
  header style s.category.colour (statementHeader style position s) ++
    '\n' :: s.text ++ "\n\n".toList

def queryText (style : ListingStyle) (q : QueryColumns) : Text :=
  header style .boldCyan ("Query at line ".toList ++ ofNat q.startLine ++ ":".toList) ++
    '\n' :: q.columns.flatMap fun column => "  ".toList ++ column ++ "\n".toList

/-- The texts of statements at the positions from `position` on. -/
def statementTexts (style : ListingStyle) (position : Nat) : List Statement → Text
  | [] => []
  | s :: rest => statementText style position s ++ statementTexts style (position + 1) rest

def statements (style : ListingStyle) (list : List Statement) : Text :=
  match style.format with
  | .text => statementTexts style 1 list
  | .json => Record.listJson (list.map statementRecord)
  | .yaml => Record.listYaml (list.map statementRecord)

def queries (style : ListingStyle) (list : List QueryColumns) : Text :=
  match style.format with
  | .text => list.flatMap (queryText style)
  | .json => Record.listJson (list.map queryRecord)
  | .yaml => Record.listYaml (list.map queryRecord)

end Listing

end SqlScript
