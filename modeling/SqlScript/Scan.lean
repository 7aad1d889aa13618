import SqlScript.Dialect
import SqlScript.Reading

/-!
Scanning a script: its statements in order, each known as soon as its last line has been read. A
statement that the end of the script leaves open is closed there; one that a fault of the reading
leaves open is lost.
-/

namespace SqlScript

/-- What a scan gives before it ends: a statement, a failure, or the end of the script. -/
inductive Outcome where
  | statement (s : Statement)
  | failure (f : Failure)
  | finished
deriving DecidableEq, Repr

/-- The statements closed within some lines, each with the number of its last line, and the
statement that the lines leave open. -/
structure Scan where
  closed : List (Statement × Nat)
  pending : Option Draft
deriving DecidableEq, Repr

namespace Dialect

/-- Scans lines after the first `number` ones, where `pending` is the statement that is open. -/
def scanFrom (d : Dialect) (number : Nat) (pending : Option Draft) : List Text → Scan
  | [] => ⟨[], pending⟩
  | line :: lines =>
    match d.advance (number + 1) line pending with
    | .idle => d.scanFrom (number + 1) none lines
    | .pending draft => d.scanFrom (number + 1) (some draft) lines
    | .closed statement =>
      let rest := d.scanFrom (number + 1) none lines
      { rest with closed := (statement, number + 1) :: rest.closed }

def scan (d : Dialect) (lines : List Text) : Scan := d.scanFrom 0 none lines

/-- How a scan ends after its closed statements, when `count` lines have been read. -/
def ending (d : Dialect) (count : Nat) (pending : Option Draft) : Option ReadFault → List Outcome
  | some fault => [.failure (.script count fault)]
  | none => (pending.map fun draft => .statement (d.close draft [])).toList ++ [.finished]

/-- The outcomes of scanning a script, each with the number of lines that have been read by then.
The last one is a failure or the end of the script. -/
def outcomes (d : Dialect) (reading : Reading) : List (Outcome × Nat) :=
  let scan := d.scan reading.lines
  let count := reading.lines.length
  scan.closed.map (fun (s, line) => (.statement s, line)) ++
    (d.ending count scan.pending reading.fault).map (·, count)

def statementsOfLines (d : Dialect) (lines : List Text) : List Statement :=
  let scan := d.scan lines
  scan.closed.map Prod.fst ++ (scan.pending.map fun draft => d.close draft []).toList

/-- The statements of a script, if it can be read to its end. -/
def statements (d : Dialect) (reading : Reading) : Except Failure (List Statement) :=
  match reading.fault with
  | some fault => .error (.script reading.lines.length fault)
  | none => .ok (d.statementsOfLines reading.lines)

def statementsOf (d : Dialect) (text : Text) : List Statement :=
  d.statementsOfLines (Reading.linesOf text)

@[simp] theorem statements_ofText (d : Dialect) (text : Text) :
    d.statements (Reading.ofText text) = .ok (d.statementsOf text) := rfl

end Dialect

end SqlScript
