import SqlScript.Scan
import SqlScript.Proofs.Reading.Faults

/-!
Taking the statements of a script one at a time. Each turn reads on up to the end of the next
statement, and nothing is read after the end of the script or a fault. Turn by turn this gives the
outcomes of the whole scan, and then nothing more. If the reading fails on some line, the outcomes
are the statements that are closed in front of that line and one failure that tells its place.
-/

namespace SqlScript

open Reading

/-- A script from which statements are taken one at a time. -/
structure Cursor where
  /-- What has not been read yet. -/
  rest : Reading
  /-- The number of lines read so far. -/
  count : Nat := 0
  /-- Whether the end of the script or a fault has been met. -/
  done : Bool := false
deriving DecidableEq, Repr

namespace Cursor

/-- Reads on where `pending` is the statement that is open, up to the end of a statement. Without
another statement, reading is done with the end of the script or with its fault. -/
def seek (d : Dialect) (count : Nat) (pending : Option Draft) (fault : Option ReadFault) :
    List Text → Outcome × Cursor
  | [] =>
    match fault, pending with
    | some fault, _ => (.failure (.script count fault), ⟨⟨[], some fault⟩, count, true⟩)
    | none, some draft => (.statement (d.close draft []), ⟨⟨[], none⟩, count, false⟩)
    | none, none => (.finished, ⟨⟨[], none⟩, count, true⟩)
  | line :: lines =>
    match d.advance (count + 1) line pending with
    | .idle => seek d (count + 1) none fault lines
    | .pending draft => seek d (count + 1) (some draft) fault lines
    | .closed statement => (.statement statement, ⟨⟨lines, fault⟩, count + 1, false⟩)

def next (d : Dialect) (c : Cursor) : Outcome × Cursor :=
  if c.done then (.finished, c) else seek d c.count none c.rest.fault c.rest.lines

/-- What a turn and the turns after it give, each with the number of lines read by then. -/
def outcomeAt (d : Dialect) : Outcome × Cursor → Nat → Outcome × Nat
  | (outcome, c), 0 => (outcome, c.count)
  | (_, c), turn + 1 => outcomeAt d (c.next d) turn

/-- What the turns give, counted from zero. -/
def outcome (d : Dialect) (c : Cursor) (turn : Nat) : Outcome × Nat := outcomeAt d (c.next d) turn

end Cursor

namespace Dialect

variable (d : Dialect)

def outcomesFrom (count : Nat) (pending : Option Draft) (fault : Option ReadFault)
    (lines : List Text) : List (Outcome × Nat) :=
  (d.scanFrom count pending lines).closed.map (fun (s, line) => (.statement s, line)) ++
    (d.ending (count + lines.length) (d.scanFrom count pending lines).pending fault).map
      (·, count + lines.length)

theorem outcomes_eq_outcomesFrom (reading : Reading) :
    d.outcomes reading = d.outcomesFrom 0 none reading.fault reading.lines := by
  simp only [outcomes, outcomesFrom, scan, Nat.zero_add]

theorem outcomesFrom_cons_of_open {count : Nat} {pending pending' : Option Draft} {line : Text}
    (fault : Option ReadFault) (lines : List Text)
    (h : d.scanFrom count pending (line :: lines) = d.scanFrom (count + 1) pending' lines) :
    d.outcomesFrom count pending fault (line :: lines) =
      d.outcomesFrom (count + 1) pending' fault lines := by
  have hcount : count + (line :: lines).length = count + 1 + lines.length := by
    rw [List.length_cons]
    omega
  rw [outcomesFrom, outcomesFrom, h, hcount]

theorem outcomesFrom_cons_of_closed {count : Nat} {pending : Option Draft} {line : Text}
    {statement : Statement} (fault : Option ReadFault) (lines : List Text)
    (h : d.advance (count + 1) line pending = .closed statement) :
    d.outcomesFrom count pending fault (line :: lines) =
      (.statement statement, count + 1) :: d.outcomesFrom (count + 1) none fault lines := by
  have hcount : count + (line :: lines).length = count + 1 + lines.length := by
    rw [List.length_cons]
    omega
  simp only [outcomesFrom, hcount, scanFrom, h, List.map_cons, List.cons_append]

end Dialect

namespace Cursor

variable (d : Dialect)

theorem outcome_of_done {c : Cursor} (h : c.done) (turn : Nat) :
    c.outcome d turn = (.finished, c.count) := by
  have hnext : c.next d = (.finished, c) := by rw [next, if_pos h]
  rw [outcome, hnext]
  induction turn with
  | zero => rfl
  | succ turn ih => rw [outcomeAt, hnext, ih]

/-- Where no line is left, the turns give the end of the scan and then nothing. -/
theorem outcomeAt_seek_nil (count : Nat) (pending : Option Draft) (fault : Option ReadFault)
    (turn : Nat) :
    outcomeAt d (seek d count pending fault []) turn =
      (d.outcomesFrom count pending fault [])[turn]?.getD (.finished, count) := by
  cases fault with
  | some fault =>
      cases turn with
      | zero => rfl
      | succ turn => exact outcome_of_done d rfl turn
  | none =>
      cases pending with
      | none =>
          cases turn with
          | zero => rfl
          | succ turn => exact outcome_of_done d rfl turn
      | some draft =>
          -- The statement that is open is closed first, and the end is met in the turn after that.
          match turn with
          | 0 => rfl
          | 1 => rfl
          | turn + 2 => exact outcome_of_done d rfl turn

/-- The turns from any point on give the outcomes from there, and then nothing. -/
theorem outcomeAt_seek (count : Nat) (pending : Option Draft) (fault : Option ReadFault)
    (lines : List Text) (turn : Nat) :
    outcomeAt d (seek d count pending fault lines) turn =
      (d.outcomesFrom count pending fault lines)[turn]?.getD
        (.finished, count + lines.length) := by
  induction lines generalizing count pending turn with
  | nil => exact outcomeAt_seek_nil d count pending fault turn
  | cons line lines ih =>
      have hcount : count + (line :: lines).length = count + 1 + lines.length := by
        rw [List.length_cons]
        omega
      rw [hcount, seek]
      cases hstep : d.advance (count + 1) line pending with
      | idle =>
          rw [d.outcomesFrom_cons_of_open fault lines (by rw [Dialect.scanFrom, hstep])]
          exact ih (count + 1) none turn
      | pending draft =>
          rw [d.outcomesFrom_cons_of_open fault lines (by rw [Dialect.scanFrom, hstep])]
          exact ih (count + 1) (some draft) turn
      | closed statement =>
          rw [d.outcomesFrom_cons_of_closed fault lines hstep]
          cases turn with
          | zero => rfl
          | succ turn => exact ih (count + 1) none turn

/-- The turns give the outcomes of the whole scan in order, and then nothing. -/
theorem outcome_eq (reading : Reading) (turn : Nat) :
    (⟨reading, 0, false⟩ : Cursor).outcome d turn =
      (d.outcomes reading)[turn]?.getD (.finished, reading.lines.length) := by
  have hturn := outcomeAt_seek d 0 none reading.fault reading.lines turn
  rwa [Nat.zero_add, ← d.outcomes_eq_outcomesFrom] at hturn

end Cursor

namespace Dialect

variable (d : Dialect)

theorem outcomes_of_fault (lines : List Text) (fault : ReadFault) :
    d.outcomes ⟨lines, some fault⟩ =
      (d.scan lines).closed.map (fun (s, line) => (.statement s, line)) ++
        [(.failure (.script lines.length fault), lines.length)] := rfl

/-- Where a line cannot be read, the turns give the statements that are closed in front of it, then
one failure that tells how many lines have been read, and then nothing. A statement that is open
in front of the line is lost. -/
theorem outcomes_of_failsWith (lines : List (List UInt8)) (rest : Source) (fault : ReadFault)
    (hlines : ∀ line ∈ lines, IsEncodedLine line) (hrest : FailsWith rest fault) :
    let before := ofSource ⟨unlineBytes lines, none⟩
    let script := ofSource ⟨unlineBytes lines ++ rest.bytes, rest.fault⟩
    let failure := Failure.script lines.length fault
    let shown := (d.scan before.lines).closed.map (fun (s, line) => (Outcome.statement s, line)) ++
      [(.failure failure, lines.length)]
    before.fault = none ∧ before.lines.length = lines.length ∧ d.outcomes script = shown ∧
      (∀ turn, (⟨script, 0, false⟩ : Cursor).outcome d turn =
        shown[turn]?.getD (.finished, lines.length)) ∧
      failure.message = "Failed to read script after line ".toList ++ Text.ofNat lines.length ++
        ": ".toList ++ fault.message := by
  intro before script failure shown
  obtain ⟨texts, hlength, hbefore, hscript⟩ := ofSource_of_failsWith hlines hrest
  have hshown : d.outcomes script = shown := by
    simp only [script, shown, before, failure, hscript, hbefore, outcomes_of_fault, hlength]
  refine ⟨?_, ?_, hshown, fun turn => ?_, rfl⟩
  · simp only [before, hbefore]
  · simp only [before, hbefore, hlength]
  · rw [Cursor.outcome_eq, hshown]
    simp only [script, hscript, hlength]

/-- The third line is not UTF-8, and the query of the second one is still open there. -/
theorem outcomes_of_failsWith_open :
    let d : Dialect := { keywords := ⟨[(["SELECT".toList], .query)]⟩ }
    let lines : List (List UInt8) := ["\uFEFFselect 1;", "select"].map (·.toUTF8.toList)
    let rest : Source := ⟨[0x32, 0xC3, 0x28] ++ 0x0A :: [0x3B, 0x0A], none⟩
    (∀ line ∈ lines, IsEncodedLine line) ∧ FailsWith rest .notUtf8 ∧
      d.outcomes (ofSource ⟨unlineBytes lines ++ rest.bytes, rest.fault⟩) =
        [(.statement ⟨.query, "select 1", 1⟩, 1), (.failure (.script 2 .notUtf8), 2)] := by
  intro d lines rest
  have hlines : ∀ line ∈ lines, IsEncodedLine line := by decide +kernel
  have hrest : FailsWith rest .notUtf8 := .complete _ _ (by decide) (by decide +kernel)
  refine ⟨hlines, hrest, ?_⟩
  rw [(outcomes_of_failsWith d lines rest .notUtf8 hlines hrest).2.2.1]
  decide +kernel

end Dialect

end SqlScript
