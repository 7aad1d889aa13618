import SqlScript.Scan
import SqlScript.Proofs.Reading.Lines

/-!
Scanning is compositional. The scan of some lines is the scan of the first of them, continued from
the statement that they leave open, and the number of a line only shows in the numbers of the
statements. So a script can be cut after any line: what is closed in front of the cut does not
depend on what follows it, and if nothing is open there the two parts can be scanned apart.
-/

namespace SqlScript

open Reading

def Statement.shift (count : Nat) (s : Statement) : Statement :=
  { s with startLine := s.startLine + count }

def Draft.shift (count : Nat) (draft : Draft) : Draft :=
  { draft with startLine := draft.startLine + count }

def Progress.shift (count : Nat) : Progress → Progress
  | .idle => .idle
  | .pending draft => .pending (draft.shift count)
  | .closed statement => .closed (statement.shift count)

def Scan.shift (count : Nat) (scan : Scan) : Scan where
  closed := scan.closed.map fun (s, line) => (s.shift count, line + count)
  pending := scan.pending.map (Draft.shift count)

namespace Dialect

variable (d : Dialect)

@[simp] theorem close_shift (count : Nat) (draft : Draft) (rest : Text) :
    d.close (draft.shift count) rest = (d.close draft rest).shift count := rfl

theorem append_shift (count : Nat) (draft : Draft) (line : Text) :
    d.append (draft.shift count) line = (d.append draft line).shift count := by
  simp only [append, Draft.shift]
  split <;> rfl

theorem resume_shift (count : Nat) (draft : Draft) (line : Text) :
    d.resume (draft.shift count) line = (d.resume draft line).shift count := by
  simp only [resume, append_shift, close_shift, apply_ite (Progress.shift count)]
  rfl

theorem start_shift (count number : Nat) (line : Text) :
    d.start (number + count) line = (d.start number line).shift count := by
  have happend (kind : Kind) : d.append ⟨kind, [], number + count⟩ line =
      (d.append ⟨kind, [], number⟩ line).shift count := d.append_shift count ⟨kind, [], number⟩ line
  simp only [start, happend]
  repeat' split
  all_goals rfl

/-- One step further down is the step, further down. -/
theorem advance_shift (count number : Nat) (line : Text) (pending : Option Draft) :
    d.advance (number + count) line (pending.map (Draft.shift count)) =
      (d.advance number line pending).shift count := by
  cases pending with
  | none => exact d.start_shift count number line
  | some draft => exact d.resume_shift count draft line

/-- A run further down is the run, further down. -/
theorem scanFrom_shift (count number : Nat) (pending : Option Draft) (lines : List Text) :
    d.scanFrom (number + count) (pending.map (Draft.shift count)) lines =
      (d.scanFrom number pending lines).shift count := by
  induction lines generalizing number pending with
  | nil => rfl
  | cons line lines ih =>
    -- Whatever the line does, the rest is scanned from one line further down in both runs.
    have hstep := d.advance_shift count (number + 1) line pending
    have hnext := fun p => ih (number + 1) p
    rw [Nat.add_right_comm] at hstep hnext
    simp only [scanFrom, hstep]
    cases d.advance (number + 1) line pending with
    | idle => exact hnext none
    | pending draft => exact hnext (some draft)
    | closed statement =>
      have hrest := hnext none
      rw [Option.map_none] at hrest
      simp only [Progress.shift, hrest]
      simp [Scan.shift]
      omega

/-- The scan of some lines goes on from where the scan of the first of them ended. -/
theorem scanFrom_append (number : Nat) (pending : Option Draft) (lines others : List Text) :
    d.scanFrom number pending (lines ++ others) =
      let before := d.scanFrom number pending lines
      let after := d.scanFrom (number + lines.length) before.pending others
      ⟨before.closed ++ after.closed, after.pending⟩ := by
  induction lines generalizing number pending with
  | nil => rfl
  | cons line lines ih =>
    simp only [List.cons_append, scanFrom, List.length_cons]
    rw [show number + (lines.length + 1) = number + 1 + lines.length by omega]
    cases d.advance (number + 1) line pending with
    | idle => exact ih (number + 1) none
    | pending draft => exact ih (number + 1) (some draft)
    | closed statement => simp only [ih (number + 1) none, List.cons_append]

/-- The statements of a scan further down are its statements, further down. -/
theorem statements_shift (count : Nat) (scan : Scan) :
    (scan.shift count).closed.map Prod.fst ++
        ((scan.shift count).pending.map fun draft => d.close draft []).toList =
      (scan.closed.map Prod.fst ++
        (scan.pending.map fun draft => d.close draft []).toList).map (Statement.shift count) := by
  obtain ⟨closed, pending⟩ := scan
  cases pending <;> simp [Scan.shift]

theorem scan_append (lines others : List Text) :
    d.scan (lines ++ others) =
      let before := d.scan lines
      let after := d.scanFrom lines.length before.pending others
      ⟨before.closed ++ after.closed, after.pending⟩ := by
  simpa [scan] using d.scanFrom_append 0 none lines others

/-- A script can be cut after any line. What is closed in front of the cut is what the whole script
begins with, found after as many lines, whatever follows; and if nothing is open at the cut, the
statements of the whole are those of the two parts. -/
theorem statements_cut_after_line (a b : Text) (ha : EndsLine a) (hb : b.head? ≠ some '\uFEFF') :
    (d.scan (linesOf a)).closed.map (fun (s, line) => (Outcome.statement s, line)) <+:
        d.outcomes (ofText (a ++ b)) ∧
      (d.scan (linesOf a)).closed.map Prod.fst <+: d.statementsOf (a ++ b) ∧
      ((d.scan (linesOf a)).pending = none →
        d.statementsOf (a ++ b) =
          d.statementsOf a ++ (d.statementsOf b).map (Statement.shift (linesOf a).length)) := by
  have hlines := linesOf_append ha hb
  refine ⟨?_, ?_, fun hnone => ?_⟩
  · simp only [outcomes, ofText, hlines, scan_append, List.map_append, List.append_assoc]
    exact List.prefix_append _ _
  · simp only [statementsOf, statementsOfLines, hlines, scan_append, List.map_append,
      List.append_assoc]
    exact List.prefix_append _ _
  · have hafter : d.scanFrom (linesOf a).length none (linesOf b) =
        (d.scan (linesOf b)).shift (linesOf a).length := by
      simpa [scan] using d.scanFrom_shift (linesOf a).length 0 none (linesOf b)
    simp only [statementsOf, statementsOfLines, hlines, scan_append, hnone, hafter]
    simp only [List.map_append, List.append_assoc, statements_shift, Option.map_none,
      Option.toList_none, List.append_nil]

/-- A comment and a block with a blank line in it, cut off in front of a query. -/
theorem statements_cut_after_block :
    let d : Dialect := { keywords := ⟨[(["BEGIN".toList], .block)]⟩ }
    let a := "-- a\nBEGIN\n\n  null;\n/\n".toList
    let b := "select 1;\nselect".toList
    EndsLine a ∧ b.head? ≠ some '\uFEFF' ∧ (d.scan (linesOf a)).pending = none ∧
      d.statementsOf (a ++ b) =
        d.statementsOf a ++ (d.statementsOf b).map (Statement.shift (linesOf a).length) := by
  intro d a b
  have ha : EndsLine a := by decide
  have hb : b.head? ≠ some '\uFEFF' := by decide
  have hnone : (d.scan (linesOf a)).pending = none := by decide +kernel
  exact ⟨ha, hb, hnone, (statements_cut_after_line d a b ha hb).2.2 hnone⟩

end Dialect

end SqlScript
