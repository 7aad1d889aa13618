import SqlScript.Proofs.Query.LineBreaks
import SqlScript.Proofs.Scan.Cursor
import SqlScript.Proofs.Scan.Step
import Mathlib.Data.List.Forall2

/-!
Scripts in which different texts stand between the lines of a statement. The separator shows in the
texts of the statements and nowhere else, so two scans of one script go side by side. If each of the
separators does nothing but break lines, the statements have the same columns.
-/

namespace SqlScript

open Text Query

/-- Whether two statements differ in nothing that their columns depend on. -/
structure Statement.Alike (s t : Statement) : Prop where
  kind : s.kind = t.kind
  startLine : s.startLine = t.startLine
  isQuery : s.isQuery = t.isQuery
  columns : ∀ naming, columnsOfStatement naming s = columnsOfStatement naming t

inductive Outcome.Alike : Outcome → Outcome → Prop where
  | statement {s t : Statement} (h : s.Alike t) : Alike (.statement s) (.statement t)
  | failure (f : Failure) : Alike (.failure f) (.failure f)
  | finished : Alike .finished .finished

/-- Whether a line makes the same of what came before it, up to statements that are alike. -/
inductive Progress.Alike : Progress → Progress → Prop where
  | idle : Alike .idle .idle
  | pending (draft : Draft) : Alike (.pending draft) (.pending draft)
  | closed {s t : Statement} (h : s.Alike t) : Alike (.closed s) (.closed t)

theorem Progress.alike_ite {c : Prop} [Decidable c] {p p' q q' : Progress} (hp : p.Alike p')
    (hq : q.Alike q') : (if c then p else q).Alike (if c then p' else q') := by
  split
  · exact hp
  · exact hq

theorem Statement.Alike.refl (s : Statement) : s.Alike s := ⟨rfl, rfl, rfl, fun _ => rfl⟩

/-- The columns of a statement depend on the one line of its text and on its first word. -/
theorem Statement.alike_of_eq {kind : Kind} {s t : Text} {startLine : Nat}
    (hline : flatten s = flatten t) (hword : firstWord s = firstWord t) :
    (⟨kind, s, startLine⟩ : Statement).Alike ⟨kind, t, startLine⟩ := by
  have hstarts : startsWithQueryWord s = startsWithQueryWord t := by
    rw [startsWithQueryWord_eq, hword, ← startsWithQueryWord_eq]
  have hquery : (⟨kind, s, startLine⟩ : Statement).isQuery =
      (⟨kind, t, startLine⟩ : Statement).isQuery :=
    congrArg (fun starts => kind.category == .sql && starts) hstarts
  refine ⟨rfl, rfl, hquery, fun naming => ?_⟩
  by_cases hs : (⟨kind, s, startLine⟩ : Statement).isQuery = true
  · have ht : (⟨kind, t, startLine⟩ : Statement).isQuery = true := hquery ▸ hs
    have hsstarts : startsWithQueryWord s = true := (Bool.and_eq_true_iff.mp hs).2
    have htstarts : startsWithQueryWord t = true := (Bool.and_eq_true_iff.mp ht).2
    rw [columnsOfStatement, if_pos hs, columnsOfStatement, if_pos ht, columns, if_pos hsstarts,
      columns, if_pos htstarts, selectList, hline, selectList]
  · have ht : ¬(⟨kind, t, startLine⟩ : Statement).isQuery = true := hquery ▸ hs
    rw [columnsOfStatement, if_neg hs, columnsOfStatement, if_neg ht]

namespace Dialect

def separatedBy (d : Dialect) (separator : Text) : Dialect :=
  { d with delimiters := { d.delimiters with lineSeparator := separator } }

section Delimiters

variable (d : Dialect) (separator : Text)

@[simp] theorem keywords_separatedBy : (d.separatedBy separator).keywords = d.keywords := rfl

@[simp] theorem closingLines_separatedBy :
    (d.separatedBy separator).delimiters.closingLines = d.delimiters.closingLines := by
  funext category
  cases category <;> rfl

@[simp] theorem closingEnds_separatedBy :
    (d.separatedBy separator).delimiters.closingEnds = d.delimiters.closingEnds := by
  funext category
  cases category <;> rfl

@[simp] theorem isComment_separatedBy :
    (d.separatedBy separator).delimiters.isComment = d.delimiters.isComment := rfl

@[simp] theorem isSeparatorLine_separatedBy :
    (d.separatedBy separator).delimiters.isSeparatorLine = d.delimiters.isSeparatorLine := rfl

end Delimiters

variable {d : Dialect} {separator other : Text} (h : IsBreakText separator)
  (hother : IsBreakText other)

include h hother

/-! ### One line -/

theorem close_alike (draft : Draft) (rest : Text) :
    ((d.separatedBy separator).close draft rest).Alike
      ((d.separatedBy other).close draft rest) := by
  have hsame := sameLine_join h hother (draft.lines.reverse ++ [rest])
  rw [close_eq_join, close_eq_join]
  refine Statement.alike_of_eq ?_ ?_
  · rw [flatten_trimEnd, flatten_trimEnd]
    exact hsame.flatten_eq
  · rw [firstWord_trimEnd, firstWord_trimEnd]
    exact hsame.firstWord_eq

theorem append_alike (draft : Draft) (line : Text) :
    ((d.separatedBy separator).append draft line).Alike
      ((d.separatedBy other).append draft line) := by
  simp only [append, closingEnds_separatedBy]
  cases Delimiters.longestEnd? (d.delimiters.closingEnds draft.kind.category) (trim line) with
  | none => exact .pending _
  | some t => exact .closed (close_alike h hother _ _)

theorem start_alike (number : Nat) (line : Text) :
    ((d.separatedBy separator).start number line).Alike
      ((d.separatedBy other).start number line) := by
  simp only [start, isSeparatorLine_separatedBy, isComment_separatedBy, keywords_separatedBy]
  -- A separating line, a comment and a call escape do not look at the separator.
  refine Progress.alike_ite .idle
    (Progress.alike_ite (.closed (.refl _)) (Progress.alike_ite (.closed (.refl _)) ?_))
  cases (d.keywords.classify (trim line)).category with
  | command | comment => exact .closed (.refl _)
  | sql | psql => exact append_alike h hother _ _

theorem resume_alike (draft : Draft) (line : Text) :
    ((d.separatedBy separator).resume draft line).Alike
      ((d.separatedBy other).resume draft line) := by
  simp only [resume, closingLines_separatedBy]
  exact Progress.alike_ite (.closed (close_alike h hother _ _)) (append_alike h hother _ _)

theorem advance_alike (number : Nat) (line : Text) (pending : Option Draft) :
    ((d.separatedBy separator).advance number line pending).Alike
      ((d.separatedBy other).advance number line pending) := by
  cases pending with
  | none => exact start_alike h hother number line
  | some draft => exact resume_alike h hother draft line

/-! ### The run -/

/-- The run lemma: the two scans close alike statements with the same lines and leave the same lines
open. -/
theorem scanFrom_alike (number : Nat) (pending : Option Draft) (lines : List Text) :
    List.Forall₂ (fun a b => a.1.Alike b.1 ∧ a.2 = b.2)
        ((d.separatedBy separator).scanFrom number pending lines).closed
        ((d.separatedBy other).scanFrom number pending lines).closed ∧
      ((d.separatedBy separator).scanFrom number pending lines).pending =
        ((d.separatedBy other).scanFrom number pending lines).pending := by
  induction lines generalizing number pending with
  | nil => exact ⟨.nil, rfl⟩
  | cons line lines ih =>
      have hstep := advance_alike (d := d) h hother (number + 1) line pending
      simp only [scanFrom]
      generalize (d.separatedBy separator).advance (number + 1) line pending = p at hstep ⊢
      generalize (d.separatedBy other).advance (number + 1) line pending = q at hstep ⊢
      cases hstep with
      | idle => exact ih (number + 1) none
      | pending draft => exact ih (number + 1) (some draft)
      | closed halike =>
          obtain ⟨hclosed, hpending⟩ := ih (number + 1) none
          exact ⟨.cons ⟨halike, rfl⟩ hclosed, hpending⟩

theorem ending_alike (count : Nat) (pending : Option Draft) (fault : Option ReadFault) :
    List.Forall₂ Outcome.Alike ((d.separatedBy separator).ending count pending fault)
      ((d.separatedBy other).ending count pending fault) := by
  cases fault with
  | some fault => exact .cons (.failure _) .nil
  | none =>
      cases pending with
      | none => exact .cons .finished .nil
      | some draft =>
          exact .cons (.statement (close_alike h hother draft [])) (.cons .finished .nil)

omit h hother in
/-- Which text of tabs and line breaks stands between the lines of a statement makes no difference
to the kinds, first lines and columns of the statements of a script. -/
theorem outcomes_separatedBy (d : Dialect) (script : Reading) (separator other : Text)
    (h : IsBreakText separator) (hother : IsBreakText other) :
    List.Forall₂ (fun a b => a.1.Alike b.1 ∧ a.2 = b.2)
      ((d.separatedBy separator).outcomes script) ((d.separatedBy other).outcomes script) := by
  obtain ⟨hclosed, hpending⟩ := scanFrom_alike (d := d) h hother 0 none script.lines
  simp only [outcomes, scan]
  refine List.rel_append ?_ ?_
  · rw [List.forall₂_map_left_iff, List.forall₂_map_right_iff]
    exact hclosed.imp fun a b hab => ⟨.statement hab.1, hab.2⟩
  · rw [hpending, List.forall₂_map_left_iff, List.forall₂_map_right_iff]
    exact (ending_alike h hother _ _ _).imp fun a b hab => ⟨hab, rfl⟩

omit h hother in
/-- A query of three lines, one of which starts with a tab, has another text with each separator. -/
theorem outcomes_separatedBy_query :
    let d : Dialect := ⟨{}, ⟨[(["SELECT"], .query)]⟩⟩
    let script : Reading := ⟨["select a,", "\tb + 1 c", "from t;"], none⟩
    IsBreakText "\r\n" ∧ IsBreakText "\t" ∧
      List.Forall₂ (fun a b => a.1.Alike b.1 ∧ a.2 = b.2)
        ((d.separatedBy "\r\n").outcomes script) ((d.separatedBy "\t").outcomes script) ∧
      (d.separatedBy "\r\n").outcomes script =
        [(.statement ⟨.query, "select a,\r\n\tb + 1 c\r\nfrom t", 1⟩, 3), (.finished, 3)] ∧
      (d.separatedBy "\t").outcomes script =
        [(.statement ⟨.query, "select a,\t\tb + 1 c\tfrom t", 1⟩, 3), (.finished, 3)] :=
  ⟨by decide, by decide, outcomes_separatedBy _ _ _ _ (by decide) (by decide), by decide +kernel,
    by decide +kernel⟩

end Dialect

end SqlScript
