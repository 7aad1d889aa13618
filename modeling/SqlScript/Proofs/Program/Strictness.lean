import SqlScript.Proofs.Program.Texts
import SqlScript.Proofs.Scan.Boundaries
import Mathlib.Data.List.Forall2

/-!
The columns of a script with and without strictness. Without it the listing has one entry for each
query and never fails. With it the listing is the same where every plain statement is a query, and
otherwise the first plain statement that is none is a failure.
-/

namespace SqlScript

open Text Reading

/-! ### Reading a list of items that may fail -/

section MapM

variable {ε α β : Type} {f : α → Except ε β} {g : α → β}

theorem mapM_eq_ok {list : List α} (h : ∀ a ∈ list, f a = .ok (g a)) :
    list.mapM f = .ok (list.map g) := by
  induction list with
  | nil => rfl
  | cons a list ih =>
      obtain ⟨hfirst, hmore⟩ := List.forall_mem_cons.mp h
      rw [List.mapM_cons, hfirst, ih hmore]
      rfl

theorem mapM_eq_error {init rest : List α} {bad : α} {e : ε} (h : ∀ a ∈ init, f a = .ok (g a))
    (hbad : f bad = .error e) : (init ++ bad :: rest).mapM f = .error e := by
  rw [List.mapM_append, mapM_eq_ok h, List.mapM_cons, hbad]
  rfl

theorem forall_of_mapM_eq_ok {list : List α} {made : List β} (h : list.mapM f = .ok made) :
    ∀ a ∈ list, ∃ b, f a = .ok b := by
  induction list generalizing made with
  | nil => exact List.forall_mem_nil _
  | cons a list ih =>
      rw [List.mapM_cons] at h
      cases hfirst : f a with
      | error e =>
          rw [hfirst] at h
          cases h
      | ok b =>
          rw [hfirst] at h
          cases hmore : list.mapM f with
          | error e =>
              rw [hmore] at h
              cases h
          | ok made => exact List.forall_mem_cons.mpr ⟨⟨b, hfirst⟩, ih hmore⟩

end MapM

namespace Dialect

/-! ### The first lines of the statements -/

theorem filterMap_outcomesOf (d : Dialect) (lines : List Text) (emitted : List (Statement × Nat)) :
    (d.outcomesOf ⟨lines, none⟩ emitted).filterMap statementOf? = emitted.map Prod.fst := by
  simp [outcomesOf, ending, statementOf?, List.filterMap_append, List.filterMap_map,
    Function.comp_def]

theorem pairwise_startLine_statementsOf (d : Dialect) (text : Text) :
    (d.statementsOf text).Pairwise fun s t => s.startLine < t.startLine := by
  have hstart : d.Stands (ofText text).lines 0 0 none := ⟨Nat.le_refl 0, fun n hn => hn.1⟩
  obtain ⟨emitted, houtcomes, hbounds⟩ := outcomesFrom_bounds rfl (Nat.zero_le _) hstart
  have hstatements : d.statementsOf text = emitted.map Prod.fst := by
    rw [statementsOf, ← filterMap_outcomes, ← filterMap_outcomesOf d (linesOf text),
      outcomes_eq_outcomesFrom]
    exact congrArg (List.filterMap statementOf?) houtcomes
  have hlines := hbounds.pairwise_startLine
  rw [hstatements, List.pairwise_map]
  exact List.pairwise_map.mp hlines

end Dialect

namespace Program

open Query

/-! ### One statement -/

def entry (naming : Naming) (unique : Bool) (s : Statement) : QueryColumns :=
  let names := columnsOfList naming (selectList s.text)
  ⟨s.startLine, if unique then distinctNames names else names⟩

variable {naming : Naming} {s : Statement}

theorem isQuery_iff : s.isQuery ↔ s.category = .sql ∧ startsWithQueryWord s.text := by
  simp [Statement.isQuery]

theorem columns_of_isQuery (h : s.isQuery) :
    Query.columns naming s.text = .ok (columnsOfList naming (selectList s.text)) :=
  if_pos (isQuery_iff.mp h).2

theorem queryColumns_of_isQuery (unique : Bool) (h : s.isQuery) :
    queryColumns naming unique s = .ok (entry naming unique s) := by
  rw [queryColumns, columnsOfStatement, if_pos h, columns_of_isQuery h]
  rfl

theorem queryColumns_of_not_isQuery (unique : Bool) (h : ¬s.isQuery) :
    queryColumns naming unique s = .error (.statement s.startLine (.notQuery s.kind)) := by
  rw [queryColumns, columnsOfStatement, if_neg h]
  rfl

/-! ### The statements of a script -/

/-- Whether a plain statement has no columns. -/
def IsStray (s : Statement) : Prop := s.category = .sql ∧ ¬s.isQuery

instance (s : Statement) : Decidable (IsStray s) := inferInstanceAs (Decidable (_ ∧ _))

theorem candidates_false (statements : List Statement) :
    candidates false statements = statements.filter (·.isQuery) := by
  refine List.filter_congr fun s _ => ?_
  rw [Bool.false_or, Bool.eq_iff_iff, Bool.and_eq_true, beq_iff_eq]
  exact and_iff_right_of_imp fun h => (isQuery_iff.mp h).1

theorem candidates_true (statements : List Statement) :
    candidates true statements = statements.filter (·.category == .sql) := by
  simp only [candidates, Bool.true_or, Bool.and_true]

theorem candidates_eq_of_forall {statements : List Statement}
    (h : ∀ s ∈ statements, s.category = .sql → s.isQuery) :
    candidates true statements = candidates false statements := by
  rw [candidates_true, candidates_false]
  refine List.filter_congr fun s hs => ?_
  rw [Bool.eq_iff_iff, beq_iff_eq]
  exact ⟨h s hs, fun hquery => (isQuery_iff.mp hquery).1⟩

/-- In front of the first stray statement all plain statements are queries. -/
theorem exists_candidates_eq_append {statements others : List Statement} {stray : Statement}
    (h : statements.filter (IsStray ·) = stray :: others) :
    ¬stray.isQuery ∧ ∃ init rest, candidates true statements = init ++ stray :: rest ∧
      ∀ s ∈ init, s.isQuery := by
  obtain ⟨before, behind, rfl, hbefore, hstray, -⟩ := List.filter_eq_cons_iff.mp h
  have hstray : IsStray stray := of_decide_eq_true hstray
  refine ⟨hstray.2, before.filter (·.category == .sql), behind.filter (·.category == .sql), ?_, ?_⟩
  · rw [candidates_true, List.filter_append, List.filter_cons_of_pos (by simpa using hstray.1)]
  · intro s hs
    obtain ⟨hmem, hcategory⟩ := List.mem_filter.mp hs
    by_contra hquery
    exact hbefore s hmem (decide_eq_true ⟨beq_iff_eq.mp hcategory, hquery⟩)

/-! ### The listing of a script -/

variable {w : World} {script text : Text} (settings : Settings) (style : ListingStyle)

theorem columns_of_reads (naming : Naming) (unique strict : Bool) (h : Reads w script text) :
    columns w settings style script naming unique strict =
      ((candidates strict ((dialect settings).statementsOf text)).mapM
        (queryColumns naming unique)).map (Listing.queries style) := by
  rw [columns, readStatements_of_reads settings h]
  rfl

theorem columns_lenient (naming : Naming) (unique : Bool) (h : Reads w script text) :
    columns w settings style script naming unique false =
      .ok (Listing.queries style
        ((((dialect settings).statementsOf text).filter (·.isQuery)).map
          (entry naming unique))) := by
  have hentries : ∀ s ∈ ((dialect settings).statementsOf text).filter (·.isQuery),
      queryColumns naming unique s = .ok (entry naming unique s) :=
    fun s hs => queryColumns_of_isQuery unique (List.mem_filter.mp hs).2
  rw [columns_of_reads settings style naming unique false h, candidates_false, mapM_eq_ok hentries]
  rfl

theorem columns_strict_of_forall (naming : Naming) (unique : Bool) (h : Reads w script text)
    (hquery : ∀ s ∈ (dialect settings).statementsOf text, s.category = .sql → s.isQuery) :
    columns w settings style script naming unique true =
      columns w settings style script naming unique false := by
  rw [columns_of_reads settings style naming unique true h, candidates_eq_of_forall hquery,
    ← columns_of_reads settings style naming unique false h]

theorem columns_strict_of_stray (naming : Naming) (unique : Bool) (h : Reads w script text)
    {stray : Statement} {others : List Statement}
    (hstray : ((dialect settings).statementsOf text).filter (IsStray ·) = stray :: others) :
    columns w settings style script naming unique true =
      .error (.statement stray.startLine (.notQuery stray.kind)) := by
  obtain ⟨hnot, init, rest, hcandidates, hinit⟩ := exists_candidates_eq_append hstray
  have hentries : ∀ s ∈ init, queryColumns naming unique s = .ok (entry naming unique s) :=
    fun s hs => queryColumns_of_isQuery unique (hinit s hs)
  rw [columns_of_reads settings style naming unique true h, hcandidates,
    mapM_eq_error hentries (queryColumns_of_not_isQuery unique hnot)]
  rfl

/-- Without strictness the columns of a script that can be read are listed for each of its queries,
in order. With strictness they are the same where every plain statement is a query, and where one is
not, the failure tells its first line and its kind. -/
theorem columns_strict_refines (w : World) (settings : Settings) (terminal : Bool)
    (script text : Text) (format : Format) (functionName preserveCase unique noColor verbose : Bool)
    (h : Reads w script text) :
    let statements := (dialect settings).statementsOf text
    let queries := statements.filter (·.isQuery)
    let naming := settings.effectiveNaming functionName preserveCase
    let run := fun strict => runCommand w settings terminal
      ⟨.columns script format functionName preserveCase unique strict noColor, verbose⟩
    (∃ entries : List QueryColumns,
      run false = .ok (Listing.queries ⟨format, terminal && !noColor, false⟩ entries) ∧
      List.Forall₂ (fun (s : Statement) (q : QueryColumns) => q.startLine = s.startLine ∧
        ∃ names, Query.columns naming s.text = .ok names ∧
          q.columns = if unique then distinctNames names else names) queries entries ∧
      entries.Pairwise fun p q => p.startLine < q.startLine) ∧
    ((∀ s ∈ statements, s.category = .sql → s.isQuery) → run true = run false) ∧
    (∀ s, statements.filter (IsStray ·) = [s] →
      let failure := Failure.statement s.startLine (.notQuery s.kind)
      run true = .error failure ∧
        failure.message = "Statement at line ".toList ++ ofNat s.startLine ++ ":\n  ".toList ++
          ("a ".toList ++ s.kind.label ++
            " statement has no select list, only `select` and `with` queries do".toList)) := by
  intro statements queries naming run
  have hqueries : ∀ s ∈ queries, s.isQuery := fun s hs => (List.mem_filter.mp hs).2
  refine ⟨⟨queries.map (entry naming unique), ?_, ?_, ?_⟩, fun hquery => ?_, fun s hs => ?_⟩
  · exact columns_lenient settings _ naming unique h
  · rw [List.forall₂_map_right_iff, List.forall₂_same]
    exact fun s hs => ⟨rfl, _, columns_of_isQuery (hqueries s hs), rfl⟩
  · rw [List.pairwise_map]
    exact ((dialect settings).pairwise_startLine_statementsOf text).filter _
  · exact columns_strict_of_forall settings _ naming unique h hquery
  · exact ⟨columns_strict_of_stray settings _ naming unique h hs, rfl⟩

/-- Two queries with a change of rows between them. -/
theorem columns_strict_refines_update :
    let script := ("select a, T.a\nfrom t;\n-- rows\nupdate t set a = 1;\n".toList ++
      "with x as (select 1) select b from x".toList)
    let w : World := { input := ⟨encode script, none⟩, file := fun _ => .error .missing }
    let run := fun strict => runCommand w {} false
      ⟨.columns inputPath .text false false true strict false, false⟩
    Reads w inputPath script ∧
      run false = .ok "Query at line 1:\n  a\n  a-1\nQuery at line 5:\n  b\n" ∧
      run true = .error (.statement 4 (.notQuery .dml)) := by
  intro script w run
  have hreads : Reads w inputPath script := ⟨_, .input, rfl, decode?_encode script⟩
  have hstatements : (dialect {}).statementsOf script =
      [⟨.query, "select a, T.a\nfrom t", 1⟩, ⟨.comment, "-- rows", 3⟩,
        ⟨.dml, "update t set a = 1", 4⟩,
        ⟨.query, "with x as (select 1) select b from x", 5⟩] := by decide +kernel
  have hlisting : run false = .ok "Query at line 1:\n  a\n  a-1\nQuery at line 5:\n  b\n" := by
    change columns w {} ⟨.text, false, false⟩ inputPath {} true false = _
    rw [columns_lenient _ _ _ _ hreads, hstatements]
    decide +kernel
  have hstray :=
    (columns_strict_refines w {} false inputPath script .text false false true false false
      hreads).2.2
  rw [hstatements] at hstray
  exact ⟨hreads, hlisting, (hstray ⟨.dml, "update t set a = 1", 4⟩ (by decide +kernel)).1⟩

end Program

end SqlScript
