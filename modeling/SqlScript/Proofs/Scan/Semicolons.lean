import SqlScript.Proofs.Scan.Boundaries
import SqlScript.Proofs.Scan.Rendering

/-!
The semicolons of a script with the standard delimiters. Where they only end lines, the statements
that end with a line are emitted without them: a closing line is left out, a closing end is cut off,
and so is the one behind a client command. A call escape keeps its own.
-/

namespace SqlScript

open Text Reading Delimiters

/-- Whether a semicolon stands nowhere in a line but behind everything else. -/
def SemicolonLast (line : Text) : Prop := ';' ∉ (trim line).dropLast

instance (line : Text) : Decidable (SemicolonLast line) := inferInstanceAs (Decidable (_ ∉ _))

/-! ### Where a statement of a script begins -/

theorem LineAt.exists_iff {lines : List Text} {n : Nat} {line : Text} (h : LineAt lines n line)
    {p : Text → Prop} : (∃ other, LineAt lines n other ∧ p other) ↔ p line := by
  constructor
  · rintro ⟨other, hother, hp⟩
    rwa [h.unique hother]
  · exact fun hp => ⟨line, h, hp⟩

theorem Block.exists_lines_eq_cons (b : Block) : ∃ more, b.lines = b.first :: more := by
  have hne : b.lines ≠ [] := by cases b <;> simp [Block.lines]
  obtain ⟨line, more, hlines⟩ := List.exists_cons_of_ne_nil hne
  exact ⟨more, by rw [first, hlines]; rfl⟩

section

variable {d : Dialect}

/-- The block of a closed statement, and the lines of the stretches from its first one on. -/
theorem exists_block_of_mem_closedFrom {stretches : List Stretch} {number : Nat}
    {closed : Statement × Nat} (h : closed ∈ Stretch.closedFrom d number stretches) :
    ∃ b n more, .block b ∈ stretches ∧ closed.1 = b.statement d (number + n + 1) ∧
      (stretches.flatMap Stretch.lines).drop n = b.first :: more := by
  induction stretches generalizing number with
  | nil => exact absurd h List.not_mem_nil
  | cons stretch stretches ih =>
      cases stretch with
      | gap line =>
          obtain ⟨b, n, more, hb, hs, hdrop⟩ := ih h
          have hnumber : number + 1 + n + 1 = number + (n + 1) + 1 := by omega
          rw [hnumber] at hs
          exact ⟨b, n + 1, more, List.mem_cons_of_mem _ hb, hs, hdrop⟩
      | block b =>
          rcases List.mem_cons.mp h with rfl | h
          · obtain ⟨more, hlines⟩ := b.exists_lines_eq_cons
            exact ⟨b, 0, _, List.mem_cons_self, rfl,
              by rw [List.flatMap_cons, Stretch.lines, hlines]; rfl⟩
          · obtain ⟨b', n, more, hb', hs, hdrop⟩ := ih h
            refine ⟨b', b.lines.length + n, more, List.mem_cons_of_mem _ hb', ?_, ?_⟩
            · rw [hs, Nat.add_assoc number]
            · rw [List.flatMap_cons, Stretch.lines, List.drop_length_add_append, hdrop]

/-- A statement of a script is that of a block or of the lines left open, and it begins where they
do. -/
theorem exists_of_mem_statements {division : Division} {s : Statement}
    (h : s ∈ division.statements d) :
    (∃ b, .block b ∈ division.stretches ∧ s = b.statement d s.startLine ∧
      LineAt division.lines s.startLine b.first) ∨
    ∃ first more, division.unclosed = first :: more ∧
      d.unclosedStatement s.startLine (first :: more) = some s ∧
      LineAt division.lines s.startLine first := by
  rcases List.mem_append.mp h with h | h
  · obtain ⟨closed, hclosed, rfl⟩ := List.mem_map.mp h
    obtain ⟨b, n, more, hb, hs, hdrop⟩ := exists_block_of_mem_closedFrom hclosed
    rw [Nat.zero_add] at hs
    have hstart : closed.1.startLine = n + 1 := by rw [hs]; rfl
    have hle : n ≤ division.closedLines.length := by
      by_contra hlt
      rw [Division.closedLines, not_le] at hlt
      rw [List.drop_eq_nil_of_le hlt.le] at hdrop
      exact List.cons_ne_nil _ _ hdrop.symm
    have hlines : division.lines.drop n = b.first :: (more ++ division.unclosed) := by
      rw [Division.lines, List.drop_append_of_le_length hle, Division.closedLines, hdrop]
      rfl
    rw [hstart]
    exact .inl ⟨b, hb, hs, lineAt_of_drop hlines⟩
  · rw [Option.mem_toList] at h
    cases hlines : division.unclosed with
    | nil =>
        rw [hlines] at h
        exact absurd h (by simp [Dialect.unclosedStatement])
    | cons first more =>
        rw [hlines] at h
        have hstart : s.startLine = division.closedLines.length + 1 := by
          rw [← Option.some.inj h]
        have hdrop : division.lines.drop division.closedLines.length = first :: more := by
          rw [Division.lines, List.drop_left, hlines]
        rw [hstart]
        exact .inr ⟨first, more, rfl, h, lineAt_of_drop hdrop⟩

end

/-! ### Lines -/

namespace SemicolonLast

variable {line : Text} (h : SemicolonLast line)

include h

theorem mem_iff : ';' ∈ trim line ↔ ";".toList <:+ trim line := by
  refine ⟨fun hmem => ?_, fun hend => hend.subset List.mem_cons_self⟩
  rw [SemicolonLast] at h
  rcases List.eq_nil_or_concat (trim line) with hnil | ⟨init, c, hconcat⟩
  · rw [hnil] at hmem
    exact absurd hmem List.not_mem_nil
  · rw [List.concat_eq_append] at hconcat
    rw [hconcat, List.dropLast_concat] at h
    rw [hconcat, List.mem_append, List.mem_singleton] at hmem
    obtain rfl := hmem.resolve_left h
    exact ⟨init, hconcat.symm⟩

theorem notMem_of_not_suffix (hend : ¬";".toList <:+ trim line) : ';' ∉ line := by
  rw [← mem_trim_iff (by decide), h.mem_iff]
  exact hend

theorem notMem_dropTail : ';' ∉ dropTail ";" (trim line) := by
  by_cases hend : ";".toList <:+ trim line
  · obtain ⟨init, hinit⟩ := hend
    rw [SemicolonLast, ← hinit] at h
    rw [← hinit, dropTail_append]
    simpa using h
  · rw [dropTail_of_not_suffix hend, h.mem_iff]
    exact hend

end SemicolonLast

/-! ### Statements without their semicolons -/

theorem Category.eq_sql_of_spans {c : Category} (h : c.Spans) (hc : c = .sql ∨ c = .command) :
    c = .sql := by
  rcases hc with rfl | rfl
  · rfl
  · rcases h with h | h <;> exact absurd h (by decide)

theorem Category.not_plain_comment : ¬(Category.comment = .sql ∨ Category.comment = .command) := by
  decide

namespace Standard

variable {keywords : Keywords}

/-- A line that leaves a plain statement open has no semicolon. -/
theorem notMem_of_isUnclosed {lines : List Text} (hopen : keywords.dialect.IsUnclosed lines)
    (hplain : ∀ first ∈ lines.head?, (keywords.dialect.kindAt first).category = .sql)
    (hlines : ∀ line ∈ lines, SemicolonLast line) : ∀ line ∈ lines, ';' ∉ line := by
  intro line hline
  cases lines with
  | nil => exact absurd hline List.not_mem_nil
  | cons first more =>
      have hend := hopen.2.2.noEnd line hline
      rw [hplain first rfl] at hend
      exact (hlines line hline).notMem_of_not_suffix
        (hend ";".toList List.mem_cons_self (List.cons_ne_nil _ _))

/-- What is left of the lines of a block without what closed it has no semicolon, unless the block
is a call escape. -/
theorem notMem_pieces {b : Block} (hfits : b.Fits keywords.dialect)
    (hkind : (b.kind keywords.dialect).category = .sql ∨
      (b.kind keywords.dialect).category = .command)
    (hlines : ∀ line ∈ b.lines, SemicolonLast line)
    (hescape : isCallEscape (trim b.first) = false) : ∀ piece ∈ b.pieces, ';' ∉ piece := by
  cases b with
  | comment line => exact absurd hkind Category.not_plain_comment
  | callEscape line => exact absurd (hescape.symm.trans hfits.2.2) Bool.false_ne_true
  | command line =>
      intro piece hpiece
      obtain rfl := List.mem_singleton.mp hpiece
      exact (hlines line List.mem_cons_self).notMem_dropTail
  | byLine first more closing =>
      obtain ⟨hopen, hclosing⟩ := hfits
      have hsql := Category.eq_sql_of_spans hopen.2.1 hkind
      have hkept : kept (trim closing) = [] := by
        refine kept_of_ne fun heq => ?_
        rw [heq, hsql] at hclosing
        have hnot : dollarQuote ∉ ({} : Delimiters).closingLines .sql := by decide
        exact hnot hclosing
      intro piece hpiece
      rcases List.mem_append.mp hpiece with hpiece | hpiece
      · refine notMem_of_isUnclosed hopen ?_ (fun line hl => hlines line ?_) piece hpiece
        · rintro _ ⟨⟩
          exact hsql
        · exact List.mem_append_left _ hl
      · rw [List.mem_singleton.mp hpiece, hkept]
        exact List.not_mem_nil
  | byEnd init last t pad =>
      obtain ⟨hfirst, hopen, -, hend, hpad⟩ := hfits
      have hsql := Category.eq_sql_of_spans (Dialect.spans_of_mem_closingEnds hend.mem) hkind
      have ht : t = ";".toList := by
        have hmem := hend.mem
        rw [hsql] at hmem
        exact List.mem_singleton.mp hmem
      intro piece hpiece
      rcases List.mem_append.mp hpiece with hpiece | hpiece
      · refine notMem_of_isUnclosed hopen ?_ (fun line hl => hlines line ?_) piece hpiece
        · intro first hhead
          cases init with
          | nil => exact absurd hhead (by simp)
          | cons line init =>
              obtain rfl := Option.some.inj hhead
              exact hsql
        · exact List.mem_append_left _ hl
      · -- The only semicolon of the last line is the one that closes the statement.
        have hlast := hlines (last ++ t ++ pad) (by simp [Block.lines])
        rw [SemicolonLast, ht, trim_append_append (by decide) (by decide) hpad] at hlast
        have hrest : ';' ∉ trimStart last := by simpa using hlast
        have hkept : kept ";".toList = [] := kept_of_ne (by decide)
        rw [List.mem_singleton.mp hpiece, ht, hkept, List.append_nil]
        exact fun hmem => hrest ((trimEnd_prefix_self _).subset hmem)

theorem notMem_trimEnd_join {parts : List Text} (h : ∀ part ∈ parts, ';' ∉ part) :
    ';' ∉ trimEnd (join "\n" parts) :=
  fun hmem => notMem_join (by decide) h ((trimEnd_prefix_self _).subset hmem)

/-- The text of a block has a semicolon exactly if the block is a call escape with one. -/
theorem mem_text_block_iff {b : Block} (hfits : b.Fits keywords.dialect)
    (hkind : (b.kind keywords.dialect).category = .sql ∨
      (b.kind keywords.dialect).category = .command)
    (hlines : ∀ line ∈ b.lines, SemicolonLast line) (number : Nat) :
    ';' ∈ (b.statement keywords.dialect number).text ↔
      isCallEscape (trim b.first) ∧ ";".toList <:+ trim b.first := by
  by_cases hescape : isCallEscape (trim b.first) = true
  · -- No other block begins with a line that is a call escape.
    have hnot : ∀ {line : Text}, isCallEscape (trim line) = true →
        ¬keywords.dialect.Classifies line := by
      intro line hline hfirst
      exact Bool.false_ne_true (hfirst.notCallEscape.symm.trans hline)
    cases b with
    | comment line => exact absurd hkind Category.not_plain_comment
    | callEscape line =>
        change ';' ∈ trimEnd (join "\n" [trim line]) ↔ isCallEscape (trim line) ∧ _
        rw [join_singleton, trimEnd_trim, (hlines line List.mem_cons_self).mem_iff]
        exact (and_iff_right hescape).symm
    | command line => exact absurd hfits.1 (hnot hescape)
    | byLine first more closing => exact absurd hfits.1.1 (hnot hescape)
    | byEnd init last t pad => exact absurd hfits.1 (hnot hescape)
  · rw [Bool.not_eq_true] at hescape
    refine iff_of_false (notMem_trimEnd_join (notMem_pieces hfits hkind hlines hescape)) ?_
    rw [hescape]
    exact fun h => Bool.false_ne_true h.1

/-- The statement that is left open has no semicolon in its text. -/
theorem notMem_text_unclosed {lines : List Text} {number : Nat} {s : Statement}
    (hopen : keywords.dialect.IsUnclosed lines)
    (hs : keywords.dialect.unclosedStatement number lines = some s)
    (hkind : s.category = .sql ∨ s.category = .command)
    (hlines : ∀ line ∈ lines, SemicolonLast line) : ';' ∉ s.text := by
  cases lines with
  | nil => exact absurd hs.symm (Option.some_ne_none s)
  | cons first more =>
      obtain rfl := Option.some.inj hs
      have hsql := Category.eq_sql_of_spans hopen.2.1 hkind
      refine notMem_trimEnd_join (List.forall_mem_append.mpr ⟨?_, by simp⟩)
      refine notMem_of_isUnclosed hopen ?_ hlines
      rintro _ ⟨⟩
      exact hsql

/-- Where semicolons only end lines, a plain statement or a client command has one in its text
exactly if it is a call escape that ends with one. -/
theorem semicolon_mem_text_iff (keywords : Keywords) (script : Text)
    (h : ∀ line ∈ linesOf script, SemicolonLast line) :
    ∀ s ∈ keywords.dialect.statementsOf script, s.category = .sql ∨ s.category = .command →
      (';' ∈ s.text ↔ ∃ line, LineAt (linesOf script) s.startLine line ∧
        isCallEscape (trim line) ∧ ";".toList <:+ trim line) := by
  intro s hs hcategory
  obtain ⟨division, hfits, hlines⟩ := keywords.dialect.exists_division (linesOf script)
  rw [Dialect.statementsOf, ← hlines, Dialect.statementsOfLines_division hfits] at hs
  rw [← hlines] at h ⊢
  rcases exists_of_mem_statements hs with ⟨b, hb, hs, hfirst⟩ | ⟨first, more, hopen, hs, hfirst⟩
  · have hblock : ∀ line ∈ b.lines, SemicolonLast line := by
      intro line hline
      exact h line (List.mem_append_left _ (List.mem_flatMap_of_mem hb hline))
    rw [hs] at hcategory
    have hends := mem_text_block_iff (hfits.1 _ hb) hcategory hblock s.startLine
    rwa [hfirst.exists_iff, hs]
  · have hrest : ∀ line ∈ first :: more, SemicolonLast line := by
      intro line hline
      exact h line (List.mem_append_right _ (hopen ▸ hline))
    have hunclosed := hopen ▸ hfits.2
    rw [hfirst.exists_iff]
    refine iff_of_false (notMem_text_unclosed hunclosed hs hcategory hrest) fun hboth => ?_
    exact Bool.false_ne_true (hunclosed.1.notCallEscape.symm.trans hboth.1)

/-- A query, a client command, an open statement and call escapes of both kinds. -/
theorem semicolon_mem_text_iff_forms :
    let script := "select 1\n;\nset x ;\n{call p(?)}\nselect 2;\n{call q};\nselect 3".toList
    (∀ line ∈ linesOf script, SemicolonLast line) ∧
      ∀ s ∈ Keywords.standard.dialect.statementsOf script,
        s.category = .sql ∨ s.category = .command →
          (';' ∈ s.text ↔ ∃ line, LineAt (linesOf script) s.startLine line ∧
            isCallEscape (trim line) ∧ ";".toList <:+ trim line) := by
  intro script
  have h : ∀ line ∈ linesOf script, SemicolonLast line := by decide +kernel
  exact ⟨h, semicolon_mem_text_iff Keywords.standard script h⟩

/-- The semicolon behind a call escape stays in its text. -/
theorem statementsOf_callEscape_semicolon :
    let script := "{call p(?)};\n".toList
    (∀ line ∈ linesOf script, SemicolonLast line) ∧
      Keywords.standard.dialect.statementsOf script =
        [⟨.callable, "{call p(?)};".toList, 1⟩] ∧
      Kind.callable.category = .sql := by
  decide +kernel

end Standard

end SqlScript
