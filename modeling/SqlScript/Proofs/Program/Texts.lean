import SqlScript.Proofs.Program.Script
import SqlScript.Proofs.Scan.Semicolons

/-!
The texts of the statements of a script with the standard delimiters. What closes a statement is cut
off, and something is always left: a line that is nothing but a terminator starts no statement or
has no keyword that makes it one which the terminator closes. So every statement has ink, and a
listing shows no empty text.
-/

namespace SqlScript

open Text Delimiters

/-- Whether a text has ink and ends with it. -/
structure Text.EndsInInk (s : Text) : Prop where
  hasInk : ∃ c ∈ s, ¬isBlank c
  lastInk : ∀ c ∈ s.getLast?, ¬isBlank c

/-- Where a statement comes from: the lines of a block, or lines that are left open. -/
inductive Dialect.Yields (d : Dialect) : Statement → Prop where
  | block {b : Block} (number : Nat) (hfits : b.Fits d) : Yields d (b.statement d number)
  | unclosed {first : Text} {more : List Text} (number : Nat)
      (hopen : d.IsUnclosed (first :: more)) :
      Yields d ⟨d.kindAt first,
        trimEnd (join d.delimiters.lineSeparator (first :: more ++ [[]])), number⟩

theorem Text.endsInInk_trimEnd {s : Text} (h : ¬IsBlankText s) : EndsInInk (trimEnd s) := by
  have hne : trimEnd s ≠ [] := mt trimEnd_eq_nil_iff.mp h
  have hlast := not_isBlank_getLast_trimEnd hne
  refine ⟨⟨_, List.getLast_mem hne, hlast⟩, ?_⟩
  rw [List.getLast?_eq_some_getLast hne]
  rintro _ ⟨⟩
  exact hlast

/-! ### Where statements come from -/

namespace Dialect

variable {d : Dialect}

theorem not_isBlankText_of_not_separates {line : Text} (h : ¬d.Separates line) :
    ¬IsBlankText line := fun hblank => h (.inl (trim_eq_nil_iff.mpr hblank))

theorem yields_of_mem_statementsOfLines {lines : List Text} {s : Statement}
    (h : s ∈ d.statementsOfLines lines) : d.Yields s := by
  obtain ⟨division, hfits, rfl⟩ := d.exists_division lines
  rw [statementsOfLines_division hfits] at h
  rcases exists_of_mem_statements h with ⟨b, hb, hs, -⟩ | ⟨first, more, hopen, hs, -⟩
  · rw [hs]
    exact .block _ (hfits.1 _ hb)
  · rw [← Option.some.inj hs]
    exact .unclosed _ (hopen ▸ hfits.2)

def statementOf? : Outcome × Nat → Option Statement
  | (.statement s, _) => some s
  | _ => none

theorem filterMap_outcomes (d : Dialect) (lines : List Text) :
    (d.outcomes ⟨lines, none⟩).filterMap statementOf? = d.statementsOfLines lines := by
  simp only [outcomes, statementsOfLines, ending, List.filterMap_append, List.filterMap_map]
  cases (d.scan lines).pending <;> simp [statementOf?, Function.comp_def]

/-- A fault takes away the statement that it leaves open. -/
theorem filterMap_outcomes_prefix_statements (d : Dialect) (reading : Reading) :
    (d.outcomes reading).filterMap statementOf? <+: d.statementsOfLines reading.lines := by
  obtain ⟨lines, fault⟩ := reading
  cases fault with
  | none => exact d.filterMap_outcomes lines ▸ List.prefix_rfl
  | some fault =>
      have hclosed : (d.outcomes ⟨lines, some fault⟩).filterMap statementOf? =
          (d.scan lines).closed.map Prod.fst := by
        simp [outcomes, ending, statementOf?, List.filterMap_append, List.filterMap_map,
          Function.comp_def]
      rw [hclosed]
      exact List.prefix_append _ _

theorem yields_of_mem_outcomes {reading : Reading} {s : Statement} {n : Nat}
    (h : (.statement s, n) ∈ d.outcomes reading) : d.Yields s := by
  have hmem : s ∈ (d.outcomes reading).filterMap statementOf? :=
    List.mem_filterMap.mpr ⟨_, h, rfl⟩
  apply yields_of_mem_statementsOfLines
  exact (d.filterMap_outcomes_prefix_statements reading).subset hmem

end Dialect

namespace Standard

variable {keywords : Keywords}

/-! ### What is left of a statement -/

/-- A line that starts a statement is more than a terminator of it: a line of the slashes alone has
no keyword, and any other terminator separates statements. -/
theorem notMem_closingEnds {line : Text} (h : keywords.dialect.Classifies line) :
    trim line ∉ ({} : Delimiters).closingEnds (keywords.dialect.kindAt line).category := by
  intro hmem
  have hends : ∀ category, ∀ t ∈ ({} : Delimiters).closingEnds category,
      t ∈ separators ∨ t = "//".toList := by
    intro category
    cases category <;> decide
  rcases hends _ _ hmem with hseparator | hslashes
  · exact separates_iff.not.mp h.begins hseparator
  · have hkind : (keywords.dialect.kindAt line).category = .sql := by
      rw [category_kindAt, categoryAt, hslashes]
      rfl
    rw [hkind, hslashes] at hmem
    exact absurd hmem (by decide)

theorem not_isBlankText_dropTail {line : Text} (h : keywords.dialect.Classifies line) :
    ¬IsBlankText (dropTail ";" (trim line)) := by
  intro hblank
  by_cases hend : ";".toList <:+ trim line
  · obtain ⟨init, hinit⟩ := hend
    rw [← hinit, dropTail_append] at hblank
    have hline : trim line = ";".toList := by
      rw [← trim_trim, ← hinit, trim_append_left _ hblank]
      decide
    have hmem : trim line ∈ separators := by
      rw [hline]
      decide
    exact separates_iff.not.mp h.begins hmem
  · rw [dropTail_of_not_suffix hend, isBlankText_trim] at hblank
    exact Dialect.not_isBlankText_of_not_separates h.begins hblank

/-- In front of the terminator of a line that starts a statement something is left. -/
theorem not_isBlankText_of_mem_closingEnds {last t pad : Text}
    (h : keywords.dialect.Classifies (last ++ t ++ pad)) (hpad : IsBlankText pad)
    (ht : t ∈ ({} : Delimiters).closingEnds
      (keywords.dialect.kindAt (last ++ t ++ pad)).category) : ¬IsBlankText last := by
  intro hlast
  have htrim : ∀ category, ∀ t ∈ ({} : Delimiters).closingEnds category, t ≠ [] ∧ trim t = t := by
    intro category
    cases category <;> decide
  obtain ⟨hne, hself⟩ := htrim _ _ ht
  refine notMem_closingEnds h ?_
  rwa [trim_append_append hne hself hpad, trimStart_eq_nil_iff.mpr hlast, List.nil_append]

/-- Of the lines of a block something is left without what closed it. -/
theorem exists_solid_piece {b : Block} (hfits : b.Fits keywords.dialect) :
    ∃ piece ∈ b.pieces, ¬IsBlankText piece := by
  cases b with
  | comment line =>
      exact ⟨line, List.mem_cons_self, Dialect.not_isBlankText_of_not_separates hfits.1⟩
  | callEscape line =>
      refine ⟨trim line, List.mem_cons_self, ?_⟩
      rw [isBlankText_trim]
      exact Dialect.not_isBlankText_of_not_separates hfits.1
  | command line => exact ⟨_, List.mem_cons_self, not_isBlankText_dropTail hfits.1⟩
  | byLine first more closing =>
      exact ⟨first, List.mem_cons_self, Dialect.not_isBlankText_of_not_separates hfits.1.1.begins⟩
  | byEnd init last t pad =>
      obtain ⟨hfirst, -, -, hend, hpad⟩ := hfits
      cases init with
      | nil =>
          refine ⟨_, List.mem_cons_self, fun hblank => ?_⟩
          rw [isBlankText_trim, isBlankText_append] at hblank
          exact not_isBlankText_of_mem_closingEnds hfirst hpad hend.mem hblank.1
      | cons first more =>
          exact ⟨first, List.mem_cons_self, Dialect.not_isBlankText_of_not_separates hfirst.begins⟩

theorem endsInInk_trimEnd_join {separator piece : Text} {pieces : List Text}
    (hmem : piece ∈ pieces) (hink : ¬IsBlankText piece) :
    EndsInInk (trimEnd (join separator pieces)) :=
  endsInInk_trimEnd fun hblank => hink fun c hc => hblank c (mem_join_of_mem hmem hc)

theorem endsInInk_of_yields {s : Statement} (h : keywords.dialect.Yields s) :
    s.text.EndsInInk := by
  cases h with
  | block number hfits =>
      obtain ⟨piece, hmem, hink⟩ := exists_solid_piece hfits
      exact endsInInk_trimEnd_join hmem hink
  | unclosed number hopen =>
      have hink := Dialect.not_isBlankText_of_not_separates hopen.1.begins
      exact endsInInk_trimEnd_join List.mem_cons_self hink

end Standard

/-! ### The listing of a script -/

namespace Program

open Reading

variable {w : World} {settings : Settings} {path : Text} {statements : List Statement}

theorem exists_lines_of_readStatements (h : readStatements w settings path = .ok statements) :
    ∃ lines, statements = (dialect settings).statementsOfLines lines := by
  rw [readStatements] at h
  cases hread : readScript w path with
  | error f =>
      rw [hread] at h
      cases h
  | ok reading =>
      rw [hread] at h
      change Dialect.statements _ reading = _ at h
      rw [Dialect.statements] at h
      cases hfault : reading.fault with
      | some fault =>
          rw [hfault] at h
          cases h
      | none =>
          rw [hfault] at h
          exact ⟨reading.lines, (Except.ok.inj h).symm⟩

theorem yields_of_readStatements (hdelimiters : settings.delimiters = {})
    (h : readStatements w settings path = .ok statements) :
    ∀ s ∈ statements, Keywords.standard.dialect.Yields s := by
  obtain ⟨lines, rfl⟩ := exists_lines_of_readStatements h
  intro s hs
  rw [dialect, hdelimiters] at hs
  exact Dialect.yields_of_mem_statementsOfLines hs

theorem exists_of_split {style : ListingStyle} {executable : Bool} {listing : Text}
    (h : split w settings style path executable = .ok listing) :
    ∃ statements, readStatements w settings path = .ok statements ∧
      listing = Listing.statements style
        (if executable then statements.filter (·.isExecutable) else statements) := by
  rw [split] at h
  cases hread : readStatements w settings path with
  | error f =>
      rw [hread] at h
      cases h
  | ok statements =>
      rw [hread] at h
      exact ⟨statements, rfl, (Except.ok.inj h).symm⟩

/-- With the standard delimiters, whatever the keywords are, each statement of a script has ink and
ends with it. So the listing of a script shows no empty text. -/
theorem outcomes_endInInk :
    (∀ (keywords : Keywords) (reading : Reading) (s : Statement) (n : Nat),
      (.statement s, n) ∈ keywords.dialect.outcomes reading → s.text.EndsInInk) ∧
    ∀ (w : World) (settings : Settings) (style : ListingStyle) (path : Text) (executable : Bool)
      (listing : Text), settings.delimiters = {} →
        split w settings style path executable = .ok listing →
          ∃ statements shown, readStatements w settings path = .ok statements ∧
            shown = (if executable then statements.filter (·.isExecutable) else statements) ∧
            listing = Listing.statements style shown ∧ ∀ s ∈ shown, s.text.EndsInInk := by
  refine ⟨fun keywords reading s n h => ?_, ?_⟩
  · exact Standard.endsInInk_of_yields (Dialect.yields_of_mem_outcomes h)
  · intro w settings style path executable listing hdelimiters hsplit
    obtain ⟨statements, hread, hlisting⟩ := exists_of_split hsplit
    refine ⟨statements, _, hread, rfl, hlisting, fun s hs => ?_⟩
    have hmem : s ∈ statements := by
      cases executable with
      | true => exact List.mem_of_mem_filter hs
      | false => exact hs
    exact Standard.endsInInk_of_yields (yields_of_readStatements hdelimiters hread s hmem)

/-- Slashes that close a block, and slashes that are a statement of their own. -/
theorem outcomes_endInInk_slashes :
    let keywords : Keywords := ⟨[(["BEGIN".toList], .block)]⟩
    let block : Statement := ⟨.block, "begin", 1⟩
    let slashes : Statement := ⟨.unknown, "//", 1⟩
    let script := "//;\n".toList
    let w : World := { input := ⟨encode script, none⟩, file := fun _ => .error .missing }
    let listing := "Statement #1 (SQL):\n//\n\n".toList
    (.statement block, 1) ∈ keywords.dialect.outcomes (ofText "begin //\n/\n".toList) ∧
      block.text.EndsInInk ∧ ({} : Settings).delimiters = {} ∧
      split w {} ⟨.text, false, false⟩ inputPath true = .ok listing ∧
      ∃ shown, shown = [slashes] ∧
        listing = Listing.statements ⟨.text, false, false⟩ shown ∧
        ∀ s ∈ shown, s.text.EndsInInk := by
  intro keywords block slashes script w listing
  have hmem : (.statement block, 1) ∈
      keywords.dialect.outcomes (ofText "begin //\n/\n".toList) := by decide +kernel
  have hstatements : (dialect {}).statementsOf script = [slashes] := by decide +kernel
  have hscript : readStatements w {} inputPath = .ok [slashes] := by
    rw [readStatements_of_reads {} ⟨_, .input, rfl, decode?_encode script⟩, hstatements]
  have hsplit : split w {} ⟨.text, false, false⟩ inputPath true = .ok listing := by
    rw [split, hscript]
    decide +kernel
  obtain ⟨statements, shown, hread, hshown, hlisting, hink⟩ :=
    outcomes_endInInk.2 w {} _ inputPath true listing rfl hsplit
  obtain rfl := Except.ok.inj (hscript.symm.trans hread)
  exact ⟨hmem, outcomes_endInInk.1 _ _ block 1 hmem, rfl, hsplit, shown, hshown, hlisting, hink⟩

end Program

end SqlScript
