import SqlScript.Proofs.Scan.Division
import SqlScript.Proofs.Scan.Layout

/-!
Scripts that are written to be read back, with the standard delimiters. A script is written from
statements in any of their forms, each with a way of closing it that its lines do not use
themselves, and lines between them that only separate. Scanning it gives these statements.
-/

namespace SqlScript

open Text Reading Delimiters

def Keywords.dialect (keywords : Keywords) : Dialect := { keywords := keywords }

namespace Standard

/-- Lines that separate statements, without the blanks around them. -/
def separators : List Text := ["", ";", "/", ".", "$$;"]

/-- A line that starts a statement which its keywords decide about. -/
structure StartsByKeyword (line : Text) : Prop where
  notSeparator : trim line ∉ separators
  notDashes : ¬"--".toList <+: trim line
  notHash : ¬"#".toList <+: trim line
  notCallEscape : isCallEscape (trim line) = false

instance (line : Text) : Decidable (StartsByKeyword line) :=
  decidable_of_iff (trim line ∉ separators ∧ ¬"--".toList <+: trim line ∧
      ¬"#".toList <+: trim line ∧ isCallEscape (trim line) = false)
    ⟨fun h => ⟨h.1, h.2.1, h.2.2.1, h.2.2.2⟩, fun h => ⟨h.1, h.2, h.3, h.4⟩⟩

/-- A line of a statement of the category that does not close it. -/
def IsInner (category : Category) (line : Text) : Prop :=
  match category with
  | .sql => trim line ≠ [] ∧ trim line ≠ "/".toList ∧ ¬";".toList <:+ trim line
  | .psql => trim line ≠ ".".toList ∧ trim line ≠ "/".toList ∧ ¬"//".toList <:+ trim line ∧
      ¬"$$;".toList <:+ trim line
  | .command | .comment => False

instance (category : Category) (line : Text) : Decidable (IsInner category line) := by
  cases category <;> dsimp only [IsInner] <;> infer_instance

def IsClosing (category : Category) (line : Text) : Prop :=
  match category with
  | .sql => trim line ∈ (["", ";", "/"] : List Text)
  | .psql => trim line ∈ ([".", "/", "$$;"] : List Text)
  | .command | .comment => False

instance (category : Category) (line : Text) : Decidable (IsClosing category line) := by
  cases category <;> dsimp only [IsClosing] <;> infer_instance

/-- A terminator that closes a statement of the category at the end of a line, behind `last`. -/
def IsEnd (category : Category) (last terminator : Text) : Prop :=
  match category with
  | .sql => terminator = ";".toList ∧ trim last ≠ []
  | .psql => terminator = "//".toList ∨ terminator = "$$;".toList
  | .command | .comment => False

instance (category : Category) (last terminator : Text) :
    Decidable (IsEnd category last terminator) := by
  cases category <;> dsimp only [IsEnd] <;> infer_instance

/-- The category that the keywords of a first line stand for. -/
def categoryAt (keywords : Keywords) (line : Text) : Category :=
  (keywords.classify (trim line)).category

/-- The lines of a statement that nothing closes, none of which closes it. -/
def IsOpen (keywords : Keywords) : List Text → Prop
  | [] => True
  | first :: more => StartsByKeyword first ∧
      ∀ line ∈ first :: more, IsInner (categoryAt keywords first) line

instance (keywords : Keywords) (lines : List Text) : Decidable (IsOpen keywords lines) := by
  cases lines <;> dsimp only [IsOpen] <;> infer_instance

/-- Whether the lines of a block are those of one statement. -/
def IsBlock (keywords : Keywords) : Block → Prop
  | .comment line => "--".toList <+: trim line ∨ "#".toList <+: trim line
  | .callEscape line => isCallEscape (trim line) = true
  | .command line => StartsByKeyword line ∧ ¬(categoryAt keywords line).Spans
  | .byLine first more closing => StartsByKeyword first ∧
      (∀ line ∈ first :: more, IsInner (categoryAt keywords first) line) ∧
      IsClosing (categoryAt keywords first) closing
  | b@(.byEnd init last terminator pad) => StartsByKeyword b.first ∧
      (∀ line ∈ init, IsInner (categoryAt keywords b.first) line) ∧
      IsEnd (categoryAt keywords b.first) last terminator ∧ IsBlankText pad

instance (keywords : Keywords) (b : Block) : Decidable (IsBlock keywords b) := by
  cases b <;> dsimp only [IsBlock] <;> infer_instance

/-- Whether the lines of a stretch are those of one statement or only separate statements. -/
def IsStretch (keywords : Keywords) : Stretch → Prop
  | .gap line => trim line ∈ separators
  | .block b => IsBlock keywords b

instance (keywords : Keywords) (stretch : Stretch) : Decidable (IsStretch keywords stretch) := by
  cases stretch <;> dsimp only [IsStretch] <;> infer_instance

/-- Whether the stretches of a script can be told apart again. -/
def IsScript (keywords : Keywords) (division : Division) : Prop :=
  (∀ stretch ∈ division.stretches, IsStretch keywords stretch) ∧ IsOpen keywords division.unclosed

instance (keywords : Keywords) (division : Division) : Decidable (IsScript keywords division) :=
  inferInstanceAs (Decidable (_ ∧ _))

def textOf : Block → Text
  | .comment line => trimEnd line
  | .callEscape line => trim line
  | .command line => trimEnd (dropTail ";" (trim line))
  | .byLine first more closing =>
    trimEnd (join "\n" (first :: more ++ if trim closing = dollarQuote then ["$$".toList] else []))
  | .byEnd init last terminator _ =>
    trimEnd (join "\n" (init ++ [trim (last ++ kept terminator)]))

def kindOf (keywords : Keywords) : Block → Kind
  | .comment _ => .comment
  | .callEscape _ => .callable
  | b => keywords.classify (trim b.first)

def statementsFrom (keywords : Keywords) (number : Nat) : List Stretch → List Statement
  | [] => []
  | .gap _ :: stretches => statementsFrom keywords (number + 1) stretches
  | .block b :: stretches =>
    ⟨kindOf keywords b, textOf b, number + 1⟩ ::
      statementsFrom keywords (number + b.lines.length) stretches

def openStatement (keywords : Keywords) (number : Nat) : List Text → List Statement
  | [] => []
  | first :: more =>
    [⟨keywords.classify (trim first), trimEnd (join "\n" (first :: more)), number + 1⟩]

def statements (keywords : Keywords) (division : Division) : List Statement :=
  statementsFrom keywords 0 division.stretches ++
    openStatement keywords division.closedLines.length division.unclosed

/-! ### The conditions in terms of the scan -/

variable {keywords : Keywords}

theorem separates_iff {line : Text} : keywords.dialect.Separates line ↔ trim line ∈ separators := by
  simp only [Dialect.Separates, Keywords.dialect, separators, List.mem_cons, List.not_mem_nil]
  grind

theorem isComment_iff {line : Text} : keywords.dialect.delimiters.isComment line = true ↔
    "--".toList <+: line ∨ "#".toList <+: line := by
  simp [Delimiters.isComment, Keywords.dialect]

theorem kindAt_eq (line : Text) : keywords.dialect.kindAt line = keywords.classify (trim line) := by
  rw [Dialect.kindAt, Keywords.dialect]

theorem category_kindAt (line : Text) :
    (keywords.dialect.kindAt line).category = categoryAt keywords line := by
  rw [kindAt_eq, categoryAt]

theorem StartsByKeyword.classifies {line : Text} (h : StartsByKeyword line) :
    keywords.dialect.Classifies line where
  begins := separates_iff.not.mpr h.notSeparator
  notComment := by
    rw [← Bool.not_eq_true, isComment_iff]
    exact fun hc => hc.elim h.notDashes h.notHash
  notCallEscape := h.notCallEscape

theorem IsInner.spans {c : Category} {line : Text} (h : IsInner c line) : c.Spans := by
  cases c <;> simp [IsInner, Category.Spans] at h ⊢

theorem IsInner.hasNoEnd {c : Category} {line : Text} (h : IsInner c line) :
    keywords.dialect.HasNoEnd c line := by
  cases c with
  | sql => simpa [Dialect.HasNoEnd, Keywords.dialect, closingEnds] using h.2.2
  | psql => simpa [Dialect.HasNoEnd, Keywords.dialect, closingEnds] using h.2.2
  | command => exact h.elim
  | comment => exact h.elim

theorem IsInner.not_closes {c : Category} {line : Text} (h : IsInner c line) :
    trim line ∉ keywords.dialect.delimiters.closingLines c := by
  intro hmem
  cases c with
  | sql =>
    obtain ⟨hblank, hslash, hend⟩ := h
    simp only [Keywords.dialect, closingLines, List.mem_cons, List.not_mem_nil,
      or_false] at hmem
    rcases hmem with h | h | h
    · exact hend (h ▸ List.suffix_rfl)
    · exact hslash h
    · exact hblank h
  | psql =>
    obtain ⟨hdot, hslash, -, hend⟩ := h
    simp only [Keywords.dialect, closingLines, List.mem_cons, List.not_mem_nil,
      or_false] at hmem
    rcases hmem with h | h | h
    · exact hdot h
    · exact hslash h
    · exact hend (h ▸ List.suffix_rfl)
  | command => exact h
  | comment => exact h

theorem isClosing_iff {c : Category} {line : Text} :
    IsClosing c line ↔ trim line ∈ keywords.dialect.delimiters.closingLines c := by
  cases c <;> simp [IsClosing, Keywords.dialect, closingLines]
  grind

theorem isUnclosed_of_isOpen {lines : List Text} (h : IsOpen keywords lines) :
    keywords.dialect.IsUnclosed lines := by
  cases lines with
  | nil => trivial
  | cons first more =>
    obtain ⟨hfirst, hinner⟩ := h
    rw [Dialect.IsUnclosed, category_kindAt]
    exact ⟨hfirst.classifies, (hinner first List.mem_cons_self).spans,
      fun line hl => (hinner line hl).hasNoEnd,
      fun line hl => (hinner line (List.mem_of_mem_tail hl)).not_closes⟩

theorem IsEnd.cases {c : Category} {last t : Text} (h : IsEnd c last t) :
    c = .sql ∧ t = ";".toList ∧ ¬IsBlankText last ∨ c = .psql ∧ t = "//".toList ∨
      c = .psql ∧ t = "$$;".toList := by
  cases c with
  | sql => exact .inl ⟨rfl, h.1, fun hb => h.2 (trim_eq_nil_iff.mpr hb)⟩
  | psql => exact h.elim (fun h => .inr (.inl ⟨rfl, h⟩)) fun h => .inr (.inr ⟨rfl, h⟩)
  | command => exact h.elim
  | comment => exact h.elim

theorem IsEnd.trim_eq {c : Category} {last t pad : Text} (h : IsEnd c last t)
    (hpad : IsBlankText pad) : t ≠ [] ∧ trim (last ++ t ++ pad) = trimStart last ++ t := by
  have ht : t ≠ [] ∧ trim t = t := by
    rcases h.cases with ⟨-, rfl, -⟩ | ⟨-, rfl⟩ | ⟨-, rfl⟩ <;> decide
  exact ⟨ht.1, trim_append_append ht.1 ht.2 hpad⟩

/-- The standard terminators of a category do not end in one another. -/
theorem IsEnd.isLongestEnd {c : Category} {last t pad : Text} (h : IsEnd c last t)
    (hpad : IsBlankText pad) :
    IsLongestEnd (keywords.dialect.delimiters.closingEnds c)
      (trim (last ++ t ++ pad)) t := by
  obtain ⟨hne, htrim⟩ := h.trim_eq hpad
  rw [htrim]
  refine ⟨?_, hne, List.suffix_append _ _, fun u hu hs => ?_⟩
  · rcases h.cases with ⟨rfl, rfl, -⟩ | ⟨rfl, rfl⟩ | ⟨rfl, rfl⟩ <;>
      simp [Keywords.dialect, closingEnds]
  · -- Terminators at the end of one line share their last character.
    have hlast : u.getLast? = t.getLast? ∨ u = [] := by
      obtain ⟨v, hv⟩ := hs
      by_cases hu : u = []
      · exact .inr hu
      · have := congrArg List.getLast? hv
        rw [List.getLast?_append_of_ne_nil _ hu, List.getLast?_append_of_ne_nil _ hne] at this
        exact .inl this
    rcases h.cases with ⟨rfl, rfl, -⟩ | ⟨rfl, rfl⟩ | ⟨rfl, rfl⟩ <;>
      simp [Keywords.dialect, closingEnds] at hu <;> grind

/-- The only terminator at the end of a line that can be all of a closing line is the one of a
dollar-quoted body. -/
theorem IsEnd.closes_iff {c : Category} {last t pad : Text} (h : IsEnd c last t)
    (hpad : IsBlankText pad) :
    trim (last ++ t ++ pad) ∈ keywords.dialect.delimiters.closingLines c ↔
      t = "$$;".toList ∧ IsBlankText last := by
  rw [(h.trim_eq hpad).2, ← trimStart_eq_nil_iff]
  rcases h.cases with ⟨rfl, rfl, hlast⟩ | ⟨rfl, rfl⟩ | ⟨rfl, rfl⟩
  · rw [← trimStart_eq_nil_iff] at hlast
    simp [Keywords.dialect, closingLines, hlast, List.append_eq_cons_iff]
  · simp [Keywords.dialect, closingLines, List.append_eq_cons_iff]
    intro rest _ hrest
    simpa using congrArg List.getLast? hrest
  · simp [Keywords.dialect, closingLines, List.append_eq_cons_iff]

theorem head?_of_isCallEscape {line : Text} (h : isCallEscape line = true) :
    line.head? = some '{' := by
  have hprefix : trimEnd (dropTail ";" line) <+: line :=
    (trimEnd_prefix_self _).trans (dropTail_prefix_self _ _)
  simp only [isCallEscape, Bool.and_eq_true, beq_iff_eq] at h
  obtain ⟨rest, hrest⟩ := hprefix
  rw [← hrest, List.head?_append, h.1.2]
  rfl

theorem not_separates_of_isCallEscape {line : Text} (h : isCallEscape (trim line) = true) :
    ¬keywords.dialect.Separates line := by
  rw [separates_iff]
  intro hmem
  have hhead := head?_of_isCallEscape h
  simp only [separators, List.mem_cons, List.not_mem_nil, or_false] at hmem
  rcases hmem with h | h | h | h | h <;> simp [h] at hhead

theorem not_isComment_of_isCallEscape {line : Text} (h : isCallEscape line = true) :
    keywords.dialect.delimiters.isComment line = false := by
  rw [← Bool.not_eq_true, isComment_iff]
  have hhead := head?_of_isCallEscape h
  rintro (⟨rest, rfl⟩ | ⟨rest, rfl⟩) <;> simp at hhead

theorem not_separates_of_isComment {line : Text}
    (h : "--".toList <+: trim line ∨ "#".toList <+: trim line) :
    ¬keywords.dialect.Separates line := by
  rw [separates_iff]
  intro hmem
  simp only [separators, List.mem_cons, List.not_mem_nil, or_false] at hmem
  rcases hmem with h' | h' | h' | h' | h' <;> simp [h'] at h

/-! ### What is written is read -/

theorem kindOf_eq (b : Block) : b.kind keywords.dialect = kindOf keywords b := by
  cases b <;> simp [Block.kind, kindOf, kindAt_eq]

theorem isBlankText_lineSeparator : IsBlankText keywords.dialect.delimiters.lineSeparator := by
  show IsBlankText "\n".toList
  decide

theorem textOf_eq (b : Block) :
    trimEnd (join keywords.dialect.delimiters.lineSeparator b.pieces) = textOf b := by
  cases b with
  | comment line => simp [Block.pieces, textOf]
  | callEscape line => simp [Block.pieces, textOf]
  | command line => simp [Block.pieces, textOf]
  | byLine first more closing =>
    by_cases h : trim closing = dollarQuote
    · rw [Block.pieces, textOf, if_pos h, h, kept_dollarQuote]
      rfl
    · have hsep : IsBlankText keywords.dialect.delimiters.lineSeparator := isBlankText_lineSeparator
      have hblank := trimEnd_join_concat_blank hsep isBlankText_nil (first :: more)
      rw [Block.pieces, textOf, if_neg h, kept_of_ne h, hblank, List.append_nil]
      rfl
  | byEnd init last t pad => rfl

/-- The text is the same whether a dollar quote is taken for a closing line or for a closing end. -/
theorem textOf_dollarQuote {last pad : Text} (first : Text) (more : List Text)
    (hlast : IsBlankText last) (hline : trim (last ++ dollarQuote ++ pad) = dollarQuote) :
    textOf (.byLine first more (last ++ dollarQuote ++ pad)) =
      textOf (.byEnd (first :: more) last dollarQuote pad) := by
  have hkept : trim (last ++ kept dollarQuote) = "$$".toList := by
    rw [trim_append_left _ hlast]
    decide
  rw [textOf, textOf, if_pos hline, ← hkept]

/-- A block is read as its statement. In front of a dollar quote the body may end with blanks, and
then it is the whole line that closes the statement. -/
theorem exists_fits_of_isBlock {b : Block} (h : IsBlock keywords b) :
    ∃ b' : Block, b'.Fits keywords.dialect ∧ b'.lines = b.lines ∧
      ∀ number, b'.statement keywords.dialect number = ⟨kindOf keywords b, textOf b, number⟩ := by
  have hself : b.Fits keywords.dialect →
      ∃ b' : Block, b'.Fits keywords.dialect ∧ b'.lines = b.lines ∧
        ∀ number, b'.statement keywords.dialect number = ⟨kindOf keywords b, textOf b, number⟩ :=
    fun hfits => ⟨b, hfits, rfl, fun number => by rw [Block.statement, kindOf_eq, textOf_eq]⟩
  cases b with
  | comment line => exact hself ⟨not_separates_of_isComment h, isComment_iff.mpr h⟩
  | callEscape line =>
    exact hself ⟨not_separates_of_isCallEscape h, not_isComment_of_isCallEscape h, h⟩
  | command line => exact hself ⟨h.1.classifies, by rw [category_kindAt]; exact h.2⟩
  | byLine first more closing =>
    obtain ⟨hfirst, hinner, hclosing⟩ := h
    refine hself ⟨isUnclosed_of_isOpen ⟨hfirst, hinner⟩, ?_⟩
    rw [category_kindAt]
    exact isClosing_iff.mp hclosing
  | byEnd init last t pad =>
    obtain ⟨hfirst, hinner, hend, hpad⟩ := h
    have hopen : keywords.dialect.IsUnclosed init := by
      cases init with
      | nil => trivial
      | cons first more => exact isUnclosed_of_isOpen ⟨hfirst, hinner⟩
    -- A dollar quote on a line of its own is a closing line, so this one form is read as another.
    by_cases hdollar : init ≠ [] ∧ t = "$$;".toList ∧ IsBlankText last
    · obtain ⟨hne, rfl, hlast⟩ := hdollar
      obtain ⟨first, more, rfl⟩ := List.exists_cons_of_ne_nil hne
      have hline : trim (last ++ "$$;".toList ++ pad) = "$$;".toList := by
        rw [(hend.trim_eq hpad).2, trimStart_eq_nil_iff.mpr hlast, List.nil_append]
      refine ⟨.byLine first more (last ++ "$$;".toList ++ pad), ⟨hopen, ?_⟩, rfl, fun number => ?_⟩
      · rw [category_kindAt]
        exact (hend.closes_iff hpad).mpr ⟨rfl, hlast⟩
      · have htext := textOf_dollarQuote first more hlast hline
        rw [Block.statement, kindOf_eq, textOf_eq, ← dollarQuote, htext]
        rfl
    · refine hself ⟨hfirst.classifies, hopen, fun hne => ?_, ?_, hpad⟩
      · rw [category_kindAt, hend.closes_iff hpad]
        exact fun hd => hdollar ⟨hne, hd⟩
      · rw [category_kindAt]
        exact hend.isLongestEnd hpad

/-- Stretches are read as the statements that they were written from. -/
theorem exists_fits_of_isStretch {stretches : List Stretch}
    (h : ∀ stretch ∈ stretches, IsStretch keywords stretch) :
    ∃ stretches' : List Stretch, (∀ stretch ∈ stretches', stretch.Fits keywords.dialect) ∧
      stretches'.flatMap Stretch.lines = stretches.flatMap Stretch.lines ∧
      ∀ number, (Stretch.closedFrom keywords.dialect number stretches').map Prod.fst =
        statementsFrom keywords number stretches := by
  induction stretches with
  | nil => exact ⟨[], by simp, rfl, fun _ => rfl⟩
  | cons stretch stretches ih =>
    obtain ⟨hstretch, hrest⟩ := List.forall_mem_cons.mp h
    obtain ⟨stretches', hfits, hlines, hstatements⟩ := ih hrest
    cases stretch with
    | gap line =>
      have hline : (Stretch.gap line).Fits keywords.dialect := separates_iff.mpr hstretch
      refine ⟨.gap line :: stretches', List.forall_mem_cons.mpr ⟨hline, hfits⟩, ?_,
        fun number => ?_⟩
      · rw [List.flatMap_cons, List.flatMap_cons, hlines]
      · exact hstatements (number + 1)
    | block b =>
      obtain ⟨b', hb', hblines, hstatement⟩ := exists_fits_of_isBlock hstretch
      have hblock : (Stretch.block b').Fits keywords.dialect := hb'
      refine ⟨.block b' :: stretches', List.forall_mem_cons.mpr ⟨hblock, hfits⟩, ?_,
        fun number => ?_⟩
      · rw [List.flatMap_cons, List.flatMap_cons, hlines, Stretch.lines, Stretch.lines, hblines]
      · rw [Stretch.closedFrom, List.map_cons, statementsFrom, hstatement, hblines, hstatements]

theorem unclosedStatement_eq (number : Nat) (lines : List Text) :
    (keywords.dialect.unclosedStatement (number + 1) lines).toList =
      openStatement keywords number lines := by
  cases lines with
  | nil => rfl
  | cons first more =>
    rw [Dialect.unclosedStatement, openStatement, Option.toList_some, kindAt_eq,
      trimEnd_join_concat_blank isBlankText_lineSeparator isBlankText_nil]
    rfl

theorem statementsOfLines_isScript {division : Division} (h : IsScript keywords division) :
    keywords.dialect.statementsOfLines division.lines = statements keywords division := by
  obtain ⟨hstretches, hopen⟩ := h
  obtain ⟨stretches, hfits, hlines, hstatements⟩ := exists_fits_of_isStretch hstretches
  have hself : Division.lines ⟨stretches, division.unclosed⟩ = division.lines := by
    rw [Division.lines, Division.lines, Division.closedLines, hlines, Division.closedLines]
  have hfit : Division.Fits keywords.dialect ⟨stretches, division.unclosed⟩ :=
    ⟨hfits, isUnclosed_of_isOpen hopen⟩
  rw [← hself, Dialect.statementsOfLines_division hfit, Division.statements, hstatements,
    unclosedStatement_eq, statements, Division.closedLines, hlines, Division.closedLines]

/-! ### The written script -/

/-- Lines that are written out with a line feed after each of them. -/
theorem statementsOf_unlines {division : Division} (h : IsScript keywords division)
    (hlines : ∀ line ∈ division.lines, IsLine line)
    (hmark : ∀ line ∈ division.lines.head?, line.head? ≠ some '\uFEFF') :
    keywords.dialect.statementsOf (unlines division.lines) = statements keywords division := by
  rw [Dialect.statementsOf, linesOf_unlines hlines hmark, statementsOfLines_isScript h]

/-- Lines that are written out with a line feed between them. A last line that is empty does not
show in the text. -/
theorem statementsOf_join {division : Division} (h : IsScript keywords division)
    (hlines : ∀ line ∈ division.lines, IsLine line)
    (hmark : ∀ line ∈ division.lines.head?, line.head? ≠ some '\uFEFF') :
    keywords.dialect.statementsOf (join "\n" division.lines) = statements keywords division := by
  rw [← statementsOfLines_isScript h, Dialect.statementsOf]
  rcases List.eq_nil_or_concat' division.lines with hnil | ⟨init, last, hconcat⟩
  · rw [hnil]
    rfl
  rw [hconcat] at hlines hmark ⊢
  -- The text of lines that end with an empty one is that of the others with a line feed.
  by_cases hlast : last = []
  · subst hlast
    have htext : join "\n" (init ++ [[]]) = unlines init := by
      rw [← flatMap_append_eq_join, List.append_nil]
      rfl
    rw [htext, linesOf_unlines (fun line hl => hlines line (List.mem_append_left _ hl)) ?_,
      Dialect.statementsOfLines_concat_blank isBlankText_lineSeparator isBlankText_nil]
    intro line hl
    exact hmark line (by rw [List.head?_append, hl]; rfl)
  · have htext : join "\n" (init ++ [last]) = unlines init ++ last :=
      (flatMap_append_eq_join _ _ _).symm
    rw [htext, linesOf_unlines_append hlines hmark hlast]

/-- A script is read as the statements that it was written from: one for each item, in order, with
its kind, its text and the number of its first line, whether or not the last line is ended. -/
theorem statementsOf_script {division : Division} (h : IsScript keywords division)
    (hlines : ∀ line ∈ division.lines, IsLine line)
    (hmark : ∀ line ∈ division.lines.head?, line.head? ≠ some '\uFEFF') :
    keywords.dialect.statementsOf (unlines division.lines) = statements keywords division ∧
      keywords.dialect.statementsOf (join "\n" division.lines) = statements keywords division :=
  ⟨statementsOf_unlines h hlines hmark, statementsOf_join h hlines hmark⟩

/-- A script with statements of every form, and one that its end closes. -/
theorem statementsOf_script_forms :
    let keywords : Keywords := ⟨[(["BEGIN".toList], .block), (["CONNECT".toList], .command)]⟩
    let division : Division :=
      { stretches :=
          [.block (.comment "# rem ;  ".toList), .gap " ; ".toList,
            .block (.callEscape " { call p } ".toList), .block (.command "connect a;".toList),
            .block (.byLine "BEGIN".toList ["".toList, " null;".toList] "$$; ".toList),
            .gap "".toList,
            .block (.byEnd ["select 1,".toList] " 2 ".toList ";".toList " ".toList),
            .block (.byEnd [] "BEGIN a END ".toList "$$;".toList "".toList),
            .gap "/".toList]
        unclosed := ["select".toList, " 3 ".toList] }
    IsScript keywords division ∧ (∀ line ∈ division.lines, IsLine line) ∧
      (∀ line ∈ division.lines.head?, line.head? ≠ some '\uFEFF') ∧
      keywords.dialect.statementsOf (unlines division.lines) = statements keywords division := by
  intro keywords division
  have hscript : IsScript keywords division := by decide +kernel
  have hlines : ∀ line ∈ division.lines, IsLine line := by decide +kernel
  have hmark : ∀ line ∈ division.lines.head?, line.head? ≠ some '\uFEFF' := by decide +kernel
  exact ⟨hscript, hlines, hmark, (statementsOf_script hscript hlines hmark).1⟩

end Standard

end SqlScript
