import SqlScript.Proofs.Scan.Step

/-!
The lines of a script as they belong to statements. A script divides into stretches, each a line
that only separates statements or the block of one statement, and the lines of a statement that is
left open at its end. Every script has such a division (`exists_division`), and the scan gives the
statements that can be read off it (`scan_division`).
-/

namespace SqlScript

open Text Delimiters

/-- Whether the statements of a category can have several lines. -/
def Category.Spans (c : Category) : Prop := c = .sql ∨ c = .psql

instance (c : Category) : Decidable c.Spans := inferInstanceAs (Decidable (_ ∨ _))

inductive Block where
  /-- A comment on its line. -/
  | comment (line : Text)
  /-- A call escape on its line. -/
  | callEscape (line : Text)
  /-- A line whose keywords make it a statement of its own. -/
  | command (line : Text)
  /-- The lines `first :: more`, closed by the line after them. -/
  | byLine (first : Text) (more : List Text) (closing : Text)
  /-- The lines `init` and a last one, closed by the terminator and the blanks at its end. -/
  | byEnd (init : List Text) (last terminator pad : Text)
deriving DecidableEq, Repr

/-- A line that separates statements, or the block of a statement. -/
inductive Stretch where
  | gap (line : Text)
  | block (b : Block)
deriving DecidableEq, Repr

/-- The stretches of a script and the lines of the statement that is left open at its end. -/
structure Division where
  stretches : List Stretch
  unclosed : List Text
deriving DecidableEq, Repr

/-- Lines that leave a statement of the category open. The first one opens it, so that it is not
compared with the closing lines. -/
structure Dialect.LeavesOpen (d : Dialect) (category : Category) (lines : List Text) : Prop where
  noEnd : ∀ line ∈ lines, d.HasNoEnd category line
  notClosing : ∀ line ∈ lines.tail, trim line ∉ d.delimiters.closingLines category

/-- The lines of a statement that has several lines, as far as none of them closes it. -/
def Dialect.IsUnclosed (d : Dialect) : List Text → Prop
  | [] => True
  | first :: more => d.Classifies first ∧ (d.kindAt first).category.Spans ∧
      d.LeavesOpen (d.kindAt first).category (first :: more)

def Dialect.draftOf (d : Dialect) (number : Nat) : List Text → Option Draft
  | [] => none
  | first :: more => some ⟨d.kindAt first, (first :: more).reverse, number⟩

def Dialect.unclosedStatement (d : Dialect) (number : Nat) : List Text → Option Statement
  | [] => none
  | first :: more => some ⟨d.kindAt first,
      trimEnd (join d.delimiters.lineSeparator (first :: more ++ [[]])), number⟩

namespace Block

def lines : Block → List Text
  | comment line | callEscape line | command line => [line]
  | byLine first more closing => first :: more ++ [closing]
  | byEnd init last terminator pad => init ++ [last ++ terminator ++ pad]

def first (b : Block) : Text := b.lines.head?.getD []

@[simp] theorem first_byEnd_nil (last terminator pad : Text) :
    (byEnd [] last terminator pad).first = last ++ terminator ++ pad := rfl

@[simp] theorem first_byEnd_cons (line : Text) (init : List Text) (last terminator pad : Text) :
    (byEnd (line :: init) last terminator pad).first = line := rfl

/-- The lines of the statement, each without what closed it. -/
def pieces : Block → List Text
  | comment line => [line]
  | callEscape line => [trim line]
  | command line => [dropTail ";" (trim line)]
  | byLine first more closing => first :: more ++ [kept (trim closing)]
  | byEnd init last terminator _ => init ++ [trim (last ++ kept terminator)]

/-- The kind of the statement, which its first line fixes. -/
def kind (d : Dialect) : Block → Kind
  | comment _ => .comment
  | callEscape _ => .callable
  | b => d.kindAt b.first

/-- The statement of a block whose first line has the number. -/
def statement (d : Dialect) (number : Nat) (b : Block) : Statement :=
  ⟨b.kind d, trimEnd (join d.delimiters.lineSeparator b.pieces), number⟩

/-- Whether the lines are those of one statement of the dialect. -/
def Fits (d : Dialect) : Block → Prop
  | comment line => ¬d.Separates line ∧ d.delimiters.isComment (trim line) = true
  | callEscape line => ¬d.Separates line ∧ d.delimiters.isComment (trim line) = false ∧
      isCallEscape (trim line) = true
  | command line => d.Classifies line ∧ ¬(d.kindAt line).category.Spans
  | byLine first more closing => d.IsUnclosed (first :: more) ∧
      trim closing ∈ d.delimiters.closingLines (d.kindAt first).category
  | b@(byEnd init last terminator pad) =>
      let category := (d.kindAt b.first).category
      let line := last ++ terminator ++ pad
      d.Classifies b.first ∧ d.IsUnclosed init ∧
        (init ≠ [] → trim line ∉ d.delimiters.closingLines category) ∧
        IsLongestEnd (d.delimiters.closingEnds category) (trim line) terminator ∧
        IsBlankText pad

end Block

namespace Stretch

def lines : Stretch → List Text
  | gap line => [line]
  | block b => b.lines

def Fits (d : Dialect) : Stretch → Prop
  | gap line => d.Separates line
  | block b => b.Fits d

/-- The statements of stretches after the first `number` lines, each with the number of its last
line. -/
def closedFrom (d : Dialect) (number : Nat) : List Stretch → List (Statement × Nat)
  | [] => []
  | gap _ :: stretches => closedFrom d (number + 1) stretches
  | block b :: stretches =>
    (b.statement d (number + 1), number + b.lines.length) ::
      closedFrom d (number + b.lines.length) stretches

end Stretch

namespace Division

def closedLines (division : Division) : List Text := division.stretches.flatMap Stretch.lines

def lines (division : Division) : List Text := division.closedLines ++ division.unclosed

/-- Whether the lines belong together as the division says. -/
def Fits (d : Dialect) (division : Division) : Prop :=
  (∀ stretch ∈ division.stretches, stretch.Fits d) ∧ d.IsUnclosed division.unclosed

def scan (d : Dialect) (division : Division) : Scan where
  closed := Stretch.closedFrom d 0 division.stretches
  pending := d.draftOf (division.closedLines.length + 1) division.unclosed

def statements (d : Dialect) (division : Division) : List Statement :=
  (Stretch.closedFrom d 0 division.stretches).map Prod.fst ++
    (d.unclosedStatement (division.closedLines.length + 1) division.unclosed).toList

end Division

/-! ### The scan of a division -/

namespace Dialect

variable {d : Dialect}

theorem spans_of_mem_closingEnds {c : Category} {t : Text}
    (h : t ∈ d.delimiters.closingEnds c) : c.Spans := by
  cases c <;> simp [closingEnds, Category.Spans] at h ⊢

theorem not_spans_iff {c : Category} : ¬c.Spans ↔ c = .command ∨ c = .comment := by
  cases c <;> simp [Category.Spans]

theorem scanFrom_gap {line : Text} (number : Nat) (rest : List Text) (h : d.Separates line) :
    d.scanFrom number none (line :: rest) = d.scanFrom (number + 1) none rest := by
  simp only [scanFrom, advance, start_of_separates _ h]

theorem scanFrom_closed {number : Nat} {pending : Option Draft} {line : Text} {s : Statement}
    (rest : List Text) (h : d.advance (number + 1) line pending = .closed s) :
    d.scanFrom number pending (line :: rest) =
      ⟨(s, number + 1) :: (d.scanFrom (number + 1) none rest).closed,
        (d.scanFrom (number + 1) none rest).pending⟩ := by
  simp only [scanFrom, h]

/-- Lines that do not close an open statement become its lines. -/
theorem scanFrom_more (draft : Draft) {more : List Text} (number : Nat) (rest : List Text)
    (hend : ∀ line ∈ more, d.HasNoEnd draft.kind.category line)
    (hline : ∀ line ∈ more, trim line ∉ d.delimiters.closingLines draft.kind.category) :
    d.scanFrom number (some draft) (more ++ rest) =
      d.scanFrom (number + more.length)
        (some { draft with lines := more.reverse ++ draft.lines }) rest := by
  induction more generalizing number draft with
  | nil => rfl
  | cons line more ih =>
    simp only [List.forall_mem_cons] at hend hline
    have hstep : d.advance (number + 1) line (some draft) =
        .pending { draft with lines := line :: draft.lines } := by
      rw [advance, resume_of_not_closes _ hline.1, append_of_hasNoEnd _ hend.1]
    simp only [List.cons_append, scanFrom, hstep]
    rw [ih { draft with lines := line :: draft.lines } (number + 1) hend.2 hline.2]
    simp [Nat.add_comm, Nat.add_left_comm]

theorem scanFrom_unclosed {lines : List Text} (number : Nat) (rest : List Text)
    (h : d.IsUnclosed lines) :
    d.scanFrom number none (lines ++ rest) =
      d.scanFrom (number + lines.length) (d.draftOf (number + 1) lines) rest := by
  cases lines with
  | nil => rfl
  | cons first more =>
    obtain ⟨hfirst, hspans, hopen⟩ := h
    have hstep : d.advance (number + 1) first none =
        .pending ⟨d.kindAt first, [first], number + 1⟩ := by
      rw [advance, start_of_body _ hfirst hspans,
        append_of_hasNoEnd _ (hopen.noEnd first List.mem_cons_self)]
    simp only [List.cons_append, scanFrom, hstep]
    rw [scanFrom_more ⟨d.kindAt first, [first], number + 1⟩ (number + 1) rest
      (fun line hl => hopen.noEnd line (List.mem_cons_of_mem _ hl)) hopen.notClosing]
    simp [draftOf, Nat.add_comm, Nat.add_left_comm]

/-- A line whose end closes the statement of the lines in front of it. -/
theorem advance_byEnd {init : List Text} {last t pad : Text} (number : Nat)
    (h : (Block.byEnd init last t pad).Fits d) :
    d.advance (number + init.length) (last ++ t ++ pad) (d.draftOf number init) =
      .closed ((Block.byEnd init last t pad).statement d number) := by
  obtain ⟨hfirst, hinit, hline, hend, hpad⟩ := h
  obtain ⟨lead, rest, hlead, hlast, htrim⟩ := exists_trim_eq_append hend.ne_nil hpad hend.suffix
  have hrest : withoutEnd t (trim (last ++ t ++ pad)) = trim (last ++ kept t) := by
    rw [htrim, withoutEnd_append, hlast, List.append_assoc, trim_append_left _ hlead]
  -- A first line opens the statement that it closes, and a further line finds it open.
  cases init with
  | nil =>
    rw [Block.first_byEnd_nil] at hfirst hend
    rw [draftOf, advance, List.length_nil, Nat.add_zero,
      start_of_body _ hfirst (spans_of_mem_closingEnds hend.mem),
      append_of_isLongestEnd ⟨d.kindAt _, [], number⟩ hend, close_eq_join, hrest]
    rfl
  | cons first more =>
    rw [Block.first_byEnd_cons] at hline hend
    have hnot := hline (List.cons_ne_nil _ _)
    rw [draftOf, advance, resume_of_not_closes ⟨d.kindAt _, _, number⟩ hnot,
      append_of_isLongestEnd ⟨d.kindAt _, _, number⟩ hend, close_eq_join, hrest]
    simp [Block.statement, Block.kind, Block.pieces]

/-- The lines of a block give its statement, and nothing is open behind them. -/
theorem scanFrom_block {b : Block} (number : Nat) (rest : List Text) (h : b.Fits d) :
    d.scanFrom number none (b.lines ++ rest) =
      let after := d.scanFrom (number + b.lines.length) none rest
      ⟨(b.statement d (number + 1), number + b.lines.length) :: after.closed, after.pending⟩ := by
  cases b with
  | comment line =>
    have hstep : d.advance (number + 1) line none = _ := start_of_comment _ h.1 h.2
    rw [Block.lines, List.singleton_append, scanFrom_closed rest hstep]
    simp [Block.statement, Block.kind, Block.pieces]
  | callEscape line =>
    have hstep : d.advance (number + 1) line none = _ := start_of_callEscape _ h.1 h.2.1 h.2.2
    rw [Block.lines, List.singleton_append, scanFrom_closed rest hstep]
    simp [Block.statement, Block.kind, Block.pieces]
  | command line =>
    have hstep : d.advance (number + 1) line none = _ :=
      start_of_command _ h.1 (not_spans_iff.mp h.2)
    rw [Block.lines, List.singleton_append, scanFrom_closed rest hstep]
    simp [Block.statement, Block.kind, Block.pieces, Block.first, Block.lines]
  | byLine first more closing =>
    obtain ⟨hopen, hclosing⟩ := h
    have hstep : d.advance (number + (first :: more).length + 1) closing
        (d.draftOf (number + 1) (first :: more)) =
          .closed ((Block.byLine first more closing).statement d (number + 1)) := by
      rw [draftOf, advance, resume_of_closes _ hclosing, close_eq_join]
      simp [Block.statement, Block.kind, Block.first, Block.lines, Block.pieces]
    rw [Block.lines, List.append_assoc, scanFrom_unclosed number _ hopen, List.singleton_append,
      scanFrom_closed rest hstep]
    simp [Nat.add_assoc]
  | byEnd init last t pad =>
    have hstep := advance_byEnd (number + 1) h
    rw [Nat.add_right_comm] at hstep
    rw [Block.lines, List.append_assoc, scanFrom_unclosed number _ h.2.1, List.singleton_append,
      scanFrom_closed rest hstep]
    simp [Nat.add_assoc]

theorem scanFrom_stretches {stretches : List Stretch} (number : Nat) (rest : List Text)
    (h : ∀ stretch ∈ stretches, stretch.Fits d) :
    d.scanFrom number none (stretches.flatMap Stretch.lines ++ rest) =
      let after := d.scanFrom (number + (stretches.flatMap Stretch.lines).length) none rest
      ⟨Stretch.closedFrom d number stretches ++ after.closed, after.pending⟩ := by
  induction stretches generalizing number with
  | nil => rfl
  | cons stretch stretches ih =>
    simp only [List.forall_mem_cons] at h
    rw [List.flatMap_cons, List.append_assoc, List.length_append, ← Nat.add_assoc]
    cases stretch with
    | gap line => rw [Stretch.lines, List.singleton_append, scanFrom_gap _ _ h.1, ih _ h.2]; rfl
    | block b => rw [Stretch.lines, scanFrom_block _ _ h.1, ih _ h.2]; rfl

/-- The scan of a script is what any division of it says. -/
theorem scan_division {division : Division} (h : division.Fits d) :
    d.scan division.lines = division.scan d := by
  have hopen := d.scanFrom_unclosed division.closedLines.length [] h.2
  rw [List.append_nil] at hopen
  rw [scan, Division.lines, Division.closedLines, scanFrom_stretches 0 _ h.1, Nat.zero_add,
    ← Division.closedLines, hopen]
  simp [Division.scan, scanFrom]

theorem close_draftOf (number : Nat) (lines : List Text) :
    (d.draftOf number lines).map (fun draft => d.close draft []) =
      d.unclosedStatement number lines := by
  cases lines with
  | nil => rfl
  | cons first more => simp [draftOf, unclosedStatement, close_eq_join]

/-- The statements of a script are what any division of it says. -/
theorem statementsOfLines_division {division : Division} (h : division.Fits d) :
    d.statementsOfLines division.lines = division.statements d := by
  rw [statementsOfLines, scan_division h]
  simp only [Division.scan, Division.statements, close_draftOf]

/-! ### Every script divides -/

/-- The end of a line, with what stands in front of it and the blanks behind it. -/
theorem exists_eq_append_longestEnd {terminators : List Text} {line t : Text}
    (h : IsLongestEnd terminators (trim line) t) :
    ∃ last pad, IsBlankText pad ∧ line = last ++ t ++ pad := by
  obtain ⟨lead, pad, -, hpad, hline⟩ := exists_eq_append_trim_append line
  obtain ⟨rest, hrest⟩ := h.suffix
  exact ⟨lead ++ rest, pad, hpad, by rw [hline, ← hrest]; simp⟩

/-- A line behind a script without an open statement. -/
theorem exists_stretch_or_unclosed (d : Dialect) (line : Text) :
    (∃ stretch : Stretch, stretch.Fits d ∧ stretch.lines = [line]) ∨ d.IsUnclosed [line] := by
  by_cases hsep : d.Separates line
  · exact .inl ⟨.gap line, hsep, rfl⟩
  by_cases hcomment : d.delimiters.isComment (trim line) = true
  · exact .inl ⟨.block (.comment line), ⟨hsep, hcomment⟩, rfl⟩
  rw [Bool.not_eq_true] at hcomment
  by_cases hescape : isCallEscape (trim line) = true
  · exact .inl ⟨.block (.callEscape line), ⟨hsep, hcomment, hescape⟩, rfl⟩
  rw [Bool.not_eq_true] at hescape
  have hfirst : d.Classifies line := ⟨hsep, hcomment, hescape⟩
  by_cases hspans : (d.kindAt line).category.Spans
  · cases hend : longestEnd? (d.delimiters.closingEnds (d.kindAt line).category) (trim line) with
    | some t =>
      have ht := longestEnd?_eq_some_iff.mp hend
      obtain ⟨last, pad, hpad, rfl⟩ := exists_eq_append_longestEnd ht
      exact .inl ⟨.block (.byEnd [] last t pad),
        ⟨hfirst, trivial, fun h => absurd rfl h, ht, hpad⟩, rfl⟩
    | none =>
      have hno := longestEnd?_eq_none_iff.mp hend
      exact .inr ⟨hfirst, hspans, ⟨by simpa [HasNoEnd] using hno, by simp⟩⟩
  · exact .inl ⟨.block (.command line), ⟨hfirst, hspans⟩, rfl⟩

/-- A line behind an open statement. -/
theorem exists_block_or_unclosed {first : Text} {more : List Text}
    (h : d.IsUnclosed (first :: more)) (line : Text) :
    (∃ b : Block, b.Fits d ∧ b.lines = first :: more ++ [line]) ∨
      d.IsUnclosed (first :: more ++ [line]) := by
  obtain ⟨hfirst, hspans, hopen⟩ := h
  by_cases hclosing : trim line ∈ d.delimiters.closingLines (d.kindAt first).category
  · exact .inl ⟨.byLine first more line, ⟨⟨hfirst, hspans, hopen⟩, hclosing⟩, rfl⟩
  cases hend : longestEnd? (d.delimiters.closingEnds (d.kindAt first).category) (trim line) with
  | some t =>
    have ht := longestEnd?_eq_some_iff.mp hend
    obtain ⟨last, pad, hpad, rfl⟩ := exists_eq_append_longestEnd ht
    exact .inl ⟨.byEnd (first :: more) last t pad,
      ⟨hfirst, ⟨hfirst, hspans, hopen⟩, fun _ => hclosing, ht, hpad⟩, rfl⟩
  | none =>
    have hno := longestEnd?_eq_none_iff.mp hend
    refine .inr ⟨hfirst, hspans, ⟨?_, ?_⟩⟩
    · intro l (hl : l ∈ first :: more ++ [line])
      rcases List.mem_append.mp hl with hl | hl
      · exact hopen.noEnd l hl
      · obtain rfl := List.mem_singleton.mp hl
        exact hno
    · intro l (hl : l ∈ more ++ [line])
      rcases List.mem_append.mp hl with hl | hl
      · exact hopen.notClosing l hl
      · obtain rfl := List.mem_singleton.mp hl
        exact hclosing

/-- Every script divides into stretches and an open statement. -/
theorem exists_division (d : Dialect) (lines : List Text) :
    ∃ division : Division, division.Fits d ∧ division.lines = lines := by
  induction lines using List.reverseRecOn with
  | nil => exact ⟨⟨[], []⟩, ⟨by simp, trivial⟩, rfl⟩
  | append_singleton lines line ih =>
    obtain ⟨⟨stretches, unclosed⟩, ⟨hfits, hopen⟩, rfl⟩ := ih
    -- A stretch that ends with the new line takes the open lines with it.
    have hclose : ∀ stretch : Stretch, stretch.Fits d → stretch.lines = unclosed ++ [line] →
        ∃ division : Division, division.Fits d ∧
          division.lines = Division.lines ⟨stretches, unclosed⟩ ++ [line] := by
      intro stretch hstretch hlines
      refine ⟨⟨stretches ++ [stretch], []⟩, ⟨?_, trivial⟩, ?_⟩
      · intro s hs
        rcases List.mem_append.mp hs with hs | hs
        · exact hfits s hs
        · obtain rfl := List.mem_singleton.mp hs
          exact hstretch
      · simp [Division.lines, Division.closedLines, hlines]
    cases unclosed with
    | nil =>
      rcases d.exists_stretch_or_unclosed line with ⟨stretch, hstretch, hlines⟩ | hopen
      · exact hclose stretch hstretch hlines
      · exact ⟨⟨stretches, [line]⟩, ⟨hfits, hopen⟩, by simp [Division.lines, Division.closedLines]⟩
    | cons first more =>
      rcases exists_block_or_unclosed hopen line with ⟨b, hb, hlines⟩ | hopen
      · exact hclose (.block b) hb hlines
      · exact ⟨⟨stretches, first :: more ++ [line]⟩, ⟨hfits, hopen⟩,
          by simp [Division.lines, Division.closedLines]⟩

end Dialect

end SqlScript
