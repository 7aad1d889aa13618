import SqlScript.Proofs.Scan.Conservation

/-!
How the lines of a statement are joined. The separator is put behind every line that does not close
the statement, and only white space is trimmed from the end. A separator of white space therefore
stands between two lines and nowhere else, while any other separator is left behind the content if
the statement ends with an empty piece: at the end of the script, or where a line of its own closes
it.
-/

namespace SqlScript

namespace Text

/-- The parts up to the last one that is not blank; the first one counts in any case. -/
def content : List Text → List Text
  | [] => []
  | first :: more => first :: more.rdropWhile fun part => IsBlankText part

/-- The blank parts behind the content. -/
def blankEnd (parts : List Text) : List Text := parts.tail.rtakeWhile fun part => IsBlankText part

theorem content_append_blankEnd (parts : List Text) : content parts ++ blankEnd parts = parts := by
  cases parts with
  | nil => rfl
  | cons first more =>
      rw [content, blankEnd, List.tail_cons, List.cons_append, List.rdropWhile_append_rtakeWhile]

theorem isBlankText_of_mem_blankEnd {parts : List Text} {part : Text} (h : part ∈ blankEnd parts) :
    IsBlankText part := by
  have hblank := List.mem_rtakeWhile_imp h
  exact of_decide_eq_true hblank

theorem join_content_append (separator : Text) (parts : List Text) :
    join separator parts =
      join separator (content parts) ++ (blankEnd parts).flatMap (separator ++ ·) := by
  cases parts with
  | nil => rfl
  | cons first more =>
      conv_lhs => rw [← content_append_blankEnd (first :: more)]
      rw [content, List.cons_append, join_cons_eq_flatMap, join_cons_eq_flatMap,
        List.flatMap_append, List.append_assoc]

theorem isBlankText_flatMap_blankEnd {separator : Text} {parts : List Text} :
    IsBlankText ((blankEnd parts).flatMap (separator ++ ·)) ↔
      blankEnd parts = [] ∨ IsBlankText separator := by
  constructor
  · intro h
    cases hend : blankEnd parts with
    | nil => exact .inl rfl
    | cons part rest =>
        rw [hend, List.flatMap_cons, isBlankText_append, isBlankText_append] at h
        exact .inr h.1.1
  · rintro (hnil | hseparator)
    · simp [hnil]
    · intro c hc
      obtain ⟨part, hpart, hmem⟩ := List.mem_flatMap.mp hc
      rcases List.mem_append.mp hmem with hmem | hmem
      · exact hseparator c hmem
      · exact isBlankText_of_mem_blankEnd hpart c hmem

theorem exists_trimEnd_join_content (separator : Text) {parts : List Text} (h : parts ≠ []) :
    ∃ last ∈ (content parts).getLast?,
      trimEnd last <:+ trimEnd (join separator (content parts)) := by
  obtain ⟨first, more, rfl⟩ := List.exists_cons_of_ne_nil h
  rw [content]
  by_cases hmore : (more.rdropWhile fun part => IsBlankText part) = []
  · exact ⟨first, by simp [hmore], by simp [hmore]⟩
  · obtain ⟨init, last, hconcat⟩ := List.eq_nil_or_concat _ |>.resolve_left hmore
    have hlast : ¬IsBlankText last := by
      have hnot := List.rdropWhile_last_not _ more hmore
      simpa [hconcat] using hnot
    rw [hconcat, List.concat_eq_append, ← List.cons_append]
    refine ⟨last, List.getLast?_concat, ?_⟩
    rw [← flatMap_append_eq_join, trimEnd_append_of_not_blank _ hlast]
    exact List.suffix_append _ _

end Text

open Text Reading

/-- Whether the text of a statement is some pieces, joined: what it is in any case, exactly when it
is the content and nothing else, and what is left behind the content where it is not. -/
structure Statement.Joins (separator : Text) (pieces : List Text) (s : Statement) : Prop where
  text : s.text =
    trimEnd (join separator (content pieces) ++ (blankEnd pieces).flatMap (separator ++ ·))
  joined_iff : s.text = trimEnd (join separator (content pieces)) ↔
    blankEnd pieces = [] ∨ IsBlankText separator
  ends : blankEnd pieces = [] ∨ IsBlankText separator →
    ∃ last ∈ (content pieces).getLast?, trimEnd last <:+ s.text
  left : blankEnd pieces ≠ [] → ¬IsBlankText separator →
    join separator (content pieces) ++ trimEnd separator <+: s.text

theorem Statement.joins_of_text {separator : Text} {pieces : List Text} {s : Statement}
    (hne : pieces ≠ []) (h : s.text = trimEnd (join separator pieces)) :
    s.Joins separator pieces := by
  rw [join_content_append] at h
  have hjoined : s.text = trimEnd (join separator (content pieces)) ↔
      blankEnd pieces = [] ∨ IsBlankText separator := by
    rw [h, trimEnd_append_eq_trimEnd_iff, isBlankText_flatMap_blankEnd]
  refine ⟨h, hjoined, fun hblank => ?_, fun hend hseparator => ?_⟩
  · rw [hjoined.mpr hblank]
    exact exists_trimEnd_join_content separator hne
  · -- Trimming stops at the first separator behind the content, at the latest.
    obtain ⟨part, rest, hcons⟩ := List.exists_cons_of_ne_nil hend
    have hinked : ¬IsBlankText (separator ++ (part ++ rest.flatMap (separator ++ ·))) :=
      fun hblank => hseparator (isBlankText_append.mp hblank).1
    rw [h, hcons, List.flatMap_cons, List.append_assoc, trimEnd_append_of_not_blank _ hinked]
    exact (List.prefix_append_right_inj _).mpr (trimEnd_prefix_trimEnd_append separator _)

/-- The pieces of the statements of a script, in order. The end of the script closes a statement
behind its last line. -/
def Division.passages (division : Division) : List (List Text) :=
  division.stretches.filterMap Stretch.pieces? ++
    if division.unclosed = [] then [] else [division.unclosed ++ [[]]]

theorem Block.pieces_ne_nil (b : Block) : b.pieces ≠ [] := by
  cases b <;> simp [Block.pieces]

variable {d : Dialect}

theorem Block.joins_statement (number : Nat) (b : Block) :
    (b.statement d number).Joins d.delimiters.lineSeparator b.pieces :=
  Statement.joins_of_text b.pieces_ne_nil rfl

theorem Dialect.joins_unclosedStatement (number : Nat) (lines : List Text) :
    List.Forall₂ (fun pieces (s : Statement) => s.Joins d.delimiters.lineSeparator pieces)
      (if lines = [] then [] else [lines ++ [[]]]) (d.unclosedStatement number lines).toList := by
  cases lines with
  | nil => exact .nil
  | cons first more => exact .cons (Statement.joins_of_text (by simp) rfl) .nil

/-- The lines of a script divide into lines that only separate statements and the lines of one
statement each. The text of a statement is its lines joined by the separator, whatever the separator
is and however the statement ends. What is left behind the content is trimmed away exactly if it is
white space; where the separator is not, it is left there. -/
theorem statementsOf_joins (d : Dialect) (text : Text) :
    ∃ division : Division, division.Fits d ∧ division.lines = linesOf text ∧
      List.Forall₂ (fun pieces (s : Statement) => s.Joins d.delimiters.lineSeparator pieces)
        division.passages (d.statementsOf text) := by
  obtain ⟨division, hfits, hlines⟩ := d.exists_division (linesOf text)
  refine ⟨division, hfits, hlines, ?_⟩
  rw [Dialect.statementsOf, ← hlines, Dialect.statementsOfLines_division hfits]
  exact List.rel_append (Stretch.forall₂_closedFrom Block.joins_statement 0 division.stretches)
    (d.joins_unclosedStatement _ division.unclosed)

/-- A query of one line that the end of the script closes keeps the separator behind it. -/
theorem statementsOf_leaves_separator :
    let d : Dialect :=
      { keywords := ⟨[(["SELECT".toList], .query)]⟩, delimiters := { lineSeparator := "|" } }
    d.statementsOf "select 1\n" = [⟨.query, "select 1|", 1⟩] ∧
      content ["select 1".toList, []] = ["select 1".toList] ∧
      ("select 1|" : Text) ≠ trimEnd (join "|" ["select 1".toList]) := by
  decide +kernel

end SqlScript
