import SqlScript.Proofs.Reading.Lines
import SqlScript.Proofs.Scan.Division
import Mathlib.Data.List.Forall2

/-!
Scanning loses no content and invents none. A script divides into lines that only separate
statements and one block of lines for each statement, and the ink of a statement is the ink of its
block without what closed it, as long as the line separator is white space.
-/

namespace SqlScript

open Text Reading

/-- The lines of the statement of a stretch, each without what closed it. -/
def Stretch.pieces? : Stretch → Option (List Text)
  | gap _ => none
  | block b => some b.pieces

def Division.contents (division : Division) : List (List Text) :=
  division.stretches.filterMap Stretch.pieces? ++
    if division.unclosed = [] then [] else [division.unclosed]

/-- Whether a statement holds the ink of some lines and no other. -/
def Statement.Holds (content : List Text) (s : Statement) : Prop := ink s.text = ink content.flatten

theorem Reading.ink_map_dropReturn (lines : List Text) :
    ink (lines.map dropReturn).flatten = ink lines.flatten := by
  induction lines with
  | nil => rfl
  | cons line lines ih => simp [ih]

theorem Reading.ink_unlines (lines : List Text) : ink (unlines lines) = ink lines.flatten := by
  induction lines with
  | nil => rfl
  | cons line lines ih =>
    have hbreak : isBlank '\n' = true := by decide
    rw [unlines_cons, ink_append, ink_cons_of_blank hbreak, ih, List.flatten_cons, ink_append]

theorem Reading.ink_linesAfter (text : Text) : ink (linesAfter text).flatten = ink text := by
  obtain ⟨lines, last, hlines, hlast, rfl⟩ := exists_eq_unlines_append text
  have hend : ink (lastLine last).flatten = ink last := by
    unfold lastLine
    split
    next h => simp [h]
    next => simp
  rw [linesAfter_unlines_append hlines, linesAfter_of_not_mem hlast, List.flatten_append,
    ink_append, ink_append, ink_map_dropReturn, ink_unlines, hend]

/-- A mark at the start of a text stands at the start of its first line. -/
theorem Reading.exists_linesAfter_mark (text : Text) :
    ∃ line lines, linesAfter ('\uFEFF' :: text) = ('\uFEFF' :: line) :: lines := by
  obtain ⟨lines, last, hlines, hlast, rfl⟩ := exists_eq_unlines_append text
  cases lines with
  | nil =>
    have hmem : '\n' ∉ '\uFEFF' :: last := by simpa using hlast
    exact ⟨last, [], by simp [linesAfter_of_not_mem hmem, lastLine]⟩
  | cons line lines =>
    have hmem : '\n' ∉ '\uFEFF' :: line := by simpa using hlines line List.mem_cons_self
    have hhead : ∃ rest, dropReturn ('\uFEFF' :: line) = '\uFEFF' :: rest := by
      by_cases h : ['\r'] <:+ '\uFEFF' :: line
      · obtain ⟨init, hinit⟩ := h
        cases init with
        | nil => simp at hinit
        | cons c init =>
          obtain ⟨rfl, rfl⟩ : c = '\uFEFF' ∧ init ++ ['\r'] = line := by simpa using hinit
          exact ⟨init, dropTail_append ['\r'] ('\uFEFF' :: init)⟩
      · exact ⟨line, dropTail_of_not_suffix h⟩
    obtain ⟨rest, hrest⟩ := hhead
    have hcut := linesAfter_append hmem (unlines lines ++ last)
    rw [hrest] at hcut
    exact ⟨rest, linesAfter (unlines lines ++ last), by simpa using hcut⟩

/-- Reading a script keeps its ink, a byte order mark at its start excepted. -/
theorem Reading.ink_linesOf (text : Text) :
    ink (linesOf text).flatten = ink (withoutMark text) := by
  by_cases h : text.head? = some '\uFEFF'
  · obtain ⟨rest, rfl⟩ : ∃ rest, text = '\uFEFF' :: rest := by
      cases text <;> simp_all
    have hcons (s : Text) : ink ('\uFEFF' :: s) = '\uFEFF' :: ink s := by
      rw [ink, List.filter_cons_of_pos (by decide), ink]
    -- The mark is ink of the first line, and it is all that is dropped.
    obtain ⟨line, lines, hlines⟩ := exists_linesAfter_mark rest
    have hink := ink_linesAfter ('\uFEFF' :: rest)
    rw [hlines, List.flatten_cons, List.cons_append, hcons, hcons] at hink
    rw [linesOf_eq_dropMark, hlines]
    exact List.tail_eq_of_cons_eq hink
  · rw [linesOf_eq_linesAfter h, ink_linesAfter]
    unfold withoutMark
    split <;> simp_all

/-! ### The content of a block -/

variable {d : Dialect}

theorem Block.holds_statement (hsep : IsBlankText d.delimiters.lineSeparator) (number : Nat)
    (b : Block) : (b.statement d number).Holds b.pieces := by
  rw [Statement.Holds, Block.statement, ink_trimEnd, ink_join hsep]

/-- What holds of each block and its statement holds of all of them, in order. -/
theorem Stretch.forall₂_closedFrom {R : List Text → Statement → Prop}
    (h : ∀ number (b : Block), R b.pieces (b.statement d number)) (number : Nat)
    (stretches : List Stretch) :
    List.Forall₂ R (stretches.filterMap pieces?)
      ((closedFrom d number stretches).map Prod.fst) := by
  induction stretches generalizing number with
  | nil => exact .nil
  | cons stretch stretches ih =>
    cases stretch with
    | gap line => exact ih (number + 1)
    | block b => exact .cons (h (number + 1) b) (ih _)

theorem Dialect.holds_unclosedStatement (hsep : IsBlankText d.delimiters.lineSeparator)
    (number : Nat) (lines : List Text) :
    List.Forall₂ Statement.Holds (if lines = [] then [] else [lines])
      (d.unclosedStatement number lines).toList := by
  cases lines with
  | nil => exact .nil
  | cons first more =>
    refine .cons ?_ .nil
    simp [Statement.Holds, ink_join hsep]

theorem Division.holds_statements (hsep : IsBlankText d.delimiters.lineSeparator)
    (division : Division) :
    List.Forall₂ Statement.Holds division.contents (division.statements d) :=
  List.rel_append (Stretch.forall₂_closedFrom (Block.holds_statement hsep) 0 division.stretches)
    (d.holds_unclosedStatement hsep _ division.unclosed)

/-- The lines of a script divide into lines that only separate statements and one block for each
statement, in order. With white space between lines, the ink of a statement is the ink of its block
without what closed it, and the ink of the lines is the ink of the script. -/
theorem statementsOf_conserves_ink (d : Dialect) (hsep : IsBlankText d.delimiters.lineSeparator)
    (text : Text) :
    ink (linesOf text).flatten = ink (withoutMark text) ∧
      ∃ division : Division, division.Fits d ∧ division.lines = linesOf text ∧
        List.Forall₂ Statement.Holds division.contents (d.statementsOf text) := by
  obtain ⟨division, hfits, hlines⟩ := d.exists_division (linesOf text)
  refine ⟨ink_linesOf text, division, hfits, hlines, ?_⟩
  rw [Dialect.statementsOf, ← hlines, Dialect.statementsOfLines_division hfits]
  exact division.holds_statements hsep

/-- A script with a mark, a block that a dollar quote ends and a query that a semicolon ends. -/
theorem statementsOf_conserves_ink_dollarQuote :
    let d : Dialect := { keywords := ⟨[(["BEGIN".toList], .block)]⟩ }
    let text := "\uFEFF# a;\r\n\nBEGIN\n\nEND $$;\nselect 1 ;".toList
    IsBlankText d.delimiters.lineSeparator ∧
      ink (linesOf text).flatten = ink (withoutMark text) ∧
      ∃ division : Division, division.Fits d ∧ division.lines = linesOf text ∧
        List.Forall₂ Statement.Holds division.contents (d.statementsOf text) := by
  intro d text
  have hsep : IsBlankText d.delimiters.lineSeparator := by decide
  exact ⟨hsep, statementsOf_conserves_ink d hsep text⟩

end SqlScript
