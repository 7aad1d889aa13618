import SqlScript.Proofs.Scan.Composition
import SqlScript.Proofs.Scan.Step

/-!
How the lines of a script are laid out. Whether a line ends with a line feed alone or with a
carriage return in front of it makes no difference to the statements, and neither does white space
behind the end of the script: whichever mode it finds open there, it only adds what is trimmed away.
-/

namespace SqlScript

open Text Reading Delimiters

/-- The text with a carriage return in front of every line feed. -/
def Reading.withReturns (text : Text) : Text :=
  text.flatMap fun c => if c = '\n' then ['\r', '\n'] else [c]

namespace Dialect

variable {d : Dialect}

def finish (d : Dialect) : Progress → Option Statement
  | .idle => none
  | .pending draft => some (d.close draft [])
  | .closed s => some s

theorem statementsOfLines_concat (lines : List Text) (line : Text) :
    d.statementsOfLines (lines ++ [line]) = (d.scan lines).closed.map Prod.fst ++
      (d.finish (d.advance (lines.length + 1) line (d.scan lines).pending)).toList := by
  simp only [statementsOfLines, scan_append, scanFrom]
  cases d.advance (lines.length + 1) line (d.scan lines).pending <;> simp [finish]

/-! ### White space at the end of the last line -/

section Padding

variable (hsep : IsBlankText d.delimiters.lineSeparator) {pad : Text} (hpad : IsBlankText pad)

include hsep hpad

theorem finish_append_of_blank (draft : Draft) (line : Text) :
    d.finish (d.append draft (line ++ pad)) = d.finish (d.append draft line) := by
  rw [append, append, trim_append_right line hpad]
  cases longestEnd? (d.delimiters.closingEnds draft.kind.category) (trim line) with
  | some terminator => rfl
  | none =>
      have hjoin (lines : List Text) :
          trimEnd (join d.delimiters.lineSeparator (lines ++ [line ++ pad])) =
            trimEnd (join d.delimiters.lineSeparator (lines ++ [line])) := by
        rw [← flatMap_append_eq_join, ← flatMap_append_eq_join, ← List.append_assoc,
          trimEnd_append_of_blank hpad]
      simp only [finish, close_eq_join, List.reverse_cons,
        trimEnd_join_concat_blank hsep isBlankText_nil, hjoin]

theorem finish_start_of_blank (number : Nat) (line : Text) :
    d.finish (d.start number (line ++ pad)) = d.finish (d.start number line) := by
  simp only [start, trim_append_right line hpad, trimEnd_append_of_blank hpad,
    apply_ite d.finish]
  cases (d.keywords.classify (trim line)).category with
  | command | comment => rfl
  | sql | psql => simp only [finish_append_of_blank hsep hpad]

theorem finish_resume_of_blank (draft : Draft) (line : Text) :
    d.finish (d.resume draft (line ++ pad)) = d.finish (d.resume draft line) := by
  simp only [resume, trim_append_right line hpad, apply_ite d.finish,
    finish_append_of_blank hsep hpad]

/-- White space at the end of the last line does not show, whatever the line does. -/
theorem statementsOfLines_concat_append (lines : List Text) (line : Text) :
    d.statementsOfLines (lines ++ [line ++ pad]) = d.statementsOfLines (lines ++ [line]) := by
  rw [statementsOfLines_concat, statementsOfLines_concat]
  cases (d.scan lines).pending with
  | none => rw [advance, advance, finish_start_of_blank hsep hpad]
  | some draft => rw [advance, advance, finish_resume_of_blank hsep hpad]

end Padding

/-- A blank line at the end of a script makes no difference. -/
theorem statementsOfLines_concat_blank {line : Text}
    (hsep : IsBlankText d.delimiters.lineSeparator) (hline : IsBlankText line)
    (lines : List Text) :
    d.statementsOfLines (lines ++ [line]) = d.statementsOfLines lines := by
  have hempty : d.statementsOfLines (lines ++ [line]) = d.statementsOfLines (lines ++ [[]]) :=
    statementsOfLines_concat_append hsep hline lines []
  rw [hempty, statementsOfLines_concat, statementsOfLines]
  cases (d.scan lines).pending with
  | none => rfl
  | some draft =>
      have htrim : trim ([] : Text) = [] := rfl
      by_cases hclosing : trim [] ∈ d.delimiters.closingLines draft.kind.category
      · have hkept : kept ([] : Text) = [] := kept_of_ne (by decide)
        rw [advance, resume_of_closes draft hclosing, htrim, hkept]
        rfl
      · have hend : d.HasNoEnd draft.kind.category [] := by
          intro t _ hne hsuffix
          exact hne (List.suffix_nil.mp hsuffix)
        rw [advance, resume_of_not_closes draft hclosing, append_of_hasNoEnd draft hend]
        simp only [finish, close_eq_join, List.reverse_cons, Option.map_some,
          trimEnd_join_concat_blank hsep isBlankText_nil]

end Dialect

/-! ### The lines of the text -/

namespace Reading

@[simp] theorem withReturns_append (s t : Text) :
    withReturns (s ++ t) = withReturns s ++ withReturns t := List.flatMap_append

theorem withReturns_of_notMem {s : Text} (h : '\n' ∉ s) : withReturns s = s := by
  have hself : ∀ c ∈ s, (if c = '\n' then ['\r', '\n'] else [c]) = [c] := by
    intro c hc
    have hne : c ≠ '\n' := fun he => h (he ▸ hc)
    rw [if_neg hne]
  rw [withReturns, List.flatMap_congr hself, List.flatMap_singleton']

theorem withReturns_unlines {lines : List Text} (h : ∀ line ∈ lines, '\n' ∉ line) :
    withReturns (unlines lines) = unlines (lines.map (· ++ ['\r'])) := by
  induction lines with
  | nil => rfl
  | cons line lines ih =>
      obtain ⟨hline, hlines⟩ := List.forall_mem_cons.mp h
      rw [unlines_cons, withReturns_append, withReturns_of_notMem hline, ← List.singleton_append,
        withReturns_append, ih hlines, List.map_cons, unlines_cons]
      simp [withReturns]

/-- A carriage return in front of a line feed belongs to the line end. -/
theorem linesOf_withReturns {text : Text} (h : '\r' ∉ text) :
    linesOf (withReturns text) = linesOf text := by
  obtain ⟨lines, last, hlines, hlast, rfl⟩ := exists_eq_unlines_append text
  have hreturn : ∀ line ∈ lines.map (· ++ ['\r']), '\n' ∉ line := by
    intro line hline
    obtain ⟨line, hmem, rfl⟩ := List.mem_map.mp hline
    simpa using hlines line hmem
  have hdrop : (lines.map (· ++ ['\r'])).map dropReturn = lines.map dropReturn := by
    rw [List.map_map]
    refine List.map_congr_left fun line hline => ?_
    have hno : '\r' ∉ line := by
      intro hmem
      refine h (List.mem_append_left _ (List.mem_flatMap.mpr ⟨line, hline, ?_⟩))
      exact List.mem_append_left _ hmem
    have hsuffix : ¬['\r'] <:+ line := fun hs => hno (hs.subset List.mem_cons_self)
    rw [Function.comp, dropReturn, dropTail_append, dropReturn, dropTail_of_not_suffix hsuffix]
  rw [linesOf_eq_dropMark, linesOf_eq_dropMark, withReturns_append, withReturns_unlines hlines,
    withReturns_of_notMem hlast, linesAfter_unlines_append hreturn,
    linesAfter_unlines_append hlines, hdrop]

theorem exists_eq_dropReturn_append (line : Text) :
    ∃ pad, IsBlankText pad ∧ line = dropReturn line ++ pad := by
  by_cases h : ['\r'] <:+ line
  · obtain ⟨init, rfl⟩ := h
    exact ⟨['\r'], by decide, by rw [dropReturn, dropTail_append]⟩
  · exact ⟨[], isBlankText_nil, by rw [dropReturn, dropTail_of_not_suffix h, List.append_nil]⟩

/-- White space at the end of the last line stays there when a mark is dropped. -/
theorem exists_dropMark_concat (lines : List Text) (line : Text) : ∃ lines' line',
    ∀ pad, IsBlankText pad → dropMark (lines ++ [line ++ pad]) = lines' ++ [line' ++ pad] := by
  cases lines with
  | cons first more =>
      exact ⟨dropMark (first :: more), line, fun pad _ => dropMark_append (List.cons_ne_nil _ _) _⟩
  | nil =>
      by_cases hmark : line.head? = some '\uFEFF'
      · obtain ⟨line', rfl⟩ : ∃ line', line = '\uFEFF' :: line' := by
          cases line <;> simp_all
        exact ⟨[], line', fun pad _ => rfl⟩
      · refine ⟨[], line, fun pad hpad => dropMark_of_head ?_⟩
        intro shown hshown
        obtain rfl : line ++ pad = shown := by simpa using hshown
        cases line with
        | cons c line => exact hmark
        | nil =>
            intro hhead
            have hblank := hpad _ (List.mem_of_mem_head? hhead)
            exact absurd hblank (by decide)

end Reading

namespace Dialect

variable {d : Dialect} (hsep : IsBlankText d.delimiters.lineSeparator)

include hsep

theorem statementsOfLines_dropMark_concat {pad : Text} (hpad : IsBlankText pad)
    (lines : List Text) (line : Text) :
    d.statementsOfLines (dropMark (lines ++ [line ++ pad])) =
      d.statementsOfLines (dropMark (lines ++ [line])) := by
  obtain ⟨lines', line', hdrop⟩ := exists_dropMark_concat lines line
  have hbare := hdrop [] isBlankText_nil
  rw [List.append_nil, List.append_nil] at hbare
  rw [hdrop pad hpad, hbare, statementsOfLines_concat_append hsep hpad]

/-- A last line that is empty can be read as a line of its own. -/
theorem statementsOfLines_dropMark_lastLine (lines : List Text) (last : Text) :
    d.statementsOfLines (dropMark (lines ++ lastLine last)) =
      d.statementsOfLines (dropMark (lines ++ [last])) := by
  by_cases hlast : last = []
  · subst hlast
    have hempty : dropMark (lines ++ [[]]) = dropMark lines ++ [[]] := by
      cases lines with
      | nil => rfl
      | cons first more => exact dropMark_append (List.cons_ne_nil _ _) _
    rw [hempty, statementsOfLines_concat_blank hsep isBlankText_nil, lastLine, if_pos rfl,
      List.append_nil]
  · rw [lastLine, if_neg hlast]

theorem statementsOf_unlines_append {lines : List Text} {last : Text}
    (hlines : ∀ line ∈ lines, '\n' ∉ line) (hlast : '\n' ∉ last) :
    d.statementsOf (unlines lines ++ last) =
      d.statementsOfLines (dropMark (lines.map dropReturn ++ [last])) := by
  rw [statementsOf, linesOf_eq_dropMark, linesAfter_unlines_append hlines,
    linesAfter_of_not_mem hlast, statementsOfLines_dropMark_lastLine hsep]

/-- A blank character behind a script ends its last line or lengthens it. -/
theorem statementsOf_concat_blank {c : Char} (hc : isBlank c) (text : Text) :
    d.statementsOf (text ++ [c]) = d.statementsOf text := by
  obtain ⟨lines, last, hlines, hlast, rfl⟩ := exists_eq_unlines_append text
  have hpad : IsBlankText [c] := by simpa [IsBlankText] using hc
  rw [List.append_assoc]
  by_cases hbreak : c = '\n'
  · subst hbreak
    have hended : unlines lines ++ (last ++ ['\n']) = unlines (lines ++ [last]) ++ [] := by simp
    have hmore : ∀ line ∈ lines ++ [last], '\n' ∉ line := by
      intro line hline
      rcases List.mem_append.mp hline with hline | hline
      · exact hlines line hline
      · exact List.mem_singleton.mp hline ▸ hlast
    obtain ⟨pad, hblank, hreturn⟩ := exists_eq_dropReturn_append last
    rw [hended, statementsOf_unlines_append hsep hmore List.not_mem_nil,
      ← statementsOfLines_dropMark_lastLine hsep, lastLine, if_pos rfl, List.append_nil,
      List.map_append, List.map_singleton, statementsOf_unlines_append hsep hlines hlast]
    conv_rhs => rw [hreturn]
    rw [statementsOfLines_dropMark_concat hsep hblank]
  · have hlonger : '\n' ∉ last ++ [c] := by simp [hlast, Ne.symm hbreak]
    rw [statementsOf_unlines_append hsep hlines hlonger,
      statementsOfLines_dropMark_concat hsep hpad, statementsOf_unlines_append hsep hlines hlast]

theorem statementsOf_append_blank {pad : Text} (hpad : IsBlankText pad) (text : Text) :
    d.statementsOf (text ++ pad) = d.statementsOf text := by
  induction pad generalizing text with
  | nil => rw [List.append_nil]
  | cons c pad ih =>
      obtain ⟨hc, hrest⟩ := List.forall_mem_cons.mp hpad
      rw [List.append_cons, ih hrest, statementsOf_concat_blank hsep hc]

omit hsep in
/-- How the lines of a script end makes no difference to its statements: neither a carriage return
in front of each line feed, nor white space behind the script, such as a line feed for its last line
and any number of blank lines. -/
theorem statementsOf_layout (d : Dialect) (hsep : IsBlankText d.delimiters.lineSeparator)
    (script : Text) :
    ('\r' ∉ script → d.statementsOf (withReturns script) = d.statementsOf script) ∧
      ∀ blanks, IsBlankText blanks → d.statementsOf (script ++ blanks) = d.statementsOf script := by
  refine ⟨fun hreturn => ?_, fun blanks hblanks => statementsOf_append_blank hsep hblanks script⟩
  rw [statementsOf, linesOf_withReturns hreturn, statementsOf]

omit hsep in
/-- A script with a mark whose end leaves a block open, which blank lines do not close. -/
theorem statementsOf_layout_block :
    let d : Dialect := { keywords := ⟨[(["BEGIN".toList], .block)]⟩ }
    let script := "\uFEFF# a\nselect 1\n\nBEGIN\n\n  null;".toList
    let blanks := "\n \t\n\n".toList
    IsBlankText d.delimiters.lineSeparator ∧ '\r' ∉ script ∧ IsBlankText blanks ∧
      d.statementsOf (withReturns script) = d.statementsOf script ∧
      d.statementsOf (script ++ blanks) = d.statementsOf script ∧
      d.statementsOf script =
        [⟨.comment, "# a", 1⟩, ⟨.unknown, "select 1", 2⟩, ⟨.block, "BEGIN\n\n  null;", 4⟩] := by
  intro d script blanks
  have hsep : IsBlankText d.delimiters.lineSeparator := by decide
  have hreturn : '\r' ∉ script := by decide
  have hblanks : IsBlankText blanks := by decide
  obtain ⟨hends, hbehind⟩ := statementsOf_layout d hsep script
  exact ⟨hsep, hreturn, hblanks, hends hreturn, hbehind blanks hblanks, by decide +kernel⟩

end Dialect

end SqlScript
