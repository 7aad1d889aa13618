import SqlScript.Proofs.Reading.Encoding
import SqlScript.Proofs.Scan.Cursor
import SqlScript.Proofs.Scan.Step

/-!
The lists of delimiters are sets. A line is looked up in them or compared with each member, and of
the terminators that end a line only the longest counts, which is one text: two ends of one line
with the same length are the same. So neither the order of the delimiters nor a repetition of one
shows in any step of a scan.
-/

namespace SqlScript

open Text

namespace Delimiters

/-- Whether delimiters are the same sets, with the same text between lines. -/
structure SameSets (d e : Delimiters) : Prop where
  sqlLines : ∀ t, t ∈ d.sqlLines ↔ t ∈ e.sqlLines
  psqlLines : ∀ t, t ∈ d.psqlLines ↔ t ∈ e.psqlLines
  sqlEnds : ∀ t, t ∈ d.sqlEnds ↔ t ∈ e.sqlEnds
  psqlEnds : ∀ t, t ∈ d.psqlEnds ↔ t ∈ e.psqlEnds
  commentMarks : ∀ t, t ∈ d.commentMarks ↔ t ∈ e.commentMarks
  lineSeparator : d.lineSeparator = e.lineSeparator

section Lists

variable {ts us : List Text} (h : ∀ t, t ∈ ts ↔ t ∈ us)

include h

theorem contains_congr (line : Text) : ts.contains line = us.contains line := by
  rw [Bool.eq_iff_iff, List.contains_iff_mem, List.contains_iff_mem, h]

theorem IsLongestEnd.congr {line t : Text} (ht : IsLongestEnd ts line t) :
    IsLongestEnd us line t where
  mem := (h t).mp ht.mem
  ne_nil := ht.ne_nil
  suffix := ht.suffix
  longest := fun u hu => ht.longest u ((h u).mpr hu)

/-- A line has at most one longest end, so the list in which it is looked for does not matter. -/
theorem longestEnd?_congr (line : Text) : longestEnd? ts line = longestEnd? us line := by
  refine Option.ext fun t => ?_
  rw [longestEnd?_eq_some_iff, longestEnd?_eq_some_iff]
  exact ⟨fun ht => ht.congr h, fun ht => ht.congr fun t => (h t).symm⟩

end Lists

namespace SameSets

variable {d e : Delimiters} (h : d.SameSets e)

include h

theorem closingLines (category : Category) (t : Text) :
    t ∈ d.closingLines category ↔ t ∈ e.closingLines category := by
  cases category with
  | sql => exact h.sqlLines t
  | psql => exact h.psqlLines t
  | command | comment => exact Iff.rfl

theorem closingEnds (category : Category) (t : Text) :
    t ∈ d.closingEnds category ↔ t ∈ e.closingEnds category := by
  cases category with
  | sql => exact h.sqlEnds t
  | psql => exact h.psqlEnds t
  | command | comment => exact Iff.rfl

theorem isSeparatorLine_eq (line : Text) : d.isSeparatorLine line = e.isSeparatorLine line := by
  rw [isSeparatorLine, contains_congr h.sqlLines, contains_congr h.psqlLines, isSeparatorLine]

theorem isComment_eq (line : Text) : d.isComment line = e.isComment line := by
  rw [isComment, isComment, Bool.eq_iff_iff, List.any_eq_true, List.any_eq_true]
  exact exists_congr fun mark => and_congr_left' (h.commentMarks mark)

end SameSets

end Delimiters

namespace Dialect

/-- Whether dialects have the same keywords and delimiters that are the same sets. -/
structure SameSets (d e : Dialect) : Prop where
  delimiters : d.delimiters.SameSets e.delimiters
  keywords : d.keywords = e.keywords

namespace SameSets

variable {d e : Dialect} (h : d.SameSets e)

include h

/-! ### One line -/

theorem close_eq (draft : Draft) (rest : Text) : d.close draft rest = e.close draft rest := by
  rw [close, h.delimiters.lineSeparator, close]

theorem append_eq (draft : Draft) (line : Text) : d.append draft line = e.append draft line := by
  simp only [append, Delimiters.longestEnd?_congr (h.delimiters.closingEnds _), h.close_eq]

theorem start_eq (number : Nat) (line : Text) : d.start number line = e.start number line := by
  simp only [start, h.delimiters.isSeparatorLine_eq, h.delimiters.isComment_eq, h.keywords,
    h.append_eq]

theorem resume_eq (draft : Draft) (line : Text) : d.resume draft line = e.resume draft line := by
  simp only [resume, Delimiters.contains_congr (h.delimiters.closingLines _), h.close_eq,
    h.append_eq]

theorem advance_eq (number : Nat) (line : Text) (pending : Option Draft) :
    d.advance number line pending = e.advance number line pending := by
  cases pending with
  | none => exact h.start_eq number line
  | some draft => exact h.resume_eq draft line

/-! ### The run -/

theorem scanFrom_eq (number : Nat) (pending : Option Draft) (lines : List Text) :
    d.scanFrom number pending lines = e.scanFrom number pending lines := by
  induction lines generalizing number pending with
  | nil => rfl
  | cons line lines ih =>
      rw [scanFrom, h.advance_eq, scanFrom]
      simp only [ih]

theorem ending_eq (count : Nat) (pending : Option Draft) (fault : Option ReadFault) :
    d.ending count pending fault = e.ending count pending fault := by
  simp only [ending, h.close_eq]

end SameSets

/-- In which order the delimiters are given and how often makes no difference to any outcome, taken
all at once or turn by turn, whatever the script is and wherever its reading fails. -/
theorem outcomes_of_sameSets {d e : Dialect} (h : d.SameSets e) (source : Source) :
    let reading := Reading.ofSource source
    d.outcomes reading = e.outcomes reading ∧
      ∀ turn, (⟨reading, 0, false⟩ : Cursor).outcome d turn =
        (⟨reading, 0, false⟩ : Cursor).outcome e turn := by
  intro reading
  have hall : d.outcomes reading = e.outcomes reading := by
    simp only [outcomes, scan, h.scanFrom_eq, h.ending_eq]
  refine ⟨hall, fun turn => ?_⟩
  rw [Cursor.outcome_eq, hall, Cursor.outcome_eq]

/-- Of the two ends of the query and of the two ends of the block the longer one goes, first or last
in its list. -/
theorem outcomes_of_sameSets_reversed :
    let keywords : Keywords := ⟨[(["SELECT"], .query), (["DO"], .block)]⟩
    let delimiters : Delimiters := { sqlEnds := [";", ";;"], psqlEnds := ["//", ";", "$$;"] }
    let permuted : Delimiters :=
      { sqlLines := ["", "/", ";"], psqlLines := ["$$;", ".", "/", "."],
        sqlEnds := [";;", ";", ";;"], psqlEnds := ["$$;", "//", ";"],
        commentMarks := ["#", "--", "#"] }
    let d : Dialect := ⟨delimiters, keywords⟩
    let e : Dialect := ⟨permuted, keywords⟩
    let source : Source := ⟨Reading.encode "select 1;;\ndo $$ null; end $$;\n# a\nselect", none⟩
    d.SameSets e ∧ d ≠ e ∧
      d.outcomes (.ofSource source) = e.outcomes (.ofSource source) ∧
      e.outcomes (.ofSource source) =
        [(.statement ⟨.query, "select 1", 1⟩, 1),
          (.statement ⟨.block, "do $$ null; end $$", 2⟩, 2), (.statement ⟨.comment, "# a", 3⟩, 3),
          (.statement ⟨.query, "select", 4⟩, 4), (.finished, 4)] := by
  intro keywords delimiters permuted d e source
  have hsame : d.SameSets e := by
    refine ⟨⟨?_, ?_, ?_, ?_, ?_, rfl⟩, rfl⟩
    all_goals
      intro t
      simp only [d, e, delimiters, permuted, List.mem_cons, List.not_mem_nil, or_false]
      tauto
  refine ⟨hsame, by decide, (outcomes_of_sameSets hsame source).1, ?_⟩
  rw [Reading.ofSource_encode]
  decide +kernel

end Dialect

end SqlScript
