import SqlScript.Reading
import SqlScript.Proofs.Text.Trimming

/-!
The lines of a text against the text of some lines. Lines that are written out with a line feed
after each of them are read back as they were, and a text that ends with a line feed can be read
apart from what follows it.
-/

namespace SqlScript.Reading

open Text

/-- The lines with a line feed after each of them. -/
def unlines (lines : List Text) : Text := lines.flatMap (· ++ ['\n'])

/-- Whether a line stays as it is when it is written out and read back: it holds no line feed, and
no carriage return at its end that would be taken for part of the line end. -/
def IsLine (line : Text) : Prop := '\n' ∉ line ∧ ¬['\r'] <:+ line

instance (line : Text) : Decidable (IsLine line) :=
  inferInstanceAs (Decidable (_ ∧ _))

/-- Whether a text is written in whole lines. -/
def EndsLine (text : Text) : Prop := text = [] ∨ ['\n'] <:+ text

instance (text : Text) : Decidable (EndsLine text) :=
  inferInstanceAs (Decidable (_ ∨ _))

/-- The lines of a text that is not the start of a script, so that a mark is not dropped. -/
def linesAfter (text : Text) : List Text :=
  (text.splitOn '\n').dropLast.map dropReturn ++ lastLine ((text.splitOn '\n').getLast?.getD [])

def withoutMark : Text → Text
  | '\uFEFF' :: text => text
  | text => text

@[simp] theorem unlines_nil : unlines [] = [] := rfl

@[simp] theorem unlines_cons (line : Text) (lines : List Text) :
    unlines (line :: lines) = line ++ '\n' :: unlines lines := by
  simp [unlines]

@[simp] theorem unlines_append (lines others : List Text) :
    unlines (lines ++ others) = unlines lines ++ unlines others := by
  simp [unlines]

@[simp] theorem linesAfter_nil : linesAfter [] = [] := rfl

theorem linesOf_eq_dropMark (text : Text) : linesOf text = dropMark (linesAfter text) := rfl

theorem linesAfter_of_not_mem {line : Text} (h : '\n' ∉ line) :
    linesAfter line = lastLine line := by
  simp [linesAfter, List.splitOn_eq_singleton h]

theorem linesAfter_append {line : Text} (h : '\n' ∉ line) (text : Text) :
    linesAfter (line ++ '\n' :: text) = dropReturn line :: linesAfter text := by
  have hne := List.splitOn_ne_nil '\n' text
  simp only [linesAfter, List.splitOn_append_cons_self_of_not_mem h]
  rw [List.dropLast_cons_of_ne_nil hne, List.getLast?_cons_of_ne_nil hne]
  rfl

theorem linesAfter_unlines_append {lines : List Text} (h : ∀ line ∈ lines, '\n' ∉ line)
    (text : Text) :
    linesAfter (unlines lines ++ text) = lines.map dropReturn ++ linesAfter text := by
  induction lines with
  | nil => rfl
  | cons line lines ih =>
    rw [unlines_cons, List.append_assoc, List.cons_append, linesAfter_append (h line (by simp)),
      ih fun l hl => h l (by simp [hl])]
    rfl

/-- Every text is some lines, written out, and a rest without a line feed. -/
theorem exists_eq_unlines_append (text : Text) : ∃ lines last,
    (∀ line ∈ lines, '\n' ∉ line) ∧ '\n' ∉ last ∧ text = unlines lines ++ last := by
  induction text with
  | nil => exact ⟨[], [], by simp⟩
  | cons c text ih =>
    obtain ⟨lines, last, hlines, hlast, rfl⟩ := ih
    by_cases hc : c = '\n'
    · exact ⟨[] :: lines, last, by simpa using hlines, hlast, by simp [hc]⟩
    · have hc' : '\n' ≠ c := Ne.symm hc
      cases lines with
      | nil => exact ⟨[], c :: last, by simp, by simp [hc', hlast], rfl⟩
      | cons line lines =>
        simp only [List.forall_mem_cons] at hlines
        exact ⟨(c :: line) :: lines, last, by simpa [hc', hlines.1] using hlines.2, hlast, by simp⟩

theorem EndsLine.exists_eq_unlines {text : Text} (h : EndsLine text) :
    ∃ lines, (∀ line ∈ lines, '\n' ∉ line) ∧ text = unlines lines := by
  obtain ⟨lines, last, hlines, hlast, rfl⟩ := exists_eq_unlines_append text
  refine ⟨lines, hlines, ?_⟩
  suffices last = [] by simp [this]
  by_contra hne
  rcases h with h | ⟨init, h⟩
  · exact hne (List.append_eq_nil_iff.mp h).2
  · have hl : '\n' = last.getLast hne := by
      have := congrArg List.getLast? h
      rw [List.getLast?_append_of_ne_nil _ hne, List.getLast?_append_of_ne_nil _ (by simp)] at this
      simpa [List.getLast?_eq_getLast_of_ne_nil hne] using this
    exact hlast (hl ▸ List.getLast_mem hne)

/-! ### Line ends and the mark -/

theorem dropReturn_of_isLine {line : Text} (h : IsLine line) : dropReturn line = line :=
  dropTail_of_not_suffix h.2

@[simp] theorem ink_dropReturn (line : Text) : ink (dropReturn line) = ink line := by
  by_cases h : ['\r'] <:+ line
  · obtain ⟨init, rfl⟩ := h
    simp [dropReturn, show IsBlankText ['\r'] by decide]
  · rw [dropReturn, dropTail_of_not_suffix h]

theorem dropMark_append {lines : List Text} (h : lines ≠ []) (others : List Text) :
    dropMark (lines ++ others) = dropMark lines ++ others := by
  cases lines with
  | nil => exact absurd rfl h
  | cons line lines =>
    simp only [List.cons_append]
    unfold dropMark
    split <;> split <;> simp_all

theorem dropMark_of_head {lines : List Text}
    (h : ∀ line ∈ lines.head?, line.head? ≠ some '\uFEFF') : dropMark lines = lines := by
  unfold dropMark
  split
  · simp at h
  · rfl

/-- The lines of a text without a mark, wherever it stands. -/
theorem linesOf_eq_linesAfter {text : Text} (h : text.head? ≠ some '\uFEFF') :
    linesOf text = linesAfter text := by
  rw [linesOf_eq_dropMark]
  apply dropMark_of_head
  obtain ⟨lines, last, hlines, hlast, rfl⟩ := exists_eq_unlines_append text
  rw [linesAfter_unlines_append hlines, linesAfter_of_not_mem hlast]
  cases lines with
  | nil => by_cases he : last = [] <;> simp_all [lastLine]
  | cons line lines =>
    intro shown hshown
    obtain rfl : dropReturn line = shown := by simpa using hshown
    obtain ⟨rest, hrest⟩ : dropReturn line <+: line := dropTail_prefix_self _ _
    intro hmark
    apply h
    rw [unlines_cons, ← hrest]
    cases hd : dropReturn line <;> simp_all

theorem linesOf_append {a b : Text} (ha : EndsLine a) (hb : b.head? ≠ some '\uFEFF') :
    linesOf (a ++ b) = linesOf a ++ linesOf b := by
  obtain ⟨lines, hlines, rfl⟩ := ha.exists_eq_unlines
  have hself : linesAfter (unlines lines) = lines.map dropReturn := by
    simpa using linesAfter_unlines_append hlines []
  rw [linesOf_eq_linesAfter hb, linesOf_eq_dropMark, linesOf_eq_dropMark,
    linesAfter_unlines_append hlines, hself]
  cases lines with
  | nil => exact linesOf_eq_linesAfter hb
  | cons line lines => exact dropMark_append (List.cons_ne_nil _ _) _

theorem map_dropReturn_of_isLine {lines : List Text} (h : ∀ line ∈ lines, IsLine line) :
    lines.map dropReturn = lines := by
  have hself : ∀ line ∈ lines, dropReturn line = id line :=
    fun line hl => dropReturn_of_isLine (h line hl)
  rw [List.map_congr_left hself, List.map_id]

/-- Lines that are written out in front of a last one are read back. -/
theorem linesOf_unlines_append {lines : List Text} {last : Text}
    (h : ∀ line ∈ lines ++ [last], IsLine line)
    (hmark : ∀ line ∈ (lines ++ [last]).head?, line.head? ≠ some '\uFEFF') (hlast : last ≠ []) :
    linesOf (unlines lines ++ last) = lines ++ [last] := by
  obtain ⟨hlines, hline⟩ := List.forall_mem_append.mp h
  have hbreak : '\n' ∉ last := (hline last List.mem_cons_self).1
  rw [linesOf_eq_dropMark, linesAfter_unlines_append fun line hl => (hlines line hl).1,
    linesAfter_of_not_mem hbreak, map_dropReturn_of_isLine hlines, lastLine, if_neg hlast,
    dropMark_of_head hmark]

/-- Lines that are written out are read back. -/
theorem linesOf_unlines {lines : List Text} (h : ∀ line ∈ lines, IsLine line)
    (hmark : ∀ line ∈ lines.head?, line.head? ≠ some '\uFEFF') :
    linesOf (unlines lines) = lines := by
  have hread := linesAfter_unlines_append (fun line hl => (h line hl).1) []
  rw [List.append_nil, linesAfter_nil, List.append_nil, map_dropReturn_of_isLine h] at hread
  rw [linesOf_eq_dropMark, hread, dropMark_of_head hmark]

end SqlScript.Reading
