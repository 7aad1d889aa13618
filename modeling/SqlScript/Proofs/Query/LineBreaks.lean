import SqlScript.Proofs.Query.LeadingBlock

/-!
Line breaks within a query. A query is put on one line before its columns are looked for, and its
first word ends at white space of any kind, so texts that differ only in the tabs and line breaks
between two of their parts have the same columns.
-/

namespace SqlScript

namespace Query

open Text

/-- Whether a text does nothing but break lines. -/
def IsBreakText (s : Text) : Prop := s ≠ [] ∧ ∀ c ∈ s, isBreak c

instance (s : Text) : Decidable (IsBreakText s) :=
  @instDecidableAnd _ _ inferInstance (List.decidableBAll _ s)

/-- Whether two texts are the same on one line, whatever stands in front of them. -/
def SameLine (s t : Text) : Prop := ∀ inRun, joinLines inRun s = joinLines inRun t

/-! ### Texts that are joined -/

theorem SameLine.append_left (lead : Text) {s t : Text} (h : SameLine s t) :
    SameLine (lead ++ s) (lead ++ t) := by
  induction lead with
  | nil => exact h
  | cons c lead ih =>
      intro inRun
      simp only [List.cons_append, joinLines, ih _]

theorem joinLines_true_append {s : Text} (h : ∀ c ∈ s, isBreak c) (t : Text) :
    joinLines true (s ++ t) = joinLines true t := by
  induction s with
  | nil => rfl
  | cons c s ih =>
      obtain ⟨hc, hs⟩ := List.forall_mem_cons.mp h
      rw [List.cons_append, joinLines, if_pos hc, if_pos rfl, ih hs]

theorem IsBreakText.joinLines_append {s : Text} (h : IsBreakText s) (inRun : Bool) (t : Text) :
    joinLines inRun (s ++ t) = (if inRun then [] else [' ']) ++ joinLines true t := by
  obtain ⟨c, s, rfl⟩ := List.exists_cons_of_ne_nil h.1
  obtain ⟨hc, hs⟩ := List.forall_mem_cons.mp h.2
  rw [List.cons_append, joinLines, if_pos hc, joinLines_true_append hs]
  cases inRun <;> rfl

/-- Any text that breaks lines stands for one space, or for none behind another break. -/
theorem sameLine_join {separator other : Text} (h : IsBreakText separator)
    (hother : IsBreakText other) (parts : List Text) :
    SameLine (join separator parts) (join other parts) := by
  induction parts with
  | nil => exact fun inRun => rfl
  | cons part parts ih =>
      by_cases hparts : parts = []
      · simp only [hparts, join_singleton]
        exact fun inRun => rfl
      · rw [join_cons hparts, join_cons hparts, List.append_assoc, List.append_assoc]
        refine SameLine.append_left part fun inRun => ?_
        rw [h.joinLines_append, hother.joinLines_append, ih true]

/-! ### The one line of a text -/

theorem SameLine.flatten_eq {s t : Text} (h : SameLine s t) : flatten s = flatten t := by
  rw [flatten, h false, flatten]

theorem exists_joinLines_append (inRun : Bool) (s t : Text) :
    ∃ inRun', joinLines inRun (s ++ t) = joinLines inRun s ++ joinLines inRun' t := by
  induction s generalizing inRun with
  | nil => exact ⟨inRun, rfl⟩
  | cons c s ih =>
      by_cases hc : isBreak c = true
      · obtain ⟨inRun', htail⟩ := ih true
        exact ⟨inRun', by cases inRun <;> simp [joinLines, hc, htail]⟩
      · obtain ⟨inRun', htail⟩ := ih false
        exact ⟨inRun', by simp [joinLines, hc, htail]⟩

theorem isBlankText_joinLines {s : Text} (inRun : Bool) (h : IsBlankText s) :
    IsBlankText (joinLines inRun s) := by
  rwa [← ink_eq_nil_iff, ink_joinLines, ink_eq_nil_iff]

theorem flatten_trimEnd (s : Text) : flatten (trimEnd s) = flatten s := by
  obtain ⟨pad, hpad, hs⟩ := exists_eq_trimEnd_append s
  obtain ⟨inRun, hline⟩ := exists_joinLines_append false (trimEnd s) pad
  conv_rhs => rw [hs, flatten, hline, trim_append_right _ (isBlankText_joinLines inRun hpad)]
  rfl

/-! ### The first word of a text -/

theorem trimStart_joinLines (inRun : Bool) (s : Text) :
    trimStart (joinLines inRun s) = joinLines false (trimStart s) := by
  have hspace : isBlank ' ' = true := by decide
  induction s generalizing inRun with
  | nil => rfl
  | cons c s ih =>
      simp only [trimStart] at ih
      by_cases hbreak : isBreak c = true
      · have hblank : isBlank c = true := isBlank_of_isBreak hbreak
        cases inRun <;> simp [trimStart, joinLines, hbreak, hblank, hspace, ih]
      · by_cases hblank : isBlank c = true
        · simp [trimStart, joinLines, hbreak, hblank, ih]
        · simp [trimStart, joinLines, hbreak, hblank]

theorem takeWhile_joinLines {p : Char → Bool} (hp : ∀ c, isBlank c → p c = false) (s : Text) :
    (joinLines false s).takeWhile p = s.takeWhile p := by
  have hspace : p ' ' = false := hp ' ' (by decide)
  induction s with
  | nil => rfl
  | cons c s ih =>
      by_cases hbreak : isBreak c = true
      · simp [joinLines, hbreak, hspace, hp c (isBlank_of_isBreak hbreak)]
      · rw [joinLines, if_neg hbreak, List.takeWhile_cons, List.takeWhile_cons, ih]

theorem firstWord_joinLines (inRun : Bool) (s : Text) :
    firstWord (joinLines inRun s) = firstWord s := by
  rw [firstWord, trimStart_joinLines, takeWhile_joinLines, firstWord]
  intro c hc
  simp [hc]

theorem SameLine.firstWord_eq {s t : Text} (h : SameLine s t) : firstWord s = firstWord t := by
  rw [← firstWord_joinLines false s, h false, firstWord_joinLines]

theorem firstWord_append_blank (s : Text) {pad : Text} (h : IsBlankText pad) :
    firstWord (s ++ pad) = firstWord s := by
  by_cases hs : IsBlankText s
  · have hboth : IsBlankText (s ++ pad) := isBlankText_append.mpr ⟨hs, h⟩
    rw [firstWord, trimStart_eq_nil_iff.mpr hboth, firstWord, trimStart_eq_nil_iff.mpr hs]
  · cases pad with
    | nil => rw [List.append_nil]
    | cons c pad => exact firstWord_append_cons hs (h c List.mem_cons_self) pad

theorem firstWord_trimEnd (s : Text) : firstWord (trimEnd s) = firstWord s := by
  obtain ⟨pad, hpad, hs⟩ := exists_eq_trimEnd_append s
  conv_rhs => rw [hs, firstWord_append_blank _ hpad]

end Query

end SqlScript
