import SqlScript.Text.Blank
import Mathlib.Data.List.DropRight

/-!
What trimming, joining and cutting into words do to a text. A text is its trimmed form between two
runs of white space, so trimming keeps the ink of a text: its characters that are not blank, in
order. Joining with white space keeps the ink of the parts, and the words of a text hold its ink.
-/

namespace SqlScript.Text

/-- Whether all characters of a text are white space. -/
def IsBlankText (s : Text) : Prop := ∀ c ∈ s, isBlank c

instance (s : Text) : Decidable (IsBlankText s) := List.decidableBAll _ s

/-- The characters of a text that are not blank, in order. -/
def ink (s : Text) : Text := s.filter fun c => !isBlank c

@[simp] theorem isBlankText_nil : IsBlankText [] := by simp [IsBlankText]

@[simp] theorem isBlankText_append {s t : Text} :
    IsBlankText (s ++ t) ↔ IsBlankText s ∧ IsBlankText t := by
  simp only [IsBlankText, List.forall_mem_append]

theorem isBlankText_of_spaces {s : Text} (h : ∀ c ∈ s, c = ' ') : IsBlankText s := by
  intro c hc
  rw [h c hc]
  decide

@[simp] theorem ink_nil : ink [] = [] := rfl

@[simp] theorem ink_append (s t : Text) : ink (s ++ t) = ink s ++ ink t := List.filter_append ..

theorem ink_cons_of_blank {c : Char} (h : isBlank c) (s : Text) : ink (c :: s) = ink s := by
  rw [ink, List.filter_cons_of_neg (by simp [h]), ink]

@[simp] theorem ink_eq_nil_iff {s : Text} : ink s = [] ↔ IsBlankText s := by
  simp [ink, IsBlankText]

/-! ### Trimming -/

theorem exists_eq_append_trimStart (s : Text) :
    ∃ lead, IsBlankText lead ∧ s = lead ++ trimStart s :=
  ⟨s.takeWhile isBlank, fun _ hc => List.mem_takeWhile_imp hc,
    (List.takeWhile_append_dropWhile).symm⟩

theorem exists_eq_trimEnd_append (s : Text) : ∃ pad, IsBlankText pad ∧ s = trimEnd s ++ pad :=
  ⟨s.rtakeWhile isBlank, fun _ hc => List.mem_rtakeWhile_imp hc,
    List.rdropWhile_append_rtakeWhile.symm⟩

theorem trimEnd_prefix_self (s : Text) : trimEnd s <+: s := by
  obtain ⟨pad, -, h⟩ := exists_eq_trimEnd_append s
  exact ⟨pad, h.symm⟩

/-- A text is its trimmed form between two runs of white space. -/
theorem exists_eq_append_trim_append (s : Text) :
    ∃ lead pad, IsBlankText lead ∧ IsBlankText pad ∧ s = lead ++ trim s ++ pad := by
  obtain ⟨lead, hlead, hs⟩ := exists_eq_append_trimStart s
  obtain ⟨pad, hpad, ht⟩ := exists_eq_trimEnd_append (trimStart s)
  refine ⟨lead, pad, hlead, hpad, ?_⟩
  rw [List.append_assoc, trim, ← ht, ← hs]

@[simp] theorem ink_trimStart (s : Text) : ink (trimStart s) = ink s := by
  obtain ⟨lead, hlead, h⟩ := exists_eq_append_trimStart s
  conv_rhs => rw [h, ink_append, ink_eq_nil_iff.mpr hlead, List.nil_append]

@[simp] theorem ink_trimEnd (s : Text) : ink (trimEnd s) = ink s := by
  obtain ⟨pad, hpad, h⟩ := exists_eq_trimEnd_append s
  conv_rhs => rw [h, ink_append, ink_eq_nil_iff.mpr hpad, List.append_nil]

@[simp] theorem ink_trim (s : Text) : ink (trim s) = ink s := by simp [trim]

@[simp] theorem isBlankText_trim {s : Text} : IsBlankText (trim s) ↔ IsBlankText s := by
  rw [← ink_eq_nil_iff, ink_trim, ink_eq_nil_iff]

theorem trimStart_eq_nil_iff {s : Text} : trimStart s = [] ↔ IsBlankText s := by
  simp [trimStart, IsBlankText]

theorem trimEnd_eq_nil_iff {s : Text} : trimEnd s = [] ↔ IsBlankText s :=
  List.rdropWhile_eq_nil_iff

theorem trim_eq_nil_iff {s : Text} : trim s = [] ↔ IsBlankText s := by
  rw [trim, trimEnd_eq_nil_iff, ← ink_eq_nil_iff, ink_trimStart, ink_eq_nil_iff]

@[simp] theorem trimEnd_trimEnd (s : Text) : trimEnd (trimEnd s) = trimEnd s :=
  List.rdropWhile_idempotent ..

@[simp] theorem trimEnd_trim (s : Text) : trimEnd (trim s) = trim s := trimEnd_trimEnd _

theorem trimStart_append_of_not_blank {s t : Text} (h : ¬IsBlankText s) :
    trimStart (s ++ t) = trimStart s ++ t := by
  have hs : s.dropWhile isBlank ≠ [] := fun he => h (trimStart_eq_nil_iff.mp he)
  simp [trimStart, List.dropWhile_append, hs]

theorem trimEnd_append_of_not_blank (s : Text) {t : Text} (h : ¬IsBlankText t) :
    trimEnd (s ++ t) = s ++ trimEnd t := by
  have hreverse : ¬IsBlankText t.reverse := by simpa [IsBlankText] using h
  have hstart : trimStart (t.reverse ++ s.reverse) = trimStart t.reverse ++ s.reverse :=
    trimStart_append_of_not_blank hreverse
  simpa [trimEnd, dropEndWhile, trimStart] using congrArg List.reverse hstart

theorem trimEnd_cons {c : Char} (hc : ¬isBlank c) (s : Text) :
    trimEnd (c :: s) = c :: trimEnd s := by
  by_cases hs : IsBlankText s
  · have hone : trimEnd [c] = [c] := by simp [trimEnd, dropEndWhile, hc]
    rw [← List.singleton_append, trimEnd_append_of_blank hs, hone, trimEnd_eq_nil_iff.mpr hs]
  · exact trimEnd_append_of_not_blank [c] hs

theorem exists_trimEnd_cons {c : Char} (hc : ¬isBlank c) (s : Text) :
    ∃ t, trimEnd (c :: s) = c :: t := ⟨_, trimEnd_cons hc s⟩

theorem trimEnd_append_cons (s : Text) {c : Char} (hc : ¬isBlank c) (t : Text) :
    trimEnd (s ++ c :: t) = s ++ c :: trimEnd t := by
  have hink : ¬IsBlankText (c :: t) := fun h => hc (h c List.mem_cons_self)
  rw [trimEnd_append_of_not_blank s hink, trimEnd_cons hc]

theorem trimStart_append_cons (s : Text) {c : Char} (hc : ¬isBlank c) (t : Text) :
    trimStart (s ++ c :: t) = trimStart s ++ c :: t := by
  by_cases hs : IsBlankText s
  · rw [trimStart, List.dropWhile_append_of_pos hs, List.dropWhile_cons_of_neg hc,
      trimStart_eq_nil_iff.mpr hs, List.nil_append]
  · exact trimStart_append_of_not_blank hs

theorem trimEnd_prefix_trimEnd_append (s t : Text) : trimEnd s <+: trimEnd (s ++ t) := by
  by_cases h : IsBlankText t
  · exact (trimEnd_append_of_blank h).symm ▸ List.prefix_rfl
  · rw [trimEnd_append_of_not_blank s h]
    exact (trimEnd_prefix_self s).trans (List.prefix_append s _)

/-- What stands at the end does not show exactly if it is white space. -/
theorem trimEnd_append_eq_trimEnd_iff {s t : Text} :
    trimEnd (s ++ t) = trimEnd s ↔ IsBlankText t := by
  refine ⟨fun h => ?_, trimEnd_append_of_blank⟩
  by_contra hink
  rw [trimEnd_append_of_not_blank s hink] at h
  have hlength := (trimEnd_prefix_self s).length_le
  rw [← h, List.length_append] at hlength
  have hnil : trimEnd t = [] := List.eq_nil_of_length_eq_zero (by omega)
  exact hink (trimEnd_eq_nil_iff.mp hnil)

theorem trim_append_left {lead : Text} (s : Text) (h : IsBlankText lead) :
    trim (lead ++ s) = trim s := by
  rw [trim, trimStart_append_of_blank h, trim]

theorem trim_append_right (s : Text) {pad : Text} (h : IsBlankText pad) :
    trim (s ++ pad) = trim s := by
  by_cases hs : IsBlankText s
  · rw [trim_append_left pad hs, trim_eq_nil_iff.mpr h, trim_eq_nil_iff.mpr hs]
  · rw [trim, trimStart_append_of_not_blank hs, trimEnd_append_of_blank h, trim]

@[simp] theorem trim_trim (s : Text) : trim (trim s) = trim s := by
  obtain ⟨lead, pad, hlead, hpad, hs⟩ := exists_eq_append_trim_append s
  conv_rhs => rw [hs, trim_append_right _ hpad, trim_append_left _ hlead]

@[simp] theorem trimStart_trim (s : Text) : trimStart (trim s) = trim s := by
  rw [trim]
  cases hs : trimStart s with
  | nil => rfl
  | cons c t =>
      have hhead := List.head?_dropWhile_not isBlank s
      rw [← trimStart, hs] at hhead
      have hc : ¬isBlank c := by simpa using hhead
      rw [trimEnd_cons hc]
      exact List.dropWhile_cons_of_neg hc

theorem trim_cons {c : Char} (hc : ¬isBlank c) (s : Text) : trim (c :: s) = c :: trimEnd s := by
  rw [trim, trimStart, List.dropWhile_cons_of_neg hc, trimEnd_cons hc]

theorem exists_trimStart_append_space (s : Text) :
    trimStart (s ++ [' ']) = [] ∨ ∃ t, trimStart (s ++ [' ']) = t ++ [' '] := by
  by_cases hs : IsBlankText s
  · refine .inl (trimStart_eq_nil_iff.mpr (isBlankText_append.mpr ⟨hs, ?_⟩))
    decide
  · exact .inr ⟨trimStart s, trimStart_append_of_not_blank hs⟩

theorem not_isBlank_getLast_trimEnd {s : Text} (h : trimEnd s ≠ []) :
    ¬isBlank ((trimEnd s).getLast h) :=
  List.rdropWhile_eq_self_iff.mp (trimEnd_trimEnd s) h

/-- Trimming stops at a character that is not blank. -/
theorem trimEnd_append_of_suffix_trim {s t : Text} (u : Text) (ht : t ≠ []) (h : t <:+ trim s) :
    trimEnd (u ++ t) = u ++ t := by
  have hlast : ¬isBlank (t.getLast ht) := by
    have hne : trim s ≠ [] := fun he => ht (List.suffix_nil.mp (he ▸ h))
    rw [h.getLast ht]
    exact not_isBlank_getLast_trimEnd hne
  refine List.rdropWhile_eq_self_iff.mpr fun hne => ?_
  rwa [List.getLast_append_of_ne_nil hne ht]

/-- Trimming stops at a text that is trimmed itself. -/
theorem trim_append_append {last t pad : Text} (ht : t ≠ []) (htrim : trim t = t)
    (hpad : IsBlankText pad) : trim (last ++ t ++ pad) = trimStart last ++ t := by
  rw [trim_append_right _ hpad]
  by_cases hlast : IsBlankText last
  · rw [trim_append_left t hlast, htrim, trimStart_eq_nil_iff.mpr hlast, List.nil_append]
  · rw [trim, trimStart_append_of_not_blank hlast]
    have hself : t <:+ trim t := ⟨[], by rw [List.nil_append, htrim]⟩
    exact trimEnd_append_of_suffix_trim _ ht hself

/-- A terminator at the end of a trimmed line is the one in front of the line's white space. -/
theorem exists_trim_eq_append {last t pad : Text} (ht : t ≠ []) (hpad : IsBlankText pad)
    (h : t <:+ trim (last ++ t ++ pad)) :
    ∃ lead rest, IsBlankText lead ∧ last = lead ++ rest ∧ trim (last ++ t ++ pad) = rest ++ t := by
  obtain ⟨lead, pad', hlead, hpad', hline⟩ := exists_eq_append_trim_append (last ++ t ++ pad)
  -- The blanks found by trimming need not be `pad`, but the text in front of either is the same.
  obtain ⟨rest, hrest⟩ := h
  refine ⟨lead, rest, hlead, ?_, hrest.symm⟩
  have hend : last ++ t = lead ++ rest ++ t := by
    calc last ++ t = trimEnd (last ++ t ++ pad) := by
          rw [trimEnd_append_of_blank hpad, trimEnd_append_of_suffix_trim last ht ⟨rest, hrest⟩]
      _ = trimEnd (lead ++ rest ++ t) := by
          rw [hline, ← hrest, trimEnd_append_of_blank hpad', List.append_assoc]
      _ = lead ++ rest ++ t := trimEnd_append_of_suffix_trim _ ht ⟨rest, hrest⟩
  exact List.append_cancel_right hend

/-! ### Joining -/

@[simp] theorem join_nil (separator : Text) : join separator [] = [] := rfl

@[simp] theorem join_singleton (separator s : Text) : join separator [s] = s := by simp [join]

theorem join_cons {separator s : Text} {parts : List Text} (h : parts ≠ []) :
    join separator (s :: parts) = s ++ separator ++ join separator parts := by
  cases parts with
  | nil => exact absurd rfl h
  | cons t parts => simp [join, List.append_assoc]

theorem join_cons_eq_flatMap (separator s : Text) (parts : List Text) :
    join separator (s :: parts) = s ++ parts.flatMap (separator ++ ·) := by
  induction parts generalizing s with
  | nil => simp
  | cons t parts ih =>
      rw [join_cons (List.cons_ne_nil _ _), ih, List.flatMap_cons]
      simp only [List.append_assoc]

/-- Each line with the separator after it, and `rest`, are the lines and `rest` joined. -/
theorem flatMap_append_eq_join (separator : Text) (lines : List Text) (rest : Text) :
    lines.flatMap (· ++ separator) ++ rest = join separator (lines ++ [rest]) := by
  induction lines with
  | nil => simp
  | cons line lines ih => rw [List.cons_append, join_cons (by simp), ← ih]; simp

/-- A blank last line does not show once the end is trimmed. -/
theorem trimEnd_join_concat_blank {separator last : Text} (h : IsBlankText separator)
    (hlast : IsBlankText last) (lines : List Text) :
    trimEnd (join separator (lines ++ [last])) = trimEnd (join separator lines) := by
  rcases List.eq_nil_or_concat' lines with rfl | ⟨front, line, rfl⟩
  · rw [List.nil_append, join_singleton, join_nil, trimEnd_nil, trimEnd_eq_nil_iff.mpr hlast]
  · -- Behind the last line that shows stand a separator and the blank line.
    rw [← flatMap_append_eq_join, ← flatMap_append_eq_join, trimEnd_append_of_blank hlast]
    simp [← List.append_assoc, trimEnd_append_of_blank h]

theorem ink_join {separator : Text} (h : IsBlankText separator) (parts : List Text) :
    ink (join separator parts) = ink parts.flatten := by
  induction parts with
  | nil => rfl
  | cons s parts ih =>
    by_cases hp : parts = []
    · simp [hp]
    · rw [join_cons hp]
      simp [ih, ink_eq_nil_iff.mpr h]

/-! ### Characters -/

theorem notMem_of_isBlankText {c : Char} (hc : isBlank c = false) {s : Text} (h : IsBlankText s) :
    c ∉ s := by
  intro hmem
  have hblank := h c hmem
  rw [hc] at hblank
  exact Bool.false_ne_true hblank

theorem notMem_join {c : Char} {separator : Text} {parts : List Text} (hsep : c ∉ separator)
    (h : ∀ part ∈ parts, c ∉ part) : c ∉ join separator parts := by
  induction parts with
  | nil => exact List.not_mem_nil
  | cons part parts ih =>
      rw [List.forall_mem_cons] at h
      by_cases hparts : parts = []
      · rw [hparts, join_singleton]
        exact h.1
      · rw [join_cons hparts, List.mem_append, List.mem_append, not_or, not_or]
        exact ⟨⟨h.1, hsep⟩, ih h.2⟩

theorem mem_join_of_mem {separator part : Text} {parts : List Text} (hpart : part ∈ parts)
    {c : Char} (hc : c ∈ part) : c ∈ join separator parts := by
  induction parts with
  | nil => exact absurd hpart List.not_mem_nil
  | cons first parts ih =>
      by_cases hparts : parts = []
      · rw [hparts, List.mem_singleton] at hpart
        rwa [hparts, join_singleton, ← hpart]
      · rw [join_cons hparts, List.mem_append, List.mem_append]
        rcases List.mem_cons.mp hpart with rfl | hrest
        · exact .inl (.inl hc)
        · exact .inr (ih hrest)

theorem mem_trim_iff {c : Char} (hc : isBlank c = false) {s : Text} : c ∈ trim s ↔ c ∈ s := by
  obtain ⟨lead, pad, hlead, hpad, hs⟩ := exists_eq_append_trim_append s
  conv_rhs => rw [hs]
  simp [notMem_of_isBlankText hc hlead, notMem_of_isBlankText hc hpad]

/-! ### Words -/

theorem flatten_splitOnP {α : Type} (p : α → Bool) (xs : List α) :
    (xs.splitOnP p).flatten = xs.filter fun x => !p x := by
  induction xs with
  | nil => rfl
  | cons x xs ih =>
      rw [List.splitOnP_cons_eq_if_modifyHead]
      cases hx : p x with
      | true => simp [hx, ih]
      | false =>
          obtain ⟨part, parts, hparts⟩ := List.exists_cons_of_ne_nil (List.splitOnP_ne_nil p xs)
          rw [hparts] at ih ⊢
          simp [hx, ← ih]

theorem flatten_words (s : Text) : (words s).flatten = ink s := by
  rw [words, List.flatten_filter_not_isEmpty, flatten_splitOnP, ink]

theorem words_append_left {lead : Text} (h : IsBlankText lead) (s : Text) :
    words (lead ++ s) = words s := by
  induction lead with
  | nil => rfl
  | cons c lead ih =>
      obtain ⟨hc, hlead⟩ := List.forall_mem_cons.mp h
      rw [← ih hlead, List.cons_append, words, List.splitOnP_cons_eq_if_modifyHead, if_pos hc,
        List.filter_cons_of_neg (by simp), words]

theorem words_trimStart (s : Text) : words (trimStart s) = words s := by
  obtain ⟨lead, hlead, hs⟩ := exists_eq_append_trimStart s
  conv_rhs => rw [hs, words_append_left hlead]

theorem mem_ink_of_mem_words {s w : Text} (hw : w ∈ words s) {c : Char} (hc : c ∈ w) :
    c ∈ ink s := by
  rw [← flatten_words]
  exact List.mem_flatten.mpr ⟨w, hw, hc⟩

theorem isBlank_of_mem_words {s w : Text} (hw : w ∈ words s) {c : Char} (hc : c ∈ w) :
    isBlank c = false := by
  simpa using List.of_mem_filter (mem_ink_of_mem_words hw hc)

theorem words_append_cons {c : Char} (hc : isBlank c) (s r : Text) :
    words (s ++ c :: r) = words s ++ words r := by
  rw [words, List.splitOnP_append_cons s r hc, List.filter_append, words, words]

theorem words_of_forall_not_isBlank {w : Text} (hne : w ≠ []) (h : ∀ c ∈ w, isBlank c = false) :
    words w = [w] := by
  rw [words, List.splitOnP_eq_singleton h]
  simp [hne]

/-- A text that begins with a word has this word and those behind it. -/
theorem words_append_of_head {w : Text} (hne : w ≠ []) (h : ∀ c ∈ w, isBlank c = false)
    {rest : Text} (hrest : rest.head?.all isBlank) : words (w ++ rest) = w :: words rest := by
  cases rest with
  | nil => rw [List.append_nil, words_of_forall_not_isBlank hne h]; rfl
  | cons c rest =>
      have hc : isBlank c = true := hrest
      rw [words_append_cons hc, words_of_forall_not_isBlank hne h, ← List.nil_append (c :: rest),
        words_append_cons hc]
      rfl

/-- Words with single spaces between them are found again. -/
theorem words_join {ws : List Text} (h : ∀ w ∈ ws, w ≠ [] ∧ ∀ c ∈ w, isBlank c = false) :
    words (join [' '] ws) = ws := by
  induction ws with
  | nil => rfl
  | cons w ws ih =>
      obtain ⟨⟨hne, hw⟩, hws⟩ := List.forall_mem_cons.mp h
      by_cases hnil : ws = []
      · rw [hnil, join_singleton, words_of_forall_not_isBlank hne hw]
      · have hspace : isBlank ' ' = true := by decide
        rw [join_cons hnil, List.append_assoc, List.singleton_append, words_append_cons hspace,
          words_of_forall_not_isBlank hne hw, ih hws, List.singleton_append]

end SqlScript.Text
