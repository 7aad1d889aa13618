import SqlScript.Query.SelectList
import SqlScript.Proofs.Text.Trimming

/-!
The tokens of a query that is put on one line. A space ends a token whatever stands around it, so a
query can be read apart at every space, and neither line breaks nor the space that ends a token make
a difference to the nesting or to the words that tokens spell.
-/

namespace SqlScript

namespace Nesting

@[simp] theorem step_space (n : Nesting) : n.step ' ' = n := by simp [step]

theorem step_of_isBreak (n : Nesting) {c : Char} (h : Query.isBreak c) : n.step c = n := by
  simp only [Query.isBreak, Bool.or_eq_true, decide_eq_true_eq] at h
  rcases h with (rfl | rfl) | rfl <;> simp [step]

end Nesting

namespace Query

open Text

/-! ### Putting a query on one line -/

theorem isBlank_of_isBreak {c : Char} (h : isBreak c) : isBlank c := by
  simp only [isBreak, Bool.or_eq_true, decide_eq_true_eq] at h
  rcases h with (rfl | rfl) | rfl <;> decide

theorem joinLines_append_space (inRun : Bool) (s r : Text) :
    joinLines inRun (s ++ ' ' :: r) = joinLines inRun s ++ ' ' :: joinLines false r := by
  induction s generalizing inRun with
  | nil =>
      have hspace : isBreak ' ' = false := rfl
      simp [joinLines, hspace]
  | cons c s ih =>
      rw [List.cons_append]
      by_cases hc : isBreak c = true
      · cases inRun <;> simp [joinLines, hc, ih]
      · simp [joinLines, hc, ih]

theorem joinLines_append_of_forall_not_isBreak {s : Text} (h : ∀ c ∈ s, ¬isBreak c) (r : Text) :
    joinLines false (s ++ r) = s ++ joinLines false r := by
  induction s with
  | nil => rfl
  | cons c s ih =>
      rw [List.forall_mem_cons] at h
      rw [List.cons_append, joinLines, if_neg h.1, ih h.2, List.cons_append]

/-- Line breaks stand for spaces, and neither opens or closes anything. -/
@[simp] theorem advance_joinLines (n : Nesting) (inRun : Bool) (s : Text) :
    n.advance (joinLines inRun s) = n.advance s := by
  induction s generalizing n inRun with
  | nil => rfl
  | cons c s ih =>
      rw [Nesting.advance_cons]
      by_cases hc : isBreak c = true
      · rw [n.step_of_isBreak hc]
        cases inRun <;> simp [joinLines, hc, ih]
      · simp [joinLines, hc, ih]

@[simp] theorem ink_joinLines (inRun : Bool) (s : Text) : ink (joinLines inRun s) = ink s := by
  have hspace : isBlank ' ' = true := by decide
  induction s generalizing inRun with
  | nil => rfl
  | cons c s ih =>
      by_cases hc : isBreak c = true
      · rw [ink_cons_of_blank (isBlank_of_isBreak hc)]
        cases inRun <;> simp [joinLines, hc, ink_cons_of_blank hspace, ih]
      · rw [joinLines, if_neg hc, ← List.singleton_append, ink_append, ih, ← ink_append,
          List.singleton_append]

/-! ### Cutting at spaces -/

theorem tokens_append_space (s r : Text) :
    tokens (s ++ ' ' :: r) = tokens (s ++ [' ']) ++ tokens r := by
  induction s with
  | nil => simp [tokens]
  | cons c s ih =>
      by_cases hc : c = ' '
      · simp [tokens, hc, ih]
      · have hne : tokens (s ++ [' ']) ≠ [] := by
          intro h
          have := flatten_tokens (s ++ [' '])
          simp [h] at this
        obtain ⟨t, ts, hts⟩ := List.exists_cons_of_ne_nil hne
        simp [tokens, hc, ih, hts]

theorem tokens_append_of_notMem {lead s t : Text} {ts : List Text} (h : ' ' ∉ lead)
    (hs : tokens s = t :: ts) : tokens (lead ++ s) = (lead ++ t) :: ts := by
  induction lead with
  | nil => exact hs
  | cons c lead ih =>
      rw [List.mem_cons, not_or] at h
      rw [List.cons_append, tokens, if_neg (Ne.symm h.1), ih h.2, List.cons_append]

/-- `spaced` are the parts of a text with a space written behind it, where `parts` are the parts of
the text: the space belongs to the last part, or is a part if the last one had its space. -/
def SpacedEnd (parts spaced : List Text) : Prop := ∃ init last,
  (parts = init ∧ last = [] ∨ parts = init ++ [last]) ∧ spaced = init ++ [last ++ [' ']]

theorem SpacedEnd.append_left {parts spaced : List Text} (others : List Text)
    (h : SpacedEnd parts spaced) : SpacedEnd (others ++ parts) (others ++ spaced) := by
  obtain ⟨init, last, hparts, rfl⟩ := h
  refine ⟨others ++ init, last, ?_, by rw [List.append_assoc]⟩
  rcases hparts with ⟨rfl, hlast⟩ | rfl
  · exact .inl ⟨rfl, hlast⟩
  · exact .inr (by rw [List.append_assoc])

/-- One more character lengthens the last token or is a token of its own. -/
theorem tokens_concat (s : Text) (c : Char) : tokens (s ++ [c]) = tokens s ++ [[c]] ∨
    ∃ init last, tokens s = init ++ [last] ∧ tokens (s ++ [c]) = init ++ [last ++ [c]] := by
  induction s with
  | nil => exact .inl (by simp [tokens])
  | cons d s ih =>
      by_cases hd : d = ' '
      · rcases ih with hown | ⟨init, last, hs, hlonger⟩
        · exact .inl (by simp [tokens, hd, hown])
        · exact .inr ⟨[d] :: init, last, by simp [tokens, hd, hs], by simp [tokens, hd, hlonger]⟩
      · -- `d` belongs to the first token behind it, which may be the one that gets longer.
        rcases ih with hown | ⟨init, last, hs, hlonger⟩
        · cases hs : tokens s with
          | nil => exact .inr ⟨[], [d], by simp [tokens, hd, hs], by simp [tokens, hd, hown, hs]⟩
          | cons t ts => exact .inl (by simp [tokens, hd, hown, hs])
        · cases init with
          | nil =>
              exact .inr ⟨[], d :: last, by simp [tokens, hd, hs], by simp [tokens, hd, hlonger]⟩
          | cons t ts =>
              exact .inr ⟨(d :: t) :: ts, last, by simp [tokens, hd, hs],
                by simp [tokens, hd, hlonger]⟩

theorem spacedEnd_tokens (s : Text) : SpacedEnd (tokens s) (tokens (s ++ [' '])) := by
  rcases tokens_concat s ' ' with hown | ⟨init, last, hs, hlonger⟩
  · exact ⟨tokens s, [], .inl ⟨rfl, rfl⟩, hown⟩
  · exact ⟨init, last, .inr hs, hlonger⟩

/-! ### Cutting at the first parenthesis -/

theorem subTokens_append {a : Text} (h : '(' ∉ a) (b : Text) :
    subTokens (a ++ '(' :: b) = (if a = [] then [] else [a]) ++ ['(' :: b] := by
  have hall : ∀ c ∈ a, (c != '(') = true := by
    intro c hc
    exact bne_iff_ne.mpr fun he => h (he ▸ hc)
  rw [subTokens, List.takeWhile_append_of_pos hall, List.dropWhile_append_of_pos hall]
  by_cases ha : a = [] <;> simp [ha]

theorem subTokens_of_not_mem {t : Text} (h : '(' ∉ t) (hne : t ≠ []) : subTokens t = [t] := by
  have hall : ∀ c ∈ t, (c != '(') = true := by
    intro c hc
    exact bne_iff_ne.mpr fun he => h (he ▸ hc)
  rw [subTokens, List.takeWhile_eq_self_iff.mpr hall, List.dropWhile_eq_nil_iff.mpr hall]
  simp [hne]

theorem spacedEnd_subTokens (t : Text) : SpacedEnd (subTokens t) (subTokens (t ++ [' '])) := by
  by_cases h : '(' ∈ t
  · obtain ⟨a, b, rfl, ha⟩ := List.eq_append_cons_of_mem h
    rw [List.append_assoc, List.cons_append, subTokens_append ha, subTokens_append ha]
    exact ⟨_, '(' :: b, .inr rfl, rfl⟩
  · have hspaced : '(' ∉ t ++ [' '] := by simpa using h
    rw [subTokens_of_not_mem hspaced (by simp)]
    by_cases ht : t = []
    · exact ⟨[], [], .inl ⟨by simp [ht, subTokens], rfl⟩, by rw [ht]; rfl⟩
    · exact ⟨[], t, .inr (subTokens_of_not_mem h ht), rfl⟩

theorem SpacedEnd.flatMap_subTokens {parts spaced : List Text} (h : SpacedEnd parts spaced) :
    SpacedEnd (parts.flatMap subTokens) (spaced.flatMap subTokens) := by
  obtain ⟨init, last, hparts, rfl⟩ := h
  have hlast := (spacedEnd_subTokens last).append_left (init.flatMap subTokens)
  rw [List.flatMap_append, List.flatMap_singleton]
  rcases hparts with ⟨rfl, rfl⟩ | rfl
  · simpa [subTokens] using hlast
  · rwa [List.flatMap_append, List.flatMap_singleton]

@[simp] theorem flatten_flatMap_subTokens (ts : List Text) :
    (ts.flatMap subTokens).flatten = ts.flatten := by
  induction ts with
  | nil => rfl
  | cons t ts ih => rw [List.flatMap_cons, List.flatten_append, flatten_subTokens, ih]; rfl

@[simp] theorem spells_concat_space (word t : Text) : spells word (t ++ [' ']) = spells word t := by
  have hblank : IsBlankText [' '] := by decide
  rw [spells, trim_append_right t hblank, spells]

end Query

end SqlScript
