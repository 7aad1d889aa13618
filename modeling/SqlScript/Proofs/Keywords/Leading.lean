import SqlScript.Proofs.Keywords.History

/-!
The first word of a line. It is what stands behind the white space and the escape markers in front,
up to the first character that is none of a keyword. Of the standard table only the registrations
that begin with this word can decide about the line.
-/

namespace SqlScript

open Text

namespace Phrase

/-! ### Texts that begin with a word -/

/-- What is left of a text does not begin with a character that is dropped in front of it. -/
theorem not_any_head?_dropWhile (p : Char → Bool) (s : Text) : ¬(s.dropWhile p).head?.any p := by
  have hhead := List.head?_dropWhile_not p s
  cases hrest : s.dropWhile p with
  | nil => exact Bool.false_ne_true
  | cons c rest => simpa [hrest] using hhead

/-- A text that begins with ink is a word and what follows it. -/
theorem exists_eq_word_append {s : Text} (hne : s ≠ []) (h : ¬s.head?.any isBlank) :
    ∃ w rest, s = w ++ rest ∧ w ≠ [] ∧ (∀ c ∈ w, isBlank c = false) ∧ rest.head?.all isBlank := by
  refine ⟨s.takeWhile fun c => !isBlank c, s.dropWhile fun c => !isBlank c,
    List.takeWhile_append_dropWhile.symm, ?_, fun c hc => ?_, ?_⟩
  · cases s with
    | nil => exact absurd rfl hne
    | cons c s =>
        have hc : isBlank c = false := by simpa using h
        simp [hc]
  · simpa using List.mem_takeWhile_imp hc
  · have hhead := not_any_head?_dropWhile (fun c => !isBlank c) s
    cases hrest : s.dropWhile fun c => !isBlank c with
    | nil => rfl
    | cons c rest => simpa [hrest] using hhead

/-! ### The first word of a line -/

/-- A line from its first word on: white space and escape markers in front are dropped. -/
def fromFirst (line : Text) : Text := line.dropWhile fun c => isBlank c || isEscapeMarker c

theorem head?_fromFirst (line : Text) : ¬(fromFirst line).head?.any isBlank := by
  have hhead := not_any_head?_dropWhile (fun c => isBlank c || isEscapeMarker c) line
  rw [Option.any_eq_true] at hhead ⊢
  rintro ⟨c, hc, hblank⟩
  exact hhead ⟨c, hc, by rw [hblank, Bool.true_or]⟩

/-- A word is compared up to its first character that is none of a keyword. -/
theorem leadingKeywords_cons {w : Text} (hw : w.takeWhile isWordChar ≠ []) (ws : List Text) :
    leadingKeywords (w :: ws) = asciiUpper (w.takeWhile isWordChar) ::
      if w.dropWhile isWordChar = [] then leadingKeywords ws else [] := by
  have hpart : keywordPart w = w.takeWhile isWordChar := by
    cases w with
    | nil => rfl
    | cons c w =>
        have hc : isWordChar c = true := by
          by_contra hnot
          exact hw (List.takeWhile_cons_of_neg hnot)
        rw [keywordPart, hc, Bool.true_or, if_pos rfl, List.takeWhile_cons_of_pos hc]
  have hself : w.takeWhile isWordChar = w ↔ w.dropWhile isWordChar = [] := by
    rw [List.takeWhile_eq_self_iff, List.dropWhile_eq_nil_iff]
  rw [leadingKeywords, hpart, if_neg hw]
  by_cases hall : w.takeWhile isWordChar = w
  · rw [if_pos hall, if_pos (hself.mp hall), hall]
  · rw [if_neg hall, if_neg (mt hself.mpr hall)]

/-- Behind white space that ends a word no part of the word goes on. -/
theorem takeWhile_isWordChar_append (w : Text) {rest : Text} (h : rest.head?.all isBlank) :
    (w ++ rest).takeWhile isWordChar = w.takeWhile isWordChar := by
  have hrest : rest.takeWhile isWordChar = [] := by
    cases rest with
    | nil => rfl
    | cons c rest => exact List.takeWhile_cons_of_neg (not_isWordChar_of_isBlank h)
  rw [List.takeWhile_append, hrest, List.append_nil]
  split
  next hall => exact ((List.takeWhile_prefix _).eq_of_length hall).symm
  next => rfl

section

variable {w : Text} (hne : w ≠ []) (hw : w.all isWordChar)

include hne hw

theorem fromFirst_append (rest : Text) : fromFirst (w ++ rest) = w ++ rest := by
  obtain ⟨c, w, rfl⟩ := List.exists_cons_of_ne_nil hne
  have hc := List.all_eq_true.mp hw c List.mem_cons_self
  refine List.dropWhile_cons_of_neg fun hdrop => ?_
  rcases Bool.or_eq_true_iff.mp hdrop with hblank | hmarker
  · exact not_isWordChar_of_isBlank hblank hc
  · exact not_isWordChar_of_isEscapeMarker hmarker hc

/-- A line that begins with a word of keyword characters has this word as its first keyword. -/
theorem head?_leading_append {rest : Text} (hrest : ¬rest.head?.any isWordChar) :
    (leading (w ++ rest)).head? = some (asciiUpper w) := by
  have hline : (w ++ rest).takeWhile isWordChar = w := by
    rw [List.takeWhile_append_of_pos (List.all_eq_true.mp hw)]
    cases rest with
    | nil => exact List.append_nil w
    | cons c rest =>
        have hc : ¬isWordChar c := hrest
        rw [List.takeWhile_cons_of_neg hc, List.append_nil]
  have hhead := head?_fromFirst (w ++ rest)
  have hleading : leading (w ++ rest) = leadingKeywords ((words (fromFirst (w ++ rest))).take 5) :=
    rfl
  rw [fromFirst_append hne hw] at hhead hleading
  -- The first run of ink may go on behind the word.
  obtain ⟨run, tail, hcut, hrun, hblank, htail⟩ :=
    exists_eq_word_append (List.append_ne_nil_of_left_ne_nil hne rest) hhead
  have hpart : run.takeWhile isWordChar = w := by
    rw [← takeWhile_isWordChar_append run htail, ← hcut, hline]
  rw [hleading, hcut, words_append_of_head hrun hblank htail, List.take_succ_cons,
    leadingKeywords_cons (hpart.symm ▸ hne), hpart]
  rfl

end

end Phrase

open Phrase

namespace Keywords

/-! ### The standard table by first words -/

def registrationsOf (first : Text) : List (Text × Kind) :=
  standardRegistrations.filter fun registration => (ofText registration.1).head? = some first

theorem head?_storedRegistrations : ∀ registration ∈ storedRegistrations,
    (ofText registration.1).head? = some "CREATE".toList := by
  decide

theorem registrationsOf_of_ne {first : Text} (h : first ≠ "CREATE".toList) :
    registrationsOf first = plainRegistrations.filter fun registration =>
      (ofText registration.1).head? = some first := by
  rw [registrationsOf, standardRegistrations_eq_append, List.filter_append,
    List.append_right_eq_self]
  refine List.filter_eq_nil_iff.mpr fun registration hmem => ?_
  rw [decide_eq_true_eq, head?_storedRegistrations registration hmem]
  exact fun hsame => h (Option.some.inj hsame).symm

/-- A phrase is only looked for among the registrations with its first word. -/
theorem get?_standard (first : Text) (others : Phrase) :
    standard.get? (first :: others) =
      ((registrationsOf first).filter fun registration =>
        ofText registration.1 = first :: others).getLast?.map Prod.snd := by
  rw [standard_eq_registerAll, get?_registerAll _ (List.cons_ne_nil _ _), registrationsOf,
    List.filter_filter]
  refine congrArg (fun found => (List.getLast? found).map Prod.snd) (List.filter_congr ?_)
  intro registration _
  rw [← Bool.decide_and, decide_eq_decide]
  exact ⟨fun h => ⟨h, by rw [h]; rfl⟩, And.left⟩

end Keywords

end SqlScript
