import SqlScript.Proofs.Scan.LetterCase

/-!
What a line finds of a phrase that has been registered. A phrase is registered in the upper case of
Unicode and looked up in that of ASCII, so a line that spells it out finds it exactly if none of the
letters compared has an upper case that ASCII does not know. Otherwise the registration changes
nothing for the line.
-/

namespace SqlScript

open Text

namespace Keywords

variable {keywords : Keywords}

/-! ### The table -/

theorem longest?_congr {other : Keywords} {phrase : Phrase}
    (h : ∀ n < phrase.length,
      keywords.get? (phrase.take (n + 1)) = other.get? (phrase.take (n + 1))) :
    keywords.longest? phrase = other.longest? phrase := by
  rw [longest?, longest?, ← List.head?_filterMap, ← List.head?_filterMap]
  refine congrArg List.head? (List.filterMap_congr fun n hn => h n ?_)
  rwa [List.mem_reverse, List.mem_range] at hn

/-- A phrase of the same length finds the one that has been registered or what it found before. -/
theorem longest?_register {text : Text} {kind : Kind} {phrase : Phrase} (hne : phrase ≠ [])
    (hlength : phrase.length = (Phrase.ofText text).length) :
    (keywords.register text kind).longest? phrase =
      if phrase = Phrase.ofText text then some kind else keywords.longest? phrase := by
  split
  next heq =>
    obtain ⟨n, hn⟩ := Nat.exists_eq_succ_of_ne_zero (mt List.eq_nil_of_length_eq_zero hne)
    have hself : phrase.take (n + 1) = phrase := List.take_of_length_le hn.le
    rw [longest?, hn, List.range_succ, List.reverse_concat, List.findSome?_cons, hself,
      get?_register, if_pos ⟨heq, hne⟩]
  next hother =>
    refine longest?_congr fun n hn => ?_
    rw [get?_register, if_neg]
    rintro ⟨heq, -⟩
    have htake := congrArg List.length heq
    rw [List.length_take, ← hlength] at htake
    have hall : phrase.take (n + 1) = phrase := List.take_of_length_le (by omega)
    exact hother (hall ▸ heq)

end Keywords

/-! ### The line that spells a phrase out -/

namespace Phrase

/-- Whether all words of a text are keywords to their ends. -/
def IsSpelled (s : Text) : Prop := ∀ w ∈ words s, w.all isWordChar

instance (s : Text) : Decidable (IsSpelled s) := List.decidableBAll _ (words s)

theorem IsSpelled.isWordChar {s : Text} (h : IsSpelled s) {c : Char} (hc : c ∈ s)
    (hblank : isBlank c = false) : isWordChar c := by
  have hink : c ∈ (words s).flatten := by
    rw [flatten_words]
    exact List.mem_filter.mpr ⟨hc, by rw [hblank]; rfl⟩
  obtain ⟨w, hw, hmem⟩ := List.mem_flatten.mp hink
  exact List.all_eq_true.mp (h w hw) c hmem

theorem not_isWordChar_of_isEscapeMarker {c : Char} (h : isEscapeMarker c) : ¬isWordChar c := by
  simp only [isEscapeMarker, Bool.or_eq_true, decide_eq_true_eq] at h
  rcases h with ((rfl | rfl) | rfl) | rfl <;> decide

theorem not_isWordChar_of_isBlank {c : Char} (h : isBlank c) : ¬isWordChar c := by
  have hall : ∀ range ∈ blanks, ∀ n < range.2 + 1 - range.1,
      ¬isWordChar (Char.ofNat (range.1 + n)) := by decide
  obtain ⟨range, hmem, hfirst, hlast⟩ := CodeTable.contains_iff.mp h
  have hnot := hall range hmem (c.toNat - range.1) (by omega)
  rwa [Nat.add_sub_cancel' hfirst, Char.ofNat_toNat] at hnot

theorem not_isWordChar_of_isCommandMarker {c : Char} (h : isCommandMarker c) : ¬isWordChar c := by
  simp only [isCommandMarker, Bool.or_eq_true, decide_eq_true_eq] at h
  rcases h with (rfl | rfl) | rfl <;> decide

theorem keywordPart_eq_self {w : Text} (h : w.all isWordChar) : keywordPart w = w := by
  cases w with
  | nil => rfl
  | cons c w =>
      obtain ⟨hc, hw⟩ := List.forall_mem_cons.mp (List.all_eq_true.mp h)
      rw [keywordPart, hc, Bool.true_or, if_pos rfl, List.takeWhile_eq_self_iff.mpr hw]

theorem leadingKeywords_eq_map {ws : List Text} (hne : ∀ w ∈ ws, w ≠ [])
    (h : ∀ w ∈ ws, w.all isWordChar) : leadingKeywords ws = ws.map asciiUpper := by
  induction ws with
  | nil => rfl
  | cons w ws ih =>
      obtain ⟨hw, hws⟩ := List.forall_mem_cons.mp h
      obtain ⟨hwne, hwsne⟩ := List.forall_mem_cons.mp hne
      rw [leadingKeywords, keywordPart_eq_self hw, if_neg hwne, if_pos rfl, ih hwsne hws,
        List.map_cons]

theorem dropWhile_eq_trimStart {s : Text}
    (h : ∀ c ∈ s, isBlank c = false → isEscapeMarker c = false) :
    s.dropWhile (fun c => isBlank c || isEscapeMarker c) = trimStart s := by
  induction s with
  | nil => rfl
  | cons c s ih =>
      obtain ⟨hc, hs⟩ := List.forall_mem_cons.mp h
      cases hblank : isBlank c with
      | true => simpa [trimStart, hblank] using ih hs
      | false => simp [trimStart, hblank, hc hblank]

/-- A line of keywords begins with the first of them, in the upper case of ASCII. -/
theorem IsSpelled.leading_eq {s : Text} (h : IsSpelled s) :
    leading s = ((words s).take maxWords).map asciiUpper := by
  have hmarkers : ∀ c ∈ s, isBlank c = false → isEscapeMarker c = false := by
    intro c hc hblank
    rw [← Bool.not_eq_true]
    exact fun hmarker => not_isWordChar_of_isEscapeMarker hmarker (h.isWordChar hc hblank)
  rw [leading, dropWhile_eq_trimStart hmarkers, words_trimStart]
  exact leadingKeywords_eq_map (fun w hw => words_ne_nil (List.mem_of_mem_take hw))
    fun w hw => h w (List.mem_of_mem_take hw)

/-- The line finds the phrase exactly if the two upper cases of its words are the same. -/
theorem IsSpelled.leading_eq_ofText_iff {s : Text} (h : IsSpelled s) :
    leading s = ofText s ↔ ∀ w ∈ (words s).take maxWords, HasAsciiCase w := by
  rw [h.leading_eq, ofText, List.map_inj_left]
  refine forall₂_congr fun w _ => ?_
  rw [eq_comm, upper_eq_asciiUpper_iff]

theorem length_leading_eq {s : Text} (h : IsSpelled s) :
    (leading s).length = (ofText s).length := by
  rw [h.leading_eq, ofText, List.length_map, List.length_map]

end Phrase

open Phrase

namespace Keywords

/-- In a line of keywords neither a semicolon nor a command marker comes before the table. -/
theorem classify_eq_longest? (keywords : Keywords) {line : Text} (h : IsSpelled line) :
    keywords.classify line = (keywords.longest? (leading line)).getD .unknown := by
  have hsemicolon : (trimEnd line).getLast? ≠ some ';' := by
    intro hlast
    have hmem := (trimEnd_prefix_self line).subset (List.mem_of_getLast? hlast)
    exact absurd (h.isWordChar hmem (by decide)) (by decide)
  have hmarker : ∀ w ∈ leading line, w.head?.any isCommandMarker = false := by
    rw [h.leading_eq]
    intro _ hupper
    obtain ⟨w, hw, rfl⟩ := List.mem_map.mp hupper
    cases w with
    | nil => rfl
    | cons c w =>
        have hword := h _ (List.mem_of_mem_take hw)
        have hc := List.all_eq_true.mp hword c List.mem_cons_self
        rw [← Bool.not_eq_true]
        change ¬isCommandMarker c.toUpper = true
        rw [isCommandMarker_toUpper]
        exact fun hcommand => not_isWordChar_of_isCommandMarker hcommand hc
  rw [classify]
  cases hleading : leading line with
  | nil => rfl
  | cons first others =>
      rw [hleading] at hmarker
      have hfirst := hmarker first List.mem_cons_self
      simp only [hsemicolon, and_false, if_false, hfirst, Bool.false_eq_true]

/-- A line of keywords, registered as a phrase, is of the kind registered if no letter of the words
compared has an upper case that ASCII does not know; else its kind is what it was. -/
theorem classify_register (keywords : Keywords) (phrase : Text) (kind : Kind)
    (hne : words phrase ≠ []) (h : IsSpelled phrase) :
    (keywords.register phrase kind).classify phrase =
      if ∀ w ∈ (words phrase).take maxWords, HasAsciiCase w then kind
      else keywords.classify phrase := by
  have hleading : leading phrase ≠ [] := by
    rw [h.leading_eq]
    simpa [maxWords] using hne
  rw [classify_eq_longest? _ h, classify_eq_longest? _ h,
    longest?_register hleading (length_leading_eq h)]
  by_cases hsame : leading phrase = ofText phrase
  · rw [if_pos hsame, if_pos (h.leading_eq_ofText_iff.mp hsame)]
    rfl
  · rw [if_neg hsame, if_neg (mt h.leading_eq_ofText_iff.mpr hsame)]

/-- The sixth word is not compared, and neither is its case; a digit and a letter without case are
found as they stand, and a small letter outside ASCII is not. -/
theorem classify_register_forms :
    let long := "alter\tsession set nls_date 2 größe".toList
    let uncased := "_選択 x".toList
    let cased := "größe".toList
    (words long ≠ [] ∧ IsSpelled long ∧
      (empty.register long .session).classify long = .session) ∧
    (words uncased ≠ [] ∧ IsSpelled uncased ∧
      (standard.register uncased .command).classify uncased = .command) ∧
    words cased ≠ [] ∧ IsSpelled cased ∧
      (standard.register cased .command).classify cased = standard.classify cased := by
  intro long uncased cased
  have hlong : words long ≠ [] ∧ IsSpelled long := by decide +kernel
  have huncased : words uncased ≠ [] ∧ IsSpelled uncased := by decide +kernel
  have hcased : words cased ≠ [] ∧ IsSpelled cased := by decide +kernel
  refine ⟨⟨hlong.1, hlong.2, ?_⟩, ⟨huncased.1, huncased.2, ?_⟩, hcased.1, hcased.2, ?_⟩
  · rw [classify_register empty long .session hlong.1 hlong.2, if_pos (by decide +kernel)]
  · rw [classify_register standard uncased .command huncased.1 huncased.2,
      if_pos (by decide +kernel)]
  · rw [classify_register standard cased .command hcased.1 hcased.2, if_neg (by decide +kernel)]

/-- A word with a small letter outside ASCII is registered and not found. -/
theorem classify_register_notFound :
    let phrase := "été".toList
    words phrase ≠ [] ∧ IsSpelled phrase ∧
      (empty.register phrase .command).classify phrase = .unknown := by
  decide +kernel

end Keywords

end SqlScript
