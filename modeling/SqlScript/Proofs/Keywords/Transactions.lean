import SqlScript.Proofs.Keywords.Leading

/-!
Lines that begin with `BEGIN`. Whether such a line starts a transaction or a block depends on its
second word, and without a second word on the last character of the line alone. So a line on which
punctuation follows the word starts a transaction if it ends with a semicolon, whatever stands in
front of the semicolon.
-/

namespace SqlScript

open Text

namespace Phrase

/-! ### A line behind its first word -/

def behindFirst (line : Text) : Text := (fromFirst line).dropWhile isWordChar

/-- The keywords behind a first word, where the word ends and `rest` follows it. -/
def following (rest : Text) : Phrase :=
  if rest.head?.all isBlank then leadingKeywords ((words rest).take 4) else []

/-- Whether a text holds semicolons and white space only, and at least one semicolon. -/
def IsBare (rest : Text) : Prop := (∀ c ∈ rest, isBlank c ∨ c = ';') ∧ ';' ∈ rest

instance (rest : Text) : Decidable (IsBare rest) :=
  @instDecidableAnd _ _ (List.decidableBAll _ rest) _

/-- Whether a text is a semicolon and white space at its end. -/
def EndsStatement (text : Text) : Prop := (trimEnd text).getLast? = some ';'

instance (text : Text) : Decidable (EndsStatement text) := inferInstanceAs (Decidable (_ = _))

def startsKeyword (text : Text) : Bool :=
  text.head?.any fun c => isWordChar c || isCommandMarker c

def HasKeyword (rest : Text) : Prop := rest.head?.any isBlank ∧ startsKeyword (trimStart rest)

instance (rest : Text) : Decidable (HasKeyword rest) := inferInstanceAs (Decidable (_ ∧ _))

theorem keywordPart_eq_nil_iff {w : Text} : keywordPart w = [] ↔ ¬startsKeyword w := by
  cases w with
  | nil => simp [keywordPart, startsKeyword]
  | cons c w => by_cases h : (isWordChar c || isCommandMarker c) = true <;>
      simp [keywordPart, startsKeyword, h]

theorem leadingKeywords_eq_nil_iff {w : Text} {ws : List Text} :
    leadingKeywords (w :: ws) = [] ↔ ¬startsKeyword w := by
  rw [← keywordPart_eq_nil_iff]
  by_cases hnil : keywordPart w = []
  · rw [leadingKeywords, if_pos hnil]
    exact iff_of_true rfl hnil
  · refine iff_of_false ?_ hnil
    rw [leadingKeywords, if_neg hnil]
    split <;> exact List.cons_ne_nil _ _

/-- Behind a first word that ends where white space does, a word that cannot be a keyword stands in
front of all others. -/
theorem leadingKeywords_take_words_eq_nil_iff {rest : Text} (n : Nat) :
    leadingKeywords ((words rest).take (n + 1)) = [] ↔ ¬startsKeyword (trimStart rest) := by
  rw [← words_trimStart]
  by_cases hne : trimStart rest = []
  · rw [hne]
    exact iff_of_true rfl (by decide)
  · obtain ⟨w, more, hmore, hw, hblank, hhead⟩ :=
      exists_eq_word_append hne (not_any_head?_dropWhile isBlank rest)
    have hstart : startsKeyword (trimStart rest) = startsKeyword w := by
      rw [hmore, startsKeyword, startsKeyword, List.head?_append_of_ne_nil _ hw]
    rw [hstart, hmore, words_append_of_head hw hblank hhead, List.take_succ_cons,
      leadingKeywords_eq_nil_iff]

theorem takeWhile_ne_nil_of_head? {w first : Text} {ws : List Text}
    (h : (leadingKeywords (w :: ws)).head? = some first)
    (hfirst : ¬first.head?.any isCommandMarker) :
    w.takeWhile isWordChar ≠ [] := by
  have hne : leadingKeywords (w :: ws) ≠ [] := by
    intro hnil
    rw [hnil] at h
    exact Option.some_ne_none first h.symm
  have hpart : first = asciiUpper (keywordPart w) := by
    rw [leadingKeywords] at h hne
    split_ifs at h hne with hnil hself
    · exact absurd rfl hne
    · exact (Option.some.inj h).symm.trans (congrArg asciiUpper hself.symm)
    · exact (Option.some.inj h).symm
  cases w with
  | nil => exact absurd rfl hne
  | cons c w =>
      by_cases hc : isWordChar c = true
      · rw [List.takeWhile_cons_of_pos hc]
        exact List.cons_ne_nil _ _
      · -- Then the word begins with a command marker, in either case.
        refine absurd ?_ hfirst
        have hstart : isCommandMarker c = true := by
          by_contra hnot
          exact leadingKeywords_eq_nil_iff.not.mp hne (by simp [startsKeyword, hc, hnot])
        rw [hpart, keywordPart, hstart, Bool.or_true, if_pos rfl]
        exact (isCommandMarker_toUpper c).trans hstart

/-- The words that a line begins with, from the first of them and what follows it. -/
theorem exists_leading_eq {line first : Text} (h : (leading line).head? = some first)
    (hmarker : ¬first.head?.any isCommandMarker) :
    ∃ w, fromFirst line = w ++ behindFirst line ∧ w.all isWordChar ∧ asciiUpper w = first ∧
      leading line = first :: following (behindFirst line) := by
  have hleading : leading line = leadingKeywords ((words (fromFirst line)).take 5) := rfl
  have hne : fromFirst line ≠ [] := by
    intro hnil
    rw [hleading, hnil] at h
    exact Option.some_ne_none first h.symm
  obtain ⟨w, tail, hline, hw, hblank, htail⟩ := exists_eq_word_append hne (head?_fromFirst line)
  rw [hline, words_append_of_head hw hblank htail, List.take_succ_cons] at hleading
  have hpart : w.takeWhile isWordChar ≠ [] := takeWhile_ne_nil_of_head? (hleading ▸ h) hmarker
  rw [leadingKeywords_cons hpart] at hleading
  have hfirst : asciiUpper (w.takeWhile isWordChar) = first := by
    rw [hleading] at h
    exact Option.some.inj h
  have hbehind : behindFirst line = w.dropWhile isWordChar ++ tail := by
    have hcut := List.takeWhile_append_dropWhile (p := isWordChar) (l := w ++ tail)
    rw [takeWhile_isWordChar_append w htail] at hcut
    rw [behindFirst, hline]
    refine (List.append_right_inj (w.takeWhile isWordChar)).mp (hcut.trans ?_)
    rw [← List.append_assoc, List.takeWhile_append_dropWhile]
  refine ⟨w.takeWhile isWordChar, ?_, List.all_takeWhile, hfirst, ?_⟩
  · rw [hbehind, ← List.append_assoc, List.takeWhile_append_dropWhile, hline]
  · rw [hleading, hfirst, hbehind, following]
    cases hrest : w.dropWhile isWordChar with
    | nil => rw [if_pos rfl, List.nil_append, if_pos htail]
    | cons c rest =>
        have hmem : c ∈ w := (List.dropWhile_sublist _).subset (hrest ▸ List.mem_cons_self)
        have hc : ¬(c :: rest ++ tail).head?.all isBlank := by simp [hblank c hmem]
        rw [if_neg (List.cons_ne_nil _ _), if_neg hc]

theorem following_eq_nil_iff (rest : Text) : following rest = [] ↔ ¬HasKeyword rest := by
  rw [following]
  cases rest with
  | nil => exact iff_of_true rfl (by decide)
  | cons c rest =>
      by_cases hc : isBlank c = true
      · have hall : (c :: rest).head?.all isBlank := hc
        have hany : (c :: rest).head?.any isBlank := hc
        rw [if_pos hall, leadingKeywords_take_words_eq_nil_iff, HasKeyword, and_iff_right hany]
      · have hall : ¬(c :: rest).head?.all isBlank := hc
        rw [if_neg hall]
        exact iff_of_true rfl fun h => hc h.1

/-! ### The end of the line -/

theorem endsStatement_append {s : Text} (h : ¬EndsStatement s) (rest : Text) :
    EndsStatement (s ++ rest) ↔ EndsStatement rest := by
  by_cases hrest : IsBlankText rest
  · rw [EndsStatement, trimEnd_append_of_blank hrest, EndsStatement, trimEnd_eq_nil_iff.mpr hrest]
    exact iff_of_false h (by decide)
  · have hne : trimEnd rest ≠ [] := mt trimEnd_eq_nil_iff.mp hrest
    rw [EndsStatement, trimEnd_append_of_not_blank s hrest, List.getLast?_append_of_ne_nil _ hne,
      EndsStatement]

theorem not_endsStatement_of_isWordChar {w : Text} (hne : w ≠ []) (h : w.all isWordChar)
    (lead : Text) : ¬EndsStatement (lead ++ w) := by
  obtain ⟨init, c, rfl⟩ := (List.eq_nil_or_concat w).resolve_left hne
  have hc : isWordChar c = true := List.all_eq_true.mp h c (by simp)
  have hink : ¬IsBlankText [c] := fun hblank =>
    not_isWordChar_of_isBlank (hblank c List.mem_cons_self) hc
  have hone : trimEnd [c] = [c] := by
    simpa [trimEnd, dropEndWhile, IsBlankText] using hink
  rw [EndsStatement, List.concat_eq_append, ← List.append_assoc, trimEnd_append_of_not_blank _ hink,
    hone, List.getLast?_concat]
  rintro heq
  obtain rfl := Option.some.inj heq
  exact absurd hc (by decide)

theorem IsBare.endsStatement {rest : Text} (h : IsBare rest) : EndsStatement rest := by
  obtain ⟨hall, hmem⟩ := h
  have hne : trimEnd rest ≠ [] := by
    intro hnil
    exact absurd (trimEnd_eq_nil_iff.mp hnil ';' hmem) (by decide)
  have hlast := not_isBlank_getLast_trimEnd hne
  have hrest := hall _ ((trimEnd_prefix_self rest).subset (List.getLast_mem hne))
  rw [EndsStatement, List.getLast?_eq_some_getLast hne, hrest.resolve_left hlast]

theorem IsBare.not_hasKeyword {rest : Text} (h : IsBare rest) : ¬HasKeyword rest := by
  rintro ⟨-, hstart⟩
  cases htrim : trimStart rest with
  | nil =>
      rw [htrim] at hstart
      exact absurd hstart (by decide)
  | cons c s =>
      have hmem : c ∈ rest := (List.dropWhile_sublist _).subset (htrim ▸ List.mem_cons_self)
      have hc : ¬isBlank c := by
        intro hblank
        refine not_any_head?_dropWhile isBlank rest ?_
        rw [← trimStart, htrim]
        exact hblank
      have hsemicolon : ¬(isWordChar ';' || isCommandMarker ';') := by decide
      rw [htrim, (h.1 c hmem).resolve_left hc] at hstart
      exact hsemicolon hstart

end Phrase

open Phrase

namespace Keywords

/-! ### The phrases that begin with `BEGIN` -/

/-- The second words with which `BEGIN` starts a transaction. -/
def transactionWords : List Text :=
  ["TRANSACTION", "WORK", "TRAN", "DEFERRED", "IMMEDIATE", "EXCLUSIVE"]

def beginRegistrations : List (Text × Kind) :=
  transactionWords.map (fun word => ("BEGIN ".toList ++ word, Kind.transaction)) ++
    [("BEGIN".toList, Kind.block)]

set_option maxRecDepth 4000 in
theorem registrationsOf_begin : registrationsOf "BEGIN".toList = beginRegistrations := by
  rw [registrationsOf_of_ne (by decide)]
  decide

theorem get?_standard_begin (others : Phrase) :
    standard.get? ("BEGIN".toList :: others) =
      (beginRegistrations.filter fun registration =>
        ofText registration.1 = "BEGIN".toList :: others).getLast?.map Prod.snd := by
  rw [get?_standard, registrationsOf_begin]

theorem get?_standard_begin_nil : standard.get? ["BEGIN".toList] = some .block := by
  rw [get?_standard_begin]
  decide

theorem get?_standard_begin_word :
    ∀ word ∈ transactionWords, standard.get? ["BEGIN".toList, word] = some .transaction := by
  simp only [get?_standard_begin]
  decide

theorem get?_standard_begin_eq_none {others : Phrase} (hne : others ≠ [])
    (h : ∀ word ∈ transactionWords, others ≠ [word]) :
    standard.get? ("BEGIN".toList :: others) = none := by
  have hknown : ∀ registration ∈ beginRegistrations, ofText registration.1 = ["BEGIN".toList] ∨
      ∃ word ∈ transactionWords, ofText registration.1 = ["BEGIN".toList, word] := by decide
  rw [get?_standard_begin, List.filter_eq_nil_iff.mpr]
  · rfl
  · intro registration hmem
    rw [decide_eq_true_eq]
    rcases hknown registration hmem with heq | ⟨word, hword, heq⟩
    · rw [heq]
      exact fun hsame => hne (List.cons.inj hsame).2.symm
    · rw [heq]
      exact fun hsame => h word hword (List.cons.inj hsame).2.symm

theorem longest?_standard_begin (others : Phrase) :
    standard.longest? ("BEGIN".toList :: others) =
      if ∃ word ∈ transactionWords, others.head? = some word then some .transaction
      else some .block := by
  -- No phrase with `BEGIN` has more than two words.
  have hlong : ∀ m, 1 < m → m < others.length + 1 →
      standard.get? ("BEGIN".toList :: others.take m) = none := by
    intro m hm hlt
    have hlength : (others.take m).length = m := List.length_take_of_le (Nat.le_of_lt_succ hlt)
    refine get?_standard_begin_eq_none (List.ne_nil_of_length_pos (by omega)) fun word _ heq => ?_
    rw [heq, List.length_singleton] at hlength
    omega
  by_cases hword : ∃ word ∈ transactionWords, others.head? = some word
  · rw [if_pos hword]
    obtain ⟨word, hmem, hhead⟩ := hword
    obtain ⟨more, rfl⟩ := List.head?_eq_some_iff.mp hhead
    exact longest?_cons_eq_some_iff.mpr ⟨1, by simp, get?_standard_begin_word word hmem, hlong⟩
  · rw [if_neg hword]
    refine longest?_cons_eq_some_iff.mpr
      ⟨0, Nat.succ_pos _, get?_standard_begin_nil, fun m hm hlt => ?_⟩
    rcases Nat.lt_or_eq_of_le (Nat.succ_le_of_lt hm) with hmore | rfl
    · exact hlong m hmore hlt
    · cases others with
      | nil => exact absurd hlt (Nat.lt_irrefl _)
      | cons other more =>
          refine get?_standard_begin_eq_none (List.cons_ne_nil _ _) fun word hmem heq => ?_
          exact hword ⟨word, hmem, congrArg List.head? heq⟩

/-- Of the words that follow `BEGIN` the first one decides, and without one the end of the line. -/
theorem classify_of_leading_begin {line : Text} {others : Phrase}
    (h : leading line = "BEGIN".toList :: others) :
    standard.classify line =
      if (others = [] ∧ EndsStatement line) ∨ ∃ word ∈ transactionWords, others.head? = some word
      then .transaction else .block := by
  by_cases hend : others = [] ∧ EndsStatement line
  · rw [if_pos (.inl hend), classify, h]
    exact if_pos ⟨rfl, hend⟩
  · have hleft : IsLeft line := by
      refine ⟨by rw [h]; exact List.cons_ne_nil _ _, ?_, ?_⟩
      · rintro ⟨hbegin, hlast⟩
        exact hend ⟨(List.cons.inj (h.symm.trans hbegin)).2, hlast⟩
      · rw [h]
        rintro first hfirst
        obtain rfl := Option.some.inj hfirst
        decide
    rw [classify_of_isLeft _ hleft, h, longest?_standard_begin]
    by_cases hword : ∃ word ∈ transactionWords, others.head? = some word
    · rw [if_pos hword, if_pos (.inr hword)]
      rfl
    · rw [if_neg hword, if_neg (not_or_intro hend hword)]
      rfl

/-- A line that begins with `BEGIN` starts a transaction if it is bare or its second word says so.
Otherwise it starts a block, except that it is taken for bare if no second word stands behind white
space and the line ends with a semicolon. -/
theorem classify_begin {line : Text} (h : (leading line).head? = some "BEGIN".toList) :
    (IsBare (behindFirst line) → standard.classify line = .transaction) ∧
      (∀ word ∈ transactionWords, (leading line)[1]? = some word →
        standard.classify line = .transaction) ∧
      (¬IsBare (behindFirst line) →
        (∀ word ∈ transactionWords, (leading line)[1]? ≠ some word) →
          standard.classify line =
            if ¬HasKeyword (behindFirst line) ∧ EndsStatement (behindFirst line) then .transaction
            else .block) := by
  obtain ⟨w, hline, hw, hfirst, hleading⟩ := exists_leading_eq h (by decide)
  have hend : EndsStatement line ↔ EndsStatement (behindFirst line) := by
    have hne : w ≠ [] := by
      rintro rfl
      exact absurd hfirst (by decide)
    have hcut : line = (line.takeWhile fun c => isBlank c || isEscapeMarker c) ++ w ++
        behindFirst line := by
      rw [List.append_assoc, ← hline, fromFirst, List.takeWhile_append_dropWhile]
    exact (iff_of_eq (congrArg EndsStatement hcut)).trans
      (endsStatement_append (not_endsStatement_of_isWordChar hne hw _) _)
  have hsecond : (following (behindFirst line)).head? = (leading line)[1]? := by
    rw [hleading, List.getElem?_cons_succ, List.head?_eq_getElem?]
  have hclass := classify_of_leading_begin hleading
  simp only [following_eq_nil_iff, hend, hsecond] at hclass
  refine ⟨fun hbare => ?_, fun word hmem hword => ?_, fun _ hother => ?_⟩
  · rw [hclass, if_pos (.inl ⟨hbare.not_hasKeyword, hbare.endsStatement⟩)]
  · rw [hclass, if_pos (.inr ⟨word, hmem, hword⟩)]
  · rw [hclass]
    refine if_congr (or_iff_left ?_) rfl rfl
    rintro ⟨word, hmem, hword⟩
    exact hother word hmem hword

theorem classify_begin_forms :
    let bare := "begin ; ;".toList
    let worded := "BEGIN work and chain;".toList
    let bound := "begin :x := 1; end;".toList
    let labelled := "begin <<a>> null".toList
    (∀ line ∈ [bare, worded, bound, labelled],
        (leading line).head? = some "BEGIN".toList) ∧
      IsBare (behindFirst bare) ∧ standard.classify bare = .transaction ∧
      "WORK".toList ∈ transactionWords ∧ (leading worded)[1]? = some "WORK".toList ∧
      standard.classify worded = .transaction ∧
      (∀ line ∈ [bound, labelled], ¬IsBare (behindFirst line) ∧
        ∀ word ∈ transactionWords, (leading line)[1]? ≠ some word) ∧
      standard.classify bound = .transaction ∧ standard.classify labelled = .block := by
  intro bare worded bound labelled
  have hfirst : ∀ line ∈ [bare, worded, bound, labelled],
      (leading line).head? = some "BEGIN".toList := by decide
  have hbare : IsBare (behindFirst bare) := by decide
  have hsecond : (leading worded)[1]? = some "WORK".toList := by decide
  have hother : ∀ line ∈ [bound, labelled], ¬IsBare (behindFirst line) ∧
      ∀ word ∈ transactionWords, (leading line)[1]? ≠ some word := by decide
  obtain ⟨hbareEnd, -⟩ := classify_begin (hfirst bare (by simp))
  obtain ⟨-, hworded, -⟩ := classify_begin (hfirst worded (by simp))
  obtain ⟨-, -, hbound⟩ := classify_begin (hfirst bound (by simp))
  obtain ⟨-, -, hlabelled⟩ := classify_begin (hfirst labelled (by simp))
  obtain ⟨hboundRest, hboundWords⟩ := hother bound (by simp)
  obtain ⟨hlabelledRest, hlabelledWords⟩ := hother labelled (by simp)
  refine ⟨hfirst, hbare, hbareEnd hbare, by decide, hsecond, hworded _ (by decide) hsecond, hother,
    ?_, ?_⟩
  · exact (hbound hboundRest hboundWords).trans (by decide)
  · exact (hlabelled hlabelledRest hlabelledWords).trans (by decide)

/-- A quoted name opens a block here, and the line is taken for the start of a transaction. -/
theorem classify_begin_name :
    let line := "begin \"refresh\"; end;".toList
    (leading line).head? = some "BEGIN".toList ∧ ¬line.head?.any isEscapeMarker ∧
      ¬IsBare (behindFirst line) ∧
      (∀ word ∈ transactionWords, (leading line)[1]? ≠ some word) ∧
      standard.classify line ≠ .block := by
  intro line
  have hleading : leading line = ["BEGIN".toList] := by decide
  have hclass : standard.classify line = .transaction :=
    (classify_of_leading_begin hleading).trans (by decide)
  exact ⟨by decide, by decide, by decide, by decide, by rw [hclass]; decide⟩

end Keywords

end SqlScript
