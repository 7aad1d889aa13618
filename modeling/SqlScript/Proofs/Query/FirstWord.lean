import SqlScript.Proofs.Query.LineBreaks
import SqlScript.Proofs.Query.Words

/-!
Where the `select` of a query ends. A text counts as a query if white space, an opening parenthesis
or an asterisk ends the word, but the list is looked for behind a token that is the word and nothing
else, and a token ends at a space, a tab or a line break only. A `select` that is glued to what
follows is passed over as the `with` of a block is, and the query has no columns unless another
`select` stands at its top level.
-/

namespace SqlScript.Query

open Text

/-- Whether a token ends at a character, as line breaks stand for spaces. -/
def endsToken (c : Char) : Bool := c == ' ' || isBreak c

/-- Whether a word in front of the text ends there. -/
def EndsWord (rest : Text) : Prop := rest.head?.any fun c => isBlank c || c == '(' || c == '*'

/-- Whether nothing but white space stands in the text up to the end of the first token. -/
def StandsApart (rest : Text) : Prop :=
  (rest.dropWhile fun c => isBlank c && !endsToken c).head?.all endsToken

/-- The words that a query begins with. -/
def queryWords : List Text := ["select".toList, "with".toList]

instance (rest : Text) : Decidable (EndsWord rest) := inferInstanceAs (Decidable (_ = true))

instance (rest : Text) : Decidable (StandsApart rest) := inferInstanceAs (Decidable (_ = true))

/-! ### The first token -/

theorem not_isBreak_of_not_endsToken {c : Char} (h : ¬endsToken c) : ¬isBreak c := by
  simp only [endsToken, Bool.or_eq_true, not_or] at h
  exact h.2

theorem notMem_space_of_not_endsToken {s : Text} (h : ∀ c ∈ s, ¬endsToken c) : ' ' ∉ s :=
  fun hmem => h ' ' hmem rfl

theorem isBlank_of_endsToken {c : Char} (h : endsToken c) : isBlank c := by
  rcases Bool.or_eq_true_iff.mp h with hspace | hbreak
  · rw [eq_of_beq hspace]
    decide
  · exact isBlank_of_isBreak hbreak

theorem exists_joinLines_cons {c : Char} (h : endsToken c) (s : Text) :
    ∃ inRun, joinLines false (c :: s) = ' ' :: joinLines inRun s := by
  rcases Bool.or_eq_true_iff.mp h with hspace | hbreak
  · rw [eq_of_beq hspace]
    exact ⟨false, rfl⟩
  · exact ⟨true, by rw [joinLines, if_pos hbreak, if_neg Bool.false_ne_true]⟩

/-- The white space in front of a character that ends a token or is not blank. -/
theorem exists_eq_append_dropWhile (rest : Text) : ∃ pad, IsBlankText pad ∧
    (∀ c ∈ pad, ¬endsToken c) ∧
      rest = pad ++ rest.dropWhile fun c => isBlank c && !endsToken c := by
  have hall : ∀ c ∈ rest.takeWhile (fun c => isBlank c && !endsToken c),
      isBlank c = true ∧ (!endsToken c) = true := by
    intro c hc
    have hboth := List.mem_takeWhile_imp hc
    exact Bool.and_eq_true_iff.mp hboth
  refine ⟨_, fun c hc => (hall c hc).1, fun c hc => ?_, List.takeWhile_append_dropWhile.symm⟩
  simpa using (hall c hc).2

theorem exists_tokens_cons (c : Char) (s : Text) : ∃ u ts, tokens (c :: s) = (c :: u) :: ts := by
  rw [tokens]
  split
  · exact ⟨[], _, rfl⟩
  · cases tokens s with
    | nil => exact ⟨[], [], rfl⟩
    | cons t ts => exact ⟨t, ts, rfl⟩

/-- In the line of a text that stands apart the first token is white space. -/
theorem StandsApart.exists_line {rest : Text} (h : StandsApart rest) (hrest : ¬IsBlankText rest) :
    ∃ pad more, IsBlankText pad ∧ ' ' ∉ pad ∧
      trimEnd (joinLines false rest) = pad ++ ' ' :: more := by
  obtain ⟨pad, hpad, hends, heq⟩ := exists_eq_append_dropWhile rest
  rw [StandsApart] at h
  cases hdrop : rest.dropWhile fun c => isBlank c && !endsToken c with
  | nil =>
      rw [hdrop, List.append_nil] at heq
      exact absurd (heq ▸ hpad) hrest
  | cons c more =>
      have hc : endsToken c = true := by simpa [hdrop] using h
      have hmore : ¬IsBlankText more := by
        intro hmore
        rw [heq, hdrop] at hrest
        have hcut : IsBlankText (c :: more) :=
          List.forall_mem_cons.mpr ⟨isBlank_of_endsToken hc, hmore⟩
        exact hrest (isBlankText_append.mpr ⟨hpad, hcut⟩)
      obtain ⟨inRun, hjoin⟩ := exists_joinLines_cons hc more
      have hsolid : ¬IsBlankText (joinLines inRun more) := by
        rwa [← ink_eq_nil_iff, ink_joinLines, ink_eq_nil_iff]
      refine ⟨pad, trimEnd (joinLines inRun more), hpad, notMem_space_of_not_endsToken hends, ?_⟩
      rw [heq, hdrop, joinLines_append_of_forall_not_isBreak
        (fun d hd => not_isBreak_of_not_endsToken (hends d hd)), hjoin, List.append_cons,
        trimEnd_append_of_not_blank _ hsolid, List.append_assoc, List.singleton_append]

/-- In the line of a text that does not stand apart the first token begins as the text does. -/
theorem exists_tokens_of_not_standsApart {rest : Text} (h : ¬StandsApart rest) :
    ∃ t ts, tokens (trimEnd (joinLines false rest)) = t :: ts ∧ ¬IsBlankText t ∧
      t.head? = rest.head? := by
  obtain ⟨pad, hpad, hends, heq⟩ := exists_eq_append_dropWhile rest
  rw [StandsApart] at h
  cases hdrop : rest.dropWhile fun c => isBlank c && !endsToken c with
  | nil => exact absurd (by rw [hdrop]; rfl) h
  | cons c more =>
      have hc : ¬endsToken c := by simpa [hdrop] using h
      have hsolid : ¬isBlank c := by
        intro hblank
        have hfirst := List.head?_dropWhile_not (fun c => isBlank c && !endsToken c) rest
        simp [hdrop, hblank, hc] at hfirst
      have hline : ¬IsBlankText (c :: joinLines false more) :=
        fun hblank => hsolid (hblank c List.mem_cons_self)
      obtain ⟨more', hmore⟩ := exists_trimEnd_cons hsolid (joinLines false more)
      obtain ⟨u, ts, htokens⟩ := exists_tokens_cons c more'
      refine ⟨pad ++ c :: u, ts, ?_, fun hblank => ?_, ?_⟩
      · rw [heq, hdrop, joinLines_append_of_forall_not_isBreak
          (fun d hd => not_isBreak_of_not_endsToken (hends d hd)), joinLines,
          if_neg (not_isBreak_of_not_endsToken hc), trimEnd_append_of_not_blank _ hline, hmore,
          tokens_append_of_notMem (notMem_space_of_not_endsToken hends) htokens]
      · exact hsolid (hblank c (by simp))
      · conv_rhs => rw [heq, hdrop]
        cases pad <;> rfl

/-! ### The word in front of the list -/

theorem flatten_append {word rest : Text} (hstart : trimStart word = word)
    (hbreaks : word.any isBreak = false) (hword : ¬IsBlankText word) (hrest : ¬IsBlankText rest) :
    flatten (word ++ rest) = word ++ trimEnd (joinLines false rest) := by
  rw [flatten, joinLines_append_of_forall_not_isBreak (List.any_eq_false.mp hbreaks), trim,
    trimStart_append_of_not_blank hword, hstart,
    trimEnd_append_of_not_blank _ (not_isBlankText_joinLines hrest)]

theorem flatten_append_blank (s : Text) {pad : Text} (h : IsBlankText pad) :
    flatten (s ++ pad) = flatten s := by
  rw [← flatten_trimEnd, trimEnd_append_of_blank h, flatten_trimEnd]

/-- Neither of the words has an end that trimming would drop, or anything that ends a token. -/
theorem plain_of_mem_queryWords : ∀ word ∈ queryWords, trimStart word = word ∧
    ¬IsBlankText word ∧ ' ' ∉ word ∧ word.any isBreak = false ∧
      word.dropWhile (· == '(') = word ∧ ({} : Nesting).advance word = {} := by
  decide

theorem not_sameWord_append {word : Text} (hword : word ∈ queryWords) {u : Text} (hu : u ≠ []) :
    ¬sameWord "select" (word ++ u) := by
  intro hsame
  have hlower : asciiLower "select" = asciiLower word ++ asciiLower u := by
    rw [← asciiLower_append]
    exact eq_of_beq hsame
  simp only [queryWords, List.mem_cons, List.not_mem_nil, or_false] at hword
  rcases hword with rfl | rfl
  · have hnil : asciiLower u = [] := List.self_eq_append_right.mp hlower
    exact hu (List.map_eq_nil_iff.mp hnil)
  · have hhead : some 's' = some 'w' := congrArg List.head? hlower
    exact absurd hhead (by decide)

/-- A token that begins with one of the words, and does not end there, is not taken for `select`. -/
theorem not_spells_append {word t : Text} (hword : word ∈ queryWords) (ht : ¬IsBlankText t)
    (hends : EndsWord t) : ¬spells "select" (word ++ t) := by
  obtain ⟨hstart, hsolid, -, -, hparens, -⟩ := plain_of_mem_queryWords word hword
  have hne : word ≠ [] := by
    rintro rfl
    exact hsolid isBlankText_nil
  obtain ⟨c, u, hend⟩ := List.exists_cons_of_ne_nil (mt trimEnd_eq_nil_iff.mp ht)
  obtain ⟨pad, -, hpad⟩ := exists_eq_trimEnd_append t
  have hc : isBlank c || c == '(' || c == '*' := by
    rw [hpad, hend] at hends
    exact hends
  obtain ⟨after, hafter, hcore⟩ := exists_eq_dropEndWhile_append
    (fun c => c == ')' || c == ',' || c == ';') (word ++ c :: u)
  -- What follows the word begins with no separator, so some of it is left behind the word.
  have hnot : c ∉ after := by
    intro hmem
    have hseparator := hafter c hmem
    simp only [Bool.or_eq_true, beq_iff_eq] at hseparator
    rcases hseparator with (rfl | rfl) | rfl <;> exact absurd hc (by decide)
  have hdrop : (word ++ c :: u).dropWhile (· == '(') = word ++ c :: u := by
    rw [List.dropWhile_append, hparens, if_neg (by simpa using hne)]
  rw [spells, trim, trimStart_append_of_not_blank hsolid, hstart,
    trimEnd_append_of_not_blank _ ht, hend, hdrop]
  rcases List.append_eq_append_iff.mp hcore with ⟨z, hz, hrest⟩ | ⟨z, -, hrest⟩
  · rw [hz]
    refine not_sameWord_append hword ?_
    rintro rfl
    exact hnot (by rw [← List.nil_append after, ← hrest]; exact List.mem_cons_self)
  · exact absurd (by rw [hrest]; simp) hnot

/-! ### The list behind the word -/

theorem EndsWord.ne_nil {rest : Text} (h : EndsWord rest) : rest ≠ [] := by
  rintro rfl
  exact Bool.false_ne_true h

/-- The first word of a text is the word that the text begins with, as soon as it ends there. -/
theorem EndsWord.firstWord_append {word rest : Text} (h : EndsWord rest)
    (hword : firstWord word = word) (hne : ¬IsBlankText word) (hstart : trimStart word = word) :
    firstWord (word ++ rest) = word := by
  obtain ⟨c, more, rfl⟩ := List.exists_cons_of_ne_nil h.ne_nil
  have hc : isBlank c || c == '(' || c == '*' := h
  rw [firstWord, hstart, List.takeWhile_eq_self_iff] at hword
  rw [firstWord, trimStart_append_of_not_blank hne, hstart, List.takeWhile_append_of_pos hword,
    List.takeWhile_cons_of_neg (by simp [hc]), List.append_nil]

/-- Behind a `select` that stands apart the list begins, and a space behind the word is one
character more of it. -/
theorem exists_selectList_of_standsApart {rest : Text} (h : StandsApart rest)
    (hrest : ¬IsBlankText rest) : ∃ pad, IsBlankText pad ∧
      selectList ("select ".toList ++ rest) = pad ++ selectList ("select".toList ++ rest) := by
  obtain ⟨pad, more, hpad, hspace, hline⟩ := h.exists_line hrest
  -- The white space up to the end of the first token is part of the token of the word; behind a
  -- space it is a token of its own, which is no word.
  have hblank : IsBlankText (pad ++ [' ']) := isBlankText_append.mpr ⟨hpad, by decide⟩
  have hglued : tokens (flatten ("select".toList ++ rest)) =
      ("select".toList ++ (pad ++ [' '])) :: tokens more := by
    rw [flatten_append (by decide) (by decide) (by decide) hrest, hline, ← List.append_assoc,
      tokens_append_space, tokens_concat_space, List.singleton_append, List.append_assoc]
    rw [List.mem_append, not_or]
    exact ⟨by decide, hspace⟩
  have hapart : tokens (flatten ("select ".toList ++ rest)) =
      "select ".toList :: (pad ++ [' ']) :: tokens more := by
    have hfirst : tokens "select ".toList = ["select ".toList] := by decide
    rw [flatten_append (by decide) (by decide) (by decide) hrest, hline]
    change tokens ("select".toList ++ ' ' :: (pad ++ ' ' :: more)) = _
    rw [tokens_append_space, tokens_append_space pad, tokens_concat_space hspace]
    exact congrArg (· ++ _) hfirst
  have hselect : spells "select" ("select".toList ++ (pad ++ [' '])) = true := by
    rw [spells, trim_append_right _ hblank]
    decide
  have hhead : ("select".toList ++ (pad ++ [' '])).head? ≠ some '(' := by simp
  have hparen : '(' ∉ pad ++ [' '] := fun hmem => absurd (hblank '(' hmem) (by decide)
  have hclause : clause? {} (pad ++ [' ']) = none := by
    have htrim : trim (pad ++ [' ']) = [] := trim_eq_nil_iff.mpr hblank
    have hno : ∀ word : Text, sameWord word [] = false → ¬spells word (pad ++ [' ']) := by
      intro word hword hspells
      rw [spells, htrim] at hspells
      exact Bool.false_ne_true (hword.symm.trans hspells)
    rw [clause?, if_neg (by decide), if_neg (hno _ (by decide)), if_neg (hno _ (by decide))]
  refine ⟨pad ++ [' '], hblank, ?_⟩
  rw [selectList, hapart, afterSelect?_select, selectList, hglued, afterSelect?,
    if_pos ⟨rfl, hselect, rfl, hhead⟩]
  simp only [List.flatMap_cons]
  rw [subTokens_of_not_mem hparen (by simp), List.singleton_append, untilFrom_cons, hclause,
    Nesting.advance_of_isBlankText _ hblank]

/-- A word that is glued to what follows is passed over, whichever of the two it is. -/
theorem exists_afterSelect?_of_not_standsApart {rest : Text} (h : ¬StandsApart rest)
    (hends : EndsWord rest) : ∃ n ts, ∀ word ∈ queryWords,
      afterSelect? {} (tokens (flatten (word ++ rest))) = afterSelect? n ts := by
  obtain ⟨t, ts, htokens, ht, hhead⟩ := exists_tokens_of_not_standsApart h
  have hrest : ¬IsBlankText rest := by
    intro hblank
    rw [trimEnd_eq_nil_iff.mpr (isBlankText_joinLines false hblank)] at htokens
    exact List.cons_ne_nil _ _ htokens.symm
  refine ⟨({} : Nesting).advance t, ts, fun word hword => ?_⟩
  obtain ⟨hstart, hsolid, hspace, hbreaks, -, hclosed⟩ := plain_of_mem_queryWords word hword
  have hfirst : ¬spells "select" (word ++ t) := by
    refine not_spells_append hword ht ?_
    rwa [EndsWord, hhead]
  rw [flatten_append hstart hbreaks hsolid hrest, tokens_append_of_notMem hspace htokens,
    afterSelect?, if_neg fun hall => hfirst hall.2.1, Nesting.advance_append, hclosed]

theorem selectList_eq_nil {query : Text} (h : HidesSelect {} (tokens (flatten query))) :
    selectList query = [] := by
  have hnone := afterSelect?_append h []
  rw [List.append_nil] at hnone
  rw [selectList, hnone]
  rfl

/-! ### The columns -/

theorem columnsOfList_append_left (naming : Naming) {pad : Text} (h : IsBlankText pad)
    (list : Text) : columnsOfList naming (pad ++ list) = columnsOfList naming list := by
  rw [columnsOfList, expressions, trim_append_left list h, columnsOfList, expressions]

theorem columns_append (naming : Naming) {word rest : Text} (hword : word ∈ queryWords)
    (hends : EndsWord rest) :
    columns naming (word ++ rest) = .ok (columnsOfList naming (selectList (word ++ rest))) := by
  have hself : ∀ word ∈ queryWords, firstWord word = word ∧
      (sameWord word "select" = true ∨ sameWord word "with" = true) := by decide
  obtain ⟨hfirst, hquery⟩ := hself word hword
  obtain ⟨hstart, hsolid, -⟩ := plain_of_mem_queryWords word hword
  have hstarts : startsWithQueryWord (word ++ rest) = true := by
    rw [startsWithQueryWord_eq, hends.firstWord_append hfirst hsolid hstart, Bool.or_eq_true]
    exact hquery
  rw [columns, if_pos hstarts]

/-- A query begins with `select` and a text that ends the word. If the text stands apart, a space
behind the word makes no difference. Otherwise the word is passed over as a `with` is, and without
another `select` at the top level the query has no columns. -/
theorem columns_select_append (naming : Naming) (rest : Text) (hends : EndsWord rest) :
    ∃ names, columns naming ("select".toList ++ rest) = .ok names ∧
      (StandsApart rest → columns naming ("select ".toList ++ rest) = .ok names) ∧
      (¬StandsApart rest → columns naming ("with".toList ++ rest) = .ok names ∧
        (HidesSelect {} (tokens (flatten ("with".toList ++ rest))) → names = [])) := by
  have hselect : "select".toList ∈ queryWords := List.mem_cons_self
  have hwith : "with".toList ∈ queryWords := List.mem_cons_of_mem _ List.mem_cons_self
  refine ⟨_, columns_append naming hselect hends, fun hapart => ?_, fun hglued => ?_⟩
  · have hspace : EndsWord (' ' :: rest) := rfl
    have hspaced := columns_append naming hselect hspace
    change columns naming ("select ".toList ++ rest) =
      .ok (columnsOfList naming (selectList ("select ".toList ++ rest))) at hspaced
    rw [hspaced]
    by_cases hrest : IsBlankText rest
    · have hblank : ∀ word : Text, selectList (word ++ rest) = selectList word := by
        intro word
        rw [selectList, flatten_append_blank word hrest, selectList]
      rw [hblank, hblank]
      rfl
    · obtain ⟨pad, hpad, hlist⟩ := exists_selectList_of_standsApart hapart hrest
      rw [hlist, columnsOfList_append_left naming hpad]
  · obtain ⟨n, ts, hafter⟩ := exists_afterSelect?_of_not_standsApart hglued hends
    have hsame : selectList ("select".toList ++ rest) = selectList ("with".toList ++ rest) := by
      rw [selectList, hafter _ hselect, selectList, hafter _ hwith]
    refine ⟨?_, fun hhides => ?_⟩
    · rw [hsame, columns_append naming hwith hends]
    · rw [hsame, selectList_eq_nil hhides]
      rfl

/-- A no-break space and a tab stand apart, and an asterisk is glued to the word. -/
theorem columns_select_append_forms :
    let apart := "\u00a0\ta, b from t".toList
    let glued := "*, (select 1) as b from t".toList
    (EndsWord apart ∧ StandsApart apart ∧
      columns {} ("select".toList ++ apart) = columns {} ("select ".toList ++ apart)) ∧
    (EndsWord glued ∧ ¬StandsApart glued ∧
      HidesSelect {} (tokens (flatten ("with".toList ++ glued))) ∧
      columns {} ("select".toList ++ glued) = .ok []) := by
  intro apart glued
  have hapart : EndsWord apart ∧ StandsApart apart := by decide +kernel
  have hglued : EndsWord glued ∧ ¬StandsApart glued := by decide +kernel
  have hhides : HidesSelect {} (tokens (flatten ("with".toList ++ glued))) := by decide +kernel
  obtain ⟨_, hplain, hspaced, -⟩ := columns_select_append {} apart hapart.1
  obtain ⟨_, hread, -, hnone⟩ := columns_select_append {} glued hglued.1
  refine ⟨⟨hapart.1, hapart.2, hplain.trans (hspaced hapart.2).symm⟩,
    hglued.1, hglued.2, hhides, ?_⟩
  rw [hread, (hnone hglued.2).2 hhides]

/-- A parenthesis ends the word of a query, but it does not end its token. -/
theorem columns_select_glued :
    let rest := "(a) as b, c from t".toList
    EndsWord rest ∧ columns {} ("select".toList ++ rest) = .ok [] ∧
      columns {} ("select ".toList ++ rest) = .ok ["b".toList, "c".toList] := by
  decide +kernel

end SqlScript.Query
