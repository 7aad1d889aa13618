import SqlScript.Proofs.Query.LeadingBlock
import SqlScript.Proofs.Query.Words

/-!
Which part of a query is its select list. The list is put together from the tokens behind the
top-level `select` as they are read, so it is a slice of the query on one line. The slice ends with
the query or in front of a `from`, and what stands behind that word is never looked at.
-/

namespace SqlScript.Query

open Text

/-- Whether a token can be taken for the `from` of the query, where `n` is open in front of it. -/
def IsTopFrom (n : Nesting) (token : Text) : Prop :=
  !n.isQuoted ∧ spells "from" token ∧ n.depth = 0

/-- Whether the select list of a query are the tokens `list`, where the tokens `before` and `select`
are in front of it and the tokens `rest` behind it. Those behind `select` are cut at parentheses. -/
structure HasExtent (query : Text) (before : List Text) (select : Text) (list rest : List Text) :
    Prop where
  tokens_eq : ∃ behind, tokens (flatten query) = before ++ select :: behind ∧
    behind.flatMap subTokens = list ++ rest
  /-- None of the tokens before the `select` is taken for it. -/
  hides : HidesSelect {} before
  isTopSelect : IsTopSelect (({} : Nesting).advance before.flatten) select
  selectList_eq : selectList query = list.flatten
  /-- The list ends in front of a `from`, or nothing is left. -/
  isTopFrom : ∀ word ∈ rest.head?,
    IsTopFrom ((({} : Nesting).advance before.flatten).advance list.flatten) word

/-- Whether tokens are read as a list up to the tokens `rest`, where `n` is open and `waiting`
nested `select`s wait in front of them. -/
structure IsRead (waiting : Nat) (n : Nesting) (list rest : List Text) : Prop where
  untilFrom_eq : untilFrom waiting n (list ++ rest) = list.flatten
  isFrom : ∀ word ∈ rest.head?, clause? (n.advance list.flatten) word = some .fromWord
  isTop : ∀ word ∈ rest.head?, (n.advance list.flatten).depth = 0
  /-- Any token that is taken for a `from` ends the list there, whatever stands behind it. -/
  anyFrom : ∀ word ∈ rest.head?, ∀ word' us,
    clause? (n.advance list.flatten) word' = some .fromWord →
      untilFrom waiting n (list ++ word' :: us) = list.flatten

/-! ### Reading up to a `from` -/

/-- A token in front of the list is part of it, if it does not end the list. -/
theorem IsRead.cons {waiting w : Nat} {n : Nesting} {t : Text} {list rest : List Text}
    (hread : ∀ us, untilFrom waiting n (t :: us) = t ++ untilFrom w (n.advance t) us)
    (h : IsRead w (n.advance t) list rest) : IsRead waiting n (t :: list) rest where
  untilFrom_eq := by rw [List.cons_append, hread, h.untilFrom_eq, List.flatten_cons]
  isFrom := by simpa using h.isFrom
  isTop := by simpa using h.isTop
  anyFrom := by
    intro word hword word' us hword'
    rw [List.flatten_cons, Nesting.advance_append] at hword'
    rw [List.cons_append, hread, h.anyFrom word hword word' us hword', List.flatten_cons]

theorem isRead_nil {waiting : Nat} {n : Nesting} {t : Text} {ts : List Text}
    (hclause : clause? n t = some .fromWord) (hend : waiting = 0 ∧ n.depth = 0) :
    IsRead waiting n [] (t :: ts) := by
  have hread {word : Text} (us : List Text) (hword : clause? n word = some .fromWord) :
      untilFrom waiting n (word :: us) = [] := by
    rw [untilFrom_cons, hword]
    exact if_pos hend
  refine ⟨hread ts hclause, ?_, fun _ _ => hend.2, fun _ _ _ us hword' => hread us hword'⟩
  intro word hword
  obtain rfl : t = word := by simpa using hword
  exact hclause

theorem isTopFrom_of_clause? {n : Nesting} {t : Text} (h : clause? n t = some .fromWord)
    (hdepth : n.depth = 0) : IsTopFrom n t := by
  rw [clause?] at h
  split_ifs at h with hquoted hselect hfrom
  · simp at h
  · exact ⟨by simpa using hquoted, hfrom, hdepth⟩

/-- Any tokens are read up to some `from`, or to their end. -/
theorem exists_isRead (waiting : Nat) (n : Nesting) (ts : List Text) :
    ∃ list rest, ts = list ++ rest ∧ IsRead waiting n list rest := by
  induction ts generalizing waiting n with
  | nil => exact ⟨[], [], rfl, rfl, by simp, by simp, by simp⟩
  | cons t ts ih =>
      have hmore (w : Nat)
          (hread : ∀ us, untilFrom waiting n (t :: us) = t ++ untilFrom w (n.advance t) us) :
          ∃ list rest, t :: ts = list ++ rest ∧ IsRead waiting n list rest := by
        obtain ⟨list, rest, rfl, hlist⟩ := ih w (n.advance t)
        exact ⟨t :: list, rest, rfl, hlist.cons hread⟩
      cases hclause : clause? n t with
      | none => exact hmore waiting fun us => by rw [untilFrom_cons, hclause]
      | some clause =>
          cases clause with
          | selectWord => exact hmore (waiting + 1) fun us => by rw [untilFrom_cons, hclause]
          | fromWord =>
              by_cases hend : waiting = 0 ∧ n.depth = 0
              · exact ⟨[], t :: ts, rfl, isRead_nil hclause hend⟩
              · refine hmore (waiting - 1) fun us => ?_
                rw [untilFrom_cons, hclause]
                exact if_neg hend

/-! ### Cutting a query off behind a token -/

/-- A token ends at its first space, which only the last token of a text can lack. -/
theorem tokens_eq_cons {line t : Text} {ts : List Text} (h : tokens line = t :: ts) :
    ∃ w, ' ' ∉ w ∧ (t = w ∧ ts = [] ∨ ∃ r, t = w ++ [' '] ∧ ts = tokens r) := by
  by_cases hspace : ' ' ∈ line
  · obtain ⟨w, r, rfl, hw⟩ := List.eq_append_cons_of_mem hspace
    rw [tokens_append_space, tokens_concat_space hw] at h
    obtain ⟨rfl, rfl⟩ := List.cons.inj h
    exact ⟨w, hw, .inr ⟨r, rfl, rfl⟩⟩
  · have hne : line ≠ [] := by
      rintro rfl
      exact List.cons_ne_nil _ _ h.symm
    rw [tokens_of_notMem hspace hne] at h
    obtain ⟨rfl, rfl⟩ := List.cons.inj h
    exact ⟨line, hspace, .inl ⟨rfl, rfl⟩⟩

/-- The tokens in front of a token are those of any text that begins with them. -/
theorem tokens_flatten_append {line t : Text} {ts us : List Text}
    (h : tokens line = ts ++ t :: us) (r : Text) : tokens (ts.flatten ++ r) = ts ++ tokens r := by
  induction ts generalizing line with
  | nil => rfl
  | cons u ts ih =>
      obtain ⟨w, hw, ⟨-, hnil⟩ | ⟨rest, rfl, hrest⟩⟩ := tokens_eq_cons h
      · exact absurd hnil (by simp)
      · rw [List.flatten_cons, List.append_assoc, List.append_assoc, List.singleton_append,
          tokens_append_space, tokens_concat_space hw, ih hrest.symm]
        rfl

theorem tokens_flatten_cons {line t : Text} {ts us : List Text} (h : tokens line = ts ++ t :: us) :
    tokens (t :: us).flatten = t :: us := by
  have hline : line = ts.flatten ++ (t :: us).flatten := by
    rw [← List.flatten_append, ← h, flatten_tokens]
  have hall := tokens_flatten_append h (t :: us).flatten
  rw [← hline, h] at hall
  exact (List.append_cancel_left hall).symm

theorem notMem_dropLast_of_tokens_eq {line t : Text} {ts us : List Text}
    (h : tokens line = ts ++ t :: us) : ' ' ∉ t.dropLast := by
  obtain ⟨w, hw, ⟨rfl, -⟩ | ⟨-, rfl, -⟩⟩ := tokens_eq_cons (tokens_flatten_cons h)
  · exact fun hmem => hw (List.mem_of_mem_dropLast hmem)
  · rwa [List.dropLast_concat]

theorem exists_of_flatMap_subTokens_eq {ts list rest : List Text} {word : Text}
    (h : ts.flatMap subTokens = list ++ word :: rest) : ∃ front t back pre post,
      ts = front ++ t :: back ∧ list = front.flatMap subTokens ++ pre ∧
        subTokens t = pre ++ word :: post := by
  induction ts generalizing list with
  | nil => simp at h
  | cons t ts ih =>
      rw [List.flatMap_cons, List.append_eq_append_iff] at h
      rcases h with ⟨more, rfl, hmore⟩ | ⟨parts, ht, hparts⟩
      · obtain ⟨front, u, back, pre, post, rfl, rfl, hu⟩ := ih hmore
        exact ⟨t :: front, u, back, pre, post, rfl, by simp, hu⟩
      · cases parts with
        | nil =>
            have hback : ts.flatMap subTokens = [] ++ word :: rest := hparts.symm
            obtain ⟨front, u, back, pre, post, rfl, hnil, hu⟩ := ih hback
            refine ⟨t :: front, u, back, pre, post, rfl, ?_, hu⟩
            rw [List.flatMap_cons, List.append_assoc, ← hnil, ht, List.append_nil, List.append_nil]
        | cons part post =>
            obtain ⟨rfl, -⟩ := List.cons.inj hparts
            exact ⟨[], t, ts, list, post, rfl, rfl, ht⟩

/-- A part of a token has no parenthesis, or it begins with the first one of the token. -/
theorem subTokens_eq_append_cons {t word : Text} {pre post : List Text}
    (h : subTokens t = pre ++ word :: post) : word ≠ [] ∧ (pre = [] ∧ '(' ∉ word ∨
      ∃ a b, '(' ∉ a ∧ pre = (if a = [] then [] else [a]) ∧ word = '(' :: b) := by
  have hne : word ≠ [] := by
    rintro rfl
    have hmem : [] ∈ subTokens t := h ▸ List.mem_append_right pre List.mem_cons_self
    simp [subTokens] at hmem
  refine ⟨hne, ?_⟩
  by_cases hparen : '(' ∈ t
  · obtain ⟨a, b, rfl, ha⟩ := List.eq_append_cons_of_mem hparen
    rw [subTokens_append ha] at h
    by_cases hnil : a = []
    · have hpre : pre = [] ∧ word = '(' :: b ∧ post = [] := by
        simpa [hnil, List.singleton_eq_append_iff] using h
      exact .inr ⟨a, b, ha, by rw [if_pos hnil, hpre.1], hpre.2.1⟩
    · rw [if_neg hnil, List.singleton_append] at h
      cases pre with
      | nil =>
          obtain ⟨rfl, -⟩ := List.cons.inj h
          exact .inl ⟨rfl, ha⟩
      | cons part pre =>
          obtain ⟨rfl, hrest⟩ := List.cons.inj h
          have hpre : pre = [] ∧ word = '(' :: b ∧ post = [] := by
            simpa [List.singleton_eq_append_iff] using hrest
          exact .inr ⟨a, b, ha, by rw [if_neg hnil, hpre.1], hpre.2.1⟩
  · have ht : t ≠ [] := by
      rintro rfl
      simp [subTokens] at h
    have hpre : pre = [] ∧ word = t ∧ post = [] := by
      simpa [subTokens_of_not_mem hparen ht, List.singleton_eq_append_iff] using h
    obtain ⟨rfl, rfl, -⟩ := hpre
    exact .inl ⟨rfl, hparen⟩

theorem dropTail_cases (tail s : Text) : s = dropTail tail s ∨ s = dropTail tail s ++ tail := by
  by_cases h : tail <:+ s
  · obtain ⟨init, rfl⟩ := h
    exact .inr (by rw [dropTail_append])
  · exact .inl (dropTail_of_not_suffix h).symm

section

variable {t word : Text} {pre post : List Text} (h : subTokens t = pre ++ word :: post)

include h

theorem notMem_flatten_append_dropTail (ht : ' ' ∉ t.dropLast) :
    ' ' ∉ pre.flatten ++ dropTail [' '] word := by
  obtain ⟨hne, -⟩ := subTokens_eq_append_cons h
  have htext : t = pre.flatten ++ word.dropLast ++ word.getLast hne :: post.flatten := by
    conv_lhs => rw [← flatten_subTokens t, h, ← List.dropLast_append_getLast hne]
    simp
  rw [htext, List.dropLast_append_of_ne_nil (List.cons_ne_nil _ _), List.mem_append,
    List.mem_append, not_or, not_or] at ht
  obtain ⟨⟨hpre, hinit⟩, -⟩ := ht
  rw [List.mem_append, not_or]
  refine ⟨hpre, ?_⟩
  by_cases hend : [' '] <:+ word
  · obtain ⟨init, rfl⟩ := hend
    rwa [List.dropLast_concat, ← dropTail_append [' '] init] at hinit
  · rw [dropTail_of_not_suffix hend]
    intro hmem
    rw [← List.dropLast_append_getLast hne, List.mem_append, List.mem_singleton] at hmem
    rcases hmem with hmem | hlast
    · exact hinit hmem
    · exact hend ⟨word.dropLast, by rw [hlast, List.dropLast_append_getLast hne]⟩

/-- A token that is cut off behind one of its parts has this part as its last. -/
theorem subTokens_flatten_append_dropTail :
    subTokens (pre.flatten ++ (dropTail [' '] word ++ [' '])) =
      pre ++ [dropTail [' '] word ++ [' ']] := by
  obtain ⟨hne, ⟨rfl, hparen⟩ | ⟨a, b, ha, rfl, rfl⟩⟩ := subTokens_eq_append_cons h
  · have hword : '(' ∉ dropTail [' '] word ++ [' '] := by
      rw [List.mem_append, not_or]
      exact ⟨fun hmem => hparen ((dropTail_prefix_self _ _).subset hmem), by decide⟩
    exact subTokens_of_not_mem hword (by simp)
  · have hflat : (if a = [] then [] else [a]).flatten = a := by
      by_cases hnil : a = [] <;> simp [hnil]
    have hopen : ∃ b', dropTail [' '] ('(' :: b) = '(' :: b' := by
      rcases dropTail_cases [' '] ('(' :: b) with hkept | hcut
      · exact ⟨b, hkept.symm⟩
      · cases hword : dropTail [' '] ('(' :: b) with
        | nil => simp [hword] at hcut
        | cons c b' =>
            rw [hword, List.cons_append] at hcut
            exact ⟨b', by rw [(List.cons.inj hcut).1]⟩
    obtain ⟨b', hb'⟩ := hopen
    rw [hflat, hb', List.cons_append, subTokens_append ha]

end

/-- A query that is cut off behind a part of a token keeps the tokens in front of it. -/
theorem exists_tokens_cut {line select word : Text} {before behind list rest : List Text}
    (hline : tokens line = before ++ select :: behind)
    (hparts : behind.flatMap subTokens = list ++ word :: rest) (text : Text) :
    ∃ us ts, tokens (before.flatten ++ (select ++ (list.flatten ++
        (dropTail [' '] word ++ ' ' :: text)))) = before ++ select :: us ∧
      us.flatMap subTokens = list ++ (dropTail [' '] word ++ [' ']) :: ts := by
  obtain ⟨front, t, back, pre, post, rfl, rfl, ht⟩ := exists_of_flatMap_subTokens_eq hparts
  have hall : tokens line = (before ++ select :: front) ++ t :: back := by
    rw [hline, List.append_assoc, List.cons_append]
  have hspace := notMem_flatten_append_dropTail ht (notMem_dropLast_of_tokens_eq hall)
  have hsub := subTokens_flatten_append_dropTail ht
  refine ⟨front ++ (pre.flatten ++ (dropTail [' '] word ++ [' '])) :: tokens text,
    (tokens text).flatMap subTokens, ?_, ?_⟩
  · have htoken : tokens (pre.flatten ++ (dropTail [' '] word ++ ' ' :: text)) =
        (pre.flatten ++ (dropTail [' '] word ++ [' '])) :: tokens text := by
      rw [← List.append_assoc, tokens_append_space, tokens_concat_space hspace, List.append_assoc]
      rfl
    have hcut := tokens_flatten_append hall (pre.flatten ++ (dropTail [' '] word ++ ' ' :: text))
    rw [htoken] at hcut
    simpa using hcut
  · rw [List.flatMap_append, List.flatMap_cons, hsub]
    simp

/-! ### The list as a slice -/

theorem selectList_eq_untilFrom {query select : Text} {before behind : List Text}
    (hline : tokens (flatten query) = before ++ select :: behind) (hhides : HidesSelect {} before)
    (hselect : IsTopSelect (({} : Nesting).advance before.flatten) select) :
    selectList query =
      untilFrom 0 (({} : Nesting).advance before.flatten) (behind.flatMap subTokens) := by
  rw [selectList, hline, afterSelect?_append hhides, hselect.afterSelect?_cons]

theorem HasExtent.flatten_eq {query select : Text} {before list rest : List Text}
    (h : HasExtent query before select list rest) : flatten query =
      before.flatten ++ (select ++ (selectList query ++ rest.flatten)) := by
  obtain ⟨behind, hline, hparts⟩ := h.tokens_eq
  rw [← flatten_tokens (flatten query), hline, h.selectList_eq, ← List.flatten_append, ← hparts,
    flatten_flatMap_subTokens, List.flatten_append, List.flatten_cons]

/-- A query has no top-level `select`, or its list is a slice of it on one line, which ends with
the query or in front of a `from`. Then any text may follow this word and the space behind it. -/
theorem selectList_eq_nil_or_hasExtent (query : Text) :
    HidesSelect {} (tokens (flatten query)) ∧ selectList query = [] ∨
      ∃ before select list rest, HasExtent query before select list rest ∧
        flatten query = before.flatten ++ (select ++ (selectList query ++ rest.flatten)) ∧
        ∀ word ∈ rest.head?, ∀ other text, flatten other = before.flatten ++ (select ++
            (selectList query ++ (dropTail [' '] word ++ ' ' :: text))) →
          selectList other = selectList query := by
  rcases hidesSelect_or_exists_isTopSelect {} (tokens (flatten query)) with
    hhides | ⟨before, select, behind, hline, hbefore, hselect⟩
  · have hnone := afterSelect?_append hhides []
    rw [List.append_nil, afterSelect?] at hnone
    exact .inl ⟨hhides, by rw [selectList, hnone]⟩
  · obtain ⟨list, rest, hparts, hread⟩ := exists_isRead 0
      (({} : Nesting).advance before.flatten) (behind.flatMap subTokens)
    have hquery : selectList query = list.flatten := by
      rw [selectList_eq_untilFrom hline hbefore hselect, hparts, hread.untilFrom_eq]
    have hextent : HasExtent query before select list rest :=
      ⟨⟨behind, hline, hparts⟩, hbefore, hselect, hquery,
        fun word hword => isTopFrom_of_clause? (hread.isFrom word hword) (hread.isTop word hword)⟩
    refine .inr ⟨before, select, list, rest, hextent, hextent.flatten_eq, ?_⟩
    intro word hword other text hother
    obtain ⟨after, rfl⟩ : ∃ after, rest = word :: after := List.head?_eq_some_iff.mp hword
    obtain ⟨us, ts, htokens, hus⟩ := exists_tokens_cut hline hparts text
    have hclause := hread.isFrom word hword
    have hspaced : clause? ((({} : Nesting).advance before.flatten).advance list.flatten)
        (dropTail [' '] word ++ [' ']) = some .fromWord := by
      rw [clause?_concat_space]
      rcases dropTail_cases [' '] word with hkept | hcut
      · rwa [← hkept]
      · rwa [hcut, clause?_concat_space] at hclause
    rw [hquery] at hother ⊢
    rw [← hother] at htokens
    rw [selectList_eq_untilFrom htokens hbefore hselect, hus,
      hread.anyFrom word hword _ _ hspaced]

-- A `from` within parentheses does not end the list, and one in front of a parenthesis does.
example : selectList "select a, (select b from u) from(select c from v)".toList =
    "a, (select b from u) ".toList := by
  decide +kernel

end SqlScript.Query
