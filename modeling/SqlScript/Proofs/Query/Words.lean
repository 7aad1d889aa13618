import SqlScript.Proofs.Query.Isolation
import SqlScript.Proofs.Query.Marks

/-!
The words of a text against the words that the reading of a select list depends on. A token is only
taken for `select` or `from` if the word itself stands in the text, between delimiters and outside
quotes. So a list in which the two words stand in quotes only is read to its end.
-/

namespace SqlScript.Query

open Text

/-- Whether words end at a character. -/
def isDelimiter (c : Char) : Bool := isBlank c || c == '(' || c == ')' || c == ',' || c == ';'

/-- Whether a word, in any case, stands in a text only within quotes. -/
def OnlyQuoted (word text : Text) : Prop :=
  ∀ i ≤ text.length, (text.take i).getLast?.all isDelimiter →
    sameWord word ((text.drop i).takeWhile fun c => !isDelimiter c) →
      (({} : Nesting).advance (text.take i)).isQuoted

instance (word text : Text) : Decidable (OnlyQuoted word text) :=
  Nat.decidableBallLE text.length _

/-- Whether a text is one word in every case of its letters. -/
def IsWord (word : Text) : Prop := word ≠ [] ∧ ∀ c ∈ asciiLower word, !isDelimiter c

instance (word : Text) : Decidable (IsWord word) :=
  @instDecidableAnd _ _ _ (List.decidableBAll _ (asciiLower word))

/-! ### Delimiters and words -/

theorem not_isCapital_of_isDelimiter {c : Char} (h : isDelimiter c) :
    ¬(65 ≤ c.toNat ∧ c.toNat ≤ 90) := by
  simp only [isDelimiter, Bool.or_eq_true, beq_iff_eq] at h
  rcases h with (((h | rfl) | rfl) | rfl) | rfl
  · obtain ⟨range, hmem, hfirst, hlast⟩ := CodeTable.contains_iff.mp h
    have hapart : ∀ range ∈ blanks, range.2 < 65 ∨ 90 < range.1 := by decide
    rcases hapart range hmem with hrange | hrange <;> omega
  all_goals decide

theorem toLower_of_isDelimiter {c : Char} (h : isDelimiter c) : c.toLower = c := by
  unfold Char.toLower
  split
  next hcapital =>
    have hfirst := UInt32.le_iff_toNat_le.mp hcapital.1
    have hlast := UInt32.le_iff_toNat_le.mp hcapital.2
    exact absurd ⟨hfirst, hlast⟩ (not_isCapital_of_isDelimiter h)
  next => rfl

theorem IsWord.not_isDelimiter {word text : Text} (h : IsWord word) (hsame : sameWord word text) :
    ∀ c ∈ text, !isDelimiter c := by
  intro c hc
  by_contra hdelimiter
  simp only [Bool.not_eq_true, Bool.not_eq_false'] at hdelimiter
  have hmem : c.toLower ∈ asciiLower word := by
    rw [eq_of_beq hsame]
    exact List.mem_map_of_mem hc
  rw [toLower_of_isDelimiter hdelimiter] at hmem
  have hnot := h.2 c hmem
  rw [hdelimiter] at hnot
  exact Bool.false_ne_true hnot

theorem IsWord.ne_nil {word text : Text} (h : IsWord word) (hsame : sameWord word text) :
    text ≠ [] := by
  rintro rfl
  have hlower : asciiLower word = [] := eq_of_beq hsame
  exact h.1 (List.map_eq_nil_iff.mp hlower)

/-- A word stands in a text between two parts of it. -/
theorem onlyQuoted_iff {word : Text} (h : IsWord word) (text : Text) :
    OnlyQuoted word text ↔ ∀ a m b, text = a ++ (m ++ b) → sameWord word m →
      a.getLast?.all isDelimiter → b.head?.all isDelimiter →
        (({} : Nesting).advance a).isQuoted := by
  constructor
  · rintro hquoted a m b rfl hsame ha hb
    have hword : (m ++ b).takeWhile (fun c => !isDelimiter c) = m := by
      rw [List.takeWhile_append_of_pos (h.not_isDelimiter hsame)]
      cases b with
      | nil => rw [List.takeWhile_nil, List.append_nil]
      | cons c b =>
          have hc : isDelimiter c = true := hb
          rw [List.takeWhile_cons_of_neg (by simp [hc]), List.append_nil]
    have hi := hquoted a.length (by simp)
    rw [List.take_left, List.drop_left, hword] at hi
    exact hi ha hsame
  · intro hparts i _ ha hsame
    refine hparts (text.take i) _ ((text.drop i).dropWhile fun c => !isDelimiter c) ?_ hsame ha ?_
    · rw [List.takeWhile_append_dropWhile, List.take_append_drop]
    · have hhead := List.head?_dropWhile_not (fun c => !isDelimiter c) (text.drop i)
      cases hb : (text.drop i).dropWhile fun c => !isDelimiter c with
      | nil => rfl
      | cons c b => simpa [hb] using hhead

theorem isDelimiter_of_isBlank {c : Char} (h : isBlank c) : isDelimiter c := by
  simp [isDelimiter, h]

theorem isQuoted_advance_of_isDelimiter (n : Nesting) {s : Text} (h : ∀ c ∈ s, isDelimiter c) :
    (n.advance s).isQuoted = n.isQuoted := by
  induction s generalizing n with
  | nil => rfl
  | cons c s ih =>
      rw [List.forall_mem_cons] at h
      rw [Nesting.advance_cons, ih (n.step c) h.2]
      have hliteral : c ≠ '\'' := by
        rintro rfl
        exact absurd h.1 (by decide)
      have hidentifier : c ≠ '"' := by
        rintro rfl
        exact absurd h.1 (by decide)
      simp only [Nesting.step, hliteral, hidentifier, false_and, if_false]
      split_ifs <;> rfl

/-! ### Tokens that spell a word -/

theorem exists_eq_dropEndWhile_append (p : Char → Bool) (s : Text) :
    ∃ pad, (∀ c ∈ pad, p c) ∧ s = dropEndWhile p s ++ pad :=
  ⟨s.rtakeWhile p, fun _ hc => List.mem_rtakeWhile_imp hc,
    List.rdropWhile_append_rtakeWhile.symm⟩

/-- A token that spells a word is the word between delimiters. -/
theorem exists_eq_of_spells {word token : Text} (h : spells word token) :
    ∃ a m b, token = a ++ (m ++ b) ∧ sameWord word m ∧ (∀ c ∈ a, isDelimiter c) ∧
      ∀ c ∈ b, isDelimiter c := by
  obtain ⟨lead, pad, hlead, hpad, htoken⟩ := exists_eq_append_trim_append token
  obtain ⟨after, hafter, hcore⟩ := exists_eq_dropEndWhile_append
    (fun c => c == ')' || c == ',' || c == ';') ((trim token).dropWhile (· == '('))
  have hparens : ∀ c ∈ (trim token).takeWhile (· == '('), isDelimiter c := by
    intro c hc
    have heq := List.mem_takeWhile_imp hc
    simp only [beq_iff_eq] at heq
    rw [heq]
    decide
  have hseparators : ∀ c ∈ after, isDelimiter c := by
    intro c hc
    have heq := hafter c hc
    simp only [Bool.or_eq_true, beq_iff_eq] at heq
    rcases heq with (rfl | rfl) | rfl <;> decide
  refine ⟨lead ++ (trim token).takeWhile (· == '('), _, after ++ pad, ?_, h, ?_, ?_⟩
  · calc token = lead ++ ((trim token).takeWhile (· == '(') ++
          (trim token).dropWhile (· == '(')) ++ pad := by
          rw [List.takeWhile_append_dropWhile, ← htoken]
      _ = _ := by
          conv_lhs => rw [hcore]
          simp only [List.append_assoc]
  · rw [List.forall_mem_append]
    exact ⟨fun c hc => isDelimiter_of_isBlank (hlead c hc), hparens⟩
  · rw [List.forall_mem_append]
    exact ⟨hseparators, fun c hc => isDelimiter_of_isBlank (hpad c hc)⟩

/-- A part of a text that spells a word stands in quotes, if the word is only quoted in the text.
The part must not be cut out of a longer word, at either end. -/
theorem isQuoted_of_spells {word p t q : Text} (hword : IsWord word)
    (honly : OnlyQuoted word (p ++ (t ++ q))) (hspells : spells word t)
    (hstart : p.getLast?.all isDelimiter ∨ t.head?.any isDelimiter)
    (hend : q.head?.all isDelimiter ∨ t.getLast?.any isDelimiter) :
    (({} : Nesting).advance p).isQuoted := by
  obtain ⟨a, m, b, rfl, hsame, ha, hb⟩ := exists_eq_of_spells hspells
  have hm := hword.not_isDelimiter hsame
  have hne := hword.ne_nil hsame
  have hfront : (p ++ a).getLast?.all isDelimiter := by
    rcases List.eq_nil_or_concat a with rfl | ⟨init, c, rfl⟩
    · rcases hstart with hstart | hstart
      · rwa [List.append_nil]
      · cases m with
        | nil => exact absurd rfl hne
        | cons c m =>
            have hc : isDelimiter c = true := hstart
            simpa [hc] using hm c List.mem_cons_self
    · have hc : isDelimiter c = true := ha c (by simp)
      simp [← List.append_assoc, hc]
  have hback : (b ++ q).head?.all isDelimiter := by
    cases b with
    | nil =>
        rcases hend with hend | hend
        · exact hend
        · obtain ⟨init, c, rfl⟩ := (List.eq_nil_or_concat m).resolve_left hne
          have hc : isDelimiter c = true := by
            simpa [← List.append_assoc] using hend
          simpa [hc] using hm c (by simp)
    | cons c b => exact hb c List.mem_cons_self
  have hparts := (onlyQuoted_iff hword _).mp honly (p ++ a) m (b ++ q)
    (by simp only [List.append_assoc]) hsame hfront hback
  rwa [Nesting.advance_append, isQuoted_advance_of_isDelimiter _ ha] at hparts

theorem tokens_concat_space {s : Text} (h : ' ' ∉ s) : tokens (s ++ [' ']) = [s ++ [' ']] :=
  tokens_append_of_notMem h rfl

theorem tokens_of_notMem {s : Text} (h : ' ' ∉ s) (hne : s ≠ []) : tokens s = [s] := by
  induction s with
  | nil => exact absurd rfl hne
  | cons c s ih =>
      rw [List.mem_cons, not_or] at h
      rw [tokens, if_neg (Ne.symm h.1)]
      by_cases hs : s = []
      · rw [hs]
        rfl
      · rw [ih h.2 hs]

/-! ### Lists without the words -/

section

variable {text : Text} (hselect : OnlyQuoted "select" text) (hfrom : OnlyQuoted "from" text)

include hselect hfrom

theorem clause?_eq_none {p t q : Text} (htext : text = p ++ (t ++ q))
    (hstart : p.getLast?.all isDelimiter ∨ t.head?.any isDelimiter)
    (hend : q.head?.all isDelimiter ∨ t.getLast?.any isDelimiter) :
    clause? (({} : Nesting).advance p) t = none := by
  subst htext
  unfold clause?
  by_cases hquoted : (({} : Nesting).advance p).isQuoted = true
  · rw [if_pos hquoted]
  · have hno : ∀ {word : Text}, IsWord word → OnlyQuoted word (p ++ (t ++ q)) →
        ¬spells word t = true :=
      fun hword honly hspells => hquoted (isQuoted_of_spells hword honly hspells hstart hend)
    rw [if_neg hquoted, if_neg (hno (by decide) hselect), if_neg (hno (by decide) hfrom)]

theorem clausesFrom_subTokens {p t q : Text} (htext : text = p ++ (t ++ q))
    (hstart : p.getLast?.all isDelimiter)
    (hend : q.head?.all isDelimiter ∨ t.getLast?.any isDelimiter) :
    clausesFrom (({} : Nesting).advance p) (subTokens t) = [] := by
  by_cases hparen : '(' ∈ t
  · obtain ⟨a, b, rfl, ha⟩ := List.eq_append_cons_of_mem hparen
    have hopen : isDelimiter '(' = true := by decide
    have hfirst : clause? (({} : Nesting).advance p) a = none := by
      refine clause?_eq_none hselect hfrom (q := '(' :: b ++ q) ?_ (.inl hstart) (.inl hopen)
      rw [htext, List.append_assoc]
    have hsecond : clause? (({} : Nesting).advance (p ++ a)) ('(' :: b) = none := by
      refine clause?_eq_none hselect hfrom (q := q) ?_ (.inr hopen) ?_
      · rw [htext]
        simp only [List.append_assoc]
      · rwa [List.getLast?_append_of_ne_nil _ (List.cons_ne_nil _ _)] at hend
    rw [subTokens_append ha, clausesFrom_append]
    rw [Nesting.advance_append] at hsecond
    by_cases hne : a = [] <;> simp_all [clausesFrom]
  · by_cases hne : t = []
    · subst hne
      rfl
    · rw [subTokens_of_not_mem hparen hne, clausesFrom, clausesFrom,
        clause?_eq_none hselect hfrom htext (.inl hstart) hend]
      rfl

/-- The tokens behind a delimiter hold none of the two words. -/
theorem clausesFrom_tokens {p s : Text} (htext : text = p ++ s)
    (hstart : p.getLast?.all isDelimiter) :
    clausesFrom (({} : Nesting).advance p) ((tokens s).flatMap subTokens) = [] := by
  -- The text is taken space by space, as its tokens are, and `p` is what is in front of it.
  induction hlength : s.length using Nat.strong_induction_on generalizing p s with
  | _ length ih =>
  have hdelimiter : isDelimiter ' ' = true := by decide
  by_cases hspace : ' ' ∈ s
  · obtain ⟨a, r, rfl, ha⟩ := List.eq_append_cons_of_mem hspace
    have hfirst : clausesFrom (({} : Nesting).advance p) (subTokens (a ++ [' '])) = [] := by
      refine clausesFrom_subTokens hselect hfrom (q := r) ?_ hstart (.inr ?_)
      · rw [htext, List.append_assoc, List.singleton_append]
      · simp [hdelimiter]
    have hrest := ih r.length (by simp [← hlength]; omega) (p := p ++ (a ++ [' '])) (s := r)
      (by simp [htext]) (by simp [← List.append_assoc, hdelimiter]) rfl
    rw [Nesting.advance_append] at hrest
    rw [tokens_append_space, tokens_concat_space ha, List.singleton_append, List.flatMap_cons,
      clausesFrom_append, hfirst, flatten_subTokens, hrest, List.append_nil]
  · by_cases hne : s = []
    · subst hne
      rfl
    · have hlast := clausesFrom_subTokens hselect hfrom (q := []) (by rw [htext, List.append_nil])
        hstart (.inl rfl)
      rw [tokens_of_notMem hspace hne, List.flatMap_singleton, hlast]

end

/-! ### Putting a text on one line -/

/-- A character of the one line that is no space is one of the text. -/
theorem exists_eq_of_joinLines_eq_append {inRun : Bool} {s x y : Text} {c : Char} (hc : c ≠ ' ')
    (h : joinLines inRun s = x ++ c :: y) :
    ∃ u v, s = u ++ c :: v ∧ joinLines inRun u = x ∧ joinLines false v = y := by
  induction s generalizing inRun x with
  | nil => simp [joinLines] at h
  | cons d s ih =>
      by_cases hd : isBreak d = true
      · cases inRun with
        | true =>
            have hs : joinLines true s = x ++ c :: y := by simpa [joinLines, hd] using h
            obtain ⟨u, v, rfl, hu, hv⟩ := ih hs
            exact ⟨d :: u, v, rfl, by simpa [joinLines, hd] using hu, hv⟩
        | false =>
            have hs : ' ' :: joinLines true s = x ++ c :: y := by simpa [joinLines, hd] using h
            cases x with
            | nil => exact absurd (List.cons.inj hs).1.symm hc
            | cons b x =>
                obtain ⟨rfl, htail⟩ := List.cons.inj hs
                obtain ⟨u, v, rfl, hu, hv⟩ := ih htail
                exact ⟨d :: u, v, rfl, by simp [joinLines, hd, hu], hv⟩
      · have hs : d :: joinLines false s = x ++ c :: y := by simpa [joinLines, hd] using h
        cases x with
        | nil =>
            obtain ⟨rfl, htail⟩ := List.cons.inj hs
            exact ⟨[], s, rfl, rfl, htail⟩
        | cons b x =>
            obtain ⟨rfl, htail⟩ := List.cons.inj hs
            obtain ⟨u, v, rfl, hu, hv⟩ := ih htail
            exact ⟨d :: u, v, rfl, by simp [joinLines, hd, hu], hv⟩

/-- A text of the one line without spaces is a part of the text. -/
theorem exists_eq_append_of_joinLines_eq_append {v m y : Text} (hm : ∀ c ∈ m, c ≠ ' ')
    (h : joinLines false v = m ++ y) : ∃ w, v = m ++ w ∧ joinLines false w = y := by
  induction m generalizing v with
  | nil => exact ⟨v, rfl, h⟩
  | cons c m ih =>
      rw [List.forall_mem_cons] at hm
      obtain ⟨u, v', rfl, hu, hv⟩ := exists_eq_of_joinLines_eq_append (x := []) hm.1 h
      obtain ⟨w, rfl, hw⟩ := ih hm.2 hv
      cases u with
      | nil => exact ⟨w, rfl, hw⟩
      | cons d u => by_cases hd : isBreak d = true <;> simp [joinLines, hd] at hu

theorem joinLines_concat {c : Char} (hc : ¬isBreak c) (inRun : Bool) (u : Text) :
    joinLines inRun (u ++ [c]) = joinLines inRun u ++ [c] := by
  induction u generalizing inRun with
  | nil => simp [joinLines, hc]
  | cons d u ih =>
      by_cases hd : isBreak d = true
      · cases inRun <;> simp [joinLines, hd, ih]
      · simp [joinLines, hd, ih]

theorem joinLines_of_forall_not_isBreak {s : Text} (h : ∀ c ∈ s, ¬isBreak c) :
    joinLines false s = s := by
  have hline := joinLines_append_of_forall_not_isBreak h []
  rwa [List.append_nil, joinLines, List.append_nil] at hline

/-- A property of the characters of a text holds on its one line, if it holds of spaces. -/
theorem everywhere_joinLines {P : Nesting → Char → Prop} (hspace : ∀ n, P n ' ') {n : Nesting}
    {s : Text} (h : n.Everywhere P s) (inRun : Bool) : n.Everywhere P (joinLines inRun s) := by
  induction s generalizing n inRun with
  | nil => trivial
  | cons c s ih =>
      obtain ⟨hc, hs⟩ := h
      by_cases hbreak : isBreak c = true
      · rw [n.step_of_isBreak hbreak] at hs
        cases inRun with
        | true =>
            rw [joinLines, if_pos hbreak, if_pos rfl]
            exact ih hs true
        | false =>
            rw [joinLines, if_pos hbreak, if_neg Bool.false_ne_true, Nesting.Everywhere,
              Nesting.step_space]
            exact ⟨hspace n, ih hs true⟩
      · rw [joinLines, if_neg hbreak]
        exact ⟨hc, ih hs false⟩

theorem isDelimiter_of_isBreak {c : Char} (h : isBreak c) : isDelimiter c :=
  isDelimiter_of_isBlank (isBlank_of_isBreak h)

/-- Line breaks stand for spaces, so the words of a text are those of its one line. -/
theorem onlyQuoted_joinLines {word text : Text} (hword : IsWord word) (h : OnlyQuoted word text) :
    OnlyQuoted word (joinLines false text) := by
  rw [onlyQuoted_iff hword]
  intro a m b htext hsame ha hb
  have hspace : ∀ c ∈ m, c ≠ ' ' := by
    rintro _ hc rfl
    exact absurd (hword.not_isDelimiter hsame ' ' hc) (by decide)
  obtain ⟨c, m, rfl⟩ := List.exists_cons_of_ne_nil (hword.ne_nil hsame)
  rw [List.forall_mem_cons] at hspace
  obtain ⟨u, v, rfl, rfl, hv⟩ := exists_eq_of_joinLines_eq_append hspace.1 htext
  obtain ⟨w, rfl, rfl⟩ := exists_eq_append_of_joinLines_eq_append hspace.2 hv
  have hfront : u.getLast?.all isDelimiter := by
    rcases List.eq_nil_or_concat u with rfl | ⟨init, d, rfl⟩
    · rfl
    · by_cases hd : isBreak d = true
      · simpa using isDelimiter_of_isBreak hd
      · simpa [joinLines_concat hd] using ha
  have hback : w.head?.all isDelimiter := by
    cases w with
    | nil => rfl
    | cons d w =>
        by_cases hd : isBreak d = true
        · exact isDelimiter_of_isBreak hd
        · simpa [joinLines, hd] using hb
  rw [advance_joinLines]
  exact (onlyQuoted_iff hword _).mp h u (c :: m) w rfl hsame hfront hback

/-- A list in which the two words stand in quotes only holds none of them for its reading. -/
theorem clausesOf_eq_nil {list : Text} (hselect : OnlyQuoted "select" list)
    (hfrom : OnlyQuoted "from" list) : clausesOf list = [] :=
  clausesFrom_tokens (onlyQuoted_joinLines (by decide) hselect)
    (onlyQuoted_joinLines (by decide) hfrom) (p := []) rfl rfl

/-! ### Texts behind one another -/

/-- Two texts with a space between them hold the words of each, if the first leaves nothing open. -/
theorem onlyQuoted_append_space {word s t : Text} (hword : IsWord word)
    (hclosed : ({} : Nesting).advance s = {}) (hs : OnlyQuoted word s) (ht : OnlyQuoted word t) :
    OnlyQuoted word (s ++ ' ' :: t) := by
  rw [onlyQuoted_iff hword] at hs ht ⊢
  intro a m b htext hsame ha hb
  have hspace : ' ' ∉ m := fun hmem => absurd (hword.not_isDelimiter hsame ' ' hmem) (by decide)
  obtain ⟨c, m, rfl⟩ := List.exists_cons_of_ne_nil (hword.ne_nil hsame)
  rcases List.append_eq_append_iff.mp htext with ⟨x, rfl, hx⟩ | ⟨x, rfl, hx⟩
  · -- The word stands behind the space.
    cases x with
    | nil =>
        obtain ⟨rfl, -⟩ := List.cons.inj hx
        exact absurd List.mem_cons_self hspace
    | cons d x =>
        obtain ⟨rfl, hx'⟩ := List.cons.inj hx
        have hfront : x.getLast?.all isDelimiter := by
          rcases List.eq_nil_or_concat x with rfl | ⟨init, d, rfl⟩
          · rfl
          · rw [List.concat_eq_append, List.getLast?_append, List.getLast?_cons,
              List.getLast?_concat] at ha
            simpa using ha
        rw [Nesting.advance_append, hclosed, Nesting.advance_cons, Nesting.step_space]
        exact ht x (c :: m) b hx' hsame hfront hb
  · -- The word begins in the first text, and it does not reach the space.
    rcases List.append_eq_append_iff.mp hx with ⟨y, rfl, rfl⟩ | ⟨y, hy, hb'⟩
    · have hback : y.head?.all isDelimiter := by
        cases y with
        | nil => rfl
        | cons d y => exact hb
      exact hs a (c :: m) y rfl hsame ha hback
    · cases y with
      | nil =>
          rw [List.append_nil] at hy
          exact hs a (c :: m) [] (by rw [hy, List.append_nil]) hsame ha rfl
      | cons d y =>
          obtain ⟨rfl, -⟩ := List.cons.inj hb'
          rw [hy] at hspace
          exact absurd (List.mem_append_right _ List.mem_cons_self) hspace

/-- Within a quoted name every word is quoted, and what ends the name is no word. -/
theorem onlyQuoted_name {word name : Text} (hword : IsWord word)
    (hletters : '"' ∉ asciiLower word) (hname : '"' ∉ name) (rest : Text)
    (hrest : ∀ c ∈ rest, isDelimiter c) :
    OnlyQuoted word ('"' :: (name ++ '"' :: rest)) := by
  rw [onlyQuoted_iff hword]
  intro a m b htext hsame ha hb
  have hm := hword.not_isDelimiter hsame
  have hquote : '"' ∉ m := by
    intro hmem
    have hlower : '"' ∈ asciiLower m := List.mem_map.mpr ⟨'"', hmem, by decide⟩
    rw [← eq_of_beq hsame] at hlower
    exact hletters hlower
  obtain ⟨c, m, rfl⟩ := List.exists_cons_of_ne_nil (hword.ne_nil hsame)
  cases a with
  | nil =>
      obtain ⟨rfl, -⟩ := List.cons.inj htext
      exact absurd List.mem_cons_self hquote
  | cons d a =>
      obtain ⟨rfl, htail⟩ := List.cons.inj htext
      rcases List.append_eq_append_iff.mp htail with ⟨x, rfl, hx⟩ | ⟨x, rfl, hx⟩
      · cases x with
        | nil =>
            obtain ⟨rfl, -⟩ := List.cons.inj hx
            exact absurd List.mem_cons_self hquote
        | cons d x =>
            obtain ⟨rfl, rfl⟩ := List.cons.inj hx
            have hc := hrest c (by simp)
            simpa [hc] using hm c List.mem_cons_self
      · have hopen : '"' ∉ a := fun hmem => hname (List.mem_append_left _ hmem)
        rw [Nesting.advance_cons, Nesting.step_quote_start, Nesting.advance_of_inIdentifier 0 hopen]
        rfl

end SqlScript.Query
