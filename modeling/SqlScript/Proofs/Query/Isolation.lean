import SqlScript.Proofs.Query.Tokens
import Mathlib.Data.List.Infix

/-!
How the top-level select list of a query is told apart from the nested ones. Every `select` inside
the list waits for a `from`, so the list ends at the first `from` behind it exactly if each nested
`select` has a `from` of its own. A nested `select` without one takes the `from` of the query.
-/

namespace SqlScript.Query

open Text

/-- The words that the reading of a select list depends on. -/
inductive Clause where
  | selectWord
  | fromWord
deriving DecidableEq, Repr

/-- The word that a token is taken for. Quoted text is never a word. -/
def clause? (n : Nesting) (token : Text) : Option Clause :=
  if n.isQuoted then none
  else if spells "select" token then some .selectWord
  else if spells "from" token then some .fromWord
  else none

/-- The words among some tokens, each with the number of parentheses open in front of its token. -/
def clausesFrom (n : Nesting) : List Text → List (Clause × Int)
  | [] => []
  | t :: ts => ((clause? n t).map (·, n.depth)).toList ++ clausesFrom (n.advance t) ts

def clausesOf (list : Text) : List (Clause × Int) :=
  clausesFrom {} ((tokens (joinLines false list)).flatMap subTokens)

/-- Whether each `select` has a `from` of its own behind it. -/
def IsPaired (clauses : List Clause) : Prop :=
  ∀ rest ∈ clauses.tails, rest.count .selectWord ≤ rest.count .fromWord

instance (clauses : List Clause) : Decidable (IsPaired clauses) :=
  inferInstanceAs (Decidable (∀ _ ∈ _, _))

/-- How many `select`s wait for a `from` behind some words. -/
def waitingAfter (waiting : Nat) : List Clause → Nat
  | [] => waiting
  | .selectWord :: clauses => waitingAfter (waiting + 1) clauses
  | .fromWord :: clauses => waitingAfter (waiting - 1) clauses

def queryOf (list rest : Text) : Text := "select ".toList ++ (list ++ (" from ".toList ++ rest))

/-! ### The words of a list -/

theorem clause?_space (n : Nesting) : clause? n [' '] = none := by
  have hselect : spells "select" [' '] = false := by decide
  have hfrom : spells "from" [' '] = false := by decide
  unfold clause?
  rw [hselect, hfrom]
  simp

theorem clause?_concat_space (n : Nesting) (t : Text) : clause? n (t ++ [' ']) = clause? n t := by
  simp only [clause?, spells_concat_space]

theorem clausesFrom_append (n : Nesting) (ts us : List Text) :
    clausesFrom n (ts ++ us) = clausesFrom n ts ++ clausesFrom (n.advance ts.flatten) us := by
  induction ts generalizing n with
  | nil => rfl
  | cons t ts ih => simp [clausesFrom, ih]

theorem clausesFrom_of_spacedEnd {parts spaced : List Text} (n : Nesting)
    (h : SpacedEnd parts spaced) : clausesFrom n spaced = clausesFrom n parts := by
  obtain ⟨init, last, hparts, rfl⟩ := h
  rcases hparts with ⟨rfl, rfl⟩ | rfl
  · simp [clausesFrom_append, clausesFrom, clause?_space]
  · simp only [clausesFrom_append, clausesFrom, clause?_concat_space]

theorem clausesFrom_tokens_concat_space (list : Text) :
    clausesFrom {} ((tokens (joinLines false list ++ [' '])).flatMap subTokens) = clausesOf list :=
  clausesFrom_of_spacedEnd _ (spacedEnd_tokens _).flatMap_subTokens

theorem isPaired_cons (clause : Clause) (clauses : List Clause) :
    IsPaired (clause :: clauses) ↔
      (clause :: clauses).count .selectWord ≤ (clause :: clauses).count .fromWord ∧
        IsPaired clauses := by
  rw [IsPaired, List.tails_cons, List.forall_mem_cons, IsPaired]

theorem IsPaired.count_le {clauses : List Clause} (h : IsPaired clauses) :
    clauses.count .selectWord ≤ clauses.count .fromWord :=
  h clauses (by simp)

/-- No `select` waits at the end if the `from`s suffice for those that waited at the start, too. -/
theorem waitingAfter_eq_zero_iff (waiting : Nat) (clauses : List Clause) :
    waitingAfter waiting clauses = 0 ↔
      waiting + clauses.count .selectWord ≤ clauses.count .fromWord ∧ IsPaired clauses := by
  induction clauses generalizing waiting with
  | nil => simp [waitingAfter, IsPaired]
  | cons clause clauses ih =>
      rw [isPaired_cons]
      cases clause with
      | selectWord =>
          have hselect : (Clause.selectWord :: clauses).count .selectWord =
              clauses.count .selectWord + 1 := List.count_cons_self
          have hfrom : (Clause.selectWord :: clauses).count .fromWord =
              clauses.count .fromWord := List.count_cons_of_ne (by decide)
          rw [waitingAfter, ih, hselect, hfrom]
          constructor
          · rintro ⟨hcount, hpaired⟩
            exact ⟨by omega, by omega, hpaired⟩
          · rintro ⟨hcount, -, hpaired⟩
            exact ⟨by omega, hpaired⟩
      | fromWord =>
          have hselect : (Clause.fromWord :: clauses).count .selectWord =
              clauses.count .selectWord := List.count_cons_of_ne (by decide)
          have hfrom : (Clause.fromWord :: clauses).count .fromWord =
              clauses.count .fromWord + 1 := List.count_cons_self
          rw [waitingAfter, ih, hselect, hfrom]
          constructor
          · rintro ⟨hcount, hpaired⟩
            have hle := hpaired.count_le
            exact ⟨by omega, by omega, hpaired⟩
          · rintro ⟨hcount, -, hpaired⟩
            have hle := hpaired.count_le
            exact ⟨by omega, hpaired⟩

theorem waitingAfter_zero_eq_zero_iff (clauses : List Clause) :
    waitingAfter 0 clauses = 0 ↔ IsPaired clauses := by
  rw [waitingAfter_eq_zero_iff, Nat.zero_add]
  exact ⟨And.right, fun h => ⟨h.count_le, h⟩⟩

/-! ### The list as it is read -/

theorem untilFrom_cons (waiting : Nat) (n : Nesting) (t : Text) (ts : List Text) :
    untilFrom waiting n (t :: ts) =
      match clause? n t with
      | some .selectWord => t ++ untilFrom (waiting + 1) (n.advance t) ts
      | some .fromWord =>
        if waiting = 0 ∧ n.depth = 0 then [] else t ++ untilFrom (waiting - 1) (n.advance t) ts
      | none => t ++ untilFrom waiting (n.advance t) ts := by
  unfold clause?
  rw [untilFrom]
  cases n.isQuoted with
  | true => simp only [Bool.not_true, Bool.false_eq_true, false_and, if_false, if_true]
  | false =>
      simp only [Bool.not_false, true_and, Bool.false_eq_true, if_false]
      by_cases hselect : spells "select" t = true
      · simp only [if_pos hselect]
      · by_cases hfrom : spells "from" t = true
        · simp only [if_neg hselect, if_pos hfrom]
        · simp only [if_neg hselect, if_neg hfrom]

/-- Tokens without a `from` outside parentheses are all part of the list. -/
theorem untilFrom_append (waiting : Nat) (n : Nesting) (ts us : List Text)
    (h : (.fromWord, 0) ∉ clausesFrom n ts) :
    untilFrom waiting n (ts ++ us) = ts.flatten ++
      untilFrom (waitingAfter waiting ((clausesFrom n ts).map Prod.fst)) (n.advance ts.flatten)
        us := by
  induction ts generalizing waiting n with
  | nil => rfl
  | cons t ts ih =>
      have hrest : (.fromWord, 0) ∉ clausesFrom (n.advance t) ts :=
        fun hmem => h (List.mem_append_right _ hmem)
      have hnext := fun w => ih w (n.advance t) hrest
      rw [List.cons_append, untilFrom_cons, clausesFrom]
      cases hclause : clause? n t with
      | none => simp [hnext]
      | some clause =>
          cases clause with
          | selectWord => simp [hnext, waitingAfter]
          | fromWord =>
              have hdepth : n.depth ≠ 0 :=
                fun hzero => h (by simp [clausesFrom, hclause, hzero])
              simp [hnext, waitingAfter, hdepth]

/-! ### The list of a whole query -/

theorem exists_trimEnd_append_space {word : Text} (h : trimEnd word = word) (r : Text) :
    ∃ after, (after = [] ∨ ∃ r', after = ' ' :: r') ∧
      trimEnd (word ++ ' ' :: r) = word ++ after := by
  have hspace : isBlank ' ' = true := by decide
  by_cases hr : IsBlankText r
  · have hblank : IsBlankText (' ' :: r) := List.forall_mem_cons.mpr ⟨hspace, hr⟩
    exact ⟨[], .inl rfl, by rw [trimEnd_append_of_blank hblank, h, List.append_nil]⟩
  · refine ⟨' ' :: trimEnd r, .inr ⟨_, rfl⟩, ?_⟩
    have hend := trimEnd_append_of_not_blank (word ++ [' ']) hr
    simpa using hend

/-- A text between two words, put on one line: only its line breaks and what follows the second
word may change. -/
theorem exists_flatten_between {first last : Text} (hfirst : joinLines false first = first)
    (hlast : joinLines false last = last) (hstart : trimStart first = first)
    (hend : trimEnd last = last) (hne : ¬IsBlankText first ∧ ¬IsBlankText last) (s r : Text) :
    ∃ after, (after = [] ∨ ∃ r', after = ' ' :: r') ∧
      flatten (first ++ ' ' :: (s ++ ' ' :: (last ++ ' ' :: r))) =
        first ++ ' ' :: (joinLines false s ++ ' ' :: (last ++ after)) := by
  obtain ⟨after, hafter, htail⟩ := exists_trimEnd_append_space hend (joinLines false r)
  refine ⟨after, hafter, ?_⟩
  have hsolid : ¬IsBlankText (last ++ ' ' :: joinLines false r) :=
    fun h => hne.2 (isBlankText_append.mp h).1
  have hcut := trimEnd_append_of_not_blank (first ++ ' ' :: (joinLines false s ++ [' '])) hsolid
  rw [htail] at hcut
  simp only [List.append_assoc, List.cons_append, List.nil_append] at hcut
  rw [flatten, joinLines_append_space, joinLines_append_space, joinLines_append_space, hfirst,
    hlast, trim, trimStart_append_of_not_blank hne.1, hstart, hcut]

/-- The query on one line, up to its `from` and what follows it. -/
theorem exists_flatten_queryOf (list rest : Text) : ∃ after, (after = [] ∨ ∃ r, after = ' ' :: r) ∧
    flatten (queryOf list rest) =
      "select".toList ++ ' ' :: (joinLines false list ++ ' ' :: ("from".toList ++ after)) := by
  have hselect : joinLines false "select".toList = "select".toList := by decide
  have hfrom : joinLines false "from".toList = "from".toList := by decide
  have hstart : trimStart "select".toList = "select".toList := by decide
  have hend : trimEnd "from".toList = "from".toList := by decide
  have hne : ¬IsBlankText "select".toList ∧ ¬IsBlankText "from".toList := by decide
  exact exists_flatten_between hselect hfrom hstart hend hne list rest

/-- The tokens from the `from` of a query on. -/
theorem exists_tokens_from {after : Text} (h : after = [] ∨ ∃ r, after = ' ' :: r) :
    ∃ word ts, tokens ("from".toList ++ after) = word :: ts ∧ subTokens word = [word] ∧
      clause? {} word = some .fromWord ∧ ¬IsBlankText word := by
  rcases h with rfl | ⟨r, rfl⟩
  · exact ⟨"from".toList, [], by decide, by decide, by decide, by decide⟩
  · refine ⟨"from ".toList, tokens r, ?_, by decide, by decide, by decide⟩
    rw [tokens_append_space]
    rfl

theorem afterSelect?_select (ts : List Text) :
    afterSelect? {} ("select ".toList :: ts) = some ({}, ts) := by
  have hselect : spells "select" "select ".toList = true := by decide
  have hhead : "select ".toList.head? ≠ some '(' := by decide
  rw [afterSelect?, if_pos ⟨rfl, hselect, rfl, hhead⟩]

/-- What is read as the list of a query. If a `select` in the list waits, its `from` is part of
what is read. -/
theorem exists_selectList_queryOf (list rest : Text) (hclosed : ({} : Nesting).advance list = {})
    (hfrom : (.fromWord, 0) ∉ clausesOf list) :
    ∃ word more, ¬IsBlankText word ∧ selectList (queryOf list rest) =
      joinLines false list ++ ' ' ::
        if IsPaired ((clausesOf list).map Prod.fst) then [] else word ++ more := by
  obtain ⟨after, hafter, hflat⟩ := exists_flatten_queryOf list rest
  obtain ⟨word, ts, htokens, hsub, hclause, hword⟩ := exists_tokens_from hafter
  have hfirst : tokens ("select".toList ++ [' ']) = ["select ".toList] := by decide
  have hlist : ({} : Nesting).advance (joinLines false list ++ [' ']) = {} := by
    simp [hclosed]
  have hread := untilFrom_append 0 {} ((tokens (joinLines false list ++ [' '])).flatMap subTokens)
    (word :: ts.flatMap subTokens) (by rwa [clausesFrom_tokens_concat_space])
  rw [clausesFrom_tokens_concat_space, flatten_flatMap_subTokens, flatten_tokens, hlist,
    untilFrom_cons, hclause] at hread
  simp only [and_true, waitingAfter_zero_eq_zero_iff] at hread
  refine ⟨word, untilFrom (waitingAfter 0 ((clausesOf list).map Prod.fst) - 1)
    (({} : Nesting).advance word) (ts.flatMap subTokens), hword, ?_⟩
  have hquery : selectList (queryOf list rest) =
      untilFrom 0 {} ((tokens (joinLines false list ++ [' '])).flatMap subTokens ++
        word :: ts.flatMap subTokens) := by
    rw [selectList, hflat, tokens_append_space "select".toList, hfirst,
      tokens_append_space (joinLines false list), htokens, List.singleton_append,
      afterSelect?_select]
    simp only [List.flatMap_append, List.flatMap_cons, hsub, List.singleton_append]
  rw [hquery, hread, List.append_assoc, List.singleton_append]

/-- The list of a query ends at the first `from` behind it exactly if each `select` in the list has
a `from` of its own there, as long as no `from` in the list stands outside parentheses. -/
theorem selectList_queryOf_eq_iff (list rest : Text) (hclosed : ({} : Nesting).advance list = {})
    (hfrom : (.fromWord, 0) ∉ clausesOf list) :
    trim (selectList (queryOf list rest)) = flatten list ↔
      IsPaired ((clausesOf list).map Prod.fst) := by
  obtain ⟨word, more, hword, hread⟩ := exists_selectList_queryOf list rest hclosed hfrom
  rw [hread]
  by_cases hpaired : IsPaired ((clausesOf list).map Prod.fst)
  · have hspace : IsBlankText [' '] := by decide
    rw [if_pos hpaired]
    exact iff_of_true (trim_append_right _ hspace) hpaired
  · rw [if_neg hpaired]
    refine iff_of_false (fun heq => ?_) hpaired
    -- Trimming keeps the ink, and the `from` that is read on has some.
    have hink := congrArg ink heq
    rw [flatten, ink_trim, ink_trim, ink_append] at hink
    have hblank : IsBlankText (' ' :: (word ++ more)) :=
      ink_eq_nil_iff.mp (List.append_right_eq_self.mp hink)
    exact hword fun c hc => hblank c (List.mem_cons_of_mem _ (List.mem_append_left _ hc))

/-- A scalar subquery with its `from`, and `from` in the parentheses of a call. -/
theorem selectList_queryOf_nested :
    let list := "(select max(a) from u) as m,\n extract(year from d) y".toList
    let rest := "t where (select 1 from v) > 0".toList
    ({} : Nesting).advance list = {} ∧
      (.fromWord, 0) ∉ clausesOf list ∧
      IsPaired ((clausesOf list).map Prod.fst) ∧
      trim (selectList (queryOf list rest)) = flatten list := by
  intro list rest
  have hclosed : ({} : Nesting).advance list = {} := by decide +kernel
  have hfrom : (.fromWord, 0) ∉ clausesOf list := by decide +kernel
  have hpaired : IsPaired ((clausesOf list).map Prod.fst) := by decide +kernel
  exact ⟨hclosed, hfrom, hpaired,
    (selectList_queryOf_eq_iff list rest hclosed hfrom).mpr hpaired⟩

/-! ### A nested `select` without a `from` -/

/-- Whether words of a query can stand on both sides of a character. -/
def isWordBreak (c : Char) : Bool := c = ' ' || isBreak c || c = '(' || c = ')'

/-- Whether a word stands only in parentheses or in quotes. -/
def Encloses (word list : Text) : Prop :=
  ∀ i ≤ list.length, (list.take i).getLast?.all isWordBreak →
    sameWord word ((list.drop i).takeWhile fun c => !isWordBreak c) →
      (({} : Nesting).advance (list.take i)).isQuoted ∨
        0 < (({} : Nesting).advance (list.take i)).depth

instance (word list : Text) : Decidable (Encloses word list) :=
  inferInstanceAs (Decidable (∀ _ ≤ _, _))

/-- A scalar subquery without a `from` takes the one of the query, although all nested words stand
in parentheses. -/
theorem selectList_queryOf_constant :
    let list := "(select 1) as a, b".toList
    let rest := "t".toList
    ({} : Nesting).advance list = {} ∧
      (∀ i ≤ list.length, 0 ≤ (({} : Nesting).advance (list.take i)).depth) ∧
      Encloses "select" list ∧ Encloses "from" list ∧
      selectList (queryOf list rest) = "(select 1) as a, b from t".toList ∧
      trim (selectList (queryOf list rest)) ≠ flatten list := by
  decide +kernel

end SqlScript.Query
