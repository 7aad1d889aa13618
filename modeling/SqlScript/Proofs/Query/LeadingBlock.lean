import SqlScript.Query.Columns
import SqlScript.Proofs.Query.Marks
import SqlScript.Proofs.Query.Tokens

/-!
A `with` block in front of a query. Up to the top-level `select` only the nesting is followed, so a
block that closes what it opens, and has no `select` outside of it, leaves the list of the query
behind it alone.
-/

namespace SqlScript.Query

open Text

/-- The word that tells a query from other texts. -/
def firstWord (text : Text) : Text :=
  (trimStart text).takeWhile fun c => !(isBlank c || c == '(' || c == '*')

/-- Whether none of some tokens is taken for the top-level `select`. -/
def HidesSelect (n : Nesting) : List Text → Prop
  | [] => True
  | t :: ts =>
      (spells "select" t → t.head? = some '(' ∨ n.isQuoted ∨ n.depth ≠ 0) ∧
        HidesSelect (n.advance t) ts

instance (n : Nesting) (ts : List Text) : Decidable (HidesSelect n ts) := by
  induction ts generalizing n with
  | nil => exact instDecidableTrue
  | cons t ts ih => exact @instDecidableAnd _ _ _ (ih (n.advance t))

/-- Whether a token is taken for the top-level `select`, where `n` is open in front of it. -/
def IsTopSelect (n : Nesting) (token : Text) : Prop :=
  !n.isQuoted ∧ spells "select" token ∧ n.depth = 0 ∧ token.head? ≠ some '('

/-! ### The first word -/

theorem startsWithQueryWord_eq (text : Text) : startsWithQueryWord text =
    (sameWord (firstWord text) "select" || sameWord (firstWord text) "with") := rfl

theorem firstWord_append_cons {s : Text} (h : ¬IsBlankText s) {c : Char} (hc : isBlank c)
    (r : Text) : firstWord (s ++ c :: r) = firstWord s := by
  rw [firstWord, trimStart_append_of_not_blank h, List.takeWhile_append, firstWord]
  split
  next hall =>
    have hself := (List.takeWhile_prefix _).eq_of_length hall
    rw [List.takeWhile_cons_of_neg (by simp [hc]), List.append_nil, hself]
  next => rfl

theorem firstWord_append_space {s : Text} (h : ¬IsBlankText s) (r : Text) :
    firstWord (s ++ ' ' :: r) = firstWord s := firstWord_append_cons h (by decide) r

theorem not_isBlankText_of_sameWord {text : Text} (h : sameWord (firstWord text) "with") :
    ¬IsBlankText text := by
  intro hblank
  have hnil : firstWord text = [] := by rw [firstWord, trimStart_eq_nil_iff.mpr hblank]; rfl
  rw [hnil] at h
  exact absurd h (by decide)

/-! ### Tokens in front of the list -/

theorem hidesSelect_append (n : Nesting) (ts us : List Text) :
    HidesSelect n (ts ++ us) ↔ HidesSelect n ts ∧ HidesSelect (n.advance ts.flatten) us := by
  induction ts generalizing n with
  | nil => simp [HidesSelect]
  | cons t ts ih => simp [HidesSelect, ih, and_assoc]

theorem afterSelect?_append {n : Nesting} {ts : List Text} (h : HidesSelect n ts)
    (us : List Text) : afterSelect? n (ts ++ us) = afterSelect? (n.advance ts.flatten) us := by
  induction ts generalizing n with
  | nil => rfl
  | cons t ts ih =>
      obtain ⟨hfirst, hrest⟩ := h
      have hnot : ¬(!n.isQuoted ∧ spells "select" t ∧ n.depth = 0 ∧ t.head? ≠ some '(') := by
        rintro ⟨hopen, hspells, hdepth, hhead⟩
        rcases hfirst hspells with hparen | hquoted | hnested
        · exact hhead hparen
        · simp [hquoted] at hopen
        · exact hnested hdepth
      rw [List.cons_append, afterSelect?, if_neg hnot, ih hrest, List.flatten_cons,
        Nesting.advance_append]

theorem IsTopSelect.afterSelect?_cons {n : Nesting} {t : Text} (h : IsTopSelect n t)
    (ts : List Text) : afterSelect? n (t :: ts) = some (n, ts) := if_pos h

theorem hidesSelect_or_exists_isTopSelect (n : Nesting) (ts : List Text) : HidesSelect n ts ∨
    ∃ before select behind, ts = before ++ select :: behind ∧ HidesSelect n before ∧
      IsTopSelect (n.advance before.flatten) select := by
  induction ts generalizing n with
  | nil => exact .inl trivial
  | cons t ts ih =>
      by_cases hselect : IsTopSelect n t
      · exact .inr ⟨[], t, ts, rfl, trivial, hselect⟩
      · have hfirst : spells "select" t → t.head? = some '(' ∨ n.isQuoted ∨ n.depth ≠ 0 := by
          intro hspells
          by_contra hnot
          simp only [not_or, not_not] at hnot
          exact hselect ⟨by simpa using hnot.2.1, hspells, hnot.2.2, hnot.1⟩
        rcases ih (n.advance t) with hrest | ⟨before, select, behind, rfl, hbefore, htop⟩
        · exact .inl ⟨hfirst, hrest⟩
        · refine .inr ⟨t :: before, select, behind, rfl, ⟨hfirst, hbefore⟩, ?_⟩
          rwa [List.flatten_cons, Nesting.advance_append]

/-- White space behind a text changes none of the words that its tokens spell. -/
theorem HidesSelect.concat_blank {n : Nesting} {s : Text} {c : Char} (hc : isBlank c)
    (h : HidesSelect n (tokens s)) : HidesSelect n (tokens (s ++ [c])) := by
  have hblank : IsBlankText [c] := by simpa [IsBlankText] using hc
  rcases tokens_concat s c with hown | ⟨init, last, hs, hlonger⟩
  · rw [hown, hidesSelect_append]
    refine ⟨h, fun hspells => ?_, trivial⟩
    rw [spells, trim_eq_nil_iff.mpr hblank] at hspells
    exact absurd hspells (by decide)
  · rw [hs, hidesSelect_append] at h
    obtain ⟨hinit, hlast, -⟩ := h
    rw [hlonger, hidesSelect_append]
    refine ⟨hinit, fun hspells => ?_, trivial⟩
    rw [spells, trim_append_right last hblank] at hspells
    rcases hlast hspells with hparen | hnested
    · exact .inl (by simp [List.head?_append, hparen])
    · exact .inr hnested

theorem HidesSelect.append_blank {n : Nesting} {s pad : Text} (hpad : IsBlankText pad)
    (h : HidesSelect n (tokens s)) : HidesSelect n (tokens (s ++ pad)) := by
  induction pad generalizing s with
  | nil => rwa [List.append_nil]
  | cons c pad ih =>
      obtain ⟨hc, hrest⟩ := List.forall_mem_cons.mp hpad
      rw [List.append_cons]
      exact ih hrest (h.concat_blank hc)

/-! ### The query behind the block -/

theorem not_isBlankText_joinLines {s : Text} (h : ¬IsBlankText s) :
    ¬IsBlankText (joinLines false s) := by
  rwa [← ink_eq_nil_iff, ink_joinLines, ink_eq_nil_iff]

/-- Two texts with a space between them, put on one line: white space is only dropped at the ends
of the whole. -/
theorem flatten_append_space {s r : Text} (hs : ¬IsBlankText s) (hr : ¬IsBlankText r) :
    flatten (s ++ ' ' :: r) =
      trimStart (joinLines false s) ++ ' ' :: trimEnd (joinLines false r) := by
  have hend := trimEnd_append_of_not_blank (trimStart (joinLines false s) ++ [' '])
    (not_isBlankText_joinLines hr)
  rw [flatten, joinLines_append_space, trim,
    trimStart_append_of_not_blank (not_isBlankText_joinLines hs), List.append_cons, hend,
    List.append_assoc, List.singleton_append]

/-- A block that closes what it opens and hides its `select`s leaves the list of what follows it
alone. -/
theorem selectList_append_space {block query : Text} (hblock : ¬IsBlankText block)
    (hquery : ¬IsBlankText query)
    (hstart : trimStart (joinLines false query) = joinLines false query)
    (hclosed : ({} : Nesting).advance (flatten block) = {})
    (hselect : HidesSelect {} (tokens (flatten block))) :
    selectList (block ++ ' ' :: query) = selectList query := by
  have hspace : IsBlankText [' '] := by decide
  obtain ⟨pad, hpad, hline⟩ := exists_eq_trimEnd_append (trimStart (joinLines false block))
  rw [show trimEnd (trimStart (joinLines false block)) = flatten block from rfl] at hline
  -- In front of the space stands the block on one line, with the white space at its end.
  have hflat : flatten (block ++ ' ' :: query) =
      flatten block ++ pad ++ ' ' :: flatten query := by
    rw [flatten_append_space hblock hquery, hline, ← hstart]
    rfl
  have hhidden : HidesSelect {} (tokens (flatten block ++ pad ++ [' '])) :=
    (hselect.append_blank hpad).append_blank hspace
  have hopen : ({} : Nesting).advance (tokens (flatten block ++ pad ++ [' '])).flatten = {} := by
    rw [flatten_tokens, Nesting.advance_append, Nesting.advance_append, hclosed,
      Nesting.advance_of_isBlankText _ hpad, Nesting.advance_of_isBlankText _ hspace]
  rw [selectList, hflat, tokens_append_space, afterSelect?_append hhidden, hopen, selectList]

/-- A leading `with` block never changes the columns of the query behind it, if it closes what it
opens and has no `select` of its own outside parentheses and quotes. -/
theorem columns_append_block (naming : Naming) (block list : Text)
    (hword : sameWord (firstWord block) "with")
    (hclosed : ({} : Nesting).advance (flatten block) = {})
    (hselect : HidesSelect {} (tokens (flatten block))) :
    columns naming (block ++ (" select ".toList ++ list)) =
      columns naming ("select ".toList ++ list) := by
  have hblock := not_isBlankText_of_sameWord hword
  have hquery : ¬IsBlankText ("select".toList ++ ' ' :: list) := by
    rw [isBlankText_append, not_and_or]
    exact .inl (by decide)
  have hstart : trimStart (joinLines false ("select".toList ++ ' ' :: list)) =
      joinLines false ("select".toList ++ ' ' :: list) := by
    rw [joinLines_append_space, trimStart_append_of_not_blank (by decide)]
    rfl
  have hfirst : startsWithQueryWord (block ++ ' ' :: ("select".toList ++ ' ' :: list)) = true := by
    rw [startsWithQueryWord_eq, firstWord_append_space hblock, hword, Bool.or_true]
  have hbare : startsWithQueryWord ("select".toList ++ ' ' :: list) = true := by
    rw [startsWithQueryWord_eq, firstWord_append_space (by decide)]
    rfl
  change columns naming (block ++ ' ' :: ("select".toList ++ ' ' :: list)) =
    columns naming ("select".toList ++ ' ' :: list)
  rw [columns, if_pos hfirst, columns, if_pos hbare,
    selectList_append_space hblock hquery hstart hclosed hselect]

/-- Two nested queries, a name that holds the word, and a literal with a parenthesis. -/
theorem columns_append_block_nested :
    let block :=
      "WITH a as (select ')' x from (select 1 from t) u),\n \"select\"(y) as(select 2)\n".toList
    let list := "x, (select y from b) from a".toList
    sameWord (firstWord block) "with" ∧ ({} : Nesting).advance (flatten block) = {} ∧
      HidesSelect {} (tokens (flatten block)) ∧
      columns {} (block ++ (" select ".toList ++ list)) =
        columns {} ("select ".toList ++ list) := by
  intro block list
  have hword : sameWord (firstWord block) "with" := by decide +kernel
  have hclosed : ({} : Nesting).advance (flatten block) = {} := by decide +kernel
  have hselect : HidesSelect {} (tokens (flatten block)) := by decide +kernel
  exact ⟨hword, hclosed, hselect, columns_append_block {} block list hword hclosed hselect⟩

end SqlScript.Query
