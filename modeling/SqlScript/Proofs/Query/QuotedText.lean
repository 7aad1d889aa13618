import SqlScript.Proofs.Query.LeadingBlock
import SqlScript.Proofs.Query.Words

/-!
Quoted text in front of, inside and behind a select list. The tokens that a quoted text is cut into
depend on the spaces and parentheses in it, but each of them begins with a quote or inside quotes,
so none is taken for a word, and behind the closing quote nothing is open that was not open before.
What is read as the list of a query can therefore hold a quoted text, but never depends on it.
-/

namespace SqlScript

def isQuote (c : Char) : Bool := c = '\'' || c = '"'

theorem isQuote_iff {c : Char} : isQuote c ↔ c = '\'' ∨ c = '"' := by simp [isQuote]

def quotedBy (quote : Char) (content : Text) : Text := quote :: (content ++ [quote])

@[simp] theorem quotedBy_append (quote : Char) (content s : Text) :
    quotedBy quote content ++ s = quote :: (content ++ quote :: s) := by
  simp [quotedBy]

namespace Nesting

variable {n m : Nesting}

/-! ### Quotes, whatever the parentheses -/

def SameQuotes (n m : Nesting) : Prop :=
  n.inLiteral = m.inLiteral ∧ n.inIdentifier = m.inIdentifier

theorem SameQuotes.isQuoted_eq (h : n.SameQuotes m) : n.isQuoted = m.isQuoted := by
  rw [isQuoted, h.1, h.2, isQuoted]

theorem inLiteral_step (n : Nesting) (c : Char) : (n.step c).inLiteral =
    if c = '\'' ∧ !n.inIdentifier then !n.inLiteral else n.inLiteral := by
  rw [step]
  split_ifs <;> rfl

theorem inIdentifier_step (n : Nesting) (c : Char) : (n.step c).inIdentifier =
    if c = '"' ∧ !n.inLiteral then !n.inIdentifier else n.inIdentifier := by
  have hdiffer : c = '\'' → c ≠ '"' := by
    rintro rfl
    decide
  rw [step]
  split_ifs with hliteral hidentifier
  · exact absurd hidentifier.1 (hdiffer hliteral.1)
  all_goals rfl

theorem SameQuotes.step (h : n.SameQuotes m) (c : Char) : (n.step c).SameQuotes (m.step c) := by
  constructor
  · rw [inLiteral_step, inLiteral_step, h.1, h.2]
  · rw [inIdentifier_step, inIdentifier_step, h.1, h.2]

theorem SameQuotes.advance (h : n.SameQuotes m) (s : Text) :
    (n.advance s).SameQuotes (m.advance s) := by
  induction s generalizing n m with
  | nil => exact h
  | cons c s ih => exact ih (h.step c)

theorem sameQuotes_advance {s : Text} (h : ∀ c ∈ s, ¬isQuote c) : (n.advance s).SameQuotes n := by
  induction s generalizing n with
  | nil => exact ⟨rfl, rfl⟩
  | cons c s ih =>
      obtain ⟨hc, hs⟩ := List.forall_mem_cons.mp h
      rw [isQuote_iff, not_or] at hc
      obtain ⟨hliteral, hidentifier⟩ := ih (n := n.step c) hs
      refine ⟨hliteral.trans ?_, hidentifier.trans ?_⟩
      · rw [inLiteral_step, if_neg fun h => hc.1 h.1]
      · rw [inIdentifier_step, if_neg fun h => hc.2 h.1]

/-! ### A quoted text -/

/-- Whether a character stands in quotes or is a quote. -/
def Covers (n : Nesting) (c : Char) : Prop := n.isQuoted ∨ isQuote c

/-- Behind a quote everything is quoted up to the next quote of its kind, which closes it. -/
theorem step_of_isQuote {quote : Char} (hquote : isQuote quote) (hn : n.isQuoted = false) :
    (n.step quote).isQuoted ∧ (n.step quote).step quote = n ∧
      ∀ c ≠ quote, (n.step quote).step c = n.step quote := by
  obtain ⟨inLiteral, inIdentifier, depth⟩ := n
  simp only [isQuoted, Bool.or_eq_false_iff] at hn
  obtain ⟨rfl, rfl⟩ := hn
  rcases isQuote_iff.mp hquote with rfl | rfl
  all_goals
    refine ⟨rfl, by simp [step], fun c hc => ?_⟩
    simp [step, isQuoted, hc]

theorem advance_quotedBy {quote : Char} (hquote : isQuote quote) (hn : n.isQuoted = false)
    {content : Text} (h : quote ∉ content) : n.advance (quotedBy quote content) = n := by
  obtain ⟨-, hclose, hkeep⟩ := step_of_isQuote hquote hn
  have hcontent : (n.step quote).advance content = n.step quote := by
    induction content with
    | nil => rfl
    | cons c content ih =>
        rw [List.mem_cons, not_or] at h
        rw [advance_cons, hkeep c (Ne.symm h.1), ih h.2]
  rw [quotedBy, advance_cons, advance_append, hcontent, advance_cons, hclose, advance_nil]

theorem covers_quotedBy {quote : Char} (hquote : isQuote quote) (hn : n.isQuoted = false)
    {content : Text} (h : quote ∉ content) : n.Everywhere Covers (quotedBy quote content) := by
  obtain ⟨hopen, -, hkeep⟩ := step_of_isQuote hquote hn
  refine ⟨.inr hquote, ?_⟩
  induction content with
  | nil => exact ⟨.inl hopen, trivial⟩
  | cons c content ih =>
      rw [List.mem_cons, not_or] at h
      rw [List.cons_append, Everywhere, hkeep c (Ne.symm h.1)]
      exact ⟨.inl hopen, ih h.2⟩

end Nesting

namespace Query

open Text Nesting

/-! ### Tokens with quotes -/

theorem not_isQuote_of_isDelimiter {c : Char} (h : isDelimiter c) : ¬isQuote c := by
  intro hquote
  rcases isQuote_iff.mp hquote with rfl | rfl <;> exact absurd h (by decide)

/-- Whether a word has no quotes, in any case of its letters. -/
def HasNoQuote (word : Text) : Prop := (asciiLower word).all fun c => !isQuote c

instance (word : Text) : Decidable (HasNoQuote word) := inferInstanceAs (Decidable (_ = true))

theorem not_isQuote_of_spells {word token : Text} (hplain : HasNoQuote word)
    (h : spells word token) : ∀ c ∈ token, ¬isQuote c := by
  obtain ⟨a, m, b, rfl, hsame, ha, hb⟩ := exists_eq_of_spells h
  have hm : ∀ c ∈ m, ¬isQuote c := by
    intro c hc hquote
    have hlower : c.toLower = c := by
      rcases isQuote_iff.mp hquote with rfl | rfl <;> decide
    have hmem : c ∈ asciiLower word := by
      rw [eq_of_beq hsame, ← hlower]
      exact List.mem_map_of_mem hc
    simpa [hquote] using List.all_eq_true.mp hplain c hmem
  simp only [List.forall_mem_append]
  exact ⟨fun c hc => not_isQuote_of_isDelimiter (ha c hc), hm,
    fun c hc => not_isQuote_of_isDelimiter (hb c hc)⟩

/-- A token that begins with a quote, or inside quotes, is not taken for a word. -/
theorem isQuoted_of_covers {n : Nesting} {word token : Text} (hword : IsWord word)
    (hplain : HasNoQuote word) (hcovers : n.Everywhere Covers token) (h : spells word token) :
    n.isQuoted := by
  cases token with
  | nil =>
      obtain ⟨a, m, b, heq, hsame, -, -⟩ := exists_eq_of_spells h
      have hm : m = [] := (List.append_eq_nil_iff.mp (List.append_eq_nil_iff.mp heq.symm).2).1
      exact absurd hm (hword.ne_nil hsame)
  | cons c token =>
      refine hcovers.1.resolve_right ?_
      exact not_isQuote_of_spells hplain h c List.mem_cons_self

theorem clause?_of_covers {n : Nesting} {token : Text} (h : n.Everywhere Covers token) :
    clause? n token = none := by
  have hno : ∀ {word : Text}, IsWord word → HasNoQuote word → ¬n.isQuoted → ¬spells word token :=
    fun hword hplain hn hspells => hn (isQuoted_of_covers hword hplain h hspells)
  rw [clause?]
  by_cases hn : n.isQuoted = true
  · rw [if_pos hn]
  · rw [if_neg hn, if_neg (hno (by decide) (by decide) hn), if_neg (hno (by decide) (by decide) hn)]

/-- However a quoted text is cut, no word is found in it. -/
theorem clausesFrom_of_covers {n : Nesting} {ts : List Text}
    (h : n.Everywhere Covers ts.flatten) : clausesFrom n ts = [] := by
  induction ts generalizing n with
  | nil => rfl
  | cons t ts ih =>
      rw [List.flatten_cons, everywhere_append] at h
      rw [clausesFrom, clause?_of_covers h.1, ih h.2]
      rfl

theorem hidesSelect_of_covers {n : Nesting} {ts : List Text}
    (h : n.Everywhere Covers ts.flatten) : HidesSelect n ts := by
  induction ts generalizing n with
  | nil => trivial
  | cons t ts ih =>
      rw [List.flatten_cons, everywhere_append] at h
      refine ⟨fun hspells => .inr (.inl ?_), ih h.2⟩
      exact isQuoted_of_covers (by decide) (by decide) h.1 hspells

/-! ### Reading on -/

/-- The `select` of a query is met within some tokens, whatever follows them, or it is looked for
behind them. -/
theorem afterSelect?_append_cases (n : Nesting) (ts : List Text) : HidesSelect n ts ∨
    ∃ init t rest, ts = init ++ t :: rest ∧ spells "select" t ∧
      ∀ us, afterSelect? n (ts ++ us) = some (n.advance init.flatten, rest ++ us) := by
  rcases hidesSelect_or_exists_isTopSelect n ts with hhides | ⟨init, t, rest, rfl, hinit, htop⟩
  · exact .inl hhides
  · refine .inr ⟨init, t, rest, rfl, htop.2.1, fun us => ?_⟩
    rw [List.append_assoc, afterSelect?_append hinit, List.cons_append, htop.afterSelect?_cons]

/-- The list of a query ends within some tokens, whatever follows them, or it goes on behind
them. -/
theorem untilFrom_append_cases (waiting : Nat) (n : Nesting) (ts : List Text) :
    (∃ list, ∀ us, untilFrom waiting n (ts ++ us) = list) ∨
      ∃ waiting', ∀ us, untilFrom waiting n (ts ++ us) =
        ts.flatten ++ untilFrom waiting' (n.advance ts.flatten) us := by
  induction ts generalizing waiting n with
  | nil => exact .inr ⟨waiting, fun us => rfl⟩
  | cons t ts ih =>
      have hmore (w : Nat) : (∃ list, ∀ us, t ++ untilFrom w (n.advance t) (ts ++ us) = list) ∨
          ∃ w', ∀ us, t ++ untilFrom w (n.advance t) (ts ++ us) =
            (t :: ts).flatten ++ untilFrom w' (n.advance (t :: ts).flatten) us := by
        rcases ih w (n.advance t) with ⟨list, hlist⟩ | ⟨w', hread⟩
        · exact .inl ⟨t ++ list, fun us => by rw [hlist]⟩
        · refine .inr ⟨w', fun us => ?_⟩
          rw [hread, List.flatten_cons, advance_append, List.append_assoc]
      simp only [List.cons_append, untilFrom_cons]
      cases clause? n t with
      | none => exact hmore waiting
      | some clause =>
          cases clause with
          | selectWord => exact hmore (waiting + 1)
          | fromWord =>
              by_cases hend : waiting = 0 ∧ n.depth = 0
              · exact .inl ⟨[], fun us => if_pos hend⟩
              · simp only [if_neg hend]
                exact hmore (waiting - 1)

/-! ### A quoted text in a query -/

/-- A quoted text between two parts of a query. -/
def quotedIn (before : Text) (quote : Char) (content after : Text) : Text :=
  before ++ ' ' :: (quotedBy quote content ++ ' ' :: after)

theorem not_isBlank_of_isQuote {c : Char} (h : isQuote c) : ¬isBlank c :=
  fun hblank => not_isQuote_of_isDelimiter (isDelimiter_of_isBlank hblank) h

theorem joinLines_quotedBy {quote : Char} (hquote : isQuote quote) (content : Text) :
    joinLines false (quotedBy quote content) = quotedBy quote (joinLines false content) := by
  have hbreak : ¬isBreak quote := fun h => not_isBlank_of_isQuote hquote (isBlank_of_isBreak h)
  rw [quotedBy, joinLines, if_neg hbreak, joinLines_concat hbreak, quotedBy]

theorem notMem_joinLines {c : Char} (hc : c ≠ ' ') {s : Text} (h : c ∉ s) (inRun : Bool) :
    c ∉ joinLines inRun s := by
  intro hmem
  obtain ⟨x, y, hsplit⟩ := List.append_of_mem hmem
  obtain ⟨u, v, rfl, -, -⟩ := exists_eq_of_joinLines_eq_append hc hsplit
  exact h (by simp)

theorem flatten_quotedIn {quote : Char} (hquote : isQuote quote) (before content after : Text) :
    flatten (quotedIn before quote content after) =
      trimStart (joinLines false before ++ [' ']) ++
        (quotedBy quote (joinLines false content) ++ trimEnd (' ' :: joinLines false after)) := by
  have hink := not_isBlank_of_isQuote hquote
  rw [flatten, quotedIn, joinLines_append_space, joinLines_append_space,
    joinLines_quotedBy hquote, List.append_cons, quotedBy_append, trim,
    trimStart_append_cons _ hink, ← List.cons_append, ← List.append_assoc,
    trimEnd_append_cons _ hink, List.append_assoc, List.cons_append, quotedBy_append]

/-- A query with a quoted text falls into the tokens in front of it, its own tokens and the tokens
behind it, where the last of its own can end with a space. -/
theorem exists_tokens_quotedIn {quote : Char} (hquote : isQuote quote) (before after : Text) :
    ∃ pad rest, (pad = [] ∨ pad = [' ']) ∧ ∀ content,
      tokens (flatten (quotedIn before quote content after)) =
        tokens (trimStart (joinLines false before ++ [' '])) ++
          (tokens (quotedBy quote (joinLines false content) ++ pad) ++ tokens rest) := by
  have hfront (r : Text) : tokens (trimStart (joinLines false before ++ [' ']) ++ r) =
      tokens (trimStart (joinLines false before ++ [' '])) ++ tokens r := by
    rcases exists_trimStart_append_space (joinLines false before) with hnil | ⟨t, ht⟩
    · rw [hnil]
      rfl
    · rw [ht, List.append_assoc, List.singleton_append, tokens_append_space]
  simp only [flatten_quotedIn hquote, hfront]
  by_cases hafter : IsBlankText (joinLines false after)
  · have hblank : IsBlankText (' ' :: joinLines false after) :=
      List.forall_mem_cons.mpr ⟨by decide, hafter⟩
    refine ⟨[], [], .inl rfl, fun content => ?_⟩
    rw [trimEnd_eq_nil_iff.mpr hblank]
    simp [tokens]
  · have hend : trimEnd (' ' :: joinLines false after) = ' ' :: trimEnd (joinLines false after) :=
      trimEnd_append_of_not_blank [' '] hafter
    refine ⟨[' '], trimEnd (joinLines false after), .inr rfl, fun content => ?_⟩
    rw [hend, tokens_append_space (quotedBy _ _)]

section

variable {n : Nesting} {quote : Char} (hquote : isQuote quote) (hn : n.isQuoted = false)
  {content pad : Text} (hcontent : quote ∉ content) (hpad : pad = [] ∨ pad = [' '])

include hquote hn hcontent hpad

theorem advance_quotedBy_append : n.advance (quotedBy quote content ++ pad) = n := by
  rw [advance_append, advance_quotedBy hquote hn hcontent]
  rcases hpad with rfl | rfl
  · rfl
  · exact step_space n

theorem hidesSelect_quotedBy : HidesSelect n (tokens (quotedBy quote content ++ pad)) := by
  have hblank : IsBlankText pad := by
    rcases hpad with rfl | rfl <;> decide
  refine HidesSelect.append_blank hblank (hidesSelect_of_covers ?_)
  rw [flatten_tokens]
  exact covers_quotedBy hquote hn hcontent

theorem clausesFrom_quotedBy :
    clausesFrom n ((tokens (quotedBy quote content ++ pad)).flatMap subTokens) = [] := by
  have hnone : clausesFrom n ((tokens (quotedBy quote content)).flatMap subTokens) = [] := by
    refine clausesFrom_of_covers ?_
    rw [flatten_flatMap_subTokens, flatten_tokens]
    exact covers_quotedBy hquote hn hcontent
  rcases hpad with rfl | rfl
  · rwa [List.append_nil]
  · rwa [clausesFrom_of_spacedEnd n (spacedEnd_tokens _).flatMap_subTokens]

end

/-- The list ends in front of a quoted text, whatever follows, or the text is part of it
unchanged. -/
theorem untilFrom_quotedBy {n : Nesting} {quote : Char} (hquote : isQuote quote) {ts : List Text}
    (hn : (n.advance ts.flatten).isQuoted = false) :
    (∃ list, ∀ us, untilFrom 0 n ((ts ++ us).flatMap subTokens) = list) ∨
      ∀ us, ∃ back, ∀ content pad, quote ∉ content → pad = [] ∨ pad = [' '] →
        untilFrom 0 n ((ts ++ (tokens (quotedBy quote content ++ pad) ++ us)).flatMap subTokens) =
          ts.flatten ++ (quotedBy quote content ++ pad) ++ back := by
  simp only [List.flatMap_append]
  rcases untilFrom_append_cases 0 n (ts.flatMap subTokens) with ⟨list, hend⟩ | ⟨waiting, hmore⟩
  · exact .inl ⟨list, fun us => hend _⟩
  · rw [flatten_flatMap_subTokens] at hmore
    refine .inr fun us => ⟨untilFrom waiting (n.advance ts.flatten) (us.flatMap subTokens), ?_⟩
    intro content pad hcontent hpad
    have hnone := clausesFrom_quotedBy hquote hn hcontent hpad
    have hread := untilFrom_append waiting (n.advance ts.flatten) _ (us.flatMap subTokens)
      (by rw [hnone]; exact List.not_mem_nil)
    rw [hnone, List.map_nil, waitingAfter, flatten_flatMap_subTokens, flatten_tokens,
      advance_quotedBy_append hquote hn hcontent hpad] at hread
    rw [hmore, hread, ← List.append_assoc]

/-- Quoted text is never read: the list of a query does not depend on a quoted text with spaces
around it at all, or the quoted text stands in the list as it stands in the query, on one line. -/
theorem selectList_quotedIn {before : Text} {quote : Char} (hquote : isQuote quote)
    (hclosed : (({} : Nesting).advance before).isQuoted = false) :
    (∀ after content content', quote ∉ content → quote ∉ content' →
        selectList (quotedIn before quote content after) =
          selectList (quotedIn before quote content' after)) ∨
      ∃ front, ∀ after, ∃ back, ∀ content, quote ∉ content →
        selectList (quotedIn before quote content after) =
          front ++ quotedBy quote (joinLines false content) ++ back := by
  have hspace : quote ≠ ' ' := by
    rintro rfl
    exact absurd hquote (by decide)
  have hstart : ({} : Nesting).advance (trimStart (joinLines false before ++ [' '])) =
      ({} : Nesting).advance before := by simp
  rcases afterSelect?_append_cases {} (tokens (trimStart (joinLines false before ++ [' ']))) with
    hhides | ⟨init, t, rest, hsplit, hspells, hread⟩
  · -- The `select` is looked for behind the quoted text.
    refine .inl fun after => ?_
    obtain ⟨pad, last, hpad, htokens⟩ := exists_tokens_quotedIn hquote before after
    have hskip (content : Text) (h : quote ∉ content) :
        afterSelect? {} (tokens (flatten (quotedIn before quote content after))) =
          afterSelect? (({} : Nesting).advance before) (tokens last) := by
      have hflat := notMem_joinLines hspace h false
      rw [htokens, afterSelect?_append hhides, flatten_tokens, hstart,
        afterSelect?_append (hidesSelect_quotedBy hquote hclosed hflat hpad), flatten_tokens,
        advance_quotedBy_append hquote hclosed hflat hpad]
    intro content content' h h'
    rw [selectList, hskip content h, selectList, hskip content' h']
  · -- The `select` stands in front of it. Its parentheses are not counted, and it has no quotes.
    have hopen : ((({} : Nesting).advance init.flatten).advance rest.flatten).isQuoted = false := by
      have hsame : (({} : Nesting).advance (init.flatten ++ t)).SameQuotes
          (({} : Nesting).advance init.flatten) := by
        rw [advance_append]
        exact sameQuotes_advance (not_isQuote_of_spells (by decide) hspells)
      calc ((({} : Nesting).advance init.flatten).advance rest.flatten).isQuoted
          = ((({} : Nesting).advance (init.flatten ++ t)).advance rest.flatten).isQuoted :=
            (hsame.advance rest.flatten).isQuoted_eq.symm
        _ = (({} : Nesting).advance before).isQuoted := by
            rw [← hstart, ← flatten_tokens (trimStart _), hsplit]
            simp
        _ = false := hclosed
    rcases untilFrom_quotedBy hquote hopen with ⟨list, hend⟩ | hmore
    · refine .inl fun after content content' _ _ => ?_
      obtain ⟨pad, last, -, htokens⟩ := exists_tokens_quotedIn hquote before after
      simp only [selectList, htokens, hread, hend]
    · refine .inr ⟨rest.flatten, fun after => ?_⟩
      obtain ⟨pad, last, hpad, htokens⟩ := exists_tokens_quotedIn hquote before after
      obtain ⟨back, hback⟩ := hmore (tokens last)
      refine ⟨pad ++ back, fun content hcontent => ?_⟩
      have hflat := notMem_joinLines hspace hcontent false
      simp only [selectList, htokens, hread, hback _ pad hflat hpad, List.append_assoc]

/-- A literal within a list, behind a call and a quoted name with a parenthesis. -/
theorem selectList_quotedIn_literal :
    let before := "with t as (select '(' from v) select f(a) as \"b (\",".toList
    let after := "as c from t".toList
    isQuote '\'' ∧ (({} : Nesting).advance before).isQuoted = false ∧
      (∃ front, ∀ after, ∃ back, ∀ content, '\'' ∉ content →
        selectList (quotedIn before '\'' content after) =
          front ++ quotedBy '\'' (joinLines false content) ++ back) ∧
      selectList (quotedIn before '\'' "x) from\n\t(select \"y".toList after) =
        "f(a) as \"b (\", 'x) from (select \"y' as c ".toList := by
  intro before after
  have hquote : isQuote '\'' := by decide
  have hclosed : (({} : Nesting).advance before).isQuoted = false := by decide +kernel
  have hread : selectList (quotedIn before '\'' [] after) ≠
      selectList (quotedIn before '\'' ['x'] after) := by decide +kernel
  refine ⟨hquote, hclosed, ?_, by decide +kernel⟩
  refine (selectList_quotedIn hquote hclosed).resolve_left fun h => hread ?_
  exact h after [] ['x'] (by decide) (by decide)

end Query

end SqlScript
