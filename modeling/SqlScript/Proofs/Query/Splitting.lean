import SqlScript.Proofs.Query.Cuts

/-!
Where a select list is cut. The reading of a query takes every double quote outside literals for the
start or the end of a name, while the cutting of a list does so only next to a space, a comma or a
dot. A list is cut as it is read exactly if the two agree on every comma. They do if the names up to
the last comma fit: each stands free between such neighbours, or it is glued to what is in front of
it and the cutting can read over it.
-/

namespace SqlScript.Query

open Text Enclosure

/-- The texts between the commas of a list that stand outside quotes and parentheses, without white
space at their ends and without the empty ones. -/
def pieces (list : Text) : List Text :=
  (((({} : Nesting).mark list).cut ',').map fun part => trim part.text).filter fun e => !e.isEmpty

/-- Whether the name that was begun last stands free behind `c`: a name stands free if it begins at
the start of a list or behind a space, comma or dot. Two double quotes in a row begin no name. -/
def freeAfter (previous : Option Char) (n : Nesting) (free : Bool) (c : Char) : Bool :=
  if c = '"' ∧ !n.isQuoted ∧ previous ≠ some '"' then isBoundary previous else free

/-- Whether a character between two others fits its name, which stands free or is glued to what is
in front of it. -/
structure FitsName (separators : List Char) (previous : Option Char) (n : Nesting) (free : Bool)
    (c : Char) (next : Option Char) : Prop where
  /-- A free name ends at the end of the list or in front of a space, comma or dot. -/
  ends : c = '"' ∧ n.inIdentifier ∧ free → isBoundary next ∨ next = some '"'
  /-- Two double quotes within a free name do not stand in front of a space, comma or dot. -/
  continues : c = '"' ∧ !n.isQuoted ∧ previous = some '"' ∧ free → !isBoundary next
  /-- Of the double quotes of a glued name only the first may stand behind a space, comma or dot. -/
  glued : c = '"' ∧ n.inIdentifier ∧ !free → !isBoundary previous
  /-- A glued name holds no separator, single quote or parenthesis. -/
  plain : c ≠ '"' ∧ n.inIdentifier ∧ !free → c ∉ separators ∧ c ∉ ['\'', '(', ')']

instance (separators : List Char) (previous : Option Char) (n : Nesting) (free : Bool) (c : Char)
    (next : Option Char) : Decidable (FitsName separators previous n free c next) :=
  decidable_of_iff (_ ∧ _ ∧ _ ∧ _)
    ⟨fun ⟨h₁, h₂, h₃, h₄⟩ => ⟨h₁, h₂, h₃, h₄⟩, fun ⟨h₁, h₂, h₃, h₄⟩ => ⟨h₁, h₂, h₃, h₄⟩⟩

/-- Whether the names fit in a text that begins behind `previous` and where `n` is open. -/
def NamesFitFrom (separators : List Char) (previous : Option Char) (n : Nesting) (free : Bool) :
    Text → Prop
  | [] => True
  | c :: s =>
    FitsName separators previous n free c s.head? ∧
      NamesFitFrom separators (some c) (n.step c) (freeAfter previous n free c) s

instance decidableNamesFitFrom (separators : List Char) (previous : Option Char) (n : Nesting)
    (free : Bool) (s : Text) : Decidable (NamesFitFrom separators previous n free s) :=
  match s with
  | [] => .isTrue trivial
  | c :: s =>
    @instDecidableAnd _ _ _
      (decidableNamesFitFrom separators (some c) (n.step c) (freeAfter previous n free c) s)

/-- Whether the names of a list fit, so that it is cut at the separators as it is read. -/
def NamesFit (separators : List Char) (list : Text) : Prop :=
  NamesFitFrom separators none {} true list

instance (separators : List Char) (list : Text) : Decidable (NamesFit separators list) :=
  decidableNamesFitFrom separators none {} true list

/-- Whether double quotes stand in literals only, in a text that begins where `n` is open. -/
def QuotesInLiterals (n : Nesting) (s : Text) : Prop :=
  n.Everywhere (fun n c => c = '"' → n.inLiteral) s

instance (n : Nesting) (s : Text) : Decidable (QuotesInLiterals n s) :=
  inferInstanceAs (Decidable (n.Everywhere _ s))

/-! ### Characters that fit -/

/-- Outside a name a character fits, unless it is the second of two double quotes in a row. -/
theorem fitsName_of_not_inIdentifier {separators : List Char} {previous next : Option Char}
    {n : Nesting} {free : Bool} {c : Char} (hn : n.inIdentifier = false)
    (hc : c = '"' → n.isQuoted ∨ previous ≠ some '"') :
    FitsName separators previous n free c next where
  ends h := absurd (hn.symm.trans h.2.1) Bool.false_ne_true
  continues := by
    rintro ⟨hquote, hunquoted, hprevious, -⟩
    rcases hc hquote with hquoted | hne
    · simp [hquoted] at hunquoted
    · exact absurd hprevious hne
  glued h := absurd (hn.symm.trans h.2.1) Bool.false_ne_true
  plain h := absurd (hn.symm.trans h.2.1) Bool.false_ne_true

/-- In a free name a character fits, and a double quote does if the name may end there. -/
theorem fitsName_of_free {separators : List Char} {previous next : Option Char} {n : Nesting}
    {c : Char} (hn : n.inIdentifier) (hc : c = '"' → isBoundary next) :
    FitsName separators previous n true c next where
  ends h := .inl (hc h.1)
  continues := by
    rintro ⟨-, hunquoted, -⟩
    simp [Nesting.isQuoted, hn] at hunquoted
  glued h := absurd h.2.2 (by decide)
  plain h := absurd h.2.2 (by decide)

/-- Text whose double quotes stand in literals changes nothing for the names behind it. -/
theorem namesFitFrom_append {separators : List Char} {previous : Option Char} {n : Nesting}
    {free : Bool} {s t : Text} (hn : n.inIdentifier = false) (hs : QuotesInLiterals n s)
    (ht : NamesFitFrom separators (s.getLast?.or previous) (n.advance s) free t) :
    NamesFitFrom separators previous n free (s ++ t) := by
  induction s generalizing previous n with
  | nil => exact ht
  | cons c s ih =>
      obtain ⟨hc, hs⟩ := hs
      have hquoted : c = '"' → n.isQuoted := by
        intro h
        rw [Nesting.isQuoted, hc h, Bool.true_or]
      have hstep : (n.step c).inIdentifier = false := by
        unfold Nesting.step
        split_ifs with _ hname
        · exact hn
        · simp [hc hname.1] at hname
        all_goals exact hn
      have hfree : freeAfter previous n free c = free := by
        refine if_neg fun h => ?_
        simp [hquoted h.1] at h
      rw [getLast?_cons_or] at ht
      refine ⟨fitsName_of_not_inIdentifier hn fun h => .inl (hquoted h), ?_⟩
      rw [hfree]
      exact ih hstep hs ht

theorem namesFitFrom_append_space {separators : List Char} {previous : Option Char} {n : Nesting}
    {free : Bool} {s t : Text} (hn : n.inIdentifier = false) (hs : QuotesInLiterals n s)
    (ht : NamesFitFrom separators (some ' ') (n.advance s) free t) :
    NamesFitFrom separators previous n free (s ++ ' ' :: t) := by
  have hspaced : QuotesInLiterals n (s ++ [' ']) :=
    Nesting.everywhere_append.mpr ⟨hs, fun h => absurd h (by decide), trivial⟩
  have hspace : isBlank ' ' = true := by decide
  rw [List.append_cons]
  refine namesFitFrom_append hn hspaced ?_
  rw [List.getLast?_concat, Nesting.advance_append, Nesting.advance_cons,
    Nesting.step_of_isBlank _ hspace]
  exact ht

/-- Within a free name only its end matters. -/
theorem namesFitFrom_name {separators : List Char} {name t : Text} (hname : '"' ∉ name)
    (hnext : isBoundary t.head?) (ht : NamesFitFrom separators (some '"') {} true t)
    (previous : Option Char) :
    NamesFitFrom separators previous ⟨false, true, 0⟩ true (name ++ '"' :: t) := by
  induction name generalizing previous with
  | nil =>
      refine ⟨fitsName_of_free rfl fun _ => hnext, ?_⟩
      rw [Nesting.step_quote_inIdentifier, freeAfter, if_neg fun h => absurd h.2.1 (by decide)]
      exact ht
  | cons c name ih =>
      rw [List.mem_cons, not_or] at hname
      have hc : c ≠ '"' := Ne.symm hname.1
      refine ⟨fitsName_of_free rfl fun h => absurd h hc, ?_⟩
      rw [Nesting.step_of_inIdentifier 0 hc, freeAfter, if_neg fun h => hc h.1]
      exact ih hname.2 _

/-! ### Reading and cutting in step -/

/-- What is open for the cutting between two characters where `n` is open for the reading. Between
two double quotes in a row only the cutting takes a free name for open. -/
def enclosureAt (previous next : Option Char) (n : Nesting) (free : Bool) : Enclosure where
  inQuote := free && (n.inIdentifier || previous == some '"' && next == some '"' && !n.inLiteral)
  inLiteral := n.inLiteral
  depth := n.depth

theorem enclosureAt_of_ne {previous next : Option Char} (n : Nesting) (free : Bool)
    (h : previous ≠ some '"' ∨ next ≠ some '"') :
    enclosureAt previous next n free = ⟨free && n.inIdentifier, n.inLiteral, n.depth⟩ := by
  have hquotes : (previous == some '"' && next == some '"') = false := by
    rcases h with h | h
    · rw [beq_eq_false_iff_ne.mpr h, Bool.false_and]
    · rw [beq_eq_false_iff_ne.mpr h, Bool.and_false]
  rw [enclosureAt, hquotes, Bool.false_and, Bool.or_false]

theorem isBoundary_quote : isBoundary (some '"') = false := by decide

theorem not_isBoundary_eq {next : Option Char} (h : isBoundary next ∨ next = some '"') :
    (!isBoundary next) = (next == some '"') := by
  rcases h with h | rfl
  · have hne : next ≠ some '"' := by
      rintro rfl
      rw [isBoundary_quote] at h
      exact Bool.false_ne_true h
    rw [h, beq_eq_false_iff_ne.mpr hne, Bool.not_true]
  · rw [isBoundary_quote, beq_self_eq_true, Bool.not_false]

/-- A character that is no double quote moves both alike, unless it stands in a glued name. -/
theorem step_enclosure_of_ne {previous next : Option Char} {c : Char} {n : Nesting} {free : Bool}
    (hc : c ≠ '"') (hplain : n.inIdentifier ∧ !free → c ∉ ['\'', '(', ')']) :
    (⟨free && n.inIdentifier, n.inLiteral, n.depth⟩ : Enclosure).step previous c next =
      ⟨free && (n.step c).inIdentifier, (n.step c).inLiteral, (n.step c).depth⟩ := by
  obtain ⟨literal, identifier, depth⟩ := n
  by_cases hglued : identifier = true ∧ (!free) = true
  · have hc' := hplain hglued
    simp only [List.mem_cons, List.not_mem_nil, or_false, not_or] at hc'
    simp [Enclosure.step, Nesting.step, hc, hc']
  · have hfree : (free && identifier) = identifier := by
      cases identifier <;> simp_all
    simp only [Enclosure.step, Nesting.step, Nesting.isQuoted, hfree, hc, false_and, if_false,
      Bool.not_or, Bool.and_eq_true]
    split_ifs <;> simp_all

theorem step_enclosureAt_quote {separators : List Char} {previous next : Option Char} {n : Nesting}
    {free : Bool} (hapart : n.inLiteral → !n.inIdentifier)
    (hfits : FitsName separators previous n free '"' next) :
    (enclosureAt previous (some '"') n free).step previous '"' next =
      enclosureAt (some '"') next (n.step '"') (freeAfter previous n free '"') := by
  obtain ⟨literal, identifier, depth⟩ := n
  cases literal with
  | true =>
      -- Within a literal a double quote is a character like any other.
      obtain rfl : identifier = false := by simpa using hapart rfl
      simp [enclosureAt, Enclosure.step, Nesting.step, freeAfter, Nesting.isQuoted]
  | false =>
      cases identifier with
      | true =>
          have hends := hfits.ends
          have hglued := hfits.glued
          cases free with
          | true =>
              have hnext := not_isBoundary_eq (hends ⟨rfl, rfl, rfl⟩)
              simp [enclosureAt, Enclosure.step, Nesting.step, freeAfter, Nesting.isQuoted, hnext]
          | false =>
              have hprevious : isBoundary previous = false := by
                simpa using hglued ⟨rfl, rfl, rfl⟩
              simp [enclosureAt, Enclosure.step, Nesting.step, freeAfter, Nesting.isQuoted,
                hprevious]
      | false =>
          by_cases hprevious : previous = some '"'
          · subst hprevious
            have hcontinues := hfits.continues
            cases free with
            | true =>
                have hnext : isBoundary next = false := by
                  simpa using hcontinues ⟨rfl, rfl, rfl, rfl⟩
                simp [enclosureAt, Enclosure.step, Nesting.step, freeAfter, hnext]
            | false =>
                simp [enclosureAt, Enclosure.step, Nesting.step, freeAfter, isBoundary_quote]
          · simp [enclosureAt, Enclosure.step, Nesting.step, freeAfter, Nesting.isQuoted,
              hprevious]

/-- A character moves both alike, if it fits its name. -/
theorem step_enclosureAt {separators : List Char} {previous next : Option Char} {c : Char}
    {n : Nesting} {free : Bool} (hapart : n.inLiteral → !n.inIdentifier)
    (hfits : FitsName separators previous n free c next) :
    (enclosureAt previous (some c) n free).step previous c next =
      enclosureAt (some c) next (n.step c) (freeAfter previous n free c) := by
  by_cases hc : c = '"'
  · subst hc
    exact step_enclosureAt_quote hapart hfits
  · have hsome : some c ≠ some '"' := fun h => hc (Option.some.inj h)
    have hfree : freeAfter previous n free c = free := by
      rw [freeAfter, if_neg fun h => hc h.1]
    rw [hfree, enclosureAt_of_ne n free (.inr hsome), enclosureAt_of_ne _ free (.inl hsome)]
    exact step_enclosure_of_ne hc fun h => (hfits.plain ⟨hc, h⟩).2

theorem isTop_enclosureAt {separators : List Char} {previous next : Option Char} {c : Char}
    {n : Nesting} {free : Bool} (hfits : FitsName separators previous n free c next)
    (hc : c ≠ '"') (hmem : c ∈ separators) :
    (enclosureAt previous (some c) n free).isTop = n.isTop := by
  have hsome : some c ≠ some '"' := fun h => hc (Option.some.inj h)
  have hfree : (free && n.inIdentifier) = n.inIdentifier := by
    cases hn : n.inIdentifier with
    | false => exact Bool.and_false _
    | true =>
        cases free with
        | true => rfl
        | false => exact absurd hmem (hfits.plain ⟨hc, hn, rfl⟩).1
  rw [enclosureAt_of_ne n free (.inr hsome), hfree]
  simp only [Enclosure.isTop, Nesting.isTop, Nesting.isQuoted, Bool.not_or, Bool.and_comm]

/-- Reading and cutting never have a literal and a name open at once. -/
theorem step_apart {n : Nesting} (h : n.inLiteral → !n.inIdentifier) (c : Char) :
    (n.step c).inLiteral → !(n.step c).inIdentifier := by
  simp only [Nesting.step, Nesting.isQuoted]
  grind

theorem agree_markFrom {separators : List Char} (hquote : '"' ∉ separators)
    {previous : Option Char} {n : Nesting} {free : Bool} (hapart : n.inLiteral → !n.inIdentifier)
    {s : Text} (hfits : NamesFitFrom separators previous n free s) :
    Marked.Agree separators (markFrom previous (enclosureAt previous s.head? n free) s)
      (n.mark s) := by
  -- What is open for the cutting is told from what is open for the reading at each character.
  induction s generalizing previous n free with
  | nil => exact .nil
  | cons c s ih =>
      obtain ⟨hc, hs⟩ := hfits
      have hrest := ih (step_apart hapart c) hs
      rw [← step_enclosureAt hapart hc] at hrest
      refine .cons ⟨rfl, fun hmem => ?_⟩ hrest
      have hne : c ≠ '"' := fun h => hquote (h ▸ hmem)
      exact isTop_enclosureAt hc hne hmem

/-- Where its names fit, a list is marked for the cutting as it is read. -/
theorem agree_mark {separators : List Char} (hquote : '"' ∉ separators) {list : Text}
    (hfits : NamesFit separators list) :
    Marked.Agree separators (mark list) (({} : Nesting).mark list) := by
  have hagree := agree_markFrom hquote (fun h => absurd h Bool.false_ne_true) hfits
  rwa [enclosureAt_of_ne _ _ (.inl (by simp))] at hagree

/-- The names behind the last separator are of no account. -/
theorem agree_mark_append {separators : List Char} (hquote : '"' ∉ separators) {front rest : Text}
    (hfits : NamesFit separators front) (hrest : ∀ c ∈ rest, c ∉ separators) :
    Marked.Agree separators (mark (front ++ rest)) (({} : Nesting).mark (front ++ rest)) := by
  rw [mark, markFrom_append, Nesting.mark_append]
  refine List.rel_append (agree_mark hquote hfits) (Marked.agree_of_notMem ?_ ?_)
  · rw [text_markFrom, Nesting.text_mark]
  · rwa [text_markFrom]

/-! ### The expressions of a list -/

theorem trim_cut_mark_trim {separator : Char} (h : isBlank separator = false) (list : Text) :
    ((({} : Nesting).mark (trim list)).cut separator).map (fun part => trim part.text) =
      ((({} : Nesting).mark list).cut separator).map fun part => trim part.text := by
  obtain ⟨lead, pad, hlead, hpad, hlist⟩ := exists_eq_append_trim_append list
  have hnone : ∀ {blank : Text} (n : Nesting), IsBlankText blank →
      ⟨separator, true⟩ ∉ n.mark blank := by
    intro blank n hblank hmem
    have hsep := hblank separator (Nesting.mem_of_mem_mark hmem)
    rw [h] at hsep
    exact Bool.false_ne_true hsep
  conv_rhs => rw [hlist]
  rw [Nesting.mark_append, Marked.trim_cut_append_right (hnone _ hpad) (by simpa using hpad),
    Nesting.mark_append, Marked.trim_cut_append_left (hnone _ hlead) (by simpa using hlead),
    Nesting.advance_of_isBlankText _ hlead]

theorem pieces_eq_parts (list : Text) :
    pieces list = Marked.parts ',' (({} : Nesting).mark (trim list)) := by
  rw [pieces, ← trim_cut_mark_trim (by decide), Marked.parts]

theorem expressions_of_agree {list : Text}
    (h : Marked.Agree [','] (mark (trim list)) (({} : Nesting).mark (trim list))) :
    expressions list = pieces list := by
  rw [pieces_eq_parts, ← Marked.parts_eq_of_agree h (by decide), expressions, Marked.parts]

/-- A list is cut at the commas that the reading of a query finds outside quotes and parentheses
exactly if the cutting finds the same commas there. It does if the names fit in a part of the list
behind which there is no comma. -/
theorem expressions_eq_pieces (list : Text) :
    (expressions list = pieces list ↔
      Marked.Agree [','] (mark (trim list)) (({} : Nesting).mark (trim list))) ∧
      ∀ front rest, trim list = front ++ rest → ',' ∉ rest → NamesFit [','] front →
        expressions list = pieces list := by
  refine ⟨⟨fun h => ?_, expressions_of_agree⟩, fun front rest hlist hrest hfits => ?_⟩
  · rw [pieces_eq_parts, expressions, ← Marked.parts] at h
    refine Marked.agree_of_parts_eq (by decide) (staysOpen_markFrom none {} _)
      (Nesting.staysOpen_mark {} _) ?_ h
    rw [text_mark, Nesting.text_mark]
  · refine expressions_of_agree ?_
    rw [hlist]
    refine agree_mark_append (by decide) hfits fun c hc hmem => hrest ?_
    rwa [← List.mem_singleton.mp hmem]

/-! ### The tokens of an expression -/

theorem text_afterLast (separator : Char) (m : Marked) :
    (m.afterLast separator).text = (((m.cut separator).map Marked.text).getLast?).getD [] := by
  rw [Marked.afterLast, List.getLast?_map]
  cases (m.cut separator).getLast? <;> rfl

/-- An expression whose names fit is cut into tokens as it is read. -/
theorem expressionTokens_eq (expression : Text) (h : NamesFit [' ', '.'] (trim expression)) :
    expressionTokens expression = Marked.tokens (({} : Nesting).mark (trim expression)) := by
  have hspace : ' ' ∈ [' ', '.'] := by decide
  have hdot : '.' ∈ [' ', '.'] := by decide
  have hcut := (agree_mark (by decide) h).cut hspace
  rw [expressionTokens, Marked.tokens]
  congr 1
  refine Marked.map_eq_map_of_forall₂ hcut fun part part' hpart => ?_
  have hparts := hpart.cut hdot
  rw [text_afterLast, text_afterLast,
    Marked.map_eq_map_of_forall₂ hparts fun _ _ htext => htext.text_eq]

/-! ### Names that fit and names that do not -/

/-- Two double quotes and a comma within a free name, a name glued to a parenthesis, a double quote
within a literal, and behind the last comma a name that does not fit. -/
theorem expressions_eq_pieces_names :
    let list := " t.\"a, \"\"b\" as x, sum(\"Amount Paid\") , ' \"it''s, ' || \"c\"::text".toList
    let front := "t.\"a, \"\"b\" as x, sum(\"Amount Paid\") , ' \"it''s, ".toList
    let rest := "' || \"c\"::text".toList
    trim list = front ++ rest ∧ ',' ∉ rest ∧ NamesFit [','] front ∧ ¬NamesFit [','] (trim list) ∧
      expressions list = pieces list ∧
      pieces list = ["t.\"a, \"\"b\" as x".toList, "sum(\"Amount Paid\")".toList,
        "' \"it''s, ' || \"c\"::text".toList] := by
  intro list front rest
  have hlist : trim list = front ++ rest := by decide +kernel
  have hrest : ',' ∉ rest := by decide +kernel
  have hfits : NamesFit [','] front := by decide +kernel
  exact ⟨hlist, hrest, hfits, by decide +kernel,
    (expressions_eq_pieces list).2 front rest hlist hrest hfits, by decide +kernel⟩

/-- A quoted name that a cast follows is not closed for the cutting, and hides the comma behind it,
although all quotes are closed and no parenthesis is open. -/
theorem expressions_ne_pieces_cast :
    let list := "\"a\"::text, b".toList
    ({} : Nesting).advance list = {} ∧ ({} : Nesting).Everywhere (fun n _ => 0 ≤ n.depth) list ∧
      expressions list = ["\"a\"::text, b".toList] ∧
      pieces list = ["\"a\"::text".toList, "b".toList] ∧ expressions list ≠ pieces list := by
  decide +kernel

end SqlScript.Query
