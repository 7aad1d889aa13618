import SqlScript.Proofs.Query.Aliases

/-!
Qualifiers in front of a name. Behind the dot of a qualifier the reading of an expression begins
anew: nothing is open there, a dot is as good a boundary as the start, and the token up to the dot
is dropped.
-/

namespace SqlScript.Query

open Text Enclosure

/-- Whether a character can stand in a bare name: no white space, dot, quote or parenthesis. -/
def isNameChar (c : Char) : Bool :=
  !isBlank c && !(['.', '\'', '"', '(', ')'].contains c)

/-- Whether a text is a bare name or a name in double quotes. -/
def IsQualifier (q : Text) : Prop := (∀ c ∈ q, isNameChar c) ∨ ∃ name, '"' ∉ name ∧ q = quoted name

/-! ### Bare names -/

theorem isNameChar_iff {c : Char} : isNameChar c ↔
    isBlank c = false ∧ c ≠ '.' ∧ c ≠ '\'' ∧ c ≠ '"' ∧ c ≠ '(' ∧ c ≠ ')' := by
  simp [isNameChar]

theorem advance_of_isNameChar (e : Enclosure) (previous next : Option Char) {s : Text}
    (h : ∀ c ∈ s, isNameChar c) : e.advance previous s next = e := by
  induction s generalizing previous with
  | nil => rfl
  | cons c s ih =>
      obtain ⟨hc, hs⟩ := List.forall_mem_cons.mp h
      obtain ⟨-, -, hliteral, hquote, hopen, hclose⟩ := isNameChar_iff.mp hc
      have hstep (previous next : Option Char) : e.step previous c next = e := by
        simp [step, hliteral, hquote, hopen, hclose]
      rw [Enclosure.advance, hstep, ih _ hs]

theorem ne_of_isNameChar {c d : Char} (hc : isNameChar c) (hd : isNameChar d = false) : c ≠ d := by
  rintro rfl
  rw [hd] at hc
  exact Bool.false_ne_true hc

theorem notMem_of_isNameChar {c : Char} (hc : isNameChar c = false) {s : Text}
    (h : ∀ c ∈ s, isNameChar c) : c ∉ s :=
  fun hmem => ne_of_isNameChar (h c hmem) hc rfl

theorem trimStart_of_isNameChar {s : Text} (h : ∀ c ∈ s, isNameChar c) : trimStart s = s := by
  cases s with
  | nil => rfl
  | cons c s =>
      have hc := (isNameChar_iff.mp (h c List.mem_cons_self)).1
      exact List.dropWhile_cons_of_neg (by simp [hc])

/-! ### Quoted names -/

section

variable {name : Text} (h : '"' ∉ name)

include h

theorem step_of_inQuote {c : Char} (hc : c ∈ name) (previous next : Option Char) :
    (⟨true, false, 0⟩ : Enclosure).step previous c next = ⟨true, false, 0⟩ := by
  have hne : c ≠ '"' := fun heq => h (heq ▸ hc)
  simp [step, hne]

theorem advance_of_inQuote (previous next : Option Char) :
    (⟨true, false, 0⟩ : Enclosure).advance previous name next = ⟨true, false, 0⟩ := by
  induction name generalizing previous with
  | nil => rfl
  | cons c name ih =>
      rw [Enclosure.advance, step_of_inQuote h List.mem_cons_self,
        ih fun hmem => h (List.mem_cons_of_mem _ hmem)]

theorem markFrom_of_inQuote (previous : Option Char) :
    markFrom previous ⟨true, false, 0⟩ name = name.map fun c => ⟨c, false⟩ := by
  induction name generalizing previous with
  | nil => rfl
  | cons c name ih =>
      rw [markFrom, step_of_inQuote h List.mem_cons_self,
        ih fun hmem => h (List.mem_cons_of_mem _ hmem), List.map_cons]
      rfl

theorem isClosed_quoted : IsClosed (quoted name) := by
  have hopen (next : Option Char) : ({} : Enclosure).step none '"' next = ⟨true, false, 0⟩ := rfl
  rw [IsClosed, quoted, Enclosure.advance, hopen, advance_append, advance_of_inQuote h]
  rfl

theorem mark_quoted :
    mark (quoted name) = ⟨'"', true⟩ :: (name.map (fun c => ⟨c, false⟩) ++ [⟨'"', false⟩]) := by
  have hopen (next : Option Char) : ({} : Enclosure).step none '"' next = ⟨true, false, 0⟩ := rfl
  rw [mark, quoted, markFrom, hopen, markFrom_append, markFrom_of_inQuote h,
    advance_of_inQuote h]
  rfl

end

/-! ### Qualifiers -/

namespace IsQualifier

variable {q : Text}

theorem isClosed (h : IsQualifier q) : IsClosed q := by
  rcases h with hbare | ⟨name, hname, rfl⟩
  · exact advance_of_isNameChar _ _ _ hbare
  · exact isClosed_quoted hname

theorem notMem_mark (h : IsQualifier q) : ⟨' ', true⟩ ∉ mark q := by
  rcases h with hbare | ⟨name, hname, rfl⟩
  · exact fun hmem => notMem_of_isNameChar (by decide) hbare (mem_of_mem_markFrom hmem)
  · rw [mark_quoted hname]
    simp

theorem trimStart (h : IsQualifier q) : trimStart q = q := by
  rcases h with hbare | ⟨name, -, rfl⟩
  · exact trimStart_of_isNameChar hbare
  · rfl

end IsQualifier

theorem expressionTokens_eq_tokens (expression : Text) :
    expressionTokens expression = Marked.tokens (mark (trim expression)) := rfl

/-- A qualifier and its dot leave no token. -/
theorem expressionTokens_append_dot {q expression : Text} (hq : IsQualifier q)
    (hexpression : trimStart expression = expression) :
    expressionTokens (q ++ '.' :: expression) = expressionTokens expression := by
  have hdot : ¬isBlank '.' := by decide
  have htrim : trim (q ++ '.' :: expression) = q ++ '.' :: trim expression := by
    rw [trim, trimStart_append_cons _ hdot, hq.trimStart, trimEnd_append_cons _ hdot, trim,
      hexpression]
  have hboundary : isBoundary (some '.') := rfl
  rw [expressionTokens_eq_tokens, htrim, mark_append_cons hboundary hq.isClosed,
    Marked.tokens_append_dot hq.notMem_mark, expressionTokens_eq_tokens]

theorem trimStart_qualified {qualifiers : List Text} {expression : Text}
    (hqualifiers : ∀ q ∈ qualifiers, IsQualifier q)
    (hexpression : trimStart expression = expression) :
    trimStart (qualifiers.flatMap (· ++ ['.']) ++ expression) =
      qualifiers.flatMap (· ++ ['.']) ++ expression := by
  cases qualifiers with
  | nil => exact hexpression
  | cons q qualifiers =>
      have hdot : ¬isBlank '.' := by decide
      have hq := hqualifiers q List.mem_cons_self
      rw [List.flatMap_cons, List.append_assoc, List.append_assoc, List.singleton_append,
        trimStart_append_cons _ hdot, hq.trimStart]

/-- Qualifiers, each with its dot, in front of an expression never change its name. -/
theorem displayName_qualified (qualifiers : List Text) (expression : Text)
    (hqualifiers : ∀ q ∈ qualifiers, IsQualifier q)
    (hexpression : trimStart expression = expression) :
    displayName (qualifiers.flatMap (· ++ ['.']) ++ expression) = displayName expression := by
  induction qualifiers with
  | nil => rfl
  | cons q qualifiers ih =>
      obtain ⟨hq, hrest⟩ := List.forall_mem_cons.mp hqualifiers
      have hstart := trimStart_qualified hrest hexpression
      rw [List.flatMap_cons, List.append_assoc, List.append_assoc, List.singleton_append,
        displayName, expressionTokens_append_dot hq hstart, ← displayName, ih hrest]

/-- A bare name with a comma and a quoted name with a dot, a parenthesis and an apostrophe, in front
of a quoted name and an alias whose literal is never closed. -/
theorem displayName_qualified_quoted :
    let qualifiers := ["a,b".toList, quoted "c.d (e' \t".toList]
    let expression := "\"f g\".h 'i.j ) k".toList
    (∀ q ∈ qualifiers, IsQualifier q) ∧ trimStart expression = expression ∧
      displayName (qualifiers.flatMap (· ++ ['.']) ++ expression) = displayName expression ∧
      displayName expression = "h 'i.j ) k".toList := by
  intro qualifiers expression
  have hqualifiers : ∀ q ∈ qualifiers, IsQualifier q := by
    rw [List.forall_mem_cons, List.forall_mem_singleton]
    exact ⟨.inl (List.all_eq_true.mp (by decide)), .inr ⟨_, by decide, rfl⟩⟩
  have hexpression : trimStart expression = expression := by decide
  exact ⟨hqualifiers, hexpression,
    displayName_qualified qualifiers expression hqualifiers hexpression, by decide +kernel⟩

end SqlScript.Query
