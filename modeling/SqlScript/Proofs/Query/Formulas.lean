import SqlScript.Proofs.Query.Qualifiers

/-!
The names of formulas without an alias. Whatever stands in the parentheses of a call ends no token,
as long as it closes what it opens, so the call is one token, or two if spaces stand in front of the
parenthesis. The second is put behind the first again, and the function is what is in front of it.
-/

namespace SqlScript

open Text

namespace Nesting

def deeper (n : Nesting) : Nesting := { n with depth := n.depth + 1 }

theorem step_deeper (n : Nesting) (c : Char) : n.deeper.step c = (n.step c).deeper := by
  have hclose : n.depth + 1 - 1 = n.depth - 1 + 1 := by omega
  simp only [step, apply_ite deeper]
  simp only [deeper, isQuoted, hclose]
  rfl

theorem advance_deeper (n : Nesting) (s : Text) : n.deeper.advance s = (n.advance s).deeper := by
  induction s generalizing n with
  | nil => rfl
  | cons c s ih => rw [advance_cons, step_deeper, ih, advance_cons]

theorem everywhere_deeper {P : Nesting → Char → Prop} {n : Nesting} {s : Text} :
    n.deeper.Everywhere P s ↔ n.Everywhere (fun n c => P n.deeper c) s := by
  induction s generalizing n with
  | nil => exact Iff.rfl
  | cons c s ih => rw [Everywhere, step_deeper, ih, Everywhere]

theorem step_of_isNameChar (n : Nesting) {c : Char} (hc : Query.isNameChar c) : n.step c = n := by
  obtain ⟨-, -, hliteral, hquote, hopen, hclose⟩ := Query.isNameChar_iff.mp hc
  simp [step, hliteral, hquote, hopen, hclose]

theorem advance_of_isNameChar (n : Nesting) {s : Text} (h : ∀ c ∈ s, Query.isNameChar c) :
    n.advance s = n := by
  induction s with
  | nil => rfl
  | cons c s ih =>
      rw [List.forall_mem_cons] at h
      rw [advance_cons, step_of_isNameChar n h.1, ih h.2]

end Nesting

namespace Query

def parenthesized (argument : Text) : Text := '(' :: (argument ++ [')'])

/-- A call of a function, with some spaces in front of the parenthesis. -/
def formula (function : Text) (spaces : Nat) (argument : Text) : Text :=
  function ++ (List.replicate spaces ' ' ++ parenthesized argument)

/-- Whether a text can be the name of a function. -/
structure IsFunctionName (function : Text) : Prop where
  ne_nil : function ≠ []
  plain : ∀ c ∈ function, isNameChar c
  /-- The word `as` names nothing. -/
  notAs : ¬sameWord "as" function

/-- Whether a text can stand in the parentheses of a call. -/
structure IsArgument (argument : Text) : Prop where
  /-- Its literals are closed, and its parentheses outside literals balance. -/
  closed : ({} : Nesting).advance argument = {}
  quotes : QuotesInLiterals {} argument
  /-- None of its parentheses outside literals closes one in front of it. -/
  depth : ({} : Nesting).Everywhere (fun n _ => 0 ≤ n.depth) argument

instance (function : Text) : Decidable (IsFunctionName function) :=
  @decidable_of_iff _ (_ ∧ _ ∧ _)
    ⟨fun ⟨h₁, h₂, h₃⟩ => ⟨h₁, h₂, h₃⟩, fun ⟨h₁, h₂, h₃⟩ => ⟨h₁, h₂, h₃⟩⟩
    (@instDecidableAnd _ _ _ (@instDecidableAnd _ _ (List.decidableBAll _ function) _))

instance (argument : Text) : Decidable (IsArgument argument) :=
  decidable_of_iff (_ ∧ _ ∧ _)
    ⟨fun ⟨h₁, h₂, h₃⟩ => ⟨h₁, h₂, h₃⟩, fun ⟨h₁, h₂, h₃⟩ => ⟨h₁, h₂, h₃⟩⟩

/-! ### The parentheses of a call -/

theorem step_paren_start : ({} : Nesting).step '(' = ({} : Nesting).deeper := by decide

namespace IsArgument

variable {argument : Text}

theorem quotes_parenthesized (h : IsArgument argument) :
    QuotesInLiterals {} (parenthesized argument) := by
  refine ⟨by decide, ?_⟩
  rw [step_paren_start, Nesting.everywhere_append, Nesting.everywhere_deeper]
  exact ⟨h.quotes, fun hquote => absurd hquote (by decide), trivial⟩

/-- No separator within the parentheses stands at the top level. -/
theorem notMem_mark_parenthesized (h : IsArgument argument) {separator : Char}
    (hne : separator ≠ '(') : ⟨separator, true⟩ ∉ ({} : Nesting).mark (parenthesized argument) := by
  rw [parenthesized, Nesting.mark, List.mem_cons, not_or, step_paren_start]
  refine ⟨fun heq => hne (Mark.mk.inj heq).1, Nesting.notMem_mark_of_everywhere ?_⟩
  rw [Nesting.everywhere_append, Nesting.everywhere_deeper, Nesting.advance_deeper, h.closed]
  refine ⟨Nesting.Everywhere.mono (fun n c hdepth _ => ?_) h.depth, fun _ => by decide, trivial⟩
  have hdeep : n.deeper.depth ≠ 0 := by
    change n.depth + 1 ≠ 0
    omega
  simp [Nesting.isTop, hdeep]

end IsArgument

/-! ### The name of a function -/

namespace IsFunctionName

variable {function : Text}

theorem quotes (h : IsFunctionName function) : QuotesInLiterals {} function := by
  refine Nesting.everywhere_of_forall (fun c hc _ hquote => ?_) _
  exact absurd hquote (ne_of_isNameChar (h.plain c hc) (by decide))

theorem notMem_mark (h : IsFunctionName function) {separator : Char}
    (hseparator : isNameChar separator = false) :
    ⟨separator, true⟩ ∉ ({} : Nesting).mark function :=
  fun hmem => notMem_of_isNameChar hseparator h.plain (Nesting.mem_of_mem_mark hmem)

theorem not_isBlankText (h : IsFunctionName function) : ¬IsBlankText function := by
  obtain ⟨c, rest, rfl⟩ := List.exists_cons_of_ne_nil h.ne_nil
  intro hblank
  have hc := (isNameChar_iff.mp (h.plain c List.mem_cons_self)).1
  rw [hblank c List.mem_cons_self] at hc
  exact Bool.false_ne_true hc.symm

theorem trim (h : IsFunctionName function) : trim function = function := by
  obtain ⟨init, c, rfl⟩ := (List.eq_nil_or_concat function).resolve_left h.ne_nil
  rw [List.concat_eq_append] at h ⊢
  have hc := (isNameChar_iff.mp (h.plain c (by simp))).1
  rw [Text.trim, trimStart_of_isNameChar h.plain, trimEnd_append_cons _ (by simp [hc]), trimEnd_nil]

end IsFunctionName

/-! ### The tokens of a formula -/

theorem Marked.tokens_replicate_append (spaces : Nat) (m : Marked) :
    tokens (List.replicate spaces ⟨' ', true⟩ ++ m) = tokens m := by
  induction spaces with
  | zero => rfl
  | succ spaces ih =>
      rw [List.replicate_succ, List.cons_append, ← List.nil_append (_ :: _), tokens_append_cons,
        tokens_nil, ih, List.nil_append]

theorem mark_replicate_space (spaces : Nat) :
    ({} : Nesting).mark (List.replicate spaces ' ') = List.replicate spaces ⟨' ', true⟩ := by
  induction spaces with
  | zero => rfl
  | succ spaces ih =>
      rw [List.replicate_succ, Nesting.mark, Nesting.step_space, ih, List.replicate_succ]
      rfl

theorem isBlankText_replicate_space (spaces : Nat) : IsBlankText (List.replicate spaces ' ') :=
  isBlankText_of_spaces fun _ => List.eq_of_mem_replicate

theorem not_sameWord_of_mem_paren {token : Text} (h : '(' ∈ token) : ¬sameWord "as" token := by
  intro hsame
  have has : IsWord "as" := by decide
  exact absurd (has.not_isDelimiter hsame '(' h) (by decide)

section

variable {function argument : Text} (hfunction : IsFunctionName function)
  (hargument : IsArgument argument)

include hfunction

theorem trim_formula (spaces : Nat) :
    trim (formula function spaces argument) = formula function spaces argument := by
  have hparen : ¬isBlank ')' := by decide
  have hstart :
      trimStart (formula function spaces argument) = formula function spaces argument := by
    rw [formula, trimStart_append_of_not_blank hfunction.not_isBlankText,
      trimStart_of_isNameChar hfunction.plain]
  have hend : formula function spaces argument =
      function ++ (List.replicate spaces ' ' ++ '(' :: argument) ++ [')'] := by
    simp [formula, parenthesized]
  rw [trim, hstart, hend, trimEnd_append_cons _ hparen, trimEnd_nil]

theorem mark_formula (spaces : Nat) :
    ({} : Nesting).mark (formula function spaces argument) = ({} : Nesting).mark function ++
      (List.replicate spaces ⟨' ', true⟩ ++ ({} : Nesting).mark (parenthesized argument)) := by
  rw [formula, Nesting.mark_append, Nesting.advance_of_isNameChar _ hfunction.plain,
    Nesting.mark_append, mark_replicate_space,
    Nesting.advance_of_isBlankText _ (isBlankText_replicate_space _)]

include hargument

theorem namesFit_formula (spaces : Nat) (separators : List Char) :
    NamesFit separators (formula function spaces argument) := by
  have hspaces : QuotesInLiterals {} (List.replicate spaces ' ') := by
    refine Nesting.everywhere_of_forall (fun c hc _ hquote => ?_) _
    rw [List.eq_of_mem_replicate hc] at hquote
    exact absurd hquote (by decide)
  have hquotes : QuotesInLiterals {} (formula function spaces argument) := by
    rw [formula, QuotesInLiterals, Nesting.everywhere_append, Nesting.everywhere_append,
      Nesting.advance_of_isNameChar _ hfunction.plain,
      Nesting.advance_of_isBlankText _ (isBlankText_replicate_space _)]
    exact ⟨hfunction.quotes, hspaces, hargument.quotes_parenthesized⟩
  rw [← List.append_nil (formula _ _ _)]
  exact namesFitFrom_append rfl hquotes trivial

/-- A formula is one token, or two if spaces stand in front of its parenthesis. -/
theorem expressionTokens_formula (spaces : Nat) :
    expressionTokens (formula function spaces argument) =
      if spaces = 0 then [function ++ parenthesized argument]
      else [function, parenthesized argument] := by
  have htrim : trim (formula function spaces argument) = formula function spaces argument :=
    trim_formula hfunction spaces
  have hfits : NamesFit [' ', '.'] (trim (formula function spaces argument)) := by
    rw [htrim]
    exact namesFit_formula hfunction hargument spaces _
  have hword : ⟨' ', true⟩ ∉ ({} : Nesting).mark function ∧
      ⟨'.', true⟩ ∉ ({} : Nesting).mark function :=
    ⟨hfunction.notMem_mark (by decide), hfunction.notMem_mark (by decide)⟩
  have hcall : ⟨' ', true⟩ ∉ ({} : Nesting).mark (parenthesized argument) ∧
      ⟨'.', true⟩ ∉ ({} : Nesting).mark (parenthesized argument) :=
    ⟨hargument.notMem_mark_parenthesized (by decide),
      hargument.notMem_mark_parenthesized (by decide)⟩
  rw [expressionTokens_eq _ hfits, htrim, mark_formula hfunction]
  cases spaces with
  | zero =>
      rw [List.replicate_zero, List.nil_append, Marked.tokens_of_notMem, Marked.text_append,
        Nesting.text_mark, Nesting.text_mark, if_pos rfl]
      · simp [parenthesized]
      · simp [hword.1, hcall.1]
      · simp [hword.2, hcall.2]
  | succ spaces =>
      rw [List.replicate_succ, List.cons_append, Marked.tokens_append_cons,
        Marked.tokens_replicate_append,
        Marked.tokens_of_notMem (by simpa using hfunction.ne_nil) hword.1 hword.2,
        Marked.tokens_of_notMem (by simp [parenthesized]) hcall.1 hcall.2, Nesting.text_mark,
        Nesting.text_mark, if_neg (Nat.succ_ne_zero spaces), List.singleton_append]

/-! ### The name of a formula -/

/-- The name of a formula is the formula itself, with at most one space in it. -/
theorem displayName_eq_formula (spaces : Nat) :
    displayName (formula function spaces argument) =
      formula function (min spaces 1) argument := by
  have hname : acceptToken [] function = function := by
    rw [acceptToken, if_neg hfunction.notAs, if_neg fun h => h.2 rfl]
  rw [displayName, expressionTokens_formula hfunction hargument]
  cases spaces with
  | zero =>
      have has : ¬sameWord "as" (function ++ parenthesized argument) :=
        not_sameWord_of_mem_paren (List.mem_append_right _ List.mem_cons_self)
      rw [if_pos rfl, List.foldl_cons, List.foldl_nil, acceptToken, if_neg has,
        if_neg fun h => h.2 rfl]
      rfl
  | succ spaces =>
      have has : ¬sameWord "as" (parenthesized argument) :=
        not_sameWord_of_mem_paren List.mem_cons_self
      have hone : min (spaces + 1) 1 = 1 := by omega
      rw [if_neg (Nat.succ_ne_zero spaces), List.foldl_cons, hname, List.foldl_cons,
        List.foldl_nil, acceptToken, if_neg has, if_pos ⟨rfl, hfunction.ne_nil⟩, hone]
      rfl

end

section

variable {function argument : Text} (hfunction : IsFunctionName function)

include hfunction

theorem functionOf?_formula (spaces : Nat) :
    Naming.functionOf? (formula function spaces argument) = some function := by
  have hpaddedName : ∀ c ∈ function ++ List.replicate spaces ' ', (c != '(') = true := by
    intro c hc
    rcases List.mem_append.mp hc with hc | hc
    · exact bne_iff_ne.mpr (ne_of_isNameChar (hfunction.plain c hc) (by decide))
    · rw [List.eq_of_mem_replicate hc]
      decide
  have hclosed : (parenthesized argument).contains ')' = true := by simp [parenthesized]
  rw [Naming.functionOf?, formula, ← List.append_assoc, List.dropWhile_append_of_pos hpaddedName,
    List.takeWhile_append_of_pos hpaddedName]
  have hdrop : (parenthesized argument).dropWhile (· != '(') = parenthesized argument := rfl
  have htake : (parenthesized argument).takeWhile (· != '(') = [] := rfl
  rw [hdrop, htake, if_pos hclosed, List.append_nil,
    trim_append_right _ (isBlankText_replicate_space _), hfunction.trim]
  obtain ⟨c, rest, rfl⟩ := List.exists_cons_of_ne_nil hfunction.ne_nil
  rfl

/-- In its own case a formula names its column by its function or by itself. -/
theorem columnName?_formula (functionName : Bool) (spaces : Nat) :
    Naming.columnName? { lowercase := false, functionName := functionName }
        (formula function spaces argument) =
      some (if functionName then function else formula function spaces argument) := by
  have hfunctionOf : Naming.functionOf? (formula function spaces argument) = some function :=
    functionOf?_formula hfunction spaces
  obtain ⟨c, rest, rfl⟩ := List.exists_cons_of_ne_nil hfunction.ne_nil
  have hne : formula (c :: rest) spaces argument ≠ [] := List.cons_ne_nil _ _
  have hquote : c ≠ '"' := ne_of_isNameChar (hfunction.plain c List.mem_cons_self) (by decide)
  have hunquoted : Naming.unquoted? (formula (c :: rest) spaces argument) = none :=
    Naming.unquoted?_cons_of_ne hquote _
  rw [Naming.columnName?, if_neg hne, hunquoted]
  cases functionName with
  | true => simp only [hfunctionOf, if_true, Bool.false_eq_true, if_false, Option.getD_some]
  | false => rfl

end

/-- A formula without an alias keeps its signature, whatever its argument is, with one space in
front of the parenthesis if there were any. By its function alone it is named by what is in front of
them. -/
theorem displayName_formula {function argument : Text} (hfunction : IsFunctionName function)
    (hargument : IsArgument argument) (spaces : Nat) :
    displayName (formula function spaces argument) = formula function (min spaces 1) argument ∧
      Naming.columnName? { lowercase := false, functionName := true }
          (displayName (formula function spaces argument)) = some function ∧
      Naming.columnName? { lowercase := false, functionName := false }
          (displayName (formula function spaces argument)) =
        some (formula function (min spaces 1) argument) := by
  rw [displayName_eq_formula hfunction hargument]
  exact ⟨rfl, columnName?_formula hfunction true _, columnName?_formula hfunction false _⟩

/-- An argument with a space, a dot, a call of its own and a literal with a parenthesis, a double
quote and an apostrophe, behind a name that could continue a formula. -/
theorem displayName_formula_literal :
    let function := "|Max,x".toList
    let argument := "a.b, g( c ), ')\" ''(' ".toList
    IsFunctionName function ∧ IsArgument argument ∧
      displayName (formula function 3 argument) = formula function 1 argument ∧
      Naming.columnName? { lowercase := false, functionName := true }
          (displayName (formula function 3 argument)) = some function ∧
      Naming.columnName? { lowercase := false, functionName := false }
          (displayName (formula function 3 argument)) = some (formula function 1 argument) := by
  intro function argument
  have hfunction : IsFunctionName function := by decide +kernel
  have hargument : IsArgument argument := by decide +kernel
  exact ⟨hfunction, hargument, displayName_formula hfunction hargument 3⟩

end Query

end SqlScript
