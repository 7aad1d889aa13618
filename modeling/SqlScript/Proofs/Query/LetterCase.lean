import SqlScript.Proofs.Query.LeadingBlock
import SqlScript.Proofs.Text.LetterCase

/-!
Queries in upper case. No letter opens or closes anything, ends a token or separates expressions,
and words are compared without regard to case, so each step from a query to the display names of its
columns can be taken before or after the letters a to z are upper-cased. Without quoted names, the
lower case of the display names is all that is left of them.
-/

namespace SqlScript

open Text

namespace Nesting

theorem step_toUpper (n : Nesting) (c : Char) : n.step c.toUpper = n.step c := by
  have hliteral : c.toUpper = '\'' ↔ c = '\'' := toUpper_eq_iff (by decide)
  have hidentifier : c.toUpper = '"' ↔ c = '"' := toUpper_eq_iff (by decide)
  have hopen : c.toUpper = '(' ↔ c = '(' := toUpper_eq_iff (by decide)
  have hclose : c.toUpper = ')' ↔ c = ')' := toUpper_eq_iff (by decide)
  simp only [step, hliteral, hidentifier, hopen, hclose]

theorem advance_asciiUpper (n : Nesting) (s : Text) : n.advance (asciiUpper s) = n.advance s := by
  induction s generalizing n with
  | nil => rfl
  | cons c s ih =>
      change (n.step c.toUpper).advance (asciiUpper s) = (n.step c).advance s
      rw [step_toUpper, ih]

end Nesting

namespace Query

/-! ### The select list -/

theorem isBreak_toUpper (c : Char) : isBreak c.toUpper = isBreak c := apply_toUpper (by decide) c

theorem joinLines_asciiUpper (inRun : Bool) (s : Text) :
    joinLines inRun (asciiUpper s) = asciiUpper (joinLines inRun s) := by
  induction s generalizing inRun with
  | nil => rfl
  | cons c s ih =>
      change joinLines inRun (c.toUpper :: asciiUpper s) = _
      simp only [joinLines, isBreak_toUpper, ih]
      cases isBreak c <;> cases inRun <;> rfl

theorem flatten_asciiUpper (query : Text) :
    flatten (asciiUpper query) = asciiUpper (flatten query) := by
  rw [flatten, joinLines_asciiUpper, trim_asciiUpper, flatten]

theorem startsWithQueryWord_asciiUpper (query : Text) :
    startsWithQueryWord (asciiUpper query) = startsWithQueryWord query := by
  have hends (c : Char) : (!(isBlank c.toUpper || c.toUpper == '(' || c.toUpper == '*')) =
      !(isBlank c || c == '(' || c == '*') :=
    apply_toUpper (f := fun c => !(isBlank c || c == '(' || c == '*')) (by decide) c
  rw [startsWithQueryWord_eq, firstWord, trimStart_asciiUpper, takeWhile_asciiUpper hends,
    sameWord_asciiUpper_left, sameWord_asciiUpper_left, startsWithQueryWord_eq, firstWord]

theorem tokens_asciiUpper (s : Text) : tokens (asciiUpper s) = (tokens s).map asciiUpper := by
  induction s with
  | nil => rfl
  | cons c s ih =>
      have hspace : c.toUpper = ' ' ↔ c = ' ' := toUpper_eq_iff (by decide)
      change tokens (c.toUpper :: asciiUpper s) = _
      simp only [tokens, hspace, ih]
      split
      · rfl
      · cases tokens s <;> rfl

theorem filter_map_asciiUpper (parts : List Text) :
    (parts.map asciiUpper).filter (fun part => !part.isEmpty) =
      (parts.filter fun part => !part.isEmpty).map asciiUpper := by
  rw [List.filter_map]
  refine congrArg (List.map asciiUpper) (List.filter_congr fun part _ => ?_)
  rw [Function.comp_apply, asciiUpper, List.isEmpty_map]

theorem subTokens_asciiUpper (token : Text) :
    subTokens (asciiUpper token) = (subTokens token).map asciiUpper := by
  have hopen (c : Char) : (c.toUpper != '(') = (c != '(') :=
    apply_toUpper (f := (· != '(')) (by decide) c
  rw [subTokens, takeWhile_asciiUpper hopen, dropWhile_asciiUpper hopen, subTokens,
    ← filter_map_asciiUpper, List.map_cons, List.map_singleton]

theorem flatMap_subTokens_asciiUpper (ts : List Text) :
    (ts.map asciiUpper).flatMap subTokens = (ts.flatMap subTokens).map asciiUpper := by
  rw [List.flatMap_map, List.map_flatMap]
  exact List.flatMap_congr fun t _ => subTokens_asciiUpper t

/-- Words are compared without regard to case, and what is cut off around them has no letter. -/
theorem spells_asciiUpper (word token : Text) :
    spells word (asciiUpper token) = spells word token := by
  have hopen (c : Char) : (c.toUpper == '(') = (c == '(') :=
    apply_toUpper (f := (· == '(')) (by decide) c
  have hends (c : Char) : (c.toUpper == ')' || c.toUpper == ',' || c.toUpper == ';') =
      (c == ')' || c == ',' || c == ';') :=
    apply_toUpper (f := fun c => c == ')' || c == ',' || c == ';') (by decide) c
  rw [spells, trim_asciiUpper, dropWhile_asciiUpper hopen, dropEndWhile_asciiUpper hends,
    sameWord_asciiUpper_right, spells]

theorem afterSelect?_asciiUpper (n : Nesting) (ts : List Text) :
    afterSelect? n (ts.map asciiUpper) =
      (afterSelect? n ts).map fun (m, others) => (m, others.map asciiUpper) := by
  induction ts generalizing n with
  | nil => rfl
  | cons t ts ih =>
      have hhead : (asciiUpper t).head? = some '(' ↔ t.head? = some '(' := by
        rw [asciiUpper, List.head?_map]
        exact map_toUpper_eq_some_iff (by decide)
      simp only [List.map_cons, afterSelect?, spells_asciiUpper, ne_eq, hhead,
        Nesting.advance_asciiUpper, ih]
      split <;> rfl

/-- By induction on the tokens, of which each is either kept or ends the list. -/
theorem untilFrom_asciiUpper (waiting : Nat) (n : Nesting) (ts : List Text) :
    untilFrom waiting n (ts.map asciiUpper) = asciiUpper (untilFrom waiting n ts) := by
  induction ts generalizing waiting n with
  | nil => rfl
  | cons t ts ih =>
      simp only [List.map_cons, untilFrom, spells_asciiUpper, Nesting.advance_asciiUpper, ih]
      split
      · rw [asciiUpper_append]
      split
      · split
        · rfl
        · rw [asciiUpper_append]
      · rw [asciiUpper_append]

theorem selectList_asciiUpper (query : Text) :
    selectList (asciiUpper query) = asciiUpper (selectList query) := by
  rw [selectList, flatten_asciiUpper, tokens_asciiUpper, afterSelect?_asciiUpper, selectList]
  cases afterSelect? {} (tokens (flatten query)) with
  | none => rfl
  | some found =>
      obtain ⟨n, ts⟩ := found
      change untilFrom 0 n ((ts.map asciiUpper).flatMap subTokens) = _
      rw [flatMap_subTokens_asciiUpper, untilFrom_asciiUpper]

/-! ### Marked texts -/

namespace Enclosure

theorem isBoundary_toUpper (c : Option Char) : isBoundary (c.map Char.toUpper) = isBoundary c := by
  cases c with
  | none => rfl
  | some c => exact apply_toUpper (f := fun c => isBoundary (some c)) (by decide) c

theorem step_toUpper (e : Enclosure) (previous : Option Char) (c : Char) (next : Option Char) :
    e.step (previous.map Char.toUpper) c.toUpper (next.map Char.toUpper) =
      e.step previous c next := by
  have hquote : c.toUpper = '"' ↔ c = '"' := toUpper_eq_iff (by decide)
  have hliteral : c.toUpper = '\'' ↔ c = '\'' := toUpper_eq_iff (by decide)
  have hopen : c.toUpper = '(' ↔ c = '(' := toUpper_eq_iff (by decide)
  have hclose : c.toUpper = ')' ↔ c = ')' := toUpper_eq_iff (by decide)
  simp only [step, hquote, hliteral, hopen, hclose, isBoundary_toUpper]

end Enclosure

def Mark.asciiUpper (a : Mark) : Mark := { a with char := a.char.toUpper }

theorem Mark.asciiUpper_eq_iff {a : Mark} {separator : Char} (h : ¬separator.isAlpha) :
    a.asciiUpper = ⟨separator, true⟩ ↔ a = ⟨separator, true⟩ := by
  obtain ⟨c, top⟩ := a
  rw [asciiUpper, Mark.mk.injEq, Mark.mk.injEq, toUpper_eq_iff h]

namespace Marked

def asciiUpper (m : Marked) : Marked := m.map Mark.asciiUpper

theorem text_asciiUpper (m : Marked) : text m.asciiUpper = Text.asciiUpper (text m) := by
  rw [text, asciiUpper, List.map_map, text, Text.asciiUpper, List.map_map]
  rfl

theorem cut_asciiUpper {separator : Char} (h : ¬separator.isAlpha) (m : Marked) :
    cut separator m.asciiUpper = (cut separator m).map asciiUpper := by
  refine splitOnP_map (fun a => ?_) m
  rw [Bool.eq_iff_iff, beq_iff_eq, beq_iff_eq, Mark.asciiUpper_eq_iff h]

theorem afterLast_asciiUpper {separator : Char} (h : ¬separator.isAlpha) (m : Marked) :
    afterLast separator m.asciiUpper = (afterLast separator m).asciiUpper := by
  rw [afterLast, cut_asciiUpper h, List.getLast?_map, afterLast]
  cases (cut separator m).getLast? <;> rfl

end Marked

theorem markFrom_asciiUpper (previous : Option Char) (e : Enclosure) (s : Text) :
    markFrom (previous.map Char.toUpper) e (asciiUpper s) =
      Marked.asciiUpper (markFrom previous e s) := by
  induction s generalizing previous e with
  | nil => rfl
  | cons c s ih =>
      have hnext : (asciiUpper s).head? = s.head?.map Char.toUpper := List.head?_map
      have hmore := ih (some c) (e.step previous c s.head?)
      change markFrom (previous.map Char.toUpper) e (c.toUpper :: asciiUpper s) = _
      rw [markFrom, hnext, Enclosure.step_toUpper]
      exact congrArg _ hmore

theorem mark_asciiUpper (s : Text) : mark (asciiUpper s) = Marked.asciiUpper (mark s) :=
  markFrom_asciiUpper none {} s

/-! ### The display names -/

theorem expressions_asciiUpper (list : Text) :
    expressions (asciiUpper list) = (expressions list).map asciiUpper := by
  rw [expressions, trim_asciiUpper, mark_asciiUpper, Marked.cut_asciiUpper (by decide),
    List.map_map, expressions, ← filter_map_asciiUpper, List.map_map]
  refine congrArg _ (List.map_congr_left fun part _ => ?_)
  rw [Function.comp_apply, Marked.text_asciiUpper, trim_asciiUpper, Function.comp_apply]

theorem expressionTokens_asciiUpper (expression : Text) :
    expressionTokens (asciiUpper expression) = (expressionTokens expression).map asciiUpper := by
  rw [expressionTokens, trim_asciiUpper, mark_asciiUpper, Marked.cut_asciiUpper (by decide),
    List.map_map, expressionTokens, ← filter_map_asciiUpper, List.map_map]
  refine congrArg _ (List.map_congr_left fun part _ => ?_)
  rw [Function.comp_apply, Marked.afterLast_asciiUpper (by decide), Marked.text_asciiUpper,
    Function.comp_apply]

theorem continuesFormula_asciiUpper (token : Text) :
    continuesFormula (asciiUpper token) = continuesFormula token := by
  have hstart (c : Char) : (c.toUpper == '(' || c.toUpper == '|' || c.toUpper == '\'') =
      (c == '(' || c == '|' || c == '\'') :=
    apply_toUpper (f := fun c => c == '(' || c == '|' || c == '\'') (by decide) c
  cases token with
  | nil => rfl
  | cons c token => exact hstart c

theorem acceptToken_asciiUpper (name token : Text) :
    acceptToken (asciiUpper name) (asciiUpper token) = asciiUpper (acceptToken name token) := by
  simp only [acceptToken, sameWord_asciiUpper_right, continuesFormula_asciiUpper, ne_eq,
    asciiUpper_eq_nil_iff]
  split
  · rfl
  split
  · exact (asciiUpper_append name (' ' :: token)).symm
  · rfl

theorem displayName_asciiUpper (expression : Text) :
    displayName (asciiUpper expression) = asciiUpper (displayName expression) := by
  have hfold (ts : List Text) (name : Text) : (ts.map asciiUpper).foldl acceptToken
      (asciiUpper name) = asciiUpper (ts.foldl acceptToken name) := by
    induction ts generalizing name with
    | nil => rfl
    | cons t ts ih =>
        rw [List.map_cons, List.foldl_cons, acceptToken_asciiUpper, ih, List.foldl_cons]
  rw [displayName, expressionTokens_asciiUpper, displayName]
  exact hfold _ []

/-! ### Names without quotes -/

section

variable {c : Char}

theorem mem_flatten_iff (hc : isBlank c = false) {query : Text} :
    c ∈ flatten query ↔ c ∈ query := by
  have hmem (s : Text) : c ∈ ink s ↔ c ∈ s := by simp [ink, hc]
  rw [← hmem, flatten, ink_trim, ink_joinLines, hmem]

theorem afterSelect?_suffix {n m : Nesting} {ts others : List Text}
    (h : afterSelect? n ts = some (m, others)) : others <:+ ts := by
  induction ts generalizing n with
  | nil => exact absurd h.symm (Option.some_ne_none _)
  | cons t ts ih =>
      rw [afterSelect?] at h
      split at h
      · obtain ⟨-, rfl⟩ := Prod.mk.inj (Option.some.inj h)
        exact List.suffix_cons t ts
      · exact (ih h).trans (List.suffix_cons t ts)

theorem untilFrom_prefix_flatten (waiting : Nat) (n : Nesting) (ts : List Text) :
    untilFrom waiting n ts <+: ts.flatten := by
  induction ts generalizing waiting n with
  | nil => exact List.prefix_rfl
  | cons t ts ih =>
      rw [untilFrom, List.flatten_cons]
      split
      · exact (List.prefix_append_right_inj t).mpr (ih _ _)
      split
      · split
        · exact List.nil_prefix
        · exact (List.prefix_append_right_inj t).mpr (ih _ _)
      · exact (List.prefix_append_right_inj t).mpr (ih _ _)

theorem mem_of_mem_selectList {query : Text} (h : c ∈ selectList query) : c ∈ flatten query := by
  rw [selectList] at h
  split at h
  next n ts hselect =>
    have hlist := (untilFrom_prefix_flatten 0 n _).subset h
    rw [flatten_flatMap_subTokens] at hlist
    obtain ⟨t, ht, hc⟩ := List.mem_flatten.mp hlist
    rw [← flatten_tokens (flatten query)]
    exact List.mem_flatten.mpr ⟨t, (afterSelect?_suffix hselect).subset ht, hc⟩
  next => exact absurd h List.not_mem_nil

theorem Marked.mem_of_mem_cut {separator : Char} {m part : Marked} (hpart : part ∈ cut separator m)
    (h : c ∈ text part) : c ∈ text m := by
  obtain ⟨a, ha, rfl⟩ := List.mem_map.mp h
  have hall : a ∈ (cut separator m).flatten := List.mem_flatten.mpr ⟨part, hpart, ha⟩
  rw [flatten_cut] at hall
  exact List.mem_map_of_mem (List.mem_of_mem_filter hall)

theorem Marked.mem_of_mem_afterLast {separator : Char} {m : Marked}
    (h : c ∈ text (afterLast separator m)) : c ∈ text m := by
  rw [afterLast] at h
  cases hlast : (cut separator m).getLast? with
  | none =>
      rw [hlast] at h
      exact absurd h List.not_mem_nil
  | some part =>
      rw [hlast] at h
      exact mem_of_mem_cut (List.mem_of_getLast? hlast) h

theorem notMem_of_mem_expressions (hc : isBlank c = false) {list e : Text} (h : c ∉ list)
    (he : e ∈ expressions list) : c ∉ e := by
  obtain ⟨part, hpart, rfl⟩ := List.mem_map.mp (List.mem_of_mem_filter he)
  rw [mem_trim_iff hc]
  intro hmem
  have hlist := Marked.mem_of_mem_cut hpart hmem
  rw [text_mark, mem_trim_iff hc] at hlist
  exact h hlist

theorem notMem_of_mem_expressionTokens (hc : isBlank c = false) {expression t : Text}
    (h : c ∉ expression) (ht : t ∈ expressionTokens expression) : c ∉ t := by
  obtain ⟨part, hpart, rfl⟩ := List.mem_map.mp (List.mem_of_mem_filter ht)
  intro hmem
  have hexpression := Marked.mem_of_mem_cut hpart (Marked.mem_of_mem_afterLast hmem)
  rw [text_mark, mem_trim_iff hc] at hexpression
  exact h hexpression

theorem notMem_acceptToken (hspace : c ≠ ' ') {name token : Text} (hname : c ∉ name)
    (htoken : c ∉ token) : c ∉ acceptToken name token := by
  rw [acceptToken]
  split
  · exact hname
  split
  · simp [hspace, hname, htoken]
  · exact htoken

/-- A display name is made of characters of its expression and spaces. -/
theorem notMem_displayName (hc : isBlank c = false) {expression : Text} (h : c ∉ expression) :
    c ∉ displayName expression := by
  have hspace : c ≠ ' ' := by
    rintro rfl
    exact absurd hc (by decide)
  have hfold (ts : List Text) (hts : ∀ t ∈ ts, c ∉ t) (name : Text) (hname : c ∉ name) :
      c ∉ ts.foldl acceptToken name := by
    induction ts generalizing name with
    | nil => exact hname
    | cons t ts ih =>
        obtain ⟨ht, hmore⟩ := List.forall_mem_cons.mp hts
        exact ih hmore _ (notMem_acceptToken hspace hname ht)
  exact hfold _ (fun t ht => notMem_of_mem_expressionTokens hc h ht) [] List.not_mem_nil

end

/-! ### The columns -/

theorem unquoted?_eq_none {display : Text} (h : '"' ∉ display) :
    Naming.unquoted? display = none := by
  cases display with
  | nil => rfl
  | cons c rest =>
      rw [List.mem_cons, not_or] at h
      exact Naming.unquoted?_cons_of_ne (Ne.symm h.1) rest

/-- Without quotes only the lower case of a display name shows in its column name. -/
theorem columnName?_asciiUpper (functionName : Bool) {display : Text} (h : '"' ∉ display) :
    (⟨true, functionName⟩ : Naming).columnName? (asciiUpper display) =
      (⟨true, functionName⟩ : Naming).columnName? display := by
  have hupper : '"' ∉ asciiUpper display := by
    intro hmem
    obtain ⟨c, hc, hquote⟩ := List.mem_map.mp hmem
    rw [toUpper_eq_iff (by decide)] at hquote
    exact h (hquote ▸ hc)
  simp only [Naming.columnName?, asciiUpper_eq_nil_iff, unquoted?_eq_none h,
    unquoted?_eq_none hupper, if_true, lower_asciiUpper]

theorem columnsOfList_asciiUpper (functionName : Bool) {list : Text} (h : '"' ∉ list) :
    columnsOfList ⟨true, functionName⟩ (asciiUpper list) =
      columnsOfList ⟨true, functionName⟩ list := by
  rw [columnsOfList, expressions_asciiUpper, List.filterMap_map, columnsOfList]
  refine List.filterMap_congr fun e he => ?_
  have hdisplay := notMem_displayName (by decide) (notMem_of_mem_expressions (by decide) h he)
  rw [Function.comp_apply, displayName_asciiUpper, columnName?_asciiUpper functionName hdisplay]

/-- If names are put in lower case, a query without quoted names has the same columns whichever of
its letters from a to z are in upper case, or is refused either way. -/
theorem columns_asciiUpper (functionName : Bool) (query : Text) (h : '"' ∉ query) :
    (columns ⟨true, functionName⟩ (asciiUpper query)).toOption =
      (columns ⟨true, functionName⟩ query).toOption := by
  have hlist : '"' ∉ selectList query :=
    fun hmem => h ((mem_flatten_iff (by decide)).mp (mem_of_mem_selectList hmem))
  rw [columns, startsWithQueryWord_asciiUpper, selectList_asciiUpper,
    columnsOfList_asciiUpper functionName hlist, columns]
  split <;> rfl

/-- A formula, a literal behind a qualified name, and an alias behind a nested query. -/
theorem columns_asciiUpper_forms :
    let query := "select Avg(x), T.b || 'It', (Select 1 From u) As Z fRom t".toList
    '"' ∉ query ∧
      (columns ⟨true, true⟩ (asciiUpper query)).toOption =
        (columns ⟨true, true⟩ query).toOption ∧
      columns ⟨true, true⟩ query = .ok ["avg", "b || 'it'", "z"] ∧
      columns ⟨false, true⟩ query ≠ columns ⟨false, true⟩ (asciiUpper query) := by
  intro query
  have hquote : '"' ∉ query := by decide
  exact ⟨hquote, columns_asciiUpper true query hquote, by decide +kernel, by decide +kernel⟩

end Query

end SqlScript
