import SqlScript.Proofs.Scan.Cursor
import SqlScript.Proofs.Scan.Step
import Mathlib.Order.Bounds.Basic

/-!
Where the statements of a script begin and end, told from the numbers of the lines. A statement
begins with the first line behind the one before it that does not only separate. It ends with that
line if the line is a statement of its own, else with the first line that closes it.
-/

namespace SqlScript

open Text Delimiters

def LineAt (lines : List Text) (n : Nat) (line : Text) : Prop :=
  0 < n ∧ lines[n - 1]? = some line

theorem LineAt.unique {lines : List Text} {n : Nat} {line other : Text} (h : LineAt lines n line)
    (h' : LineAt lines n other) : line = other :=
  Option.some.inj (h.2.symm.trans h'.2)

theorem LineAt.le_length {lines : List Text} {n : Nat} {line : Text} (h : LineAt lines n line) :
    n ≤ lines.length := by
  obtain ⟨hlt, -⟩ := List.getElem?_eq_some_iff.mp h.2
  omega

theorem lineAt_of_drop {lines rest : List Text} {number : Nat} {line : Text}
    (h : lines.drop number = line :: rest) : LineAt lines (number + 1) line := by
  refine ⟨Nat.succ_pos number, ?_⟩
  rw [Nat.add_sub_cancel, ← List.head?_drop, h]
  rfl

namespace Dialect

/-- The kind of a statement, by its first line without the blanks around it. -/
def firstKind (d : Dialect) (first : Text) : Kind :=
  if d.delimiters.isComment first then .comment
  else if isCallEscape first then .callable
  else d.keywords.classify first

/-- Whether a first line, without the blanks around it, is the whole statement. -/
def IsWhole (d : Dialect) (first : Text) : Prop :=
  d.delimiters.isComment first ∨ isCallEscape first ∨
    (d.firstKind first).category = .command ∨ (d.firstKind first).category = .comment

/-- Whether a line closes a statement of the category; the first line of the statement is not
compared with whole lines. -/
def Closes (d : Dialect) (category : Category) (isFirst : Prop) (line : Text) : Prop :=
  ¬isFirst ∧ trim line ∈ d.delimiters.closingLines category ∨
    trim line ≠ [] ∧ ∃ t ∈ d.delimiters.closingEnds category, t ≠ [] ∧ t <:+ trim line

/-- The numbers of the lines behind line `previous` that can begin a statement. -/
def openings (d : Dialect) (lines : List Text) (previous : Nat) : Set Nat :=
  {n | previous < n ∧ ∃ line, LineAt lines n line ∧ ¬d.Separates line}

/-- The numbers of the lines that close a statement of the category, if it begins with line
`first`. -/
def closings (d : Dialect) (lines : List Text) (category : Category) (first : Nat) : Set Nat :=
  {n | first ≤ n ∧ ∃ line, LineAt lines n line ∧ d.Closes category (n = first) line}

/-- Whether a statement that can have several lines begins with line `first`, where the statement
before it ends with line `previous`. -/
structure Begins (d : Dialect) (lines : List Text) (previous first : Nat) (kind : Kind) : Prop where
  opening : IsLeast (d.openings lines previous) first
  spanning : ∃ line, LineAt lines first line ∧ kind = d.firstKind (trim line) ∧
    ¬d.IsWhole (trim line)

structure Occupies (d : Dialect) (script : Reading) (previous : Nat) (s : Statement)
    (last : Nat) : Prop where
  opening : IsLeast (d.openings script.lines previous) s.startLine
  ending : ∃ line, LineAt script.lines s.startLine line ∧ s.kind = d.firstKind (trim line) ∧
    (d.IsWhole (trim line) ∧ last = s.startLine ∨
      ¬d.IsWhole (trim line) ∧
        (IsLeast (d.closings script.lines s.kind.category s.startLine) last ∨
          d.closings script.lines s.kind.category s.startLine = ∅ ∧
            script.fault = none ∧ last = script.lines.length))

/-- Whether statements, each with the number of its last line, are those behind line `previous`.
Behind them no line begins a statement, unless it is one that a fault keeps from its end. -/
def Bounds (d : Dialect) (script : Reading) : Nat → List (Statement × Nat) → Prop
  | previous, [] => d.openings script.lines previous = ∅ ∨
      script.fault ≠ none ∧ ∃ first kind, d.Begins script.lines previous first kind ∧
        d.closings script.lines kind.category first = ∅
  | previous, (s, last) :: more => d.Occupies script previous s last ∧ Bounds d script last more

/-- Where a scan stands behind line `number`, when the last statement ended with line `previous`. -/
def Stands (d : Dialect) (lines : List Text) (previous number : Nat) : Option Draft → Prop
  | none => previous ≤ number ∧ ∀ n ∈ d.openings lines previous, number < n
  | some draft => d.Begins lines previous draft.startLine draft.kind ∧
      draft.startLine ≤ number ∧
      ∀ n ∈ d.closings lines draft.kind.category draft.startLine, number < n

/-- Where a scan stands by what line `number` made of it. -/
def Reaches (d : Dialect) (script : Reading) (previous number : Nat) : Progress → Prop
  | .idle => d.Stands script.lines previous number none
  | .pending draft => d.Stands script.lines previous number (some draft)
  | .closed s => d.Occupies script previous s number

variable {d : Dialect} {script : Reading} {previous number : Nat} {line : Text}

theorem closes_iff {category : Category} {isFirst : Prop} : d.Closes category isFirst line ↔
    ¬isFirst ∧ trim line ∈ d.delimiters.closingLines category ∨ ¬d.HasNoEnd category line := by
  have hend : (trim line ≠ [] ∧ ∃ t ∈ d.delimiters.closingEnds category, t ≠ [] ∧
      t <:+ trim line) ↔ ¬d.HasNoEnd category line := by
    simp only [HasNoEnd, not_forall, not_not, exists_prop]
    refine ⟨And.right, fun h => ⟨fun hnil => ?_, h⟩⟩
    obtain ⟨t, -, hne, hsuffix⟩ := h
    rw [hnil] at hsuffix
    exact hne (List.suffix_nil.mp hsuffix)
  rw [Closes, hend]

theorem kindAt_eq_firstKind (h : d.Classifies line) : d.kindAt line = d.firstKind (trim line) := by
  simp [kindAt, firstKind, h.notComment, h.notCallEscape]

/-! ### One line -/

theorem stands_of_separates (h : d.Stands script.lines previous number none)
    (hline : LineAt script.lines (number + 1) line) (hsep : d.Separates line) :
    d.Stands script.lines previous (number + 1) none := by
  obtain ⟨hle, hnone⟩ := h
  refine ⟨Nat.le_succ_of_le hle, fun n hn => ?_⟩
  have hlt := hnone n hn
  obtain ⟨-, other, hother, hbegins⟩ := hn
  have hne : n ≠ number + 1 := by
    rintro rfl
    exact hbegins (hline.unique hother ▸ hsep)
  omega

theorem isLeast_openings (h : d.Stands script.lines previous number none)
    (hline : LineAt script.lines (number + 1) line) (hbegins : ¬d.Separates line) :
    IsLeast (d.openings script.lines previous) (number + 1) :=
  ⟨⟨Nat.lt_succ_of_le h.1, line, hline, hbegins⟩, fun n hn => h.2 n hn⟩

theorem occupies_of_isWhole (h : d.Stands script.lines previous number none)
    (hline : LineAt script.lines (number + 1) line) (hbegins : ¬d.Separates line)
    (hwhole : d.IsWhole (trim line)) (text : Text) :
    d.Occupies script previous ⟨d.firstKind (trim line), text, number + 1⟩ (number + 1) where
  opening := isLeast_openings h hline hbegins
  ending := ⟨line, hline, rfl, .inl ⟨hwhole, rfl⟩⟩

theorem Begins.occupies {s : Statement} {last : Nat}
    (h : d.Begins script.lines previous s.startLine s.kind)
    (hlast : IsLeast (d.closings script.lines s.kind.category s.startLine) last ∨
      d.closings script.lines s.kind.category s.startLine = ∅ ∧
        script.fault = none ∧ last = script.lines.length) :
    d.Occupies script previous s last := by
  obtain ⟨first, hfirst, hkind, hwhole⟩ := h.spanning
  exact ⟨h.opening, first, hfirst, hkind, .inr ⟨hwhole, hlast⟩⟩

theorem reaches_append {draft : Draft}
    (hbegins : d.Begins script.lines previous draft.startLine draft.kind)
    (hle : draft.startLine ≤ number + 1)
    (hopen : ∀ n ∈ d.closings script.lines draft.kind.category draft.startLine, number < n)
    (hline : LineAt script.lines (number + 1) line)
    (hnot : number + 1 ≠ draft.startLine →
      trim line ∉ d.delimiters.closingLines draft.kind.category) :
    d.Reaches script previous (number + 1) (d.append draft line) := by
  cases hend : longestEnd? (d.delimiters.closingEnds draft.kind.category) (trim line) with
  | none =>
      have hnoEnd : d.HasNoEnd draft.kind.category line := longestEnd?_eq_none_iff.mp hend
      rw [append_of_hasNoEnd draft hnoEnd]
      refine ⟨hbegins, hle, fun n hn => ?_⟩
      have hlt := hopen n hn
      obtain ⟨-, other, hother, hcloses⟩ := hn
      have hne : n ≠ number + 1 := by
        rintro rfl
        rw [← hline.unique hother, closes_iff] at hcloses
        rcases hcloses with ⟨hfurther, hclosing⟩ | hends
        · exact hnot hfurther hclosing
        · exact hends hnoEnd
      omega
  | some t =>
      have ht := longestEnd?_eq_some_iff.mp hend
      rw [append_of_isLongestEnd draft ht]
      have hcloses : d.Closes draft.kind.category (number + 1 = draft.startLine) line :=
        closes_iff.mpr (.inr fun hnoEnd => hnoEnd t ht.mem ht.ne_nil ht.suffix)
      have hleast : IsLeast (d.closings script.lines draft.kind.category draft.startLine)
          (number + 1) := ⟨⟨hle, line, hline, hcloses⟩, fun n hn => hopen n hn⟩
      exact Begins.occupies hbegins (.inl hleast)

theorem reaches_start (h : d.Stands script.lines previous number none)
    (hline : LineAt script.lines (number + 1) line) :
    d.Reaches script previous (number + 1) (d.start (number + 1) line) := by
  by_cases hsep : d.Separates line
  · rw [start_of_separates _ hsep]
    exact stands_of_separates h hline hsep
  by_cases hcomment : d.delimiters.isComment (trim line) = true
  · have hkind : d.firstKind (trim line) = .comment := if_pos hcomment
    rw [start_of_comment _ hsep hcomment, ← hkind]
    exact occupies_of_isWhole h hline hsep (.inl hcomment) _
  rw [Bool.not_eq_true] at hcomment
  by_cases hescape : isCallEscape (trim line) = true
  · have hkind : d.firstKind (trim line) = .callable := by simp [firstKind, hcomment, hescape]
    rw [start_of_callEscape _ hsep hcomment hescape, ← hkind]
    exact occupies_of_isWhole h hline hsep (.inr (.inl hescape)) _
  rw [Bool.not_eq_true] at hescape
  have hfirst : d.Classifies line := ⟨hsep, hcomment, hescape⟩
  have hkind := kindAt_eq_firstKind hfirst
  by_cases hwhole : d.IsWhole (trim line)
  · have hcategory : (d.kindAt line).category = .command ∨
        (d.kindAt line).category = .comment := by
      rw [hkind]
      simpa [IsWhole, hcomment, hescape] using hwhole
    rw [start_of_command _ hfirst hcategory, hkind]
    exact occupies_of_isWhole h hline hsep hwhole _
  · have hcategory : (d.kindAt line).category = .sql ∨ (d.kindAt line).category = .psql := by
      rw [hkind]
      simp only [IsWhole, not_or] at hwhole
      cases hc : (d.firstKind (trim line)).category <;> simp_all
    have hbegins : d.Begins script.lines previous (number + 1) (d.kindAt line) :=
      ⟨isLeast_openings h hline hsep, line, hline, hkind, hwhole⟩
    rw [start_of_body _ hfirst hcategory]
    -- The first line is not compared with whole lines, and no line in front of it closes.
    exact reaches_append hbegins (Nat.le_refl _) (fun n hn => hn.1) hline
      fun hne => absurd rfl hne

theorem reaches_resume {draft : Draft} (h : d.Stands script.lines previous number (some draft))
    (hline : LineAt script.lines (number + 1) line) :
    d.Reaches script previous (number + 1) (d.resume draft line) := by
  obtain ⟨hbegins, hle, hopen⟩ := h
  by_cases hclosing : trim line ∈ d.delimiters.closingLines draft.kind.category
  · have hfurther : number + 1 ≠ draft.startLine := by omega
    have hcloses : d.Closes draft.kind.category (number + 1 = draft.startLine) line :=
      .inl ⟨hfurther, hclosing⟩
    have hleast : IsLeast (d.closings script.lines draft.kind.category draft.startLine)
        (number + 1) :=
      ⟨⟨Nat.le_succ_of_le hle, line, hline, hcloses⟩, fun n hn => hopen n hn⟩
    rw [resume_of_closes draft hclosing]
    exact Begins.occupies hbegins (.inl hleast)
  · rw [resume_of_not_closes draft hclosing]
    exact reaches_append hbegins (Nat.le_succ_of_le hle) hopen hline fun _ => hclosing

/-- One step of a scan, wherever it stands. -/
theorem reaches_advance {pending : Option Draft}
    (h : d.Stands script.lines previous number pending)
    (hline : LineAt script.lines (number + 1) line) :
    d.Reaches script previous (number + 1) (d.advance (number + 1) line pending) := by
  cases pending with
  | none => exact reaches_start h hline
  | some draft => exact reaches_resume h hline

/-! ### The run -/

/-- The outcomes of a script that gives some statements, each with the number of its last line. -/
def outcomesOf (d : Dialect) (script : Reading) (emitted : List (Statement × Nat)) :
    List (Outcome × Nat) :=
  emitted.map (fun (s, n) => (.statement s, n)) ++
    (d.ending script.lines.length none script.fault).map (·, script.lines.length)

theorem eq_empty_of_lt {numbers : Set Nat} (h : ∀ n ∈ numbers, script.lines.length < n)
    (hline : ∀ n ∈ numbers, ∃ line, LineAt script.lines n line) : numbers = ∅ := by
  refine Set.eq_empty_of_forall_notMem fun n hn => ?_
  obtain ⟨line, hat⟩ := hline n hn
  exact Nat.not_lt_of_ge hat.le_length (h n hn)

theorem exists_lineAt_of_mem_openings {n : Nat} (h : n ∈ d.openings script.lines previous) :
    ∃ line, LineAt script.lines n line := by
  obtain ⟨-, line, hline, -⟩ := h
  exact ⟨line, hline⟩

theorem exists_lineAt_of_mem_closings {category : Category} {first n : Nat}
    (h : n ∈ d.closings script.lines category first) : ∃ line, LineAt script.lines n line := by
  obtain ⟨-, line, hline, -⟩ := h
  exact ⟨line, hline⟩

theorem outcomesFrom_nil_bounds {pending : Option Draft}
    (h : d.Stands script.lines previous script.lines.length pending) :
    ∃ emitted, d.outcomesFrom script.lines.length pending script.fault [] =
      d.outcomesOf script emitted ∧ d.Bounds script previous emitted := by
  cases pending with
  | none =>
      have hnone : d.openings script.lines previous = ∅ :=
        eq_empty_of_lt h.2 fun _ => exists_lineAt_of_mem_openings
      exact ⟨[], rfl, .inl hnone⟩
  | some draft =>
      obtain ⟨hbegins, -, hopen⟩ := h
      have hnone : d.closings script.lines draft.kind.category draft.startLine = ∅ :=
        eq_empty_of_lt hopen fun _ => exists_lineAt_of_mem_closings
      -- The end of the script closes the statement; a fault loses it.
      cases hfault : script.fault with
      | some fault =>
          have hfails : script.fault ≠ none := by simp [hfault]
          refine ⟨[], ?_, .inr ⟨hfails, draft.startLine, draft.kind, hbegins, hnone⟩⟩
          rw [outcomesOf, hfault]
          rfl
      | none =>
          have hoccupies :
              d.Occupies script previous (d.close draft []) script.lines.length :=
            Begins.occupies hbegins (.inr ⟨hnone, hfault, rfl⟩)
          have hbehind : d.openings script.lines script.lines.length = ∅ :=
            eq_empty_of_lt (fun _ hn => hn.1) fun _ => exists_lineAt_of_mem_openings
          refine ⟨[(d.close draft [], script.lines.length)], ?_, hoccupies, .inl hbehind⟩
          rw [outcomesOf, hfault]
          rfl

/-- The run lemma: by induction on the lines that are left, from one step to the next. -/
theorem outcomesFrom_bounds {pending : Option Draft} {rest : List Text}
    (hrest : script.lines.drop number = rest) (hnumber : number ≤ script.lines.length)
    (h : d.Stands script.lines previous number pending) :
    ∃ emitted, d.outcomesFrom number pending script.fault rest = d.outcomesOf script emitted ∧
      d.Bounds script previous emitted := by
  induction rest generalizing previous number pending with
  | nil =>
      obtain rfl : number = script.lines.length :=
        Nat.le_antisymm hnumber (List.drop_eq_nil_iff.mp hrest)
      exact outcomesFrom_nil_bounds h
  | cons line rest ih =>
      have hline := lineAt_of_drop hrest
      have hbehind : script.lines.drop (number + 1) = rest := by
        rw [← List.tail_drop, hrest, List.tail_cons]
      have hreaches := reaches_advance h hline
      cases hstep : d.advance (number + 1) line pending with
      | idle =>
          rw [hstep] at hreaches
          rw [d.outcomesFrom_cons_of_open _ _ (by rw [scanFrom, hstep])]
          exact ih hbehind hline.le_length hreaches
      | pending draft =>
          rw [hstep] at hreaches
          rw [d.outcomesFrom_cons_of_open _ _ (by rw [scanFrom, hstep])]
          exact ih hbehind hline.le_length hreaches
      | closed s =>
          rw [hstep] at hreaches
          -- Behind a closed statement the search for the next one starts with no line seen.
          have hfresh : d.Stands script.lines (number + 1) (number + 1) none :=
            ⟨Nat.le_refl _, fun n hn => hn.1⟩
          obtain ⟨emitted, houtcomes, hbounds⟩ := ih hbehind hline.le_length hfresh
          refine ⟨(s, number + 1) :: emitted, ?_, hreaches, hbounds⟩
          rw [d.outcomesFrom_cons_of_closed _ _ hstep, houtcomes]
          rfl

/-! ### The numbers of the lines -/

theorem Occupies.lt_startLine {s : Statement} {last : Nat} (h : d.Occupies script previous s last) :
    previous < s.startLine := h.opening.1.1

theorem Occupies.startLine_le {s : Statement} {last : Nat} (h : d.Occupies script previous s last) :
    s.startLine ≤ last := by
  obtain ⟨line, hline, -, ⟨-, hlast⟩ | ⟨-, hleast | ⟨-, -, hlast⟩⟩⟩ := h.ending
  · exact hlast.ge
  · exact hleast.1.1
  · exact hlast ▸ hline.le_length

theorem Bounds.lt_startLine {emitted : List (Statement × Nat)}
    (h : d.Bounds script previous emitted) :
    ∀ e ∈ emitted, previous < e.1.startLine ∧ e.1.startLine ≤ e.2 := by
  induction emitted generalizing previous with
  | nil => simp
  | cons e more ih =>
      obtain ⟨hfirst, hmore⟩ := h
      refine List.forall_mem_cons.mpr ⟨⟨hfirst.lt_startLine, hfirst.startLine_le⟩, ?_⟩
      intro e' he'
      have hbehind := ih hmore e' he'
      have hlt := hfirst.lt_startLine
      have hle := hfirst.startLine_le
      exact ⟨by omega, hbehind.2⟩

theorem Bounds.pairwise_startLine {emitted : List (Statement × Nat)}
    (h : d.Bounds script previous emitted) :
    (emitted.map (·.1.startLine)).Pairwise (· < ·) := by
  induction emitted generalizing previous with
  | nil => exact .nil
  | cons e more ih =>
      obtain ⟨hfirst, hmore⟩ := h
      refine List.pairwise_cons.mpr ⟨?_, ih hmore⟩
      intro n hn
      obtain ⟨e', he', rfl⟩ := List.mem_map.mp hn
      have hlt := (hmore.lt_startLine e' he').1
      have hle := hfirst.startLine_le
      exact Nat.lt_of_le_of_lt hle hlt

/-- The statements of a script, taken one at a time, and the lines they occupy. Each begins with the
first line behind the one before it that does not only separate, which alone decides its kind, and
ends with the first line that closes it, if it is not a statement on one line. With the statement
the number of its last line is given. -/
theorem statements_bounds (d : Dialect) (script : Reading) :
    ∃ emitted : List (Statement × Nat),
      (∀ turn, (⟨script, 0, false⟩ : Cursor).outcome d turn =
        (d.outcomesOf script emitted)[turn]?.getD (.finished, script.lines.length)) ∧
      d.Bounds script 0 emitted ∧
      (∀ e ∈ emitted, 1 ≤ e.1.startLine ∧ e.1.startLine ≤ e.2) ∧
      (emitted.map (·.1.startLine)).Pairwise (· < ·) := by
  have hstart : d.Stands script.lines 0 0 none := ⟨Nat.le_refl 0, fun n hn => hn.1⟩
  obtain ⟨emitted, houtcomes, hbounds⟩ := outcomesFrom_bounds rfl (Nat.zero_le _) hstart
  refine ⟨emitted, fun turn => ?_, hbounds, hbounds.lt_startLine, hbounds.pairwise_startLine⟩
  rw [Cursor.outcome_eq, outcomes_eq_outcomesFrom, ← houtcomes, List.drop_zero]

end Dialect

end SqlScript
