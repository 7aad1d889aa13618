import SqlScript.Query.Columns
import SqlScript.Proofs.Query.Splitting
import SqlScript.Proofs.Query.Words

/-!
A quoted alias names its column. Whatever the expressions of a list are, as long as they leave
nothing open and keep their commas in parentheses or literals, the list is read up to its `from`,
cut between the expressions, and each of them is named by its alias as it stands in quotes.
-/

namespace SqlScript.Query

open Text Enclosure

def quoted (name : Text) : Text := '"' :: (name ++ ['"'])

def aliased (expression name : Text) : Text := expression ++ " as ".toList ++ quoted name

/-- Whether an expression leaves nothing open and can stand in a list with a quoted alias. -/
structure IsOperand (expression : Text) : Prop where
  /-- Its literals are closed, and its parentheses outside literals balance. -/
  closed : ({} : Nesting).advance expression = {}
  quotes : QuotesInLiterals {} expression
  /-- Its commas outside literals stand in parentheses. -/
  commas : ({} : Nesting).Everywhere (fun n c => c = ',' → n.inLiteral ∨ 0 < n.depth) expression
  /-- It has no word `select` outside literals. -/
  selectQuoted : OnlyQuoted "select" expression
  /-- It has no word `from` outside literals. -/
  fromQuoted : OnlyQuoted "from" expression

instance (expression : Text) : Decidable (IsOperand expression) :=
  decidable_of_iff (_ ∧ _ ∧ _ ∧ _ ∧ _)
    ⟨fun ⟨h₁, h₂, h₃, h₄, h₅⟩ => ⟨h₁, h₂, h₃, h₄, h₅⟩,
      fun ⟨h₁, h₂, h₃, h₄, h₅⟩ => ⟨h₁, h₂, h₃, h₄, h₅⟩⟩

/-- Whether a text can stand between double quotes on one line. -/
def IsAlias (name : Text) : Prop := '"' ∉ name ∧ ∀ c ∈ name, ¬isBreak c

instance (name : Text) : Decidable (IsAlias name) :=
  @instDecidableAnd _ _ _ (List.decidableBAll _ name)

/-- Whether an expression and a name are an item of a list. -/
structure IsItem (item : Text × Text) : Prop where
  operand : IsOperand item.1
  aliasName : IsAlias item.2

instance (item : Text × Text) : Decidable (IsItem item) :=
  decidable_of_iff (_ ∧ _) ⟨fun ⟨h₁, h₂⟩ => ⟨h₁, h₂⟩, fun ⟨h₁, h₂⟩ => ⟨h₁, h₂⟩⟩

/-- What follows the first item of a list: the other items, each behind a comma and a space. -/
def otherItems (items : List (Text × Text)) : Text :=
  items.flatMap fun item => ", ".toList ++ aliased item.1 item.2

/-! ### The items of a list -/

theorem join_aliased (item : Text × Text) (items : List (Text × Text)) :
    join ", " ((item :: items).map fun item => aliased item.1 item.2) =
      aliased item.1 item.2 ++ otherItems items := by
  rw [List.map_cons, join_cons_eq_flatMap, otherItems, List.flatMap_map]

theorem otherItems_cons (item : Text × Text) (items : List (Text × Text)) :
    otherItems (item :: items) = ',' :: ' ' :: (aliased item.1 item.2 ++ otherItems items) := rfl

theorem aliased_append (expression name s : Text) :
    aliased expression name ++ s =
      expression ++ ' ' :: ("as".toList ++ ' ' :: (quoted name ++ s)) := by
  simp [aliased]

theorem quoted_append (name s : Text) : quoted name ++ s = '"' :: (name ++ '"' :: s) := by
  simp [quoted]

theorem advance_as : ({} : Nesting).advance "as".toList = {} := by decide

theorem advance_quoted {name : Text} (h : '"' ∉ name) :
    ({} : Nesting).advance (quoted name) = {} := by
  rw [quoted, Nesting.advance_cons, Nesting.step_quote_start, Nesting.advance_append,
    Nesting.advance_of_inIdentifier 0 h]
  rfl

theorem IsItem.advance {item : Text × Text} (h : IsItem item) :
    ({} : Nesting).advance (aliased item.1 item.2) = {} := by
  rw [aliased, Nesting.advance_append, Nesting.advance_append, h.operand.closed]
  exact advance_quoted h.aliasName.1

theorem advance_otherItems {items : List (Text × Text)} (h : ∀ item ∈ items, IsItem item) :
    ({} : Nesting).advance (otherItems items) = {} := by
  induction items with
  | nil => rfl
  | cons item items ih =>
      rw [List.forall_mem_cons] at h
      rw [otherItems_cons, Nesting.advance_cons, Nesting.step_comma, Nesting.advance_cons,
        Nesting.step_space, Nesting.advance_append, h.1.advance, ih h.2]

/-! ### The reading of the list -/

/-- A word that only stands in literals of the expressions only stands in quotes of the list. -/
theorem onlyQuoted_items {word : Text} (hword : IsWord word) (hletters : '"' ∉ asciiLower word)
    (has : OnlyQuoted word "as") {item : Text × Text} {items : List (Text × Text)}
    (h : ∀ entry ∈ item :: items, IsItem entry)
    (honly : ∀ entry ∈ item :: items, OnlyQuoted word entry.1) :
    OnlyQuoted word (aliased item.1 item.2 ++ otherItems items) := by
  induction items generalizing item with
  | nil =>
      have hitem := h item List.mem_cons_self
      have hquoted := onlyQuoted_name hword hletters hitem.aliasName.1 [] (by simp)
      rw [aliased_append, quoted_append]
      exact onlyQuoted_append_space hword hitem.operand.closed (honly item List.mem_cons_self)
        (onlyQuoted_append_space hword advance_as has hquoted)
  | cons next items ih =>
      rw [List.forall_mem_cons] at h honly
      obtain ⟨hitem, hitems⟩ := h
      -- The comma behind the name belongs to the part in front of the next space.
      have hcomma : isDelimiter ',' = true := by decide
      have hquoted := onlyQuoted_name hword hletters hitem.aliasName.1 [','] (by simpa using hcomma)
      have hend : ({} : Nesting).advance ('"' :: (item.2 ++ '"' :: [','])) = {} := by
        rw [← quoted_append, Nesting.advance_append, advance_quoted hitem.aliasName.1]
        exact Nesting.step_comma {}
      have hlist : aliased item.1 item.2 ++ otherItems (next :: items) =
          item.1 ++ ' ' :: ("as".toList ++ ' ' :: ('"' :: (item.2 ++ '"' :: [',']) ++
            ' ' :: (aliased next.1 next.2 ++ otherItems items))) := by
        rw [aliased_append, otherItems_cons, quoted_append]
        simp only [List.cons_append, List.append_assoc, List.nil_append]
      rw [hlist]
      exact onlyQuoted_append_space hword hitem.operand.closed honly.1
        (onlyQuoted_append_space hword advance_as has
          (onlyQuoted_append_space hword hend hquoted (ih hitems honly.2)))

/-- A query without further words is read up to the `from` behind its list. -/
theorem selectList_queryOf_of_onlyQuoted {list : Text} (rest : Text)
    (hclosed : ({} : Nesting).advance list = {}) (hselect : OnlyQuoted "select" list)
    (hfrom : OnlyQuoted "from" list) :
    selectList (queryOf list rest) = joinLines false list ++ [' '] := by
  have hnone := clausesOf_eq_nil hselect hfrom
  have hpaired : IsPaired ([] : List Clause) := by decide
  obtain ⟨word, more, -, hread⟩ := exists_selectList_queryOf list rest hclosed (by simp [hnone])
  rwa [hnone, List.map_nil, if_pos hpaired] at hread

theorem selectList_queryOf_items {item : Text × Text} {items : List (Text × Text)}
    (h : ∀ entry ∈ item :: items, IsItem entry) (rest : Text) :
    selectList (queryOf (aliased item.1 item.2 ++ otherItems items) rest) =
      joinLines false (aliased item.1 item.2 ++ otherItems items) ++ [' '] := by
  have hclosed : ({} : Nesting).advance (aliased item.1 item.2 ++ otherItems items) = {} := by
    rw [Nesting.advance_append, (h item List.mem_cons_self).advance]
    exact advance_otherItems fun entry hentry => h entry (List.mem_cons_of_mem _ hentry)
  refine selectList_queryOf_of_onlyQuoted rest hclosed ?_ ?_
  · exact onlyQuoted_items (by decide) (by decide) (by decide) h
      fun entry hentry => (h entry hentry).operand.selectQuoted
  · exact onlyQuoted_items (by decide) (by decide) (by decide) h
      fun entry hentry => (h entry hentry).operand.fromQuoted

/-! ### The list on one line -/

theorem IsOperand.joinLines {expression : Text} (h : IsOperand expression) :
    IsOperand (joinLines false expression) where
  closed := by rw [advance_joinLines, h.closed]
  quotes := everywhere_joinLines (fun _ heq => absurd heq (by decide)) h.quotes false
  commas := everywhere_joinLines (fun _ heq => absurd heq (by decide)) h.commas false
  selectQuoted := onlyQuoted_joinLines (by decide) h.selectQuoted
  fromQuoted := onlyQuoted_joinLines (by decide) h.fromQuoted

/-- On one line the items are the same, with their expressions on one line. -/
theorem joinLines_items {item : Text × Text} {items : List (Text × Text)}
    (h : ∀ entry ∈ item :: items, IsItem entry) :
    joinLines false (aliased item.1 item.2 ++ otherItems items) =
      aliased (joinLines false item.1) item.2 ++
        otherItems (items.map fun entry => (joinLines false entry.1, entry.2)) := by
  have has : joinLines false "as".toList = "as".toList := by decide
  induction items generalizing item with
  | nil =>
      have hname := (h item List.mem_cons_self).aliasName.2
      have hquoted : ∀ c ∈ quoted item.2, ¬isBreak c := by
        simp only [quoted, List.forall_mem_cons, List.forall_mem_append]
        exact ⟨by decide, hname, by decide, by simp⟩
      rw [aliased_append, joinLines_append_space, joinLines_append_space, has, aliased_append]
      simp only [otherItems, List.map_nil, List.flatMap_nil, List.append_nil]
      rw [joinLines_of_forall_not_isBreak hquoted]
  | cons next items ih =>
      rw [List.forall_mem_cons] at h
      have hname := h.1.aliasName.2
      have hquoted : ∀ c ∈ quoted item.2 ++ [','], ¬isBreak c := by
        simp only [quoted, List.forall_mem_cons, List.forall_mem_append]
        exact ⟨⟨by decide, hname, by decide, by simp⟩, by decide, by simp⟩
      have hlist : ∀ s : Text, quoted item.2 ++ ',' :: ' ' :: s =
          (quoted item.2 ++ [',']) ++ ' ' :: s := by simp
      rw [aliased_append, joinLines_append_space, joinLines_append_space, has, aliased_append,
        otherItems_cons, hlist, joinLines_append_space, ih h.2,
        joinLines_of_forall_not_isBreak hquoted, ← hlist]
      rfl

/-! ### The cutting of the list -/

/-- A quoted name fits behind a space, if a space, a comma, a dot or nothing follows it. -/
theorem namesFitFrom_quoted {separators : List Char} {free : Bool} {name t : Text}
    (hname : '"' ∉ name) (hnext : isBoundary t.head?)
    (ht : NamesFitFrom separators (some '"') {} true t) :
    NamesFitFrom separators (some ' ') {} free (quoted name ++ t) := by
  rw [quoted_append]
  refine ⟨fitsName_of_not_inIdentifier rfl fun _ => .inr (by decide), ?_⟩
  exact namesFitFrom_name hname hnext ht _

theorem isBoundary_head?_otherItems (items : List (Text × Text)) :
    isBoundary (otherItems items).head? := by
  cases items <;> rfl

theorem namesFitFrom_otherItems {separators : List Char} {items : List (Text × Text)}
    (h : ∀ item ∈ items, IsItem item) (previous : Option Char) :
    NamesFitFrom separators previous {} true (otherItems items) := by
  induction items generalizing previous with
  | nil => trivial
  | cons item items ih =>
      rw [List.forall_mem_cons] at h
      obtain ⟨hitem, hitems⟩ := h
      have hcomma : ({} : Nesting).advance [','] = {} := by decide
      have hlist : otherItems (item :: items) = [','] ++ ' ' :: (item.1 ++ ' ' ::
          ("as".toList ++ ' ' :: (quoted item.2 ++ otherItems items))) := by
        rw [otherItems_cons, aliased_append]
        rfl
      rw [hlist]
      refine namesFitFrom_append_space rfl (by decide) ?_
      rw [hcomma]
      refine namesFitFrom_append_space rfl hitem.operand.quotes ?_
      rw [hitem.operand.closed]
      refine namesFitFrom_append_space rfl (by decide) ?_
      rw [advance_as]
      exact namesFitFrom_quoted hitem.aliasName.1 (isBoundary_head?_otherItems items)
        (ih hitems _)

/-- A list ends with the double quote of its last name. -/
theorem exists_items_eq_append_quote (item : Text × Text) (items : List (Text × Text)) :
    ∃ s, quoted item.2 ++ otherItems items = s ++ ['"'] := by
  induction items generalizing item with
  | nil => exact ⟨'"' :: item.2, by simp [quoted, otherItems]⟩
  | cons next items ih =>
      obtain ⟨s, hs⟩ := ih next
      refine ⟨quoted item.2 ++ ", ".toList ++ next.1 ++ " as ".toList ++ s, ?_⟩
      rw [List.append_assoc _ s, ← hs, otherItems_cons, aliased]
      simp

/-- A trimmed list only lacks the white space in front of its first expression. -/
theorem trim_items (item : Text × Text) (items : List (Text × Text)) :
    trim (aliased item.1 item.2 ++ otherItems items) =
      trimStart (item.1 ++ [' ']) ++
        ("as".toList ++ ' ' :: (quoted item.2 ++ otherItems items)) := by
  obtain ⟨s, hs⟩ := exists_items_eq_append_quote item items
  have hword : trim ("as".toList ++ ' ' :: (s ++ ['"'])) = "as".toList ++ ' ' :: (s ++ ['"']) := by
    have hquote : ¬IsBlankText ['"'] := by decide
    exact trimEnd_append_of_not_blank ("as ".toList ++ s) hquote
  have hlist : aliased item.1 item.2 ++ otherItems items =
      item.1 ++ [' '] ++ ("as".toList ++ ' ' :: (s ++ ['"'])) ++ [] := by
    rw [aliased_append, hs]
    simp
  have hne : "as".toList ++ ' ' :: (s ++ ['"']) ≠ [] := by simp
  rw [hlist, hs, trim_append_append hne hword isBlankText_nil]

theorem IsOperand.advance_front {expression : Text} (h : IsOperand expression) :
    ({} : Nesting).advance (trimStart (expression ++ [' '])) = {} := by
  rw [Nesting.advance_trimStart, Nesting.advance_append, h.closed]
  exact Nesting.step_space {}

theorem IsOperand.quotes_front {expression : Text} (h : IsOperand expression) :
    QuotesInLiterals {} (trimStart (expression ++ [' '])) := by
  refine Nesting.Everywhere.trimStart (Nesting.everywhere_append.mpr ⟨h.quotes, ?_⟩)
  rw [h.closed]
  decide

theorem namesFit_trim_items {item : Text × Text} {items : List (Text × Text)}
    (h : ∀ entry ∈ item :: items, IsItem entry) (separators : List Char) :
    NamesFit separators (trim (aliased item.1 item.2 ++ otherItems items)) := by
  rw [List.forall_mem_cons] at h
  obtain ⟨hitem, hitems⟩ := h
  have hclosed := hitem.operand.advance_front
  rw [trim_items, ← List.append_assoc]
  -- The first name is behind the space that follows the first `as`.
  refine namesFitFrom_append_space rfl ?_ ?_
  · refine Nesting.everywhere_append.mpr ⟨hitem.operand.quotes_front, ?_⟩
    rw [hclosed]
    decide
  · rw [Nesting.advance_append, hclosed, advance_as]
    exact namesFitFrom_quoted hitem.aliasName.1 (isBoundary_head?_otherItems items)
      (namesFitFrom_otherItems hitems _)

theorem notMem_mark_quoted (separator : Char) {name : Text} (hseparator : separator ≠ '"')
    (hname : '"' ∉ name) : ⟨separator, true⟩ ∉ ({} : Nesting).mark (quoted name) := by
  have hmark : ({} : Nesting).mark (quoted name) =
      ⟨'"', true⟩ :: (name.map (fun c => ⟨c, false⟩) ++ [⟨'"', false⟩]) := by
    rw [quoted, Nesting.mark, Nesting.step_quote_start, Nesting.mark_append,
      Nesting.mark_of_inIdentifier 0 hname, Nesting.advance_of_inIdentifier 0 hname]
    rfl
  rw [hmark]
  simp [hseparator]

theorem IsOperand.notMem_mark {expression : Text} (h : IsOperand expression) :
    ⟨',', true⟩ ∉ ({} : Nesting).mark expression := by
  refine Nesting.notMem_mark_of_everywhere (Nesting.Everywhere.mono ?_ h.commas)
  intro n c hcomma hc
  rcases hcomma hc with hliteral | hdepth
  · simp [Nesting.isTop, Nesting.isQuoted, hliteral]
  · have hne : n.depth ≠ 0 := by omega
    simp [Nesting.isTop, hne]

theorem IsItem.notMem_mark {item : Text × Text} (h : IsItem item) :
    ⟨',', true⟩ ∉ ({} : Nesting).mark (aliased item.1 item.2) := by
  have has : ⟨',', true⟩ ∉ ({} : Nesting).mark " as ".toList := by decide
  have hclosed : ({} : Nesting).advance " as ".toList = {} := by decide
  have hquoted := notMem_mark_quoted ',' (by decide) h.aliasName.1
  rw [aliased, Nesting.mark_append, Nesting.mark_append, Nesting.advance_append,
    h.operand.closed, hclosed, List.mem_append, List.mem_append, not_or, not_or]
  exact ⟨⟨h.operand.notMem_mark, has⟩, hquoted⟩

/-- A text behind which the other items follow is cut in front of each of them. -/
theorem cut_mark_append_otherItems {s : Text} {items : List (Text × Text)}
    (hclosed : ({} : Nesting).advance s = {}) (hs : ⟨',', true⟩ ∉ ({} : Nesting).mark s)
    (h : ∀ item ∈ items, IsItem item) :
    Marked.cut ',' (({} : Nesting).mark (s ++ otherItems items)) =
      ({} : Nesting).mark s ::
        items.map fun item => ({} : Nesting).mark (' ' :: aliased item.1 item.2) := by
  induction items generalizing s with
  | nil =>
      rw [otherItems, List.flatMap_nil, List.append_nil, Marked.cut_of_notMem hs]
      rfl
  | cons item items ih =>
      rw [List.forall_mem_cons] at h
      obtain ⟨hitem, hitems⟩ := h
      have hnext : ({} : Nesting).advance (' ' :: aliased item.1 item.2) = {} := by
        rw [Nesting.advance_cons, Nesting.step_space, hitem.advance]
      have hnone : ⟨',', true⟩ ∉ ({} : Nesting).mark (' ' :: aliased item.1 item.2) := by
        rw [Nesting.mark, Nesting.step_space, List.mem_cons, not_or]
        exact ⟨by decide, hitem.notMem_mark⟩
      rw [otherItems_cons, Nesting.mark_append, hclosed, Nesting.mark, Nesting.step_comma,
        Nesting.isTop_start, Marked.cut_append_cons, Marked.cut_of_notMem hs, ← List.cons_append,
        ih hnext hnone hitems]
      rfl

theorem trim_aliased_ne_nil (item : Text × Text) : trim (aliased item.1 item.2) ≠ [] := by
  intro h
  have hblank := trim_eq_nil_iff.mp h '"' (by simp [aliased, quoted])
  exact absurd hblank (by decide)

theorem pieces_items {item : Text × Text} {items : List (Text × Text)}
    (h : ∀ entry ∈ item :: items, IsItem entry) :
    pieces (aliased item.1 item.2 ++ otherItems items) =
      (item :: items).map fun entry => trim (aliased entry.1 entry.2) := by
  rw [List.forall_mem_cons] at h
  have hspace : IsBlankText [' '] := by decide
  have hblank : ∀ s : Text, trim (' ' :: s) = trim s := fun s => trim_append_left s hspace
  rw [pieces, cut_mark_append_otherItems h.1.advance h.1.notMem_mark h.2]
  simp only [List.map_cons, List.map_map, Function.comp_def, Nesting.text_mark, hblank]
  refine List.filter_eq_self.mpr fun e he => ?_
  rw [← List.map_cons (f := fun entry : Text × Text => trim (aliased entry.1 entry.2))] at he
  obtain ⟨entry, -, rfl⟩ := List.mem_map.mp he
  simpa using trim_aliased_ne_nil entry

/-! ### The names of the columns -/

theorem cut_mark_as_quoted {name : Text} (hname : '"' ∉ name) :
    Marked.cut ' ' (({} : Nesting).mark ("as".toList ++ ' ' :: quoted name)) =
      [({} : Nesting).mark "as".toList, ({} : Nesting).mark (quoted name)] := by
  have has : ⟨' ', true⟩ ∉ ({} : Nesting).mark "as".toList := by decide
  have hquoted := notMem_mark_quoted ' ' (by decide) hname
  rw [Nesting.mark_append, advance_as, Nesting.mark, Nesting.isTop_start, Nesting.step_space,
    Marked.cut_append_cons, Marked.cut_of_notMem has, Marked.cut_of_notMem hquoted]
  rfl

/-- The last parts of an item between spaces are `as` and its quoted name. -/
theorem IsItem.exists_cut_mark {item : Text × Text} (h : IsItem item) :
    ∃ parts, Marked.cut ' ' (({} : Nesting).mark (trim (aliased item.1 item.2))) =
      parts ++ [({} : Nesting).mark "as".toList, ({} : Nesting).mark (quoted item.2)] := by
  have htrim : trim (aliased item.1 item.2) =
      trimStart (item.1 ++ [' ']) ++ ("as".toList ++ ' ' :: quoted item.2) := by
    simpa [otherItems] using trim_items item []
  have hclosed := h.operand.advance_front
  rcases exists_trimStart_append_space item.1 with hfront | ⟨s, hfront⟩
  · -- A blank expression leaves nothing in front of `as`, not even a space.
    refine ⟨[], ?_⟩
    rw [htrim, hfront, List.nil_append, cut_mark_as_quoted h.aliasName.1, List.nil_append]
  · refine ⟨Marked.cut ' ' (({} : Nesting).mark s), ?_⟩
    rw [hfront, Nesting.advance_append, Nesting.advance_cons, Nesting.step_space,
      Nesting.advance_nil] at hclosed
    rw [htrim, hfront, List.append_assoc, List.singleton_append, Nesting.mark_append, hclosed,
      Nesting.mark, Nesting.isTop_start, Nesting.step_space, Marked.cut_append_cons,
      cut_mark_as_quoted h.aliasName.1]

/-- The last tokens of an item are `as` and its quoted name, dots in the name included. -/
theorem IsItem.exists_expressionTokens {item : Text × Text} (h : IsItem item) :
    ∃ ts, expressionTokens (aliased item.1 item.2) = ts ++ ["as".toList, quoted item.2] := by
  have hfits : NamesFit [' ', '.'] (trim (aliased item.1 item.2)) := by
    have hitem : ∀ entry ∈ [item], IsItem entry := List.forall_mem_singleton.mpr h
    simpa [otherItems] using namesFit_trim_items hitem [' ', '.']
  obtain ⟨parts, hparts⟩ := h.exists_cut_mark
  have has : ⟨'.', true⟩ ∉ ({} : Nesting).mark "as".toList := by decide
  have hquoted := notMem_mark_quoted '.' (by decide) h.aliasName.1
  refine ⟨(parts.map fun part => (part.afterLast '.').text).filter fun t => !t.isEmpty, ?_⟩
  rw [expressionTokens_eq _ hfits, Marked.tokens, hparts, List.map_append, List.filter_append,
    List.map_cons, List.map_singleton, Marked.afterLast_of_notMem has,
    Marked.afterLast_of_notMem hquoted, Nesting.text_mark, Nesting.text_mark]
  rfl

theorem IsItem.displayName {item : Text × Text} (h : IsItem item) :
    displayName (aliased item.1 item.2) = quoted item.2 := by
  obtain ⟨ts, hts⟩ := h.exists_expressionTokens
  have has : ∀ name, acceptToken name "as".toList = name := fun _ => rfl
  have hquoted : ∀ name, acceptToken name (quoted item.2) = quoted item.2 := fun _ => rfl
  rw [Query.displayName, hts, List.foldl_append, List.foldl_cons, List.foldl_cons, has, hquoted]
  rfl

theorem displayName_trim (expression : Text) :
    displayName (trim expression) = displayName expression := by
  rw [displayName, expressionTokens, trim_trim, ← expressionTokens, ← displayName]

theorem columnName?_quoted (naming : Naming) (name : Text) :
    naming.columnName? (quoted name) = some name := by
  have hne : quoted name ≠ [] := List.cons_ne_nil _ _
  have hunquoted : Naming.unquoted? (quoted name) = some name := by
    cases name with
    | nil => rfl
    | cons c name =>
        change (if ((c :: name) ++ ['"']).getLast? = some '"' then
          some ((c :: name) ++ ['"']).dropLast else none) = _
        rw [List.getLast?_concat, if_pos rfl, List.dropLast_concat]
  rw [Naming.columnName?, if_neg hne, hunquoted]

theorem columnsOfList_items (naming : Naming) {item : Text × Text} {items : List (Text × Text)}
    (h : ∀ entry ∈ item :: items, IsItem entry) :
    columnsOfList naming (aliased item.1 item.2 ++ otherItems items) =
      (item :: items).map Prod.snd := by
  have hexpressions := expressions_of_agree (agree_mark (by decide) (namesFit_trim_items h [',']))
  rw [columnsOfList, hexpressions, pieces_items h, List.filterMap_map, ← List.filterMap_eq_map]
  refine List.filterMap_congr fun entry hentry => ?_
  rw [Function.comp_apply, displayName_trim, (h entry hentry).displayName, columnName?_quoted]
  rfl

theorem columnsOfList_concat_space (naming : Naming) (list : Text) :
    columnsOfList naming (list ++ [' ']) = columnsOfList naming list := by
  rw [columnsOfList, expressions, trim_append_right list (by decide), ← expressions,
    ← columnsOfList]

theorem columns_queryOf (naming : Naming) (list rest : Text) :
    columns naming (queryOf list rest) =
      .ok (columnsOfList naming (selectList (queryOf list rest))) := by
  have hword : startsWithQueryWord (queryOf list rest) = true := rfl
  rw [columns, if_pos hword]

/-- A quoted alias names its column, whatever its expression is and whatever follows the list. -/
theorem columns_aliased (naming : Naming) (items : List (Text × Text)) (rest : Text)
    (h : ∀ item ∈ items, IsItem item) :
    columns naming (queryOf (join ", " (items.map fun item => aliased item.1 item.2)) rest) =
      .ok (items.map Prod.snd) := by
  rw [columns_queryOf]
  cases items with
  | nil =>
      rw [List.map_nil, join_nil,
        selectList_queryOf_of_onlyQuoted rest rfl (by decide) (by decide)]
      rfl
  | cons item items =>
      -- The list is read on one line, so its items are cut and named with their line breaks gone.
      have honline : ∀ entry ∈ (joinLines false item.1, item.2) ::
          items.map fun entry => (joinLines false entry.1, entry.2), IsItem entry := by
        rw [← List.map_cons (f := fun entry : Text × Text => (joinLines false entry.1, entry.2)),
          List.forall_mem_map]
        exact fun entry hentry => ⟨(h entry hentry).operand.joinLines, (h entry hentry).aliasName⟩
      rw [join_aliased, selectList_queryOf_items h, columnsOfList_concat_space,
        joinLines_items h, columnsOfList_items naming honline]
      simp

/-- A comma, a keyword and a double quote in a literal, a line break in an expression, and names
with commas, dots, parentheses, keywords and an apostrophe, one of them empty. -/
theorem columns_aliased_punctuation :
    let items := [("coalesce(x,\n 'a, \"from\" b')".toList, "From (a, b). It's".toList),
      ("''".toList, []), ("- count(*)\t".toList, " as ".toList)]
    (∀ item ∈ items, IsItem item) ∧
      columns {} (queryOf (join ", " (items.map fun item => aliased item.1 item.2)) "t".toList) =
        .ok (items.map Prod.snd) := by
  intro items
  have hitems : ∀ item ∈ items, IsItem item := by decide +kernel
  exact ⟨hitems, columns_aliased {} items "t".toList hitems⟩

end SqlScript.Query
