import SqlScript.Proofs.Keywords.Leading
import SqlScript.Proofs.Program.Strictness
import SqlScript.Proofs.Program.Texts
import SqlScript.Proofs.Query.LineBreaks

/-!
Queries are found twice, by the keywords of a first line and by the first word of a text. The two
do not cut the word alike: a keyword ends at whatever is no part of one, and the first word of a
text at white space, an opening parenthesis or an asterisk. With the standard delimiters and
keywords the first word of a text is that of its first line, and if it is the one of a query then so
is the keyword. So columns are only looked for in statements that were recognised as queries.
-/

namespace SqlScript

open Text Phrase Delimiters

/-! ### The keywords of a query -/

namespace Keywords

/-- The keywords of queries with a select list. -/
def selectKeywords : List Text := ["SELECT", "WITH"]

theorem registrationsOf_select :
    ∀ first ∈ selectKeywords, registrationsOf first = [(first, .query)] := by
  have hplain : ∀ first ∈ selectKeywords, first ≠ "CREATE".toList ∧
      (plainRegistrations.filter fun registration =>
        (ofText registration.1).head? = some first) = [(first, .query)] := by decide +kernel
  intro first hfirst
  obtain ⟨hne, hfound⟩ := hplain first hfirst
  rw [registrationsOf_of_ne hne, hfound]

theorem get?_standard_select {first : Text} (h : first ∈ selectKeywords) (others : Phrase) :
    standard.get? (first :: others) = if others = [] then some .query else none := by
  have hself : ∀ first ∈ selectKeywords, ofText first = [first] := by decide
  rw [get?_standard, registrationsOf_select first h, List.filter_singleton, hself first h]
  cases others with
  | nil => simp
  | cons other others => simp

theorem longest?_standard_select {first : Text} (h : first ∈ selectKeywords) (others : Phrase) :
    standard.longest? (first :: others) = some .query := by
  refine longest?_cons_eq_some_iff.mpr ⟨0, Nat.succ_pos _, ?_, fun m hm hlt => ?_⟩
  · exact (get?_standard_select h _).trans (if_pos rfl)
  · have hlength : (others.take m).length = m := List.length_take_of_le (Nat.le_of_lt_succ hlt)
    rw [get?_standard_select h, if_neg (List.ne_nil_of_length_pos (by omega))]

theorem classify_of_leading_select {line first : Text} (h : first ∈ selectKeywords)
    (hleading : (leading line).head? = some first) : standard.classify line = .query := by
  have hplain : ∀ first ∈ selectKeywords,
      first ≠ "BEGIN".toList ∧ ¬IsMarked first := by decide
  obtain ⟨hbegin, hmarked⟩ := hplain first h
  obtain ⟨others, hline⟩ := List.head?_eq_some_iff.mp hleading
  have hleft : IsLeft line := by
    refine ⟨by rw [hline]; exact List.cons_ne_nil _ _, ?_, ?_⟩
    · rintro ⟨heq, -⟩
      exact hbegin (List.cons.inj (hline.symm.trans heq)).1
    · rw [hline]
      rintro _ ⟨⟩
      exact hmarked
  rw [classify_of_isLeft _ hleft, hline, longest?_standard_select h]
  rfl

/-- A line that begins with one of the words in any case is a query, if the word ends there. -/
theorem classify_append {w rest : Text} (hw : asciiUpper w ∈ selectKeywords)
    (hrest : ¬rest.head?.any isWordChar) : standard.classify (w ++ rest) = .query := by
  have hwords : ∀ first ∈ selectKeywords, first ≠ [] ∧ first.all isWordChar := by decide
  obtain ⟨hne, hall⟩ := hwords _ hw
  rw [asciiUpper, List.all_map] at hall
  have hword : w.all isWordChar := by
    simpa only [Function.comp_def, isWordChar_toUpper] using hall
  exact classify_of_leading_select hw
    (head?_leading_append (mt asciiUpper_eq_nil_iff.mpr hne) hword hrest)

end Keywords

open Keywords

/-! ### The first word of a text -/

namespace Query

theorem startsWithQueryWord_iff {text : Text} :
    startsWithQueryWord text ↔ asciiUpper (firstWord text) ∈ selectKeywords := by
  have hselect : asciiUpper "select".toList = "SELECT".toList := by decide
  have hwith : asciiUpper "with".toList = "WITH".toList := by decide
  rw [startsWithQueryWord_eq, Bool.or_eq_true, sameWord_iff, sameWord_iff, hselect, hwith,
    selectKeywords, List.mem_cons, List.mem_singleton]

theorem not_isWordChar_of_endsFirstWord {c : Char} (h : isBlank c || c == '(' || c == '*') :
    ¬isWordChar c := by
  simp only [Bool.or_eq_true, beq_iff_eq] at h
  rcases h with (hblank | rfl) | rfl
  · exact not_isWordChar_of_isBlank hblank
  · decide
  · decide

/-- The first word of a text ends where no keyword goes on. -/
theorem exists_trimStart_eq_firstWord_append (text : Text) :
    ∃ rest, trimStart text = firstWord text ++ rest ∧ ¬rest.head?.any isWordChar := by
  refine ⟨_, List.takeWhile_append_dropWhile.symm, fun hword => ?_⟩
  apply not_any_head?_dropWhile (fun c => !(isBlank c || c == '(' || c == '*')) (trimStart text)
  rw [Option.any_eq_true] at hword ⊢
  obtain ⟨c, hc, hword⟩ := hword
  refine ⟨c, hc, ?_⟩
  rw [Bool.not_eq_true', ← Bool.not_eq_true]
  exact fun hends => not_isWordChar_of_endsFirstWord hends hword

theorem firstWord_trim (s : Text) : firstWord (trim s) = firstWord s := by
  have hstart : firstWord (trimStart s) = firstWord s := by
    rw [firstWord, trimStart, trimStart, List.dropWhile_idempotent, firstWord, trimStart]
  rw [trim, firstWord_trimEnd, hstart]

/-- Further lines do not show in the first word. -/
theorem firstWord_join {first : Text} (hfirst : ¬IsBlankText first) {more : List Text}
    (hmore : more ≠ []) : firstWord (trimEnd (join "\n" (first :: more))) = firstWord first := by
  have hbreak : isBlank '\n' = true := by decide
  have hline : join "\n" (first :: more) = first ++ '\n' :: join "\n" more := by
    rw [join_cons hmore, List.append_assoc]
    rfl
  rw [firstWord_trimEnd, hline, firstWord_append_cons hfirst hbreak]

end Query

open Query

/-! ### The kind of a statement -/

namespace Standard

theorem kindAt_of_firstWord {line : Text} (h : asciiUpper (firstWord line) ∈ selectKeywords) :
    standard.dialect.kindAt line = .query := by
  obtain ⟨rest, hline, hrest⟩ := exists_trimStart_eq_firstWord_append (trim line)
  rw [trimStart_trim, firstWord_trim] at hline
  rw [kindAt_eq, hline]
  exact classify_append h hrest

theorem kindAt_of_lines {first : Text} (hfirst : standard.dialect.Classifies first)
    {more : List Text} (hmore : more ≠ [])
    (h : startsWithQueryWord (trimEnd (join "\n" (first :: more)))) :
    standard.dialect.kindAt first = .query := by
  have hink := Dialect.not_isBlankText_of_not_separates hfirst.begins
  rw [startsWithQueryWord_iff, firstWord_join hink hmore] at h
  exact kindAt_of_firstWord h

/-- The semicolon at the end of a line belongs to no word. -/
theorem kindAt_of_closingEnd {last t pad : Text} (hpad : IsBlankText pad)
    (hsql : (standard.dialect.kindAt (last ++ t ++ pad)).category = .sql)
    (ht : t ∈ ({} : Delimiters).closingEnds
      (standard.dialect.kindAt (last ++ t ++ pad)).category)
    (h : startsWithQueryWord (trim (last ++ kept t))) :
    standard.dialect.kindAt (last ++ t ++ pad) = .query := by
  rw [hsql] at ht
  obtain rfl : t = ";".toList := List.mem_singleton.mp ht
  have hkept : kept ";".toList = [] := kept_of_ne (by decide)
  rw [hkept, List.append_nil, startsWithQueryWord_iff, firstWord_trim] at h
  obtain ⟨rest, hlast, hrest⟩ := exists_trimStart_eq_firstWord_append last
  have hline : trim (last ++ ";".toList ++ pad) = firstWord last ++ (rest ++ ";".toList) := by
    rw [trim_append_append (by decide) (by decide) hpad, hlast, List.append_assoc]
  rw [kindAt_eq, hline]
  apply classify_append h
  cases rest with
  | nil => decide
  | cons c rest => exact hrest

theorem not_startsWithQueryWord_of_isCallEscape {line : Text} (h : isCallEscape (trim line)) :
    ¬startsWithQueryWord (trim line) := by
  have hplain : ∀ first ∈ selectKeywords, first.head? ≠ some '{' := by decide
  obtain ⟨rest, hline⟩ := List.head?_eq_some_iff.mp (head?_of_isCallEscape h)
  rw [startsWithQueryWord_iff]
  intro hmem
  apply hplain _ hmem
  rw [firstWord, trimStart_trim, hline]
  rfl

/-- By what closes the block: its text begins with its first line, or with what is left of it. -/
theorem kind_block_of_isQuery {b : Block} (hfits : b.Fits standard.dialect) (number : Nat)
    (h : (b.statement standard.dialect number).isQuery) : b.kind standard.dialect = .query := by
  obtain ⟨hsql, hword⟩ := Program.isQuery_iff.mp h
  change (b.kind standard.dialect).category = .sql at hsql
  cases b with
  | comment line => cases hsql
  | callEscape line =>
      change startsWithQueryWord (trimEnd (join "\n" [trim line])) at hword
      rw [join_singleton, trimEnd_trim] at hword
      exact absurd hword (not_startsWithQueryWord_of_isCallEscape hfits.2.2)
  | command line => exact absurd (.inl hsql) hfits.2
  | byLine first more closing =>
      exact kindAt_of_lines hfits.1.1 (List.concat_ne_nil (kept (trim closing)) more) hword
  | byEnd init last t pad =>
      obtain ⟨hclassifies, -, -, hend, hpad⟩ := hfits
      cases init with
      | nil =>
          change startsWithQueryWord (trimEnd (join "\n" [trim (last ++ kept t)])) at hword
          rw [join_singleton, trimEnd_trim] at hword
          exact kindAt_of_closingEnd hpad hsql hend.mem hword
      | cons first init =>
          exact kindAt_of_lines hclassifies (List.concat_ne_nil (trim (last ++ kept t)) init) hword

theorem kind_of_isQuery {s : Statement} (h : standard.dialect.Yields s) (hquery : s.isQuery) :
    s.kind = .query := by
  cases h with
  | block number hfits => exact kind_block_of_isQuery hfits number hquery
  | @unclosed first more number hopen =>
      exact kindAt_of_lines hopen.1 (List.concat_ne_nil [] more) (Program.isQuery_iff.mp hquery).2

end Standard

/-! ### The listing of a script -/

namespace Program

open Reading

variable {w : World} {settings : Settings} {path : Text} {statements : List Statement}
  {naming : Naming} {unique : Bool}

theorem isQuery_of_queryColumns {s : Statement} {found : QueryColumns}
    (h : queryColumns naming unique s = .ok found) : s.isQuery := by
  by_contra hnot
  rw [queryColumns_of_not_isQuery unique hnot] at h
  cases h

theorem columns_eq_ok {style : ListingStyle} {strict : Bool} {listing : Text}
    (hread : readStatements w settings path = .ok statements)
    (h : columns w settings style path naming unique strict = .ok listing) :
    listing = Listing.queries style ((candidates strict statements).map (entry naming unique)) ∧
      ∀ s ∈ candidates strict statements, s.isQuery := by
  change (readStatements w settings path).bind _ = _ at h
  rw [hread] at h
  change ((candidates strict statements).mapM (queryColumns naming unique)).bind _ = _ at h
  have hqueries : ∀ s ∈ candidates strict statements, s.isQuery := by
    intro s hs
    cases hmade : (candidates strict statements).mapM (queryColumns naming unique) with
    | error f =>
        rw [hmade] at h
        cases h
    | ok made =>
        obtain ⟨found, hfound⟩ := forall_of_mapM_eq_ok hmade s hs
        exact isQuery_of_queryColumns hfound
  rw [mapM_eq_ok fun s hs => queryColumns_of_isQuery unique (hqueries s hs)] at h
  exact ⟨(Except.ok.inj h).symm, hqueries⟩

/-- With the standard delimiters and keywords, whatever begins as a query does was recognised as
one, and it has columns. So those that are listed are the columns of statements that were recognised
as queries. -/
theorem outcomes_isQuery :
    (∀ (reading : Reading) (s : Statement) (n : Nat),
      (.statement s, n) ∈ standard.dialect.outcomes reading → s.isQuery →
        s.kind = .query ∧ ∀ naming, ∃ names, Query.columns naming s.text = .ok names) ∧
    ∀ (w : World) (settings : Settings) (path : Text) (statements : List Statement),
      settings.delimiters = {} → readStatements w settings path = .ok statements →
        ∀ (style : ListingStyle) (naming : Naming) (unique strict : Bool),
          (∀ s ∈ candidates strict statements, ∀ found,
            queryColumns naming unique s = .ok found → s.kind = .query) ∧
          ∀ listing, columns w settings style path naming unique strict = .ok listing →
            listing = Listing.queries style
                ((candidates strict statements).map (entry naming unique)) ∧
              ∀ s ∈ candidates strict statements, s.kind = .query := by
  refine ⟨fun reading s n hmem hquery => ⟨?_, fun naming => ?_⟩, ?_⟩
  · exact Standard.kind_of_isQuery (Dialect.yields_of_mem_outcomes hmem) hquery
  · exact ⟨_, columns_of_isQuery hquery⟩
  · intro w settings path statements hdelimiters hread style naming unique strict
    have hkind : ∀ s ∈ candidates strict statements, s.isQuery → s.kind = .query := by
      intro s hs
      have hyields := yields_of_readStatements hdelimiters hread s (List.mem_of_mem_filter hs)
      exact Standard.kind_of_isQuery hyields
    refine ⟨fun s hs found hfound => ?_, fun listing hlisting => ?_⟩
    · exact hkind s hs (isQuery_of_queryColumns hfound)
    · obtain ⟨hshown, hqueries⟩ := columns_eq_ok hread hlisting
      exact ⟨hshown, fun s hs => hkind s hs (hqueries s hs)⟩

/-- A query over two lines, and two statements that only look like queries. -/
theorem outcomes_isQuery_words :
    let script := " Select\n1 as a;\n{select};\n-- select b\n".toList
    let w : World := { input := ⟨encode script, none⟩, file := fun _ => .error .missing }
    let first : Statement := ⟨.query, " Select\n1 as a", 1⟩
    let statements : List Statement :=
      [first, ⟨.callable, "{select};", 3⟩, ⟨.comment, "-- select b", 4⟩]
    let listing := "Query at line 1:\n  a\n".toList
    (.statement first, 2) ∈ standard.dialect.outcomes (ofText script) ∧ first.isQuery ∧
      (∃ names, Query.columns {} first.text = .ok names) ∧ ({} : Settings).delimiters = {} ∧
      readStatements w {} inputPath = .ok statements ∧
      columns w {} ⟨.text, false, false⟩ inputPath {} false false = .ok listing ∧
      ∀ s ∈ candidates false statements, s.kind = .query := by
  intro script w first statements listing
  have houtcomes : standard.dialect.outcomes (ofText script) =
      [(.statement first, 2), (.statement ⟨.callable, "{select};", 3⟩, 3),
        (.statement ⟨.comment, "-- select b", 4⟩, 4), (.finished, 4)] := by
    rw [standard_eq_registerAll, standardRegistrations_eq_append]
    decide +kernel
  have hmem : (.statement first, 2) ∈ standard.dialect.outcomes (ofText script) := by
    simp [houtcomes]
  have hquery : first.isQuery := by decide
  have hreads : Reads w inputPath script := ⟨_, .input, rfl, decode?_encode script⟩
  have hstatements : (dialect {}).statementsOf script = statements :=
    ((dialect {}).filterMap_outcomes _).symm.trans (congrArg (List.filterMap _) houtcomes)
  have hread : readStatements w {} inputPath = .ok statements := by
    rw [readStatements_of_reads {} hreads, hstatements]
  have hlisting : columns w {} ⟨.text, false, false⟩ inputPath {} false false = .ok listing := by
    rw [columns_lenient _ _ _ _ hreads, hstatements]
    decide +kernel
  obtain ⟨-, hnames⟩ := outcomes_isQuery.1 _ first 2 hmem hquery
  obtain ⟨-, hlisted⟩ := outcomes_isQuery.2 w {} inputPath statements rfl hread _ {} false false
  exact ⟨hmem, hquery, hnames {}, rfl, hread, hlisting, (hlisted listing hlisting).2⟩

end Program

end SqlScript
