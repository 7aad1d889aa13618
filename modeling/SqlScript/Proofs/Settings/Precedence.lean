import SqlScript.Settings.File

/-!
Which source each setting comes from. A source makes a choice for some of the settings and leaves
the others alone, and a setting has the value of the first source that chooses one: the flags of the
command line, the environment, a configuration file, the defaults. There is at most one file among
the sources. The local one takes the place of the one of the home folder, also for the settings
that it leaves alone.
-/

namespace SqlScript.Settings

open Text Toml Query

/-- What a source chooses; `none` leaves a setting alone. -/
structure Choices extends DelimiterOverrides where
  lowercase : Option Bool := none
  functionName : Option Bool := none
deriving DecidableEq, Repr

namespace Choices

/-- For each setting the choice of the first source that makes one. -/
def inForce (sources : List Choices) : Choices where
  sqlLines := sources.findSome? (·.sqlLines)
  psqlLines := sources.findSome? (·.psqlLines)
  sqlEnds := sources.findSome? (·.sqlEnds)
  psqlEnds := sources.findSome? (·.psqlEnds)
  commentMarks := sources.findSome? (·.commentMarks)
  lineSeparator := sources.findSome? (·.lineSeparator)
  lowercase := sources.findSome? (·.lowercase)
  functionName := sources.findSome? (·.functionName)

/-- The choices of a source, where it makes them, and those of another one. -/
def above (c other : Choices) : Choices where
  sqlLines := c.sqlLines.or other.sqlLines
  psqlLines := c.psqlLines.or other.psqlLines
  sqlEnds := c.sqlEnds.or other.sqlEnds
  psqlEnds := c.psqlEnds.or other.psqlEnds
  commentMarks := c.commentMarks.or other.commentMarks
  lineSeparator := c.lineSeparator.or other.lineSeparator
  lowercase := c.lowercase.or other.lowercase
  functionName := c.functionName.or other.functionName

def ofEffective (d : Delimiters) (n : Naming) : Choices where
  sqlLines := some d.sqlLines
  psqlLines := some d.psqlLines
  sqlEnds := some d.sqlEnds
  psqlEnds := some d.psqlEnds
  commentMarks := some d.commentMarks
  lineSeparator := some d.lineSeparator
  lowercase := some n.lowercase
  functionName := some n.functionName

def defaults : Choices := ofEffective {} {}

/-- The choices of the flags; one that is not given leaves its setting alone. -/
def ofFlags (functionName preserveCase : Bool) : Choices where
  lowercase := if preserveCase then some false else none
  functionName := if functionName then some true else none

def saysYes (value : Text) : Bool := yesWords.contains (asciiLower (trim value))

def ofEnvironment (e : Environment) : Choices where
  lineSeparator := e.lineSeparator
  lowercase := e.lowercase.map saysYes
  functionName := e.functionName.map saysYes

def naming (c : Choices) : Naming where
  lowercase := c.lowercase.getD true
  functionName := c.functionName.getD false

def settings (c : Choices) : Settings := ⟨c.toDelimiterOverrides, c.naming⟩

/-- The delimiter settings that a value of `lexer` chooses, a table under its six keys or a list in
their order. -/
def ofLexer? : Value → Option Choices
  | .table origin entries => do
    let table := Value.table origin entries
    guard table.isReadable
    let sqlLines ← setting? textsOf? "sql_new_line_terminators" table
    let psqlLines ← setting? textsOf? "psql_new_line_terminators" table
    let sqlEnds ← setting? textsOf? "sql_end_of_line_terminators" table
    let psqlEnds ← setting? textsOf? "psql_end_of_line_terminators" table
    let commentMarks ← setting? textsOf? "comment_prefixes" table
    let lineSeparator ← setting? textOf? "line_separator" table
    return { sqlLines, psqlLines, sqlEnds, psqlEnds, commentMarks, lineSeparator }
  | .array
      (sqlLines :: psqlLines :: sqlEnds :: psqlEnds :: commentMarks :: lineSeparator :: _) => do
    return { sqlLines := some (← textsOf? sqlLines)
             psqlLines := some (← textsOf? psqlLines)
             sqlEnds := some (← textsOf? sqlEnds)
             psqlEnds := some (← textsOf? psqlEnds)
             commentMarks := some (← textsOf? commentMarks)
             lineSeparator := some (← textOf? lineSeparator) }
  | .scalar .moment => some {}
  | _ => none

def ofExtractor? : Value → Option Choices
  | .table origin entries => do
    let table := Value.table origin entries
    guard table.isReadable
    let lowercase ← setting? booleanOf? "lowercase_identifiers" table
    let functionName ← setting? booleanOf? "function_name_as_identifier" table
    return { lowercase, functionName }
  | .array [] => some {}
  | .array [lowercase] => do return { lowercase := some (← booleanOf? lowercase) }
  | .array (lowercase :: functionName :: _) => do
    return { lowercase := some (← booleanOf? lowercase)
             functionName := some (← booleanOf? functionName) }
  | .scalar .moment => some {}
  | _ => none

def ofText? (text : Text) : Option Choices := do
  let root ← Toml.parse? text
  guard (othersReadable root)
  let delimiters ← setting? ofLexer? "lexer" root
  let naming ← setting? ofExtractor? "extractor" root
  return { naming.getD {} with toDelimiterOverrides := (delimiters.getD {}).toDelimiterOverrides }

def ofSource? (source : Source) : Option Choices :=
  match source.fault, Reading.decode? source.bytes with
  | none, some text => ofText? text
  | _, _ => none

def ofFile (source? : Option Source) : Choices := (source?.bind ofSource?).getD {}

/-! ### One source above others -/

theorem findSome?_cons_eq_or {α : Type} (choice : Choices → Option α) (c : Choices)
    (sources : List Choices) :
    (c :: sources).findSome? choice = (choice c).or (sources.findSome? choice) := by
  rw [List.findSome?_cons]
  cases choice c <;> rfl

@[simp] theorem inForce_nil : inForce [] = {} := rfl

theorem inForce_cons (c : Choices) (sources : List Choices) :
    inForce (c :: sources) = c.above (inForce sources) := by
  simp only [inForce, above, findSome?_cons_eq_or]

theorem above_assoc (a b c : Choices) : (a.above b).above c = a.above (b.above c) := by
  simp only [above, Option.or_assoc]

@[simp] theorem above_empty (c : Choices) : c.above {} = c := by
  simp only [above, Option.or_none]

theorem ofEffective_settings (c : Choices) (functionName preserveCase : Bool) :
    ofEffective c.settings.delimiters (c.settings.effectiveNaming functionName preserveCase) =
      (ofFlags functionName preserveCase).above (c.above defaults) := by
  -- A flag only ever turns its setting one way, which is the choice it makes.
  have hlowercase : some (c.lowercase.getD true && !preserveCase) =
      (if preserveCase then some false else none).or (c.lowercase.or (some true)) := by
    cases preserveCase <;> simp
  have hfunctionName : some (c.functionName.getD false || functionName) =
      (if functionName then some true else none).or (c.functionName.or (some false)) := by
    cases functionName <;> simp
  simp [ofEffective, settings, delimiters, DelimiterOverrides.apply, effectiveNaming, naming,
    ofFlags, above, defaults, hlowercase, hfunctionName]

end Choices

/-! ### Files -/

theorem setting?_map {α β : Type} (read : Value → Option α) (f : α → β) (key : String)
    (table : Value) :
    setting? (fun value => (read value).map f) key table =
      (setting? read key table).map (Option.map f) := by
  unfold setting?
  cases table.get? key.toList with
  | none => rfl
  | some value => cases h : read value <;> simp [h]

theorem namingOf?_eq (value : Value) :
    namingOf? value = (Choices.ofExtractor? value).map Choices.naming := by
  cases value with
  | string text => rfl
  | tables items => rfl
  | scalar scalar => cases scalar <;> rfl
  | array items =>
      match items with
      | [] => rfl
      | [lowercase] =>
          simp only [namingOf?, Choices.ofExtractor?]
          cases booleanOf? lowercase <;> rfl
      | lowercase :: functionName :: _ =>
          simp only [namingOf?, Choices.ofExtractor?]
          cases booleanOf? lowercase <;> cases booleanOf? functionName <;> rfl
  | table origin entries =>
      unfold namingOf? Choices.ofExtractor?
      dsimp only
      cases (Value.table origin entries).isReadable with
      | false => rfl
      | true =>
          cases setting? booleanOf? "lowercase_identifiers" (.table origin entries) <;>
            cases setting? booleanOf? "function_name_as_identifier" (.table origin entries) <;> rfl

theorem overridesOf?_eq (value : Value) :
    overridesOf? value = (Choices.ofLexer? value).map Choices.toDelimiterOverrides := by
  cases value with
  | string text => rfl
  | tables items => rfl
  | scalar scalar => cases scalar <;> rfl
  | array items =>
      match items with
      | [] | [_] | [_, _] | [_, _, _] | [_, _, _, _] | [_, _, _, _, _] => rfl
      | _ :: _ :: _ :: _ :: _ :: _ :: _ =>
          simp only [overridesOf?, Choices.ofLexer?, Option.bind_eq_bind, Option.map_bind,
            Function.comp_def]
          rfl
  | table origin entries =>
      unfold overridesOf? Choices.ofLexer?
      dsimp only
      cases (Value.table origin entries).isReadable with
      | false => rfl
      | true =>
          -- The first setting that cannot be read spoils both.
          rcases setting? textsOf? "sql_new_line_terminators" (.table origin entries) with - | _
          · rfl
          rcases setting? textsOf? "psql_new_line_terminators" (.table origin entries) with - | _
          · rfl
          rcases setting? textsOf? "sql_end_of_line_terminators" (.table origin entries) with - | _
          · rfl
          rcases setting? textsOf? "psql_end_of_line_terminators" (.table origin entries) with - | _
          · rfl
          rcases setting? textsOf? "comment_prefixes" (.table origin entries) with - | _
          · rfl
          rcases setting? textOf? "line_separator" (.table origin entries) with - | _ <;> rfl

theorem ofText_eq (text : Text) :
    ofText text = match Choices.ofText? text with
      | some c => .ok c.settings
      | none => .error (.settings .malformed) := by
  unfold ofText Choices.ofText?
  cases Toml.parse? text with
  | none => rfl
  | some root =>
      have hnaming : setting? namingOf? "extractor" root =
          (setting? Choices.ofExtractor? "extractor" root).map (Option.map Choices.naming) := by
        rw [← setting?_map, funext namingOf?_eq]
      have hdelimiters : setting? overridesOf? "lexer" root =
          (setting? Choices.ofLexer? "lexer" root).map
            (Option.map Choices.toDelimiterOverrides) := by
        rw [← setting?_map, funext overridesOf?_eq]
      dsimp only [Option.bind_eq_bind, Option.bind_some]
      rw [hnaming, hdelimiters]
      cases othersReadable root with
      | false => rfl
      | true =>
          rcases setting? Choices.ofLexer? "lexer" root with - | - | delimiters
          · rfl
          all_goals
            rcases setting? Choices.ofExtractor? "extractor" root with - | - | naming <;> rfl

theorem ofSource_eq_ok_iff {source : Source} {s : Settings} :
    ofSource source = .ok s ↔ ∃ c, Choices.ofSource? source = some c ∧ c.settings = s := by
  unfold ofSource Choices.ofSource?
  cases source.fault with
  | some fault => simp
  | none =>
      cases Reading.decode? source.bytes with
      | none => simp
      | some text =>
          simp only [ofText_eq]
          cases Choices.ofText? text <;> simp

def IsValid (file : Source) : Prop := (ofSource file).isOk

instance (file : Source) : Decidable (IsValid file) := inferInstanceAs (Decidable (_ = true))

theorem ofSource?_of_isValid {file? : Option Source} (h : ∀ file ∈ file?, IsValid file) :
    ofSource? file? = .ok (file?.map fun file => (Choices.ofFile (some file)).settings) := by
  cases file? with
  | none => rfl
  | some file =>
      have hvalid := h file rfl
      rw [IsValid] at hvalid
      cases hread : ofSource file with
      | error failure =>
          rw [hread] at hvalid
          cases hvalid
      | ok s =>
          obtain ⟨c, hchoices, rfl⟩ := ofSource_eq_ok_iff.mp hread
          simp [ofSource?, hread, Choices.ofFile, hchoices, Except.map]

/-! ### The environment -/

def IsFlagValue (value : Text) : Prop := asciiLower (trim value) ∈ yesWords ++ noWords

instance (value : Text) : Decidable (IsFlagValue value) := inferInstanceAs (Decidable (_ ∈ _))

/-- Whether the variables of the environment that are set have values that can be read. -/
structure Environment.IsValid (e : Environment) : Prop where
  lowercase : ∀ value ∈ e.lowercase, IsFlagValue value
  functionName : ∀ value ∈ e.functionName, IsFlagValue value

theorem readVariable_of_isFlagValue (name : Text) (setting : Bool) {value? : Option Text}
    (h : ∀ value ∈ value?, IsFlagValue value) :
    readVariable name setting value? = .ok ((value?.map Choices.saysYes).getD setting) := by
  cases value? with
  | none => rfl
  | some value =>
      have hword := h value rfl
      rw [IsFlagValue, List.mem_append] at hword
      simp only [readVariable, readFlag, Option.map_some, Option.getD_some, Choices.saysYes]
      by_cases hyes : asciiLower (trim value) ∈ yesWords
      · simp [hyes]
      · simp [hyes, hword.resolve_left hyes]

/-- The environment stands above the configuration that it changes. -/
theorem applyEnvironment_settings {e : Environment} (h : Environment.IsValid e) (c : Choices) :
    c.settings.applyEnvironment e = .ok ((Choices.ofEnvironment e).above c).settings := by
  -- A variable falls back to the setting that is already there, not to the default.
  have hor {α : Type} (a? b? : Option α) (a : α) : a?.getD (b?.getD a) = (a?.or b?).getD a := by
    cases a? <;> rfl
  have hseparator : (e.lineSeparator <|> c.lineSeparator) =
      e.lineSeparator.or c.lineSeparator := by
    cases e.lineSeparator <;> rfl
  rw [applyEnvironment, readVariable_of_isFlagValue _ _ h.lowercase,
    readVariable_of_isFlagValue _ _ h.functionName]
  simp only [Choices.settings, Choices.naming, Choices.above, Choices.ofEnvironment, hor,
    Option.none_or, hseparator]
  rfl

/-! ### The order of the sources -/

theorem load_of_isValid {home? local? : Option Source} {e : Environment}
    (hhome : ∀ file ∈ home?, IsValid file) (hlocal : ∀ file ∈ local?, IsValid file)
    (he : Environment.IsValid e) :
    load home? local? e =
      .ok ((Choices.ofEnvironment e).above (.ofFile (local? <|> home?))).settings := by
  have hfile : ((local?.map fun file => (Choices.ofFile (some file)).settings) <|>
      home?.map fun file => (Choices.ofFile (some file)).settings).getD {} =
        (Choices.ofFile (local? <|> home?)).settings := by
    cases local? with
    | some file => rfl
    | none => cases home? <;> rfl
  rw [← applyEnvironment_settings he, ← hfile]
  simp only [load, ofSource?_of_isValid hhome, ofSource?_of_isValid hlocal]
  rfl

/-- With files and an environment that can be read, each setting has the value of the first source
that chooses one: the flags, the environment, the local file if there is one and else the one of the
home folder, the defaults. -/
theorem effective_eq_inForce {home? local? : Option Source} {e : Environment}
    (hhome : ∀ file ∈ home?, IsValid file) (hlocal : ∀ file ∈ local?, IsValid file)
    (he : Environment.IsValid e) (functionName preserveCase : Bool) :
    ∃ s, load home? local? e = .ok s ∧
      Choices.ofEffective s.delimiters (s.effectiveNaming functionName preserveCase) =
        Choices.inForce [.ofFlags functionName preserveCase, .ofEnvironment e,
          .ofFile (local? <|> home?), .defaults] := by
  refine ⟨_, load_of_isValid hhome hlocal he, ?_⟩
  simp only [Choices.ofEffective_settings, Choices.inForce_cons, Choices.inForce_nil,
    Choices.above_empty, Choices.above_assoc]

/-- Settings from each of the sources; the marks of comments in the home folder's file count for
nothing beside a local file, and the separator of the local file for nothing beside the
environment. -/
theorem effective_eq_inForce_layers :
    let home : Source := ⟨"[lexer]\ncomment_prefixes = [\"//\"]\n".toUTF8.toList, none⟩
    let near : Source :=
      ⟨("[lexer]\npsql_new_line_terminators = [\"go\"]\nline_separator = \"|\"\n" ++
        "[extractor]\nfunction_name_as_identifier = true\n").toUTF8.toList, none⟩
    let e : Environment := { lineSeparator := some " ", lowercase := some " YES " }
    (∀ file ∈ some home, IsValid file) ∧ (∀ file ∈ some near, IsValid file) ∧
      Environment.IsValid e ∧
      ∃ s, load (some home) (some near) e = .ok s ∧
        Choices.ofEffective s.delimiters (s.effectiveNaming false true) =
          { Choices.defaults with
            psqlLines := some ["go".toList]
            lineSeparator := some " "
            lowercase := some false
            functionName := some true } := by
  intro home near e
  have hhome : ∀ file ∈ some home, IsValid file := by decide +kernel
  have hnear : ∀ file ∈ some near, IsValid file := by decide +kernel
  have he : Environment.IsValid e := ⟨by decide, by decide⟩
  obtain ⟨s, hload, heffective⟩ := effective_eq_inForce hhome hnear he false true
  refine ⟨hhome, hnear, he, s, hload, heffective.trans ?_⟩
  decide +kernel

/-- The file of the home folder chooses the marks of comments and the local one does not, yet the
defaults are in force. -/
theorem effective_ne_inForce_home :
    let home : Source := ⟨"[lexer]\ncomment_prefixes = [\"//\"]\n".toUTF8.toList, none⟩
    let near : Source := ⟨"[lexer]\nline_separator = \" \"\n".toUTF8.toList, none⟩
    IsValid home ∧ IsValid near ∧
      ∃ s, load (some home) (some near) {} = .ok s ∧
        (Choices.ofFile (some near)).commentMarks = none ∧
        (Choices.ofFile (some home)).commentMarks = some ["//".toList] ∧
        s.delimiters.commentMarks = ["--".toList, "#".toList] ∧
        Choices.ofEffective s.delimiters (s.effectiveNaming false false) ≠
          Choices.inForce [.ofFlags false false, .ofEnvironment {}, .ofFile (some near),
            .ofFile (some home), .defaults] := by
  intro home near
  have hhome : ∀ file ∈ some home, IsValid file := by decide +kernel
  have hnear : ∀ file ∈ some near, IsValid file := by decide +kernel
  have he : Environment.IsValid {} := ⟨by simp, by simp⟩
  refine ⟨hhome home rfl, hnear near rfl, _, load_of_isValid hhome hnear he, ?_⟩
  decide +kernel

end SqlScript.Settings
