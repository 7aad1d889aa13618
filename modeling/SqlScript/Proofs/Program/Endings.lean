import SqlScript.Proofs.Program.Strictness
import SqlScript.Proofs.Settings.Faults

/-!
How a run of the program ends. A run prints the whole listing of its command, or it prints nothing
and tells whose fault that is: of the input if the configuration cannot be used or strictness finds
a statement without columns, of the system if the script cannot be read. The configuration is looked
at before the script.
-/

namespace SqlScript.Program

open Text Reading CommandLine

/-- Whether the configuration files that are there and the environment can be used. -/
structure IsConfigured (w : World) : Prop where
  home : ∀ file ∈ w.homeConfig, Settings.IsValid file
  near : ∀ file ∈ w.localConfig, Settings.IsValid file
  environment : Settings.Environment.IsValid w.environment

/-- Whether a command does not accept the statements of a script. -/
def Rejects : Command → List Statement → Prop
  | .split .., _ => False
  | .columns _ _ _ _ _ strict _, statements => strict ∧ ∃ s ∈ statements, IsStray s

/-- All that a command has to say about the statements of a script. -/
def listing (settings : Settings) (terminal : Bool) (i : Invocation)
    (statements : List Statement) : Text :=
  match i.command with
  | .split _ format executable noColor =>
    Listing.statements ⟨format, terminal && !noColor, i.verbose⟩
      (if executable then statements.filter (·.isExecutable) else statements)
  | .columns _ format functionName preserveCase unique _ noColor =>
    Listing.queries ⟨format, terminal && !noColor, false⟩
      ((statements.filter (·.isQuery)).map
        (entry (settings.effectiveNaming functionName preserveCase) unique))

/-- The run that the input is to blame for. -/
def badRequest : Run := ⟨1, [], some "Error: Bad request"⟩

/-- The run that the system is to blame for. -/
def serverError : Run := ⟨1, [], some "Error: Internal server error"⟩

def failed : Failure.Blame → Run
  | .input => badRequest
  | .system => serverError

inductive Ends (w : World) (terminal : Bool) (i : Invocation) : Run → Prop where
  | misconfigured (hconfig : ¬IsConfigured w) : Ends w terminal i badRequest
  | unreadable (hconfig : IsConfigured w) (hscript : Unreadable w i.command.script) :
      Ends w terminal i serverError
  | rejected {settings : Settings} {text : Text}
      (hload : Settings.load w.homeConfig w.localConfig w.environment = .ok settings)
      (hscript : Reads w i.command.script text)
      (hrejects : Rejects i.command ((dialect settings).statementsOf text)) :
      Ends w terminal i badRequest
  | listed {settings : Settings} {text : Text}
      (hload : Settings.load w.homeConfig w.localConfig w.environment = .ok settings)
      (hscript : Reads w i.command.script text)
      (haccepts : ¬Rejects i.command ((dialect settings).statementsOf text)) :
      Ends w terminal i
        ⟨0, listing settings terminal i ((dialect settings).statementsOf text) ++ ['\n'], none⟩

variable {w : World} {terminal : Bool} {i : Invocation} {settings : Settings}

/-! ### The configuration -/

theorem exists_load_of_isConfigured (h : IsConfigured w) :
    ∃ settings, Settings.load w.homeConfig w.localConfig w.environment = .ok settings :=
  ⟨_, Settings.load_of_isValid h.home h.near h.environment⟩

theorem exists_load_of_not_isConfigured (h : ¬IsConfigured w) :
    ∃ fault, Settings.load w.homeConfig w.localConfig w.environment = .error (.settings fault) :=
  Settings.load_of_not_isValid fun hvalid => h ⟨hvalid.1, hvalid.2.1, hvalid.2.2⟩

/-! ### The command -/

theorem runCommand_of_unreadable (settings : Settings) (terminal : Bool)
    (h : Unreadable w i.command.script) :
    ∃ f, runCommand w settings terminal i = .error f ∧ f.blame = .system := by
  obtain ⟨f, hread, hblame⟩ := readStatements_of_unreadable settings h
  refine ⟨f, ?_, hblame⟩
  obtain ⟨command, verbose⟩ := i
  cases command with
  | split script format executable noColor =>
      have hread : readStatements w settings script = .error f := hread
      change split w settings _ script executable = _
      rw [split, hread]
      rfl
  | columns script format functionName preserveCase unique strict noColor =>
      have hread : readStatements w settings script = .error f := hread
      change columns w settings _ script _ unique strict = _
      rw [columns, hread]
      rfl

theorem runCommand_of_rejects {text : Text} (hscript : Reads w i.command.script text)
    (h : Rejects i.command ((dialect settings).statementsOf text)) :
    ∃ f, runCommand w settings terminal i = .error f ∧ f.blame = .input := by
  obtain ⟨command, verbose⟩ := i
  cases command with
  | split script format executable noColor => exact h.elim
  | columns script format functionName preserveCase unique strict noColor =>
      obtain ⟨rfl, s, hs, hstray⟩ := h
      have hmem : s ∈ ((dialect settings).statementsOf text).filter (IsStray ·) :=
        List.mem_filter.mpr ⟨hs, decide_eq_true hstray⟩
      obtain ⟨stray, others, hcons⟩ := List.exists_cons_of_ne_nil (List.ne_nil_of_mem hmem)
      exact ⟨_, columns_strict_of_stray settings _ _ unique hscript hcons, rfl⟩

theorem runCommand_of_not_rejects {text : Text} (hscript : Reads w i.command.script text)
    (h : ¬Rejects i.command ((dialect settings).statementsOf text)) :
    runCommand w settings terminal i =
      .ok (listing settings terminal i ((dialect settings).statementsOf text)) := by
  obtain ⟨command, verbose⟩ := i
  cases command with
  | split script format executable noColor =>
      have hread : readStatements w settings script =
          .ok ((dialect settings).statementsOf text) := readStatements_of_reads settings hscript
      change split w settings _ script executable = _
      rw [split, hread]
      rfl
  | columns script format functionName preserveCase unique strict noColor =>
      have hlenient := columns_lenient settings ⟨format, terminal && !noColor, false⟩
        (settings.effectiveNaming functionName preserveCase) unique hscript
      cases strict with
      | false => exact hlenient
      | true =>
          have hquery : ∀ s ∈ (dialect settings).statementsOf text,
              s.category = .sql → s.isQuery := by
            intro s hs hcategory
            by_contra hnot
            exact h ⟨rfl, s, hs, hcategory, hnot⟩
          exact (columns_strict_of_forall settings _ _ unique hscript hquery).trans hlenient

/-! ### The run -/

theorem run_of_ok {args : List Text} {shown : Text} (hargs : CommandLine.read args = .ok i)
    (hload : Settings.load w.homeConfig w.localConfig w.environment = .ok settings)
    (hrun : runCommand w settings terminal i = .ok shown) :
    run w terminal args = ⟨0, shown ++ ['\n'], none⟩ := by
  have hinvocation : runInvocation w terminal i = .ok shown := by
    rw [runInvocation, hload]
    exact hrun
  simp only [run, hargs, hinvocation]

theorem failed_blame (f : Failure) : failed f.blame = ⟨1, [], some (errorLine f)⟩ := by
  unfold errorLine
  cases f.blame <;> decide +kernel

theorem run_of_error {args : List Text} {f : Failure} (hargs : CommandLine.read args = .ok i)
    (hrun : runInvocation w terminal i = .error f) : run w terminal args = failed f.blame := by
  rewrite [failed_blame]
  simp only [run, hargs, hrun]

theorem runInvocation_of_error {f : Failure}
    (hload : Settings.load w.homeConfig w.localConfig w.environment = .ok settings)
    (hrun : runCommand w settings terminal i = .error f) :
    runInvocation w terminal i = .error f := by
  rw [runInvocation, hload]
  exact hrun

theorem run_of_not_isConfigured {args : List Text} (hargs : CommandLine.read args = .ok i)
    (h : ¬IsConfigured w) : run w terminal args = badRequest := by
  obtain ⟨fault, hload⟩ := exists_load_of_not_isConfigured h
  have hrun : runInvocation w terminal i = .error (.settings fault) := by
    rw [runInvocation, hload]
    rfl
  exact run_of_error hargs hrun

theorem run_of_unreadable {args : List Text} (hargs : CommandLine.read args = .ok i)
    (hconfig : IsConfigured w) (h : Unreadable w i.command.script) :
    run w terminal args = serverError := by
  obtain ⟨settings, hload⟩ := exists_load_of_isConfigured hconfig
  obtain ⟨f, hrun, hblame⟩ := runCommand_of_unreadable settings terminal h
  rw [run_of_error hargs (runInvocation_of_error hload hrun), hblame, failed]

theorem run_of_ends {args : List Text} {r : Run} (hargs : CommandLine.read args = .ok i)
    (h : Ends w terminal i r) : run w terminal args = r := by
  cases h with
  | misconfigured hconfig => exact run_of_not_isConfigured hargs hconfig
  | unreadable hconfig hscript => exact run_of_unreadable hargs hconfig hscript
  | rejected hload hscript hrejects =>
      obtain ⟨f, hrun, hblame⟩ := runCommand_of_rejects hscript hrejects
      rw [run_of_error hargs (runInvocation_of_error hload hrun), hblame, failed]
  | listed hload hscript haccepts =>
      exact run_of_ok hargs hload (runCommand_of_not_rejects hscript haccepts)

theorem exists_ends (w : World) (terminal : Bool) (i : Invocation) : ∃ r, Ends w terminal i r := by
  by_cases hconfig : IsConfigured w
  · obtain ⟨settings, hload⟩ := exists_load_of_isConfigured hconfig
    rcases reads_or_unreadable w i.command.script with ⟨text, hscript⟩ | hscript
    · by_cases hrejects : Rejects i.command ((dialect settings).statementsOf text)
      · exact ⟨_, .rejected hload hscript hrejects⟩
      · exact ⟨_, .listed hload hscript hrejects⟩
    · exact ⟨_, .unreadable hconfig hscript⟩
  · exact ⟨_, .misconfigured hconfig⟩

/-- A run of a command ends in exactly one of four ways: with its whole listing on standard output,
or with nothing there and the line for the input or the system as the one to blame. What can be read
of a script in front of a line that fails makes no difference. -/
theorem run_eq_iff_ends (w : World) (terminal : Bool) (args : List Text) (i : Invocation)
    (hargs : CommandLine.read args = .ok i) :
    (∀ r, run w terminal args = r ↔ Ends w terminal i r) ∧
      ∀ (lines : List (List UInt8)) (rest : Source) (fault : ReadFault),
        IsConfigured w →
        Opens w i.command.script ⟨unlineBytes lines ++ rest.bytes, rest.fault⟩ →
        (∀ line ∈ lines, IsEncodedLine line) → FailsWith rest fault →
        run w terminal args = serverError := by
  refine ⟨fun r => ⟨?_, run_of_ends hargs⟩, fun lines rest fault hconfig hopens hlines hrest => ?_⟩
  · rintro rfl
    obtain ⟨r, hends⟩ := exists_ends w terminal i
    rwa [run_of_ends hargs hends]
  · exact run_of_unreadable hargs hconfig (unreadable_of_failsWith hopens hlines hrest)

/-- A comment alone, the comment in front of a line that is not UTF-8, and the same with a variable
of the environment that says neither yes nor no. -/
theorem run_eq_iff_ends_comment :
    let args : List Text := ["split", "-"]
    let i : Invocation := ⟨.split inputPath .text false false, false⟩
    let lines : List (List UInt8) := [encode "-- a".toList]
    let rest : Source := ⟨[0xC3, 0x28], none⟩
    let whole : World :=
      { input := ⟨encode "-- a\n".toList, none⟩, file := fun _ => .error .missing }
    let cut : World := { whole with input := ⟨unlineBytes lines ++ rest.bytes, rest.fault⟩ }
    let unset : World := { cut with environment := { lowercase := some "maybe" } }
    CommandLine.read args = .ok i ∧
      run whole false args = ⟨0, "Statement #1 (COMMENT):\n-- a\n\n\n", none⟩ ∧
      run cut false args = serverError ∧ run unset false args = badRequest := by
  intro args i lines rest whole cut unset
  have hargs : CommandLine.read args = .ok i := by decide +kernel
  have hlines : ∀ line ∈ lines, IsEncodedLine line := by decide +kernel
  have hrest : FailsWith rest .notUtf8 := .last (by decide) (by decide +kernel)
  have hcut : IsConfigured cut := by
    refine ⟨?_, ?_, ?_, ?_⟩ <;> simp [cut, whole]
  have hunset : ¬IsConfigured unset := fun h =>
    absurd (h.environment.lowercase "maybe".toList rfl) (by decide)
  have hwhole : Ends whole false i
      ⟨0, listing {} false i ((dialect {}).statementsOf "-- a\n".toList) ++ ['\n'], none⟩ :=
    .listed rfl ⟨_, .input, rfl, decode?_encode _⟩ id
  have hlisting : listing {} false i ((dialect {}).statementsOf "-- a\n".toList) ++ ['\n'] =
      "Statement #1 (COMMENT):\n-- a\n\n\n".toList := by decide +kernel
  rw [hlisting] at hwhole
  refine ⟨hargs, ?_, ?_, ?_⟩
  · exact ((run_eq_iff_ends whole false args i hargs).1 _).mpr hwhole
  · exact (run_eq_iff_ends cut false args i hargs).2 lines rest _ hcut .input hlines hrest
  · exact ((run_eq_iff_ends unset false args i hargs).1 _).mpr (.misconfigured hunset)

end SqlScript.Program
