import SqlScript.Proofs.CommandLine.Parts
import Mathlib.Data.List.Perm.Basic

/-!
The order of the arguments of a command. Where each thing is given once at most, the parts may
change places, and the part for verbose output may also stand in front of the command.
-/

namespace SqlScript.CommandLine

open Text

/-! ### Requests -/

def Command.of (name : CommandName) (script : Text) (format : Format) (has : Flag → Bool) :
    Command :=
  match name with
  | .split => .split script format (has .executable) (has .noColor)
  | .columns =>
    .columns script format (has .functionName) (has .preserveCase) (has .unique) (has .strict)
      (has .noColor)

/-- What is asked of a command: a script, and everything else at most once. -/
structure Request where
  name : CommandName
  script : Text
  format? : Option (FormatSpelling × Format) := none
  /-- The flags but the one for verbose output. -/
  flags : List Flag := []
  verbose? : Option VerboseSpelling := none
  isScript : IsScript script
  mem_flags : ∀ flag ∈ flags, flag ∈ name.flags ∧ flag ≠ .verbose
  nodup_flags : flags.Nodup

namespace Request

/-- The parts of a request, in one of the orders in which they can be given. -/
def parts (r : Request) : List Part :=
  .script r.script :: r.format?.toList.map (fun f => .format f.1 f.2) ++ r.flags.map .flag ++
    r.verbose?.toList.map .verbose

/-- The command that is asked for, with text as the format if none is given. -/
def command (r : Request) : Command :=
  .of r.name r.script ((r.format?.map Prod.snd).getD .text) (r.flags.contains ·)

variable (r : Request)

theorem accepts {part : Part} (h : part ∈ r.parts) :
    ({} : Arguments).Accepts r.name part := by
  simp only [parts, List.mem_append, List.mem_cons, List.mem_map] at h
  rcases h with ((rfl | ⟨f, -, rfl⟩) | ⟨flag, hflag, rfl⟩) | ⟨spelling, -, rfl⟩
  · exact ⟨rfl, r.isScript⟩
  · rfl
  · exact ⟨List.not_mem_nil, (r.mem_flags flag hflag).1⟩
  · exact List.not_mem_nil

theorem filterMap_script? : r.parts.filterMap Part.script? = [r.script] := by
  simp [parts, Part.script?, List.filterMap_append, List.filterMap_map, Function.comp_def]

theorem filterMap_format? : r.parts.filterMap Part.format? = (r.format?.map Prod.snd).toList := by
  rw [parts, List.filterMap_append, List.filterMap_append, List.filterMap_cons]
  cases r.format? <;> simp [Part.format?, List.filterMap_map, Function.comp_def]

theorem filterMap_flag? :
    r.parts.filterMap Part.flag? = r.flags ++ (r.verbose?.map fun _ => .verbose).toList := by
  rw [parts, List.filterMap_append, List.filterMap_append, List.filterMap_cons]
  cases r.format? <;> cases r.verbose? <;>
    simp [Part.flag?, List.filterMap_map, Function.comp_def]

theorem nodup_filterMap_flag? : (r.parts.filterMap Part.flag?).Nodup := by
  have hverbose : Flag.verbose ∉ r.flags := fun h => (r.mem_flags _ h).2 rfl
  rw [filterMap_flag?]
  cases r.verbose? with
  | none => simpa using r.nodup_flags
  | some spelling =>
      simpa [← List.concat_eq_append, List.nodup_concat] using ⟨hverbose, r.nodup_flags⟩

theorem map_slot : r.parts.map Part.slot = .script :: (r.format?.map fun _ => .format).toList ++
    (r.parts.filterMap Part.flag?).map .flag := by
  rw [filterMap_flag?, parts]
  cases r.format? <;> cases r.verbose? <;> simp [Part.slot, Function.comp_def]

theorem nodup_slots : (r.parts.map Part.slot).Nodup := by
  have hinj : Function.Injective Part.Slot.flag := fun _ _ => Part.Slot.flag.inj
  have hflags := r.nodup_filterMap_flag?.map hinj
  rw [map_slot]
  cases r.format? <;> simpa using hflags

end Request

/-! ### Reading a request -/

/-- A command depends on its flags other than the one for verbose output. -/
theorem Command.of_congr {has has' : Flag → Bool}
    (h : ∀ flag, flag ≠ .verbose → has flag = has' flag) (name : CommandName) (script : Text)
    (format : Format) :
    Command.of name script format has = Command.of name script format has' := by
  cases name <;> simp [Command.of, h]

theorem Arguments.command_eq {a : Arguments} {script : Text} (h : a.script = some script)
    (name : CommandName) :
    a.command name = .ok (.of name script (a.format.getD .text) (a.flags.contains ·)) := by
  rw [command, h]
  cases name <;> rfl

/-- The arguments behind the name of a command are read in any order of their parts. -/
theorem readCommand_parts {name : CommandName} {parts : List Part} {script : Text} (verbose : Bool)
    (hparts : ∀ part ∈ parts, ({} : Arguments).Accepts name part)
    (hslots : (parts.map Part.slot).Nodup) (hscript : parts.filterMap Part.script? = [script]) :
    readCommand name verbose (parts.flatMap Part.args) =
      .ok ⟨.of name script ((parts.filterMap Part.format?).getLast?.getD .text)
          ((parts.filterMap Part.flag?).contains ·),
        verbose || (parts.filterMap Part.flag?).contains .verbose⟩ := by
  have hall := Arguments.addAll_parts (Arguments.settle_of_unchecked_eq rfl) hparts hslots
  have hgiven : (parts.foldl Arguments.add {}).script = some script := by
    rw [Arguments.foldl_add, hscript]
    rfl
  rw [readCommand, hall]
  simp only [bind, Except.bind, Arguments.command_eq hgiven, pure, Except.pure]
  simp [Arguments.foldl_add]

theorem read_name (name : CommandName) (args : List Text) :
    read (name.word :: args) = readCommand name false args := by
  cases name <;> rfl

theorem read_verbose (spelling : VerboseSpelling) (name : CommandName) (args : List Text) :
    read ((Part.verbose spelling).args ++ name.word :: args) = readCommand name true args := by
  cases spelling <;> cases name <;> rfl

theorem Part.exists_of_isVerbose {part : Part} (h : part.IsVerbose) :
    ∃ spelling, part = .verbose spelling := by
  cases part with
  | verbose spelling => exact ⟨spelling, rfl⟩
  | _ => exact h.elim

/-- At most one part stands in front of the command. -/
theorem read_front {front : List Part} (hfront : ∀ part ∈ front, part.IsVerbose)
    (hslots : (front.map Part.slot).Nodup) (name : CommandName) (args : List Text) :
    read (front.flatMap Part.args ++ name.word :: args) =
      readCommand name (!front.isEmpty) args := by
  match front with
  | [] => exact read_name name args
  | [part] =>
      obtain ⟨spelling, rfl⟩ := Part.exists_of_isVerbose (hfront part List.mem_cons_self)
      exact (List.flatMap_singleton ..) ▸ read_verbose spelling name args
  | part :: other :: front =>
      obtain ⟨spelling, rfl⟩ := Part.exists_of_isVerbose (hfront part List.mem_cons_self)
      obtain ⟨spelling', rfl⟩ := Part.exists_of_isVerbose
        (hfront other (List.mem_cons_of_mem _ List.mem_cons_self))
      simp [Part.slot] at hslots

/-! ### The order of the parts -/

section Order

variable {r : Request} {front behind : List Part}

/-- Parts in front of the command give nothing but verbose output. -/
theorem filterMap_front {α : Type} (hfront : ∀ part ∈ front, part.IsVerbose)
    {given? : Part → Option α} (h : ∀ spelling, given? (.verbose spelling) = none) :
    front.filterMap given? = [] := by
  rw [List.filterMap_eq_nil_iff]
  intro part hpart
  obtain ⟨spelling, rfl⟩ := Part.exists_of_isVerbose (hfront part hpart)
  exact h spelling

theorem mem_filterMap_front (hfront : ∀ part ∈ front, part.IsVerbose) {flag : Flag} :
    flag ∈ front.filterMap Part.flag? ↔ flag = .verbose ∧ front ≠ [] := by
  rw [List.mem_filterMap]
  constructor
  · rintro ⟨part, hpart, hflag⟩
    obtain ⟨spelling, rfl⟩ := Part.exists_of_isVerbose (hfront part hpart)
    exact ⟨(Option.some.inj hflag).symm, List.ne_nil_of_mem hpart⟩
  · rintro ⟨rfl, hne⟩
    obtain ⟨part, front, rfl⟩ := List.exists_cons_of_ne_nil hne
    obtain ⟨spelling, rfl⟩ := Part.exists_of_isVerbose (hfront part List.mem_cons_self)
    exact ⟨_, List.mem_cons_self, rfl⟩

/-- Everything but verbose output is given behind the command. -/
theorem perm_filterMap_behind {α : Type} (hperm : (front ++ behind).Perm r.parts)
    (hfront : ∀ part ∈ front, part.IsVerbose) {given? : Part → Option α}
    (h : ∀ spelling, given? (.verbose spelling) = none) :
    (behind.filterMap given?).Perm (r.parts.filterMap given?) := by
  have hparts := hperm.filterMap given?
  rwa [List.filterMap_append, filterMap_front hfront h, List.nil_append] at hparts

theorem filterMap_script?_behind (hperm : (front ++ behind).Perm r.parts)
    (hfront : ∀ part ∈ front, part.IsVerbose) :
    behind.filterMap Part.script? = [r.script] := by
  have h : (behind.filterMap Part.script?).Perm (r.parts.filterMap Part.script?) :=
    perm_filterMap_behind hperm hfront fun _ => rfl
  rw [r.filterMap_script?] at h
  exact List.perm_singleton.mp h

theorem filterMap_format?_behind (hperm : (front ++ behind).Perm r.parts)
    (hfront : ∀ part ∈ front, part.IsVerbose) :
    behind.filterMap Part.format? = (r.format?.map Prod.snd).toList := by
  have h : (behind.filterMap Part.format?).Perm (r.parts.filterMap Part.format?) :=
    perm_filterMap_behind hperm hfront fun _ => rfl
  rw [r.filterMap_format?] at h
  cases hgiven : r.format?.map Prod.snd with
  | none => simpa [hgiven] using h
  | some format => simpa [hgiven] using h

/-- The flags are those of the request, wherever the part for verbose output stands. -/
theorem mem_flags_iff (hperm : (front ++ behind).Perm r.parts)
    (hfront : ∀ part ∈ front, part.IsVerbose) (flag : Flag) :
    (flag = .verbose ∧ front ≠ [] ∨ flag ∈ behind.filterMap Part.flag?) ↔
      (flag ∈ r.flags ∨ flag = .verbose ∧ r.verbose?.isSome) := by
  rw [← mem_filterMap_front hfront, ← List.mem_append, ← List.filterMap_append,
    (hperm.filterMap Part.flag?).mem_iff, r.filterMap_flag?, List.mem_append]
  cases r.verbose? <;> simp

end Order

/-- A request is read in every order of its parts, also with the part for verbose output in front
of the command. -/
theorem read_of_perm (r : Request) {front behind : List Part}
    (hperm : (front ++ behind).Perm r.parts) (hfront : ∀ part ∈ front, part.IsVerbose) :
    ∃ i, read (front.flatMap Part.args ++ r.name.word :: behind.flatMap Part.args) = .ok i ∧
      i.command = r.command ∧ i.verbose = r.verbose?.isSome ∧
      i.logFilter = if r.verbose?.isSome then "tabulify_sql=debug".toList else "warn".toList := by
  have hslots := (hperm.map Part.slot).nodup_iff.mpr r.nodup_slots
  rw [List.map_append, List.nodup_append] at hslots
  obtain ⟨hfrontSlots, hbehindSlots, -⟩ := hslots
  have hparts : ∀ part ∈ behind, ({} : Arguments).Accepts r.name part := fun part hpart =>
    r.accepts (hperm.subset (List.mem_append_right _ hpart))
  have hscript := filterMap_script?_behind hperm hfront
  have hflags := mem_flags_iff hperm hfront
  have hverbose : (!front.isEmpty || (behind.filterMap Part.flag?).contains .verbose) =
      r.verbose?.isSome := by
    have hnot : Flag.verbose ∉ r.flags := fun h => (r.mem_flags _ h).2 rfl
    rw [Bool.eq_iff_iff]
    simpa [hnot] using hflags .verbose
  have hcommand : ∀ flag, flag ≠ .verbose →
      (behind.filterMap Part.flag?).contains flag = r.flags.contains flag := by
    intro flag hne
    rw [Bool.eq_iff_iff]
    simpa [hne] using hflags flag
  refine ⟨_, (read_front hfront hfrontSlots _ _).trans
    (readCommand_parts _ hparts hbehindSlots hscript), ?_, hverbose, ?_⟩
  · change Command.of r.name r.script _ _ = r.command
    rw [filterMap_format?_behind hperm hfront, Command.of_congr hcommand, Request.command]
    cases r.format? <;> rfl
  · rw [Invocation.logFilter, hverbose]

/-- The script has the name of the other command, and the part for verbose output stands in
front. -/
theorem read_of_perm_front :
    let r : Request :=
      { name := .columns, script := "split".toList, format? := some (.long, .yaml)
        flags := [.unique, .strict], verbose? := some .short, isScript := by decide
        mem_flags := by decide, nodup_flags := by decide }
    let front := [Part.verbose .short]
    let behind := [.flag .strict, .format .long .yaml, .script "split".toList, .flag .unique]
    let args := ["-v".toList, "columns".toList, "--strict".toList, "--output-format".toList,
      "yaml".toList, "split".toList, "--unique".toList]
    (front ++ behind).Perm r.parts ∧ (∀ part ∈ front, part.IsVerbose) ∧
      front.flatMap Part.args ++ r.name.word :: behind.flatMap Part.args = args ∧
      ∃ i, read args = .ok i ∧
        i.command = .columns "split".toList .yaml false false true true false ∧
        i.verbose = true ∧ i.logFilter = "tabulify_sql=debug".toList := by
  intro r front behind args
  have hperm : (front ++ behind).Perm r.parts := by decide
  have hfront : ∀ part ∈ front, part.IsVerbose := by simp [front, Part.IsVerbose]
  exact ⟨hperm, hfront, rfl, read_of_perm r hperm hfront⟩

end SqlScript.CommandLine
