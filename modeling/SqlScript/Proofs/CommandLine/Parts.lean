import SqlScript.CommandLine
import Mathlib.Data.List.Induction
import Mathlib.Data.List.Nodup

/-!
Arguments in parts. Arguments that belong together, as an option and its value do, make a part. What
has been read in front of a part does not matter to it as long as it gives something new: the part
is read as a whole and adds what it gives to the settled arguments.
-/

namespace SqlScript.CommandLine

open Text

def formatWord : Format → Text
  | .text => "text"
  | .json => "json"
  | .yaml => "yaml"

inductive FormatSpelling where
  /-- A dash and a letter, with the word as the next argument. -/
  | short
  /-- The long name, with the word as the next argument. -/
  | long
  /-- The long name, an equals sign and the word in one argument. -/
  | joined
deriving DecidableEq, Repr

inductive VerboseSpelling where
  | short
  | long
deriving DecidableEq, Repr

/-- Arguments that belong together. -/
inductive Part where
  | script (path : Text)
  | format (spelling : FormatSpelling) (format : Format)
  | flag (flag : Flag)
  | verbose (spelling : VerboseSpelling)
deriving DecidableEq, Repr

def longArg (name : Text) : Text := '-' :: '-' :: name

namespace Part

def args : Part → List Text
  | .script path => [path]
  | .format .short value => ["-f", formatWord value]
  | .format .long value => [longArg formatLong, formatWord value]
  | .format .joined value => [longArg formatLong ++ '=' :: formatWord value]
  | .flag value => [longArg value.long]
  | .verbose .short => ["-v"]
  | .verbose .long => [longArg Flag.verbose.long]

def script? : Part → Option Text
  | .script path => some path
  | _ => none

def format? : Part → Option Format
  | .format _ value => some value
  | _ => none

def flag? : Part → Option Flag
  | .flag value => some value
  | .verbose _ => some .verbose
  | _ => none

def IsVerbose : Part → Prop
  | .verbose _ => True
  | _ => False

/-- What can be given once. -/
inductive Slot where
  | script
  | format
  | flag (value : Flag)
deriving DecidableEq, Repr

def slot : Part → Slot
  | .script _ => .script
  | .format _ _ => .format
  | .flag value => .flag value
  | .verbose _ => .flag .verbose

end Part

/-- Whether a text can be given as a script: a lone dash, or a text that does not start with one. -/
def IsScript (path : Text) : Prop := path = ['-'] ∨ (path ≠ [] ∧ path.head? ≠ some '-')

instance (path : Text) : Decidable (IsScript path) := inferInstanceAs (Decidable (_ ∨ _))

/-! ### Single arguments -/

theorem IsScript.ne_nil {path : Text} (h : IsScript path) : path ≠ [] := by
  rcases h with rfl | ⟨hne, -⟩
  · exact List.cons_ne_nil _ _
  · exact hne

theorem IsScript.wordOf_eq {path : Text} (h : IsScript path) : Word.of path = .plain := by
  rcases h with rfl | ⟨hne, hhead⟩
  · rfl
  · unfold Word.of
    split <;> simp_all

theorem wordOf_formatWord (format : Format) : Word.of (formatWord format) = .plain := by
  cases format <;> rfl

theorem formatOf?_formatWord (format : Format) : formatOf? (formatWord format) = some format := by
  cases format <;> rfl

theorem wordOf_longArg_flag (flag : Flag) : Word.of (longArg flag.long) = .long flag.long none := by
  cases flag <;> rfl

theorem wordOf_longArg_format (format : Format) :
    Word.of (longArg formatLong ++ '=' :: formatWord format) =
      .long formatLong (some (formatWord format)) := by
  cases format <;> rfl

namespace Arguments

variable {name : CommandName} {a b : Arguments}

/-- A flag is found under its long name. -/
theorem find?_long {flag : Flag} (h : flag ∈ name.flags) :
    name.flags.find? (fun other => other.long == flag.long) = some flag := by
  revert flag
  cases name <;> decide

theorem addLong_flag {flag : Flag} (h : flag ∈ name.flags) (a : Arguments) :
    a.addLong name flag.long none = a.addFlag flag := by
  have hformat : flag.long ≠ formatLong := by cases flag <;> decide
  have hhelp : flag.long ≠ helpWord := by cases flag <;> decide
  rw [addLong, if_neg hformat, if_neg hhelp, find?_long h]
  rfl

theorem verbose_mem_flags (name : CommandName) : Flag.verbose ∈ name.flags := by
  cases name <;> decide

/-! ### Settled arguments -/

theorem settle_of_unchecked_eq (h : a.unchecked = .nothing) : a.settle = .ok a := by
  rw [settle, h]

theorem setFormat_formatWord (h : a.format = none) (format : Format) :
    a.setFormat (formatWord format) = .ok { a with format := some format } := by
  simp [setFormat, h, formatOf?_formatWord]

theorem exists_of_setFormat {value : Text} (h : a.setFormat value = .ok b) :
    ∃ format, b = { a with format := some format } := by
  unfold setFormat at h
  split at h
  · cases h
  · split at h
    · rename_i format _
      cases h
      exact ⟨format, rfl⟩
    · cases h

/-- Settled arguments have no unchecked value, and hold the script if there is one. -/
theorem of_settle (h : a.settle = .ok b) :
    b.unchecked = .nothing ∧ a.hasScript = b.script.isSome ∧ a.unchecked ≠ .formatToCome := by
  unfold settle at h
  cases hunchecked : a.unchecked with
  | nothing =>
      rw [hunchecked] at h
      cases h
      simp [hasScript, hunchecked]
  | formatToCome =>
      rw [hunchecked] at h
      cases h
  | format value =>
      rw [hunchecked] at h
      obtain ⟨format, rfl⟩ := exists_of_setFormat h
      simp [hasScript, hunchecked]
  | script value =>
      rw [hunchecked] at h
      by_cases hnil : value = []
      · simp [hnil] at h
      · simp only [hnil, if_false] at h
        cases h
        simp [hasScript, hunchecked]

/-! ### One part -/

/-- Settled arguments with what a part gives. -/
def add (a : Arguments) : Part → Arguments
  | .script path => { a with script := some path }
  | .format _ value => { a with format := some value }
  | .flag value => { a with flags := value :: a.flags }
  | .verbose _ => { a with flags := .verbose :: a.flags }

/-- Whether a part can be read as an argument of a command and gives something new. -/
def Accepts (name : CommandName) (a : Arguments) : Part → Prop
  | .script path => a.script = none ∧ IsScript path
  | .format _ _ => a.format = none
  | .flag value => value ∉ a.flags ∧ value ∈ name.flags
  | .verbose _ => .verbose ∉ a.flags

theorem Accepts.add {part other : Part} (h : b.Accepts name other)
    (hslot : part.slot ≠ other.slot) : (b.add part).Accepts name other := by
  cases part <;> cases other <;> simp_all [Accepts, Arguments.add, Part.slot, eq_comm]

/-- A script behind settled arguments. -/
theorem addAll_script (ha : a.settle = .ok b) (hb : b.script = none) {path : Text}
    (hpath : IsScript path) (args : List Text) :
    ∃ a', a'.settle = .ok { b with script := some path } ∧
      addAll name false a (path :: args) = addAll name false a' args := by
  obtain ⟨hunchecked, hscript, hpending⟩ := of_settle ha
  refine ⟨{ b with unchecked := .script path }, ?_, ?_⟩
  · simp [settle, hpath.ne_nil, ← hunchecked]
  · have hplain : a.addPlain path = .ok { b with unchecked := .script path } := by
      unfold addPlain
      split
      · contradiction
      · simp [addScript, hscript, hb, ha, bind, Except.bind, pure, Except.pure]
    rw [addAll, hpath.wordOf_eq]
    simp [hplain, bind, Except.bind]

/-- An option for the format, with its word as the next argument. -/
theorem addAll_formatApart {option : Text}
    (hoption : ∀ args, addAll name false a (option :: args) =
      a.addFormat none >>= fun a => addAll name false a args)
    (ha : a.settle = .ok b) (hb : b.format = none) (format : Format) (args : List Text) :
    ∃ a', a'.settle = .ok { b with format := some format } ∧
      addAll name false a (option :: formatWord format :: args) = addAll name false a' args := by
  have hunchecked := (of_settle ha).1
  refine ⟨{ b with unchecked := .format (formatWord format) }, ?_, ?_⟩
  · have hformat : Arguments.format { b with unchecked := .nothing } = none := hb
    simp only [settle]
    rw [setFormat_formatWord hformat, ← hunchecked]
  · have hpending : a.addFormat none = .ok { b with unchecked := .formatToCome } := by
      rw [addFormat, ha]
      rfl
    rw [hoption, hpending]
    change addAll name false { b with unchecked := .formatToCome } (formatWord format :: args) = _
    rw [addAll, wordOf_formatWord]
    rfl

/-- The option for the format and its word in one argument. -/
theorem addAll_formatJoined (ha : a.settle = .ok b) (hb : b.format = none) (format : Format)
    (args : List Text) :
    addAll name false a ((longArg formatLong ++ '=' :: formatWord format) :: args) =
      addAll name false { b with format := some format } args := by
  have hformat : a.addFormat (some (formatWord format)) = .ok { b with format := some format } := by
    rw [addFormat, ha]
    exact setFormat_formatWord hb format
  rw [addAll, wordOf_longArg_format]
  change (a.addFormat (some (formatWord format)) >>= fun a => addAll name false a args) = _
  rw [hformat]
  rfl

/-- An argument for a flag. -/
theorem addAll_flagArg {arg : Text} {flag : Flag}
    (harg : ∀ args, addAll name false a (arg :: args) =
      a.addFlag flag >>= fun a => addAll name false a args)
    (ha : a.settle = .ok b) (hflag : flag ∉ b.flags) (args : List Text) :
    addAll name false a (arg :: args) =
      addAll name false { b with flags := flag :: b.flags } args := by
  have hadd : a.addFlag flag = .ok { b with flags := flag :: b.flags } := by
    rw [addFlag, ha]
    simp [bind, Except.bind, hflag]
  rw [harg, hadd]
  rfl

theorem addAll_longFlag {flag : Flag} (h : flag ∈ name.flags) (a : Arguments) (args : List Text) :
    addAll name false a (longArg flag.long :: args) =
      a.addFlag flag >>= fun a => addAll name false a args := by
  rw [addAll, wordOf_longArg_flag]
  simp only [Bool.false_eq_true, if_false, addLong_flag h]

theorem addAll_shortVerbose (a : Arguments) (args : List Text) :
    addAll name false a ("-v".toList :: args) =
      a.addFlag .verbose >>= fun a => addAll name false a args := by
  change ((a.addFlag .verbose >>= fun a => .ok a) >>= fun a => addAll name false a args) = _
  cases a.addFlag .verbose <;> rfl

/-- A part that is accepted is read whatever follows it, and leaves the arguments with what it
gives. -/
theorem addAll_part {part : Part} (ha : a.settle = .ok b) (hpart : b.Accepts name part)
    (args : List Text) :
    ∃ a', a'.settle = .ok (b.add part) ∧
      addAll name false a (part.args ++ args) = addAll name false a' args := by
  have hsettled : (b.add part).unchecked = .nothing := by
    cases part <;> exact (of_settle ha).1
  cases part with
  | script path => exact addAll_script ha hpart.1 hpart.2 args
  | format spelling value =>
      cases spelling with
      | short => exact addAll_formatApart (fun _ => rfl) ha hpart value args
      | long => exact addAll_formatApart (fun _ => rfl) ha hpart value args
      | joined =>
          exact ⟨_, settle_of_unchecked_eq hsettled, addAll_formatJoined ha hpart value args⟩
  | flag value =>
      exact ⟨_, settle_of_unchecked_eq hsettled,
        addAll_flagArg (addAll_longFlag hpart.2 a) ha hpart.1 args⟩
  | verbose spelling =>
      refine ⟨_, settle_of_unchecked_eq hsettled, ?_⟩
      cases spelling with
      | short => exact addAll_flagArg (addAll_shortVerbose a) ha hpart args
      | long => exact addAll_flagArg (addAll_longFlag (verbose_mem_flags name) a) ha hpart args

/-! ### All parts -/

/-- Parts that give different things are read one after the other. -/
theorem addAll_parts {parts : List Part} (ha : a.settle = .ok b)
    (hparts : ∀ part ∈ parts, b.Accepts name part) (hslots : (parts.map Part.slot).Nodup) :
    addAll name false a (parts.flatMap Part.args) = .ok (parts.foldl add b) := by
  induction parts generalizing a b with
  | nil => exact ha
  | cons part parts ih =>
      obtain ⟨hpart, hmore⟩ := List.forall_mem_cons.mp hparts
      rw [List.map_cons, List.nodup_cons] at hslots
      obtain ⟨hfresh, hslots⟩ := hslots
      obtain ⟨a', ha', hread⟩ := addAll_part ha hpart (parts.flatMap Part.args)
      rw [List.flatMap_cons, hread, List.foldl_cons]
      refine ih ha' (fun other hother => (hmore other hother).add ?_) hslots
      intro heq
      exact hfresh (heq ▸ List.mem_map_of_mem hother)

/-- What parts give together: a script and a format as the last of them does, and each flag. -/
theorem foldl_add (parts : List Part) :
    parts.foldl add {} =
      { script := (parts.filterMap Part.script?).getLast?
        format := (parts.filterMap Part.format?).getLast?
        flags := (parts.filterMap Part.flag?).reverse } := by
  induction parts using List.reverseRecOn with
  | nil => rfl
  | append_singleton parts part ih =>
      rw [List.foldl_append, ih]
      cases part <;> simp [add, Part.script?, Part.format?, Part.flag?, List.filterMap_append]

end Arguments

end SqlScript.CommandLine
