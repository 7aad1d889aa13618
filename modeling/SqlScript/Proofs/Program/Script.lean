import SqlScript.Program
import SqlScript.Proofs.Reading.Encoding

/-!
The script that a path leads to. Its statements are those of a text if the path can be opened, the
stream ends without a fault and its bytes are the text in UTF-8. Otherwise the script is unreadable,
which is the fault of the system.
-/

namespace SqlScript.Program

open Reading

inductive Opens (w : World) : Text → Source → Prop where
  | input : Opens w inputPath w.input
  | file {path : Text} {source : Source} (hpath : path ≠ inputPath)
      (hfile : w.file path = .ok source) : Opens w path source

/-- Whether a path leads to a text in UTF-8. -/
def Reads (w : World) (path text : Text) : Prop :=
  ∃ source, Opens w path source ∧ source.fault = none ∧ decode? source.bytes = some text

/-- Why no script can be read from a path: it cannot be opened, the stream has a fault, or its bytes
are no text in UTF-8. -/
inductive Unreadable (w : World) (path : Text) : Prop where
  | opening {fault : ReadFault} (hpath : path ≠ inputPath) (hfile : w.file path = .error fault)
  | reading {source : Source} {fault : ReadFault} (hopens : Opens w path source)
      (hfault : source.fault = some fault)
  | decoding {source : Source} (hopens : Opens w path source)
      (hdecode : decode? source.bytes = none)

def dialect (settings : Settings) : Dialect := { delimiters := settings.delimiters }

variable {w : World} {path text : Text}

theorem readScript_of_opens {source : Source} (h : Opens w path source) :
    readScript w path = .ok (ofSource source) := by
  cases h with
  | input => exact if_pos rfl
  | file hpath hfile => rw [readScript, if_neg hpath, hfile]

theorem reads_or_unreadable (w : World) (path : Text) :
    (∃ text, Reads w path text) ∨ Unreadable w path := by
  have hopened : ∀ source, Opens w path source →
      (∃ text, Reads w path text) ∨ Unreadable w path := by
    intro source hopens
    cases hfault : source.fault with
    | some fault => exact .inr (.reading hopens hfault)
    | none =>
        cases hdecode : decode? source.bytes with
        | none => exact .inr (.decoding hopens hdecode)
        | some text => exact .inl ⟨text, source, hopens, hfault, hdecode⟩
  by_cases hpath : path = inputPath
  · subst hpath
    exact hopened w.input .input
  · cases hfile : w.file path with
    | error fault => exact .inr (.opening hpath hfile)
    | ok source => exact hopened source (.file hpath hfile)

theorem readStatements_of_reads (settings : Settings) (h : Reads w path text) :
    readStatements w settings path = .ok ((dialect settings).statementsOf text) := by
  obtain ⟨source, hopens, hfault, htext⟩ := h
  simp only [readStatements, readScript_of_opens hopens, ofSource_of_decode? hfault htext]
  rfl

theorem readStatements_of_fault (settings : Settings) {source : Source}
    (hopens : Opens w path source) (hfault : (ofSource source).fault ≠ none) :
    ∃ f, readStatements w settings path = .error f ∧ f.blame = .system := by
  obtain ⟨fault, hfault⟩ := Option.ne_none_iff_exists'.mp hfault
  refine ⟨.script (ofSource source).lines.length fault, ?_, rfl⟩
  rw [readStatements, readScript_of_opens hopens]
  change Dialect.statements _ (ofSource source) = _
  rw [Dialect.statements, hfault]

theorem readStatements_of_unreadable (settings : Settings) (h : Unreadable w path) :
    ∃ f, readStatements w settings path = .error f ∧ f.blame = .system := by
  cases h with
  | @opening fault hpath hfile =>
      refine ⟨.file path fault, ?_, rfl⟩
      rw [readStatements, readScript, if_neg hpath, hfile]
      rfl
  | reading hopens hfault =>
      refine readStatements_of_fault settings hopens fun hnone => ?_
      rw [(fault_ofSource_eq_none_iff.mp hnone).1] at hfault
      cases hfault
  | decoding hopens hdecode =>
      refine readStatements_of_fault settings hopens fun hnone => ?_
      obtain ⟨text, htext⟩ := (fault_ofSource_eq_none_iff.mp hnone).2
      rw [hdecode] at htext
      cases htext

/-- A stream that fails on one of its lines, the last one included, is unreadable whatever can be
read in front of that line. -/
theorem unreadable_of_failsWith {lines : List (List UInt8)} {rest : Source} {fault : ReadFault}
    (hopens : Opens w path ⟨unlineBytes lines ++ rest.bytes, rest.fault⟩)
    (hlines : ∀ line ∈ lines, IsEncodedLine line) (hrest : FailsWith rest fault) :
    Unreadable w path := by
  obtain ⟨texts, -, -, hread⟩ := ofSource_of_failsWith hlines hrest
  cases hfault : rest.fault with
  | some fault => exact .reading hopens hfault
  | none =>
      cases hdecode : decode? (unlineBytes lines ++ rest.bytes) with
      | none => exact .decoding hopens hdecode
      | some text =>
          have hwhole : ofSource ⟨unlineBytes lines ++ rest.bytes, rest.fault⟩ = ofText text :=
            ofSource_of_decode? hfault hdecode
          rw [hwhole] at hread
          cases hread

end SqlScript.Program
