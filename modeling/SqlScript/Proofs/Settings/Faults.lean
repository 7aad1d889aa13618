import SqlScript.Proofs.Settings.Precedence

/-!
Settings that cannot be used. Loading fails exactly if a configuration file or a variable of the
environment cannot be read, and it is always the settings that the failure is about.
-/

namespace SqlScript.Settings

open Text

theorem ofSource_of_not_isValid {file : Source} (h : ¬IsValid file) :
    ∃ fault, ofSource file = .error (.settings fault) := by
  unfold IsValid ofSource at h
  unfold ofSource
  cases hfault : file.fault with
  | some fault => exact ⟨_, rfl⟩
  | none =>
      cases hdecode : Reading.decode? file.bytes with
      | none => exact ⟨_, rfl⟩
      | some text =>
          simp only [hfault, hdecode, ofText_eq] at h ⊢
          cases hchoices : Choices.ofText? text with
          | none => exact ⟨_, rfl⟩
          | some c =>
              rw [hchoices] at h
              exact absurd rfl h

theorem ofSource?_of_not_isValid {file? : Option Source} (h : ¬∀ file ∈ file?, IsValid file) :
    ∃ fault, ofSource? file? = .error (.settings fault) := by
  cases file? with
  | none => simp at h
  | some file =>
      have hinvalid : ¬IsValid file := by simpa using h
      obtain ⟨fault, hread⟩ := ofSource_of_not_isValid hinvalid
      exact ⟨fault, by rw [ofSource?, hread]; rfl⟩

theorem readVariable_of_not_isFlagValue (name : Text) (setting : Bool) {value? : Option Text}
    (h : ¬∀ value ∈ value?, IsFlagValue value) :
    ∃ fault, readVariable name setting value? = .error (.settings fault) := by
  cases value? with
  | none => simp at h
  | some value =>
      have hword : asciiLower (trim value) ∉ yesWords ∧ asciiLower (trim value) ∉ noWords := by
        simpa [IsFlagValue] using h
      refine ⟨.badFlag name (asciiLower (trim value)), ?_⟩
      simp [readVariable, readFlag, hword.1, hword.2]

theorem applyEnvironment_of_not_isValid (s : Settings) {e : Environment}
    (h : ¬Environment.IsValid e) : ∃ fault, s.applyEnvironment e = .error (.settings fault) := by
  unfold applyEnvironment
  by_cases hlowercase : ∀ value ∈ e.lowercase, IsFlagValue value
  · have hfunctionName : ¬∀ value ∈ e.functionName, IsFlagValue value :=
      fun hvalid => h ⟨hlowercase, hvalid⟩
    obtain ⟨fault, hread⟩ :=
      readVariable_of_not_isFlagValue functionNameVariable s.naming.functionName hfunctionName
    refine ⟨fault, ?_⟩
    rw [readVariable_of_isFlagValue _ _ hlowercase, hread]
    rfl
  · obtain ⟨fault, hread⟩ :=
      readVariable_of_not_isFlagValue lowercaseVariable s.naming.lowercase hlowercase
    refine ⟨fault, ?_⟩
    rw [hread]
    rfl

/-- The home folder's file is looked at first, then the local one, then the environment. -/
theorem load_of_not_isValid {home? local? : Option Source} {e : Environment}
    (h : ¬((∀ file ∈ home?, IsValid file) ∧ (∀ file ∈ local?, IsValid file) ∧
      Environment.IsValid e)) :
    ∃ fault, load home? local? e = .error (.settings fault) := by
  unfold load
  by_cases hhome : ∀ file ∈ home?, IsValid file
  · rw [ofSource?_of_isValid hhome]
    by_cases hlocal : ∀ file ∈ local?, IsValid file
    · rw [ofSource?_of_isValid hlocal]
      exact applyEnvironment_of_not_isValid _ fun he => h ⟨hhome, hlocal, he⟩
    · obtain ⟨fault, hread⟩ := ofSource?_of_not_isValid hlocal
      refine ⟨fault, ?_⟩
      rw [hread]
      rfl
  · obtain ⟨fault, hread⟩ := ofSource?_of_not_isValid hhome
    refine ⟨fault, ?_⟩
    rw [hread]
    rfl

end SqlScript.Settings
