import SqlScript.Text.Decimal

/-!
The decimal digits of numbers: which characters they are, how they start, and that reading them
gives the number back.
-/

namespace SqlScript.Text

theorem isDigit_of_mem_ofNat {n : Nat} {c : Char} (h : c ∈ ofNat n) : c.isDigit :=
  Nat.isDigit_of_mem_toDigits (by decide) (by decide) h

theorem ofNat_ne_nil (n : Nat) : ofNat n ≠ [] := Nat.toDigits_ne_nil

theorem ne_of_isDigit {c d : Char} (hc : c.isDigit) (hd : d.isDigit = false) : c ≠ d := by
  rintro rfl
  rw [hc] at hd
  exact absurd hd (by decide)

theorem notMem_ofNat {d : Char} (hd : d.isDigit = false) (n : Nat) : d ∉ ofNat n :=
  fun h => ne_of_isDigit (isDigit_of_mem_ofNat h) hd rfl

theorem isDigits_ofNat (n : Nat) : isDigits (ofNat n) := by
  have hall : ∀ c ∈ ofNat n, c.isDigit := fun c hc => isDigit_of_mem_ofNat hc
  simpa [isDigits, ofNat_ne_nil] using hall

theorem digitValue?_of_isDigit {c : Char} (h : c.isDigit) :
    digitValue? 10 c = some (c.toNat - 48) := by
  have hrange : '0' ≤ c ∧ c ≤ '9' := by
    simpa [Char.isDigit, Char.le_def] using h
  have hle : c.toNat ≤ 57 := hrange.2
  rw [digitValue?, if_pos hrange, Option.filter_some, if_pos]
  simp only [decide_eq_true_eq]
  omega

theorem digits?_of_isDigits {s : Text} (h : isDigits s) :
    digits? 10 s = some (Nat.ofDigitChars 10 s 0) := by
  obtain ⟨hne, hall⟩ : s ≠ [] ∧ ∀ c ∈ s, c.isDigit := by
    simpa [isDigits] using h
  have hfold : ∀ init, s.foldl (fun n? c => n?.bind fun n => (digitValue? 10 c).map (10 * n + ·))
      (some init) = some (Nat.ofDigitChars 10 s init) := by
    clear h hne
    induction s with
    | nil => intro init; rfl
    | cons c s ih =>
        intro init
        obtain ⟨hc, hall⟩ := List.forall_mem_cons.mp hall
        rw [List.foldl_cons, Nat.ofDigitChars_cons, ← ih hall, digitValue?_of_isDigit hc]
        rfl
  rw [digits?, if_neg hne, hfold]

theorem head?_ofNat {n : Nat} (h : 0 < n) : (ofNat n).head? ≠ some '0' := by
  induction n using Nat.strongRecOn with
  | ind n ih =>
      by_cases hlt : n < 10
      · have hzero : n ≠ 0 := Nat.ne_of_gt h
        rw [ofNat, Nat.toDigits_of_lt_base hlt]
        simpa [Nat.digitChar_eq_zero] using hzero
      · have hmore := ih (n / 10) (by omega) (by omega)
        obtain ⟨c, s, hs⟩ := List.exists_cons_of_ne_nil (ofNat_ne_nil (n / 10))
        rw [ofNat] at hs
        rw [ofNat, hs] at hmore
        rw [ofNat, Nat.toDigits_of_base_le (by decide) (by omega), hs]
        exact hmore

/-- The digits of a number are read as the number. -/
theorem digits?_ofNat (n : Nat) : digits? 10 (ofNat n) = some n := by
  rw [digits?_of_isDigits (isDigits_ofNat n), ofNat, Nat.ofDigitChars_ten_toDigits]

end SqlScript.Text
