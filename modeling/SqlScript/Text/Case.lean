import SqlScript.Text.Case.Rules
import SqlScript.Text.Case.Context

/-!
Upper and lower case of a whole text. Both mappings are the full ones, so a letter may become
several characters, and a capital sigma at the end of a word has its own lower case.
-/

namespace SqlScript.Text

/-- Maps a character by the sequences, then by the rules, and to itself if neither has it. -/
def mapCase (sequences : List (Nat × List Nat)) (rules : List CaseRule) (c : Char) : Text :=
  match sequences.lookup c.toNat with
  | some codes => codes.map Char.ofNat
  | none =>
    match rules.find? (·.covers c.toNat) with
    | some rule => [Char.ofNat (c.toNat + rule.offset).toNat]
    | none => [c]

def upperChar (c : Char) : Text :=
  if c.toNat < 0x80 then [c.toUpper]
  else if c.toNat < 0x1000 then mapCase upperSequences upperRulesBelow1000 c
  else mapCase upperSequences upperRulesFrom1000 c

/-- The lower case of a character outside any context. -/
def lowerChar (c : Char) : Text :=
  if c.toNat < 0x80 then [c.toLower]
  else if c.toNat < 0x1000 then mapCase lowerSequences lowerRulesBelow1000 c
  else mapCase lowerSequences lowerRulesFrom1000 c

def upper (s : Text) : Text := s.flatMap upperChar

/-- Whether the first character that is not case-ignorable is a cased letter. -/
def meetsCased (s : Text) : Bool :=
  match s.dropWhile isCaseIgnorable with
  | c :: _ => isCased c
  | [] => false

/-- The lower case of `s`, where `before` holds the characters in front of it, nearest first. A
capital sigma becomes a final sigma after a cased letter that no cased letter follows. -/
def lowerAfter (before : Text) : Text → Text
  | [] => []
  | c :: s =>
    (if c = 'Σ' then [if meetsCased before && !meetsCased s then 'ς' else 'σ'] else lowerChar c) ++
      lowerAfter (c :: before) s

def lower (s : Text) : Text := lowerAfter [] s

theorem upperChar_of_ascii {c : Char} (h : c.toNat < 0x80) : upperChar c = [c.toUpper] := by
  simp [upperChar, h]

theorem lowerChar_of_ascii {c : Char} (h : c.toNat < 0x80) : lowerChar c = [c.toLower] := by
  simp [lowerChar, h]

theorem upper_of_ascii {s : Text} (h : ∀ c ∈ s, c.toNat < 0x80) : upper s = asciiUpper s := by
  induction s with
  | nil => rfl
  | cons c s ih =>
    simp only [List.mem_cons, forall_eq_or_imp] at h
    have hs := ih h.2
    simp only [upper, asciiUpper] at hs
    simp [upper, asciiUpper, upperChar_of_ascii h.1, hs]

theorem lowerAfter_of_ascii {before s : Text} (h : ∀ c ∈ s, c.toNat < 0x80) :
    lowerAfter before s = asciiLower s := by
  induction s generalizing before with
  | nil => rfl
  | cons c s ih =>
    simp only [List.mem_cons, forall_eq_or_imp] at h
    have hc : c ≠ 'Σ' := by rintro rfl; exact absurd h.1 (by decide)
    have hs : lowerAfter (c :: before) s = s.map Char.toLower := ih h.2
    simp [lowerAfter, hc, lowerChar_of_ascii h.1, hs, asciiLower]

/-- On ASCII text the full lower case is the lower case of the letters A to Z. -/
theorem lower_of_ascii {s : Text} (h : ∀ c ∈ s, c.toNat < 0x80) : lower s = asciiLower s :=
  lowerAfter_of_ascii h

end SqlScript.Text
