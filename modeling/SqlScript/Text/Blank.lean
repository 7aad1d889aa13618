import SqlScript.Text.CodeTable

/-!
White space, trimming and words. A character is blank if it has the Unicode property
`White_Space`, so a no-break space and the line separator U+2028 are blank while the zero-width
space U+200B is not.
-/

namespace SqlScript.Text

/-- The code points with the property `White_Space`. -/
def blanks : CodeTable :=
  [(0x09, 0x0D), (0x20, 0x20), (0x85, 0x85), (0xA0, 0xA0), (0x1680, 0x1680), (0x2000, 0x200A),
    (0x2028, 0x2029), (0x202F, 0x202F), (0x205F, 0x205F), (0x3000, 0x3000)]

def isBlank (c : Char) : Bool := blanks.contains c

def trimStart (s : Text) : Text := s.dropWhile isBlank

def trimEnd (s : Text) : Text := dropEndWhile isBlank s

def trim (s : Text) : Text := trimEnd (trimStart s)

/-- The maximal runs of characters that are not blank, in order. -/
def words (s : Text) : List Text := (s.splitOnP isBlank).filter fun w => !w.isEmpty

/-- The words of a text with single spaces between them. -/
def singleLine (s : Text) : Text := join [' '] (words s)

@[simp] theorem trimStart_nil : trimStart [] = [] := rfl

@[simp] theorem trimEnd_nil : trimEnd [] = [] := rfl

@[simp] theorem trim_nil : trim [] = [] := rfl

theorem trimStart_append_of_blank {s t : Text} (h : ∀ c ∈ s, isBlank c) :
    trimStart (s ++ t) = trimStart t := by
  induction s with
  | nil => rfl
  | cons c s ih =>
    simp only [List.mem_cons, forall_eq_or_imp] at h
    simpa [trimStart, h.1] using ih h.2

theorem trimEnd_append_of_blank {s t : Text} (h : ∀ c ∈ t, isBlank c) :
    trimEnd (s ++ t) = trimEnd s := by
  have := trimStart_append_of_blank (s := t.reverse) (t := s.reverse) (by simpa using h)
  simpa [trimEnd, dropEndWhile, trimStart] using congrArg List.reverse this

theorem words_ne_nil {s w : Text} (h : w ∈ words s) : w ≠ [] := by
  simp only [words, List.mem_filter] at h
  simpa using h.2

end SqlScript.Text
