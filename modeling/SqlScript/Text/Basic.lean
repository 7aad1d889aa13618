/-!
Texts are lists of characters. This module holds the operations on them that do not depend on a
table of character properties: ASCII case, ends of a text, joining, and the decimal digits of a
number.
-/

namespace SqlScript

/-- A text, one element per Unicode scalar value. -/
abbrev Text := List Char

instance : Coe String Text := ⟨String.toList⟩

namespace Text

/-- Upper-cases the letters A to Z and leaves every other character alone. -/
def asciiUpper (s : Text) : Text := s.map Char.toUpper

def asciiLower (s : Text) : Text := s.map Char.toLower

/-- Equality up to the case of ASCII letters. -/
def sameWord (s t : Text) : Bool := asciiLower s == asciiLower t

/-- The text without one occurrence of `tail` at its end, unchanged if it does not end so. -/
def dropTail (tail s : Text) : Text :=
  if tail.isSuffixOf s then s.take (s.length - tail.length) else s

def dropEndWhile (p : Char → Bool) (s : Text) : Text := (s.reverse.dropWhile p).reverse

def join (separator : Text) (parts : List Text) : Text := (parts.intersperse separator).flatten

def ofNat (n : Nat) : Text := Nat.toDigits 10 n

@[simp] theorem length_asciiUpper (s : Text) : (asciiUpper s).length = s.length := by
  simp [asciiUpper]

@[simp] theorem length_asciiLower (s : Text) : (asciiLower s).length = s.length := by
  simp [asciiLower]

@[simp] theorem asciiUpper_append (s t : Text) :
    asciiUpper (s ++ t) = asciiUpper s ++ asciiUpper t := by
  simp [asciiUpper]

@[simp] theorem asciiLower_append (s t : Text) :
    asciiLower (s ++ t) = asciiLower s ++ asciiLower t := by
  simp [asciiLower]

@[simp] theorem dropTail_append (tail s : Text) : dropTail tail (s ++ tail) = s := by
  simp [dropTail]

theorem dropTail_prefix_self (tail s : Text) : dropTail tail s <+: s := by
  unfold dropTail
  split
  · exact List.take_prefix _ _
  · exact List.prefix_rfl

theorem dropTail_of_not_suffix {tail s : Text} (h : ¬tail <:+ s) : dropTail tail s = s := by
  simp [dropTail, h]

end Text

end SqlScript
