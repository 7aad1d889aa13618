import SqlScript.Json
import SqlScript.Proofs.Text.Digits
import Mathlib.Data.List.TakeWhile

/-!
Tokens of JSON. The rules are those of the whole format, so a text can be refused that no value is
written as, and a character can be spelled in more ways than the one that is used for writing. A
string in its quotes and the digits of a number are read as the token they stand for.
-/

namespace SqlScript.Json

open Text

/-! ### Strings -/

/-- The character that a letter stands for behind a backslash. -/
def shortEscape? : Char → Option Char
  | '"' => some '"'
  | '\\' => some '\\'
  | '/' => some '/'
  | 'b' => some '\x08'
  | 'f' => some '\x0C'
  | 'n' => some '\n'
  | 'r' => some '\r'
  | 't' => some '\t'
  | _ => none

/-- The number that four hexadecimal digits in front of a text spell, and what follows them. -/
def readUnit (s : Text) : Option (Nat × Text) :=
  if 4 ≤ s.length then (digits? 16 (s.take 4)).map (·, s.drop 4) else none

/-- Reads the second half of a character beyond the first 65536, which has an escape of its own. -/
def readLowHalf (high : Nat) : Text → Option (Char × Text)
  | '\\' :: 'u' :: s =>
    (readUnit s).bind fun (low, rest) =>
      if high < 0xDC00 ∧ 0xDC00 ≤ low ∧ low < 0xE000 then
        some (.ofNat (0x10000 + 0x400 * (high - 0xD800) + (low - 0xDC00)), rest)
      else none
  | _ => none

/-- Reads an escape behind its backslash. A number that is no character is the first half of one. -/
def readEscape : Text → Option (Char × Text)
  | 'u' :: s =>
    (readUnit s).bind fun (unit, rest) =>
      if unit.isValidChar then some (.ofNat unit, rest) else readLowHalf unit rest
  | c :: s => (shortEscape? c).map (·, s)
  | [] => none

theorem length_readUnit {s rest : Text} {unit : Nat} (h : readUnit s = some (unit, rest)) :
    rest.length < s.length := by
  unfold readUnit at h
  split at h
  · simp only [Option.map_eq_some_iff, Prod.mk.injEq] at h
    obtain ⟨n, -, -, rfl⟩ := h
    rw [List.length_drop]
    omega
  · cases h

theorem length_readLowHalf {high : Nat} {s rest : Text} {c : Char}
    (h : readLowHalf high s = some (c, rest)) : rest.length < s.length := by
  unfold readLowHalf at h
  split at h
  · rename_i s
    simp only [Option.bind_eq_some_iff, Prod.exists] at h
    obtain ⟨low, more, hread, h⟩ := h
    have hlength := length_readUnit hread
    split at h
    · simp only [Option.some.injEq, Prod.mk.injEq] at h
      rw [← h.2, List.length_cons, List.length_cons]
      omega
    · cases h
  · cases h

theorem length_readEscape {s rest : Text} {c : Char} (h : readEscape s = some (c, rest)) :
    rest.length < s.length := by
  unfold readEscape at h
  split at h
  · rename_i s
    simp only [Option.bind_eq_some_iff, Prod.exists] at h
    obtain ⟨unit, more, hread, h⟩ := h
    have hlength := length_readUnit hread
    rw [List.length_cons]
    split at h
    · cases h
      omega
    · have hmore := length_readLowHalf h
      omega
  · simp only [Option.map_eq_some_iff, Prod.mk.injEq] at h
    obtain ⟨e, -, -, rfl⟩ := h
    exact Nat.lt_succ_self _
  · cases h

/-- Reads a string behind its opening quote: the string and what follows its closing quote. -/
def readString : Text → Option (Text × Text)
  | [] => none
  | c :: s =>
    if c = '"' then some ([], s)
    else if c = '\\' then
      match h : readEscape s with
      | some (e, rest) =>
        have := length_readEscape h
        (readString rest).map fun (text, rest) => (e :: text, rest)
      | none => none
    else if c.toNat < 0x20 then none
    else (readString s).map fun (text, rest) => (c :: text, rest)
termination_by s => s.length
decreasing_by
  · exact Nat.lt_succ_of_lt this
  · exact Nat.lt_succ_self _

theorem length_readString {s text rest : Text} (h : readString s = some (text, rest)) :
    rest.length ≤ s.length := by
  fun_induction readString s generalizing text with
  | case1 => cases h
  | case2 s =>
      cases h
      exact Nat.le_succ _
  | case3 s e more hescape hlength _ ih =>
      simp only [Option.map_eq_some_iff, Prod.mk.injEq, Prod.exists] at h
      obtain ⟨text, last, hread, -, rfl⟩ := h
      have := ih hread
      rw [List.length_cons]
      omega
  | case4 => cases h
  | case5 => cases h
  | case6 c s _ _ _ ih =>
      simp only [Option.map_eq_some_iff, Prod.mk.injEq, Prod.exists] at h
      obtain ⟨text, last, hread, -, rfl⟩ := h
      exact Nat.le_succ_of_le (ih hread)

/-! ### Strings in quotes -/

theorem digits?_controlCode : ∀ a < 2, ∀ b < 16,
    digits? 16 ['0', '0', hexDigit a, hexDigit b] = some (16 * a + b) := by decide

/-- The escape of a control character without a letter of its own. -/
theorem readEscape_controlCode {c : Char} (h : c.toNat < 0x20) (rest : Text) :
    readEscape ('u' :: '0' :: '0' :: hexDigit (c.toNat / 16) :: hexDigit (c.toNat % 16) :: rest) =
      some (c, rest) := by
  have hdigits := digits?_controlCode (c.toNat / 16) (by omega) (c.toNat % 16) (by omega)
  rw [Nat.div_add_mod] at hdigits
  have hunit : readUnit ('0' :: '0' :: hexDigit (c.toNat / 16) :: hexDigit (c.toNat % 16) :: rest) =
      some (c.toNat, rest) := by
    simp [readUnit, hdigits]
  have hvalid : c.toNat.isValidChar := c.valid
  rw [readEscape, hunit]
  simp [hvalid, Char.ofNat_toNat]

theorem readString_cons {c : Char} (hquote : c ≠ '"') (hslash : c ≠ '\\') (hcode : ¬c.toNat < 0x20)
    (rest : Text) :
    readString (c :: rest) = (readString rest).map fun (text, rest) => (c :: text, rest) := by
  rw [readString, if_neg hquote, if_neg hslash, if_neg hcode]

theorem readString_escape {s rest : Text} {e : Char} (h : readEscape s = some (e, rest)) :
    readString ('\\' :: s) = (readString rest).map fun (text, rest) => (e :: text, rest) := by
  rw [readString, if_neg (by decide), if_pos rfl]
  split
  · rename_i e' rest' h'
    rw [h] at h'
    cases h'
    rfl
  · rename_i hnone
    rw [h] at hnone
    cases hnone

/-- The spelling of a character is read as the character. -/
theorem readString_escapeChar (c : Char) (rest : Text) :
    readString (escapeChar c ++ rest) =
      (readString rest).map fun (text, rest) => (c :: text, rest) := by
  unfold escapeChar
  split_ifs with hquote hslash _ _ _ _ _ hcode
  rotate_left 7
  · exact readString_escape (readEscape_controlCode hcode rest)
  · exact readString_cons hquote hslash hcode rest
  all_goals
    subst c
    exact readString_escape rfl

/-- A string is read up to its closing quote, whatever it holds. -/
theorem readString_quote (s rest : Text) :
    readString (s.flatMap escapeChar ++ '"' :: rest) = some (s, rest) := by
  induction s with
  | nil => rw [List.flatMap_nil, List.nil_append, readString, if_pos rfl]
  | cons c s ih =>
      rw [List.flatMap_cons, List.append_assoc, readString_escapeChar, ih]
      rfl

/-! ### Numbers -/

/-- A number as it is spelled: with the digits of its fraction and its exponent. -/
structure Number where
  negative : Bool
  magnitude : Decimal
deriving DecidableEq, Repr

namespace Number

def ofNat (n : Nat) : Number := ⟨false, ⟨n, 0⟩⟩

/-- The number without a sign that a text spells. Only the number zero starts with a zero in front
of its point, and a point or the letter of an exponent is followed by a digit. -/
def magnitude? (s : Text) : Option Decimal :=
  let parts := Decimal.cut s
  if isDigits parts.whole && (parts.whole.head? != some '0' || parts.whole == ['0']) &&
      parts.fraction.all isDigits && parts.exponent.all (fun e => isDigits (cutSign e).2) then
    some (.ofParts parts)
  else none

def ofText? : Text → Option Number
  | '-' :: s => (magnitude? s).map (⟨true, ·⟩)
  | s => (magnitude? s).map (⟨false, ·⟩)

end Number

/-! ### Tokens -/

inductive Token where
  | openBracket
  | closeBracket
  | openBrace
  | closeBrace
  | colon
  | comma
  | null
  | boolean (value : Bool)
  | number (value : Number)
  | string (text : Text)
deriving DecidableEq, Repr

namespace Token

/-- White space, which may stand around every token. -/
def isSpace (c : Char) : Bool := c == ' ' || c == '\t' || c == '\n' || c == '\r'

def ofMark? : Char → Option Token
  | '[' => some .openBracket
  | ']' => some .closeBracket
  | '\x7b' => some .openBrace
  | '\x7d' => some .closeBrace
  | ':' => some .colon
  | ',' => some .comma
  | _ => none

/-- Characters of numbers and of the words without quotes. -/
def isBare (c : Char) : Bool := c.isAlphanum || c == '+' || c == '-' || c == '.'

def ofBare? (s : Text) : Option Token :=
  if s = "null".toList then some .null
  else if s = "true".toList then some (.boolean true)
  else if s = "false".toList then some (.boolean false)
  else (Number.ofText? s).map .number

def ofText? : Text → Option (List Token)
  | [] => some []
  | c :: s =>
    if isSpace c then ofText? s
    else
      match ofMark? c with
      | some token => (ofText? s).map (token :: ·)
      | none =>
        if c = '"' then
          match h : readString s with
          | some (text, rest) =>
            have := length_readString h
            (ofText? rest).map (.string text :: ·)
          | none => none
        else
          (ofBare? (c :: s.takeWhile isBare)).bind fun token =>
            (ofText? (s.dropWhile isBare)).map (token :: ·)
termination_by s => s.length
decreasing_by
  all_goals simp only [List.length_cons, Nat.lt_add_one]
  · exact Nat.lt_succ_of_le this
  · exact Nat.lt_succ_of_le (List.dropWhile_suffix _).length_le

/-- Spellings that are not used for writing: a character in two halves, an escape that need not be
one, a number with a fraction and an exponent. -/
example : ofText? "\"\\uD83D\\uDE00\\/\" -1.50e+2".toList =
    some [.string ['😀', '/'], .number ⟨true, ⟨150, 0⟩⟩] := by
  decide +kernel

/-- Half a character, a line break in a string and a number with a zero in front are refused. -/
example : ofText? "\"\\uD83D\"".toList = none ∧ ofText? "\"\n\"".toList = none ∧
    ofText? "01".toList = none := by
  decide +kernel

/-! ### Single tokens -/

theorem ofText?_append_of_isSpace {margin : Text} (h : ∀ c ∈ margin, isSpace c) (rest : Text) :
    ofText? (margin ++ rest) = ofText? rest := by
  induction margin with
  | nil => rfl
  | cons c margin ih =>
      obtain ⟨hc, hmargin⟩ := List.forall_mem_cons.mp h
      rw [List.cons_append, ofText?, if_pos hc, ih hmargin]

theorem ofMark?_of_isSpace {c : Char} (h : isSpace c) : ofMark? c = none := by
  simp only [isSpace, Bool.or_eq_true, beq_iff_eq] at h
  rcases h with ((rfl | rfl) | rfl) | rfl <;> rfl

theorem ofText?_mark {c : Char} {token : Token} (h : ofMark? c = some token) (rest : Text) :
    ofText? (c :: rest) = (ofText? rest).map (token :: ·) := by
  have hspace : isSpace c = false := by
    rw [Bool.eq_false_iff]
    intro hc
    rw [ofMark?_of_isSpace hc] at h
    cases h
  rw [ofText?, hspace]
  simp [h]

theorem ofText?_quote (s rest : Text) :
    ofText? (quote s ++ rest) = (ofText? rest).map (.string s :: ·) := by
  have hquote : quote s ++ rest = '"' :: (s.flatMap escapeChar ++ '"' :: rest) := by
    simp [quote]
  have hmark : ofMark? '"' = none := rfl
  rw [hquote, ofText?, if_neg (by decide)]
  simp only [hmark, if_true]
  split
  · rename_i text more hread
    rw [readString_quote] at hread
    cases hread
    rfl
  · rename_i hnone
    rw [readString_quote] at hnone
    cases hnone

theorem not_isSpace_of_isBare {c : Char} (h : isBare c) :
    isSpace c = false ∧ ofMark? c = none ∧ c ≠ '"' := by
  refine ⟨?_, ?_, ?_⟩
  · by_contra hspace
    simp only [isSpace, Bool.not_eq_false, Bool.or_eq_true, beq_iff_eq] at hspace
    rcases hspace with ((rfl | rfl) | rfl) | rfl <;> exact absurd h (by decide)
  · unfold ofMark?
    split
    case h_7 => rfl
    all_goals exact absurd h (by decide)
  · rintro rfl
    exact absurd h (by decide)

/-- A text without quotes is read up to the first character that it cannot hold. -/
theorem ofText?_bare {c : Char} {s rest : Text} {token : Token} (hs : ∀ d ∈ c :: s, isBare d)
    (hrest : rest.head?.all (!isBare ·)) (h : ofBare? (c :: s) = some token) :
    ofText? (c :: s ++ rest) = (ofText? rest).map (token :: ·) := by
  obtain ⟨hc, hs⟩ := List.forall_mem_cons.mp hs
  obtain ⟨hspace, hmark, hquote⟩ := not_isSpace_of_isBare hc
  have hcut : (s ++ rest).takeWhile isBare = s ∧ (s ++ rest).dropWhile isBare = rest := by
    rw [List.takeWhile_append_of_pos hs, List.dropWhile_append_of_pos hs]
    cases rest with
    | nil => simp
    | cons d rest =>
        have hd : isBare d = false := by simpa using hrest
        simp [hd]
  rw [List.cons_append, ofText?, hspace]
  simp only [Bool.false_eq_true, if_false, hmark, hquote, hcut, h, Option.bind_some]

end Token

/-! ### The digits of a number -/

theorem cut_of_isDigits {s : Text} (h : isDigits s) : Decimal.cut s = ⟨s, none, none⟩ := by
  have hall : ∀ c ∈ s, c.isDigit := by
    simp only [isDigits, Bool.and_eq_true, List.all_eq_true] at h
    exact h.2
  have hletter : ∀ c ∈ s, (!(c == 'e' || c == 'E')) = true := fun c hc => by
    simp [ne_of_isDigit (hall c hc) (d := 'e') (by decide),
      ne_of_isDigit (hall c hc) (d := 'E') (by decide)]
  have hpoint : ∀ c ∈ s, (c != '.') = true := fun c hc =>
    bne_iff_ne.mpr (ne_of_isDigit (hall c hc) (by decide))
  simp only [Decimal.cut, List.takeWhile_eq_self_iff.mpr hletter,
    List.dropWhile_eq_nil_iff.mpr fun c hc => hletter c hc,
    List.takeWhile_eq_self_iff.mpr hpoint, List.dropWhile_eq_nil_iff.mpr fun c hc => hpoint c hc]

theorem magnitude?_ofNat (n : Nat) : Number.magnitude? (ofNat n) = some ⟨n, 0⟩ := by
  have hdigits := isDigits_ofNat n
  have hzero : ((ofNat n).head? != some '0' || ofNat n == ['0']) = true := by
    cases n with
    | zero => rfl
    | succ n => simp [head?_ofNat (Nat.succ_pos n)]
  have hvalue : Decimal.ofParts ⟨ofNat n, none, none⟩ = ⟨n, 0⟩ := by
    have hnone : digits? 10 [] = none := rfl
    simp [Decimal.ofParts, digits?_ofNat, Decimal.exponentOf, cutSign, hnone]
  simp [Number.magnitude?, cut_of_isDigits hdigits, hdigits, hzero, hvalue]

theorem ofBare?_ofNat (n : Nat) : Token.ofBare? (ofNat n) = some (.number (.ofNat n)) := by
  have hword : ∀ c s, c.isDigit = false → ofNat n ≠ c :: s := fun c s hc h =>
    notMem_ofNat hc n (h ▸ List.mem_cons_self)
  have hnumber : Number.ofText? (ofNat n) = some (.ofNat n) := by
    unfold Number.ofText?
    split
    · rename_i s hs
      exact absurd hs (hword '-' s (by decide))
    · rw [magnitude?_ofNat]
      rfl
  have hnull : ofNat n ≠ "null".toList := hword 'n' _ (by decide)
  have htrue : ofNat n ≠ "true".toList := hword 't' _ (by decide)
  have hfalse : ofNat n ≠ "false".toList := hword 'f' _ (by decide)
  rw [Token.ofBare?, if_neg hnull, if_neg htrue, if_neg hfalse, hnumber]
  rfl

theorem Token.ofText?_ofNat (n : Nat) {rest : Text} (hrest : rest.head?.all (!isBare ·)) :
    ofText? (ofNat n ++ rest) = (ofText? rest).map (.number (.ofNat n) :: ·) := by
  have hbare : ∀ c ∈ ofNat n, isBare c := fun c hc => by
    simp [isBare, Char.isAlphanum, isDigit_of_mem_ofNat hc]
  have htoken := ofBare?_ofNat n
  obtain ⟨c, s, hs⟩ := List.exists_cons_of_ne_nil (ofNat_ne_nil n)
  rw [hs] at hbare htoken ⊢
  exact ofText?_bare hbare hrest htoken

end SqlScript.Json
