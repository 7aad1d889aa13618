import SqlScript.Text.Decimal

/-!
Quoted strings of TOML. A basic string stands in double quotes and has escapes, a literal string
stands in single quotes and has none. Either may be written over several lines between tripled
quotes.
-/

namespace SqlScript.Toml

open Text

/-- Whether a character may stand in a comment or in a string on one line. -/
def isPlain (c : Char) : Bool := c = '\t' || (0x20 ≤ c.toNat && c.toNat ≠ 0x7F)

/-- Whether the body of a string holds only characters that may stand there. Line breaks may, if
it spans lines, and a carriage return only in front of a line feed. -/
def isBody (spansLines : Bool) : Text → Bool
  | [] => true
  | c :: s =>
    (isPlain c || (spansLines && (c == '\n' || (c == '\r' && s.head? == some '\n')))) &&
      isBody spansLines s

/-- Cuts a text at the quote that ends a string on one line. In a string with escapes a backslash
hides the character after it; `hidden` tells whether the first character is hidden so. -/
def cutLine (quote : Char) (escapes hidden : Bool) : Text → Option (Text × Text)
  | [] => none
  | c :: s =>
    if c = quote ∧ !hidden then some ([], s)
    else
      (cutLine quote escapes (escapes && c == '\\' && !hidden) s).map fun (body, rest) =>
        (c :: body, rest)

/-- Cuts a text at the three quotes that end a string over several lines. Up to two more quotes in
front of them belong to the string. -/
def cutLines (quote : Char) (escapes hidden : Bool) : Text → Option (Text × Text)
  | [] => none
  | c :: s =>
    if c = quote ∧ !hidden ∧ s.take 2 = [quote, quote] then
      let more := ((s.drop 2).take 2).takeWhile (· == quote)
      some (more, s.drop (2 + more.length))
    else
      (cutLines quote escapes (escapes && c == '\\' && !hidden) s).map fun (body, rest) =>
        (c :: body, rest)

/-- Where the reading of an escape stands. -/
inductive Escape where
  | outside
  | opened
  /-- Within a code point, with `missing` digits to come. -/
  | code (missing value : Nat)
  /-- After a backslash at the end of a line, which skips the white space that follows. -/
  | lineEnd (seenBreak : Bool)
deriving DecidableEq, Repr

def shortEscape? : Char → Option Char
  | 'b' => some '\x08'
  | 't' => some '\t'
  | 'n' => some '\n'
  | 'f' => some '\x0C'
  | 'r' => some '\r'
  | 'e' => some '\x1B'
  | '"' => some '"'
  | '\\' => some '\\'
  | _ => none

/-- The number of digits of a code point after a backslash and this letter. -/
def codeDigits? : Char → Option Nat
  | 'x' => some 2
  | 'u' => some 4
  | 'U' => some 8
  | _ => none

def charOfCode? (code : Nat) : Option Char := if code.isValidChar then some (.ofNat code) else none

def unescapeFrom : Escape → Text → Option Text
  | .outside, [] | .lineEnd true, [] => some []
  | _, [] => none
  | .outside, c :: s =>
    if c = '\\' then unescapeFrom .opened s else (unescapeFrom .outside s).map (c :: ·)
  | .opened, c :: s =>
    if c = ' ' ∨ c = '\t' ∨ c = '\r' then unescapeFrom (.lineEnd false) s
    else if c = '\n' then unescapeFrom (.lineEnd true) s
    else
      match shortEscape? c, codeDigits? c with
      | some e, _ => (unescapeFrom .outside s).map (e :: ·)
      | none, some count => unescapeFrom (.code count 0) s
      | none, none => none
  | .code missing value, c :: s =>
    match digitValue? 16 c with
    | none => none
    | some digit =>
      if missing ≤ 1 then
        match charOfCode? (16 * value + digit) with
        | some e => (unescapeFrom .outside s).map (e :: ·)
        | none => none
      else unescapeFrom (.code (missing - 1) (16 * value + digit)) s
  | .lineEnd seenBreak, c :: s =>
    if c = ' ' ∨ c = '\t' ∨ c = '\r' then unescapeFrom (.lineEnd seenBreak) s
    else if c = '\n' then unescapeFrom (.lineEnd true) s
    else if !seenBreak then none
    else if c = '\\' then unescapeFrom .opened s
    else (unescapeFrom .outside s).map (c :: ·)

def unescape (body : Text) : Option Text := unescapeFrom .outside body

/-- The body of a string over several lines without the line break it starts with. -/
def dropFirstBreak : Text → Text
  | '\n' :: s => s
  | '\r' :: '\n' :: s => s
  | s => s

def ofBody (quote : Char) (spansLines : Bool) (body : Text) : Option Text :=
  if !isBody spansLines body then none
  else
    let body := if spansLines then dropFirstBreak body else body
    if quote = '"' then unescape body else some body

/-- Reads a string whose opening quote has been read: its text, whether it spans lines, and what
follows it. -/
def readQuoted (quote : Char) (s : Text) : Option ((Text × Bool) × Text) :=
  if s.take 2 = [quote, quote] then
    (cutLines quote (quote == '"') false (s.drop 2)).bind fun (body, rest) =>
      (ofBody quote true body).map fun text => ((text, true), rest)
  else
    (cutLine quote (quote == '"') false s).bind fun (body, rest) =>
      (ofBody quote false body).map fun text => ((text, false), rest)

theorem length_cutLine {quote : Char} {escapes hidden : Bool} {s body rest : Text}
    (h : cutLine quote escapes hidden s = some (body, rest)) : rest.length ≤ s.length := by
  induction s generalizing hidden body with
  | nil => simp [cutLine] at h
  | cons c s ih =>
    simp only [cutLine] at h
    split at h
    · simp only [Option.some.injEq, Prod.mk.injEq] at h
      simp [← h.2]
    · simp only [Option.map_eq_some_iff, Prod.mk.injEq, Prod.exists] at h
      obtain ⟨b, r, hb, -, rfl⟩ := h
      exact Nat.le_succ_of_le (ih hb)

theorem length_cutLines {quote : Char} {escapes hidden : Bool} {s body rest : Text}
    (h : cutLines quote escapes hidden s = some (body, rest)) : rest.length ≤ s.length := by
  induction s generalizing hidden body with
  | nil => simp [cutLines] at h
  | cons c s ih =>
    simp only [cutLines] at h
    split at h
    · simp only [Option.some.injEq, Prod.mk.injEq] at h
      simp only [← h.2, List.length_drop, List.length_cons]
      omega
    · simp only [Option.map_eq_some_iff, Prod.mk.injEq, Prod.exists] at h
      obtain ⟨b, r, hb, -, rfl⟩ := h
      exact Nat.le_succ_of_le (ih hb)

theorem length_readQuoted {quote : Char} {s rest : Text} {read : Text × Bool}
    (h : readQuoted quote s = some (read, rest)) : rest.length ≤ s.length := by
  unfold readQuoted at h
  split at h <;> simp only [Option.bind_eq_some_iff, Option.map_eq_some_iff, Prod.exists,
    Prod.mk.injEq] at h
  · obtain ⟨body, r, hc, t, -, -, rfl⟩ := h
    have := length_cutLines hc
    simp only [List.length_drop] at this; omega
  · obtain ⟨body, r, hc, t, -, -, rfl⟩ := h
    exact length_cutLine hc

end SqlScript.Toml
