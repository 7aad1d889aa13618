import SqlScript.Text.Decimal

/-!
Bare scalars of TOML: booleans, integers, floats, dates and times. Only booleans and the kind of
the others matter to a reader of settings, but a scalar that is none of them spoils the document.
A number is told by its outline, so it may be too large to be read, or have letters among its
digits; it is part of the document all the same.
-/

namespace SqlScript.Toml

open Text

/-- A value written without quotes. -/
inductive Scalar where
  | boolean (value : Bool)
  /-- A whole number, without a value if its digits spell none. -/
  | integer (value? : Option Int)
  /-- A number with a fraction or an exponent, which may be larger than any float of 64 bits. -/
  | float (tooLarge : Bool)
  | moment
deriving DecidableEq, Repr

namespace Scalar

/-- The number that digits spell out, where underscores may stand between two digits. -/
def spacedDigits? (base : Nat) (s : Text) : Option Nat :=
  if (s.splitOn '_').contains [] then none else digits? base (s.filter (· != '_'))

/-- The digits in front of a fraction or an exponent, without superfluous zeros. -/
def wholeDigits? (s : Text) : Option Nat :=
  if s.head? = some '0' ∧ s ≠ ['0'] then none else spacedDigits? 10 s

/-- An integer with a base, as the answer which value it has; without digits it has none. -/
def basedInteger? (base : Nat) (digits : Text) : Option (Option Int) :=
  if digits = [] then some none else (spacedDigits? base digits).map fun n => some (Int.ofNat n)

def isHexDigit (c : Char) : Bool := (digitValue? 16 c).isSome

/-- Whether texts can be the groups of a number, set off by underscores: a digit of base sixteen
stands on both sides of each underscore. What else is in a group does not count. -/
def areGroups : List Text → Bool
  | [] => true
  | [group] => group.head?.any isHexDigit
  | group :: groups =>
    group.head?.any isHexDigit && group.getLast?.any isHexDigit && areGroups groups

def isFloatMark (c : Char) : Bool := c == '.' || c == 'e' || c == 'E'

/-- Whether a text without its sign has the outline of a decimal integer: digits without a
superfluous zero, and then groups. -/
def isDecimalInteger (s : Text) : Bool :=
  match s.splitOn '_' with
  | [] => false
  | first :: groups =>
    !s.any isFloatMark && isDigits first && (first.head? != some '0' || s == ['0']) &&
      areGroups groups

def decimalInteger? (s : Text) : Option (Option Nat) :=
  if isDecimalInteger s then some (digits? 10 (s.filter (· != '_'))) else none

/-- An integer, as the answer which value it has: decimal with an optional sign, or with a base and
no sign. -/
def integer? (s : Text) : Option (Option Int) :=
  match s with
  | '0' :: 'x' :: digits => basedInteger? 16 digits
  | '0' :: 'o' :: digits => basedInteger? 8 digits
  | '0' :: 'b' :: digits => basedInteger? 2 digits
  | s =>
    let (sign?, digits) := cutSign s
    (decimalInteger? digits).map fun n? =>
      n?.map fun n => if sign? = some '-' then -Int.ofNat n else n

/-- A float, as the answer whether it is too large: a word, or digits with a fraction or an
exponent. -/
def float? (s : Text) : Option Bool :=
  let unsigned := (cutSign s).2
  let parts := Decimal.cut unsigned
  let isSpaced := fun t : Text => (spacedDigits? 10 t).isSome
  if unsigned = "inf".toList ∨ unsigned = "nan".toList then some false
  else if (parts.fraction.isSome || parts.exponent.isSome) &&
      (wholeDigits? parts.whole).isSome && parts.fraction.all isSpaced &&
      parts.exponent.all (fun e => isSpaced (cutSign e).2) then
    some (Decimal.ofParts (Decimal.cut (unsigned.filter (· != '_')))).overflows
  else none

def isLeapYear (year : Nat) : Bool := year % 4 == 0 && (year % 100 != 0 || year % 400 == 0)

def daysIn (year month : Nat) : Nat :=
  if month = 2 then if isLeapYear year then 29 else 28
  else if month = 4 ∨ month = 6 ∨ month = 9 ∨ month = 11 then 30
  else 31

/-- A number of exactly `count` digits in front of a text. -/
def fixedDigits? (count : Nat) (s : Text) : Option (Nat × Text) :=
  if isDigits (s.take count) ∧ (s.take count).length = count then
    (digits? 10 (s.take count)).map (·, s.drop count)
  else none

def after? (c : Char) : Text → Option Text
  | d :: s => if c = d then some s else none
  | [] => none

/-- What follows a date `YYYY-MM-DD`. -/
def afterDate? (s : Text) : Option Text := do
  let (year, s) ← fixedDigits? 4 s
  let (month, s) ← fixedDigits? 2 (← after? '-' s)
  let (day, s) ← fixedDigits? 2 (← after? '-' s)
  if 1 ≤ month ∧ month ≤ 12 ∧ 1 ≤ day ∧ day ≤ daysIn year month then some s else none

/-- What follows the fraction of a second; a point needs a digit after it. -/
def afterFraction? : Text → Option Text
  | '.' :: s => if s.head?.any Char.isDigit then some (s.dropWhile Char.isDigit) else none
  | s => some s

/-- What follows a time `HH:MM`, with or without seconds and their fraction. -/
def afterTime? (s : Text) : Option Text := do
  let (hour, s) ← fixedDigits? 2 s
  let (minute, s) ← fixedDigits? 2 (← after? ':' s)
  if 24 ≤ hour ∨ 60 ≤ minute then none
  else
    match s with
    | ':' :: s =>
      let (second, s) ← fixedDigits? 2 s
      if second ≤ 60 then afterFraction? s else none
    | s => some s

/-- Whether a text is an offset from universal time, or empty. -/
def isOffset (s : Text) : Bool :=
  match s with
  | [] | ['Z'] | ['z'] => true
  | c :: s =>
    (c == '+' || c == '-') &&
      match fixedDigits? 2 s with
      | some (hour, ':' :: s) =>
        match fixedDigits? 2 s with
        | some (minute, []) => hour < 24 && minute < 60
        | _ => false
      | _ => false

def isMoment (s : Text) : Bool :=
  match afterDate? s with
  | some [] => true
  | some (c :: s) => (c == 'T' || c == 't' || c == ' ') && (afterTime? s).any isOffset
  | none => afterTime? s == some []

def ofText? (s : Text) : Option Scalar :=
  if s = "true".toList then some (.boolean true)
  else if s = "false".toList then some (.boolean false)
  else
    match integer? s, float? s with
    | some n?, _ => some (.integer n?)
    | none, some tooLarge => some (.float tooLarge)
    | none, none => if isMoment s then some .moment else none

/-- Whether a scalar can be read as what it is: a number that a signed or unsigned integer of 128
bits holds, or a float of 64 bits. -/
def isReadable : Scalar → Bool
  | .integer n? => n?.any fun n => -Int.ofNat (Nat.pow 2 127) ≤ n && n < Int.ofNat (Nat.pow 2 128)
  | .float tooLarge => !tooLarge
  | .boolean _ | .moment => true

end Scalar

end SqlScript.Toml
