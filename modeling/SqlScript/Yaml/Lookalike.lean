import SqlScript.Text.Decimal

/-!
Texts that a YAML reader would take for something else than a string: nothing, a boolean or a
number.
-/

namespace SqlScript.Yaml

open Text

def nullTexts : List Text := ["", "null", "Null", "NULL", "~"]

def booleanTexts : List Text := ["true", "True", "TRUE", "false", "False", "FALSE"]

/-- Texts that stand for infinity, with or without a sign. -/
def infinityTexts : List Text := [".inf", ".Inf", ".INF"]

def nanTexts : List Text := [".nan", ".NaN", ".NAN"]

/-- Whether a text has more than one digit, an optional sign aside, and starts with a zero. -/
def isZeroPadded (s : Text) : Bool :=
  let digits := (cutSign s).2
  1 < digits.length && digits.head? == some '0' && digits.all Char.isDigit

/-- An integer with a base, an optional sign aside. -/
def basedDigits? : Text → Option Nat
  | '0' :: 'x' :: digits => digits? 16 digits
  | '0' :: 'o' :: digits => digits? 8 digits
  | '0' :: 'b' :: digits => digits? 2 digits
  | _ => none

/-- Whether a text is an integer with a base that 128 bits can hold. -/
def isBasedInteger (s : Text) : Bool :=
  match cutSign s with
  | (some '-', digits) => (basedDigits? digits).any (· ≤ Nat.pow 2 127)
  | (_, digits) => (basedDigits? digits).any (· < Nat.pow 2 128)

/-- Whether a text is a decimal number, with or without a point and an exponent, that is not too
large. -/
def isDecimal (s : Text) : Bool :=
  let parts := Decimal.cut (cutSign s).2
  isDigits (parts.whole ++ parts.fraction.getD []) &&
    parts.exponent.all (fun e => isDigits (cutSign e).2) && !(Decimal.ofParts parts).overflows

def isNumber (s : Text) : Bool :=
  isBasedInteger s || infinityTexts.contains (cutSign s).2 || nanTexts.contains s || isDecimal s

/-- Whether a text has to be quoted because of what it would be read as. -/
def isLookalike (s : Text) : Bool :=
  nullTexts.contains s || booleanTexts.contains s || isZeroPadded s || isNumber s

end SqlScript.Yaml
