import SqlScript.Text.Basic

/-!
Decimal numbers in text: digits with an exponent, and whether such a number is too large for a
double-precision number.
-/

namespace SqlScript.Text

def digitValue? (base : Nat) (c : Char) : Option Nat :=
  let value? :=
    if '0' ≤ c ∧ c ≤ '9' then some (c.toNat - 48)
    else if 'a' ≤ c ∧ c ≤ 'f' then some (c.toNat - 87)
    else if 'A' ≤ c ∧ c ≤ 'F' then some (c.toNat - 55)
    else none
  value?.filter (· < base)

/-- The number that digits in a base spell out; there must be one at least. -/
def digits? (base : Nat) (s : Text) : Option Nat :=
  if s = [] then none
  else s.foldl (fun n? c => n?.bind fun n => (digitValue? base c).map (base * n + ·)) (some 0)

def isDigits (s : Text) : Bool := !s.isEmpty && s.all Char.isDigit

def cutSign : Text → Option Char × Text
  | '+' :: s => (some '+', s)
  | '-' :: s => (some '-', s)
  | s => (none, s)

/-- The number `digits * 10 ^ exponent`. -/
structure Decimal where
  digits : Nat
  exponent : Int
deriving DecidableEq, Repr

namespace Decimal

/-- The least number that rounds to infinity in double precision: half a unit in the last place
above the greatest finite number. -/
def infinityBound : Nat := Nat.pow 2 1024 - Nat.pow 2 970

/-- Whether the number rounds to infinity in double precision. The first two cases decide by the
count of digits, so that no large power is computed. -/
def overflows (d : Decimal) : Bool :=
  let places : Int := (Nat.toDigits 10 d.digits).length + d.exponent
  if d.digits = 0 ∨ places < 300 then false
  else if 320 < places then true
  else if d.exponent < 0 then infinityBound * Nat.pow 10 (-d.exponent).toNat ≤ d.digits
  else infinityBound ≤ d.digits * Nat.pow 10 d.exponent.toNat

/-- The parts of a decimal number without its sign: what stands in front of the point, what stands
after it and what stands after the letter of the exponent. -/
structure Parts where
  whole : Text
  fraction : Option Text
  exponent : Option Text
deriving DecidableEq, Repr

def cut (s : Text) : Parts :=
  let isLetter := fun c : Char => c == 'e' || c == 'E'
  let mantissa := s.takeWhile (!isLetter ·)
  { whole := mantissa.takeWhile (· != '.')
    fraction :=
      match mantissa.dropWhile (· != '.') with
      | [] => none
      | _ :: fraction => some fraction
    exponent :=
      match s.dropWhile (!isLetter ·) with
      | [] => none
      | _ :: exponent => some exponent }

def exponentOf (s : Text) : Int :=
  let size := Int.ofNat ((digits? 10 (cutSign s).2).getD 0)
  if (cutSign s).1 = some '-' then -size else size

def ofParts (p : Parts) : Decimal :=
  let fraction := p.fraction.getD []
  ⟨(digits? 10 (p.whole ++ fraction)).getD 0,
    exponentOf (p.exponent.getD []) - Int.ofNat fraction.length⟩

end Decimal

end SqlScript.Text
