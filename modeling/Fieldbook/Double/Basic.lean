/-!
# Doubles

The floating-point numbers of sixty-four bits, as exact values. A finite double is a sign and a
magnitude, and a magnitude is a whole number of *units*, the unit being the least positive double
`2^-1074`. So all arithmetic here is arithmetic of natural numbers; powers of two are written as shifts.

* a magnitude has one form only (`Magnitude.canonical`), so equal values are equal terms, zero having
  a sign like every other finite double;
* `Magnitude.nearest` rounds any quotient to the nearest magnitude, ties to the even one; reading a
  decimal, converting a whole number and multiplying by a power of ten are all this one rounding.
-/

namespace Fieldbook

/-- A finite magnitude: `mantissa * 2 ^ exponent` units of `2 ^ -1074`, written with the least
exponent that leaves the mantissa below `2 ^ 53`. -/
structure Magnitude where
  mantissa : Nat
  exponent : Nat
  /-- The mantissa fits, the exponent is in range, and no smaller exponent would have done. -/
  canonical : mantissa < 1 <<< 53 ∧ exponent ≤ 2045 ∧ (exponent = 0 ∨ 1 <<< 52 ≤ mantissa)
  deriving DecidableEq

namespace Magnitude

/-- The magnitude with this mantissa and exponent, when that is its canonical form. -/
def make? (mantissa exponent : Nat) : Option Magnitude :=
  if h : mantissa < 1 <<< 53 ∧ exponent ≤ 2045 ∧ (exponent = 0 ∨ 1 <<< 52 ≤ mantissa) then
    some ⟨mantissa, exponent, h⟩
  else none

/-- The number zero. -/
def zero : Magnitude := ⟨0, 0, by decide⟩

/-- How many times `2 ^ -1074` the magnitude is. -/
def units (x : Magnitude) : Nat := x.mantissa <<< x.exponent

/-- How many units make one. -/
def unitsPerOne : Nat := 1 <<< 1074

/-- The whole quotient nearest to `num / den`, the even one of two that are equally near. -/
def roundedQuotient (num den : Nat) : Nat :=
  let quotient := num / den
  let remainder := num % den
  if 2 * remainder < den then quotient
  else if den < 2 * remainder then quotient + 1
  else quotient + quotient % 2

/-- The magnitude nearest to `num / den` units, or `none` beyond the largest one. Bits below the
fifty-third of the quotient are rounded away; a carry into a fifty-fourth moves the exponent up. -/
def nearestUnits (num den : Nat) : Option Magnitude :=
  let exponent := (num / den).log2 - 52
  let mantissa := roundedQuotient num (den <<< exponent)
  if mantissa = 1 <<< 53 then make? (1 <<< 52) (exponent + 1) else make? mantissa exponent

/-- The magnitude nearest to the number `num / den`, or `none` beyond the largest one. -/
def nearest (num den : Nat) : Option Magnitude :=
  nearestUnits (num * unitsPerOne) den

/-- The product, rounded to the nearest magnitude. -/
def times (x y : Magnitude) : Option Magnitude :=
  nearest (x.units * y.units) (unitsPerOne * unitsPerOne)

/-- The quotient, rounded to the nearest magnitude. The divisor is not zero. -/
def quotient (x y : Magnitude) : Option Magnitude :=
  nearest x.units y.units

/-- The whole number below or at the magnitude. -/
def wholePart (x : Magnitude) : Nat := x.units / unitsPerOne

/-- Nothing stands after the decimal point. -/
def isWhole (x : Magnitude) : Bool := x.units % unitsPerOne == 0

end Magnitude

/-- A floating-point number of sixty-four bits. What a number that is no number carries besides is
not kept. -/
inductive Double where
  /-- The result of no meaningful operation. -/
  | notANumber
  /-- Beyond every finite number. -/
  | infinite (negative : Bool)
  /-- A sign and a magnitude. -/
  | finite (negative : Bool) (magnitude : Magnitude)
  deriving DecidableEq

namespace Double

/-- Positive zero. -/
def zero : Double := .finite false .zero

/-- The double of a rounded magnitude: beyond the largest one stands infinity. -/
def signed (negative : Bool) : Option Magnitude → Double
  | some m => .finite negative m
  | none => .infinite negative

/-- The double nearest to a natural number. -/
def ofNat (n : Nat) : Double :=
  signed false (Magnitude.nearest n 1)

/-- The double nearest to the negative of a natural number. -/
def ofNegNat (n : Nat) : Double :=
  signed true (Magnitude.nearest n 1)

/-- Neither infinite nor no number. -/
def isFinite : Double → Bool
  | .finite _ _ => true
  | _ => false

/-- The same number: signs of zero are told apart by no comparison, and what is no number differs
from everything, itself included. -/
def equals : Double → Double → Bool
  | .finite s x, .finite t y => x == y && (s == t || x == .zero)
  | .infinite s, .infinite t => s == t
  | _, _ => false

/-- The natural number a double is, if it is one. Both zeros are. -/
def toNat? : Double → Option Nat
  | .finite negative m =>
    if m.isWhole && (!negative || m == .zero) then some m.wholePart else none
  | _ => none

/-- A number from zero to `limit` without what stands after its decimal point. -/
def truncated? (limit : Nat) : Double → Option Nat
  | .finite negative m =>
    if (!negative || m == .zero) && m.units ≤ limit * Magnitude.unitsPerOne then some m.wholePart
    else none
  | _ => none

/-- The sixty-four bits as a natural number; a number that is no number has none of its own. -/
def bits? : Double → Option Nat
  | .notANumber => none
  | .infinite negative => some (sign negative + 2047 <<< 52)
  | .finite negative m => some (sign negative + m.exponent <<< 52 + m.mantissa)
where
  /-- The bit of the sign. -/
  sign (negative : Bool) : Nat := if negative then 1 <<< 63 else 0

end Double

end Fieldbook
