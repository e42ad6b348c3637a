import Fieldbook.Double.Decimal
import Fieldbook.Json.Basic

/-!
# Numbers in JSON documents

What a numeral means as a whole number and as a double, and the numeral that is written for a double.

A numeral means a double by the quick method: its digits are gathered into a whole number of sixty-four
bits as long as they fit, and that number, as a double, is multiplied by a power of ten or divided by
one. Both steps round, so the result is not always the nearest double. Digits before the point that do
not fit any more count as zeros, digits behind it not at all.

A double is written with its shortest digits: with a point up to `10 ^ 16`, with zeros in front down to
`10 ^ -5`, and with an exponent beyond.
-/

namespace Fieldbook.Numeral

/-- The numeral has neither decimal places nor an exponent. -/
def isInteger (n : Numeral) : Bool :=
  n.fraction.isEmpty && n.exponent.isNone

/-- The numeral of a natural number. -/
def ofNat (n : Nat) : Numeral := { whole := Nat.toDigits 10 n }

/-- The natural number up to `limit` that a numeral without sign, point and exponent stands for. -/
def toNat? (n : Numeral) (limit : Nat) : Option Nat :=
  if n.isInteger && !n.negative then (Decimal.ofDigits? n.whole).filter (· ≤ limit) else none

/-! ## Numerals as doubles -/

/-- Appends digits to a number as long as it stays below `2 ^ 64`; answers the digits left over too. -/
def gather (n : Nat) : List Char → Nat × List Char
  | [] => (n, [])
  | c :: cs =>
    let next := 10 * n + (Decimal.digit? c).getD 0
    if UInt64.size ≤ next then (n, c :: cs) else gather next cs

/-- The power of ten as a double, rounded. -/
def powerOfTen (k : Nat) : Option Magnitude := Magnitude.nearest (Decimal.tenTo k) 1

/-- The magnitude times a power of ten, in steps that powers of ten up to `10 ^ 308` can do. `none`
means beyond the largest double. From below, two steps reach zero. -/
def scale : Nat → Magnitude → Int → Option Magnitude
  | steps, m, exponent =>
    if exponent.natAbs ≤ 308 then
      (powerOfTen exponent.natAbs).bind fun p => if 0 ≤ exponent then m.times p else m.quotient p
    else if m = .zero then some m
    else if 0 ≤ exponent then none
    else
      match steps with
      | 0 => some .zero
      | steps + 1 =>
        ((powerOfTen 308).bind m.quotient).bind fun m => scale steps m (exponent + 308)

/-- The digits of a numeral gathered into a whole number, and the power of ten that goes with it. -/
def significand (n : Numeral) : Nat × Int :=
  let (whole, dropped) := gather 0 n.whole
  let (digits, unused) := gather whole n.fraction
  (digits, dropped.length - (n.fraction.length - unused.length : Nat))

/-- The largest exponent that is looked at, `2 ^ 31 - 1`; a larger one only says that the number is far
out. -/
def exponentLimit : Nat := 2147483647

/-- The double that a numeral means; none if it is beyond the largest one. -/
def toDouble? (n : Numeral) : Option Double :=
  let (digits, places) := n.significand
  if n.isInteger && places == 0 then
    some (if n.negative then .ofNegNat digits else .ofNat digits)
  else
    let exponent := n.exponent.getD 0
    if exponentLimit < exponent.natAbs then
      if digits ≠ 0 ∧ 0 < exponent then none else some (.finite n.negative .zero)
    else
      (Magnitude.nearest digits 1).bind fun m =>
        (scale 3 m (places + exponent)).map (.finite n.negative)

/-! ## Numerals for doubles -/

/-- The numeral of a nonzero decimal by where its point stands. -/
def ofDecimal (negative : Bool) (d : Decimal) : Numeral :=
  let zeros := fun (n : Int) => List.replicate n.toNat '0'
  if 0 ≤ d.exponent ∧ d.point ≤ 16 then
    { negative, whole := d.digits ++ zeros d.exponent, fraction := ['0'] }
  else if 0 < d.point ∧ d.point ≤ 16 then
    { negative, whole := d.digits.take d.point.toNat, fraction := d.digits.drop d.point.toNat }
  else if -5 < d.point ∧ d.point ≤ 0 then
    { negative, whole := ['0'], fraction := zeros (-d.point) ++ d.digits }
  else
    { negative, whole := d.digits.take 1, fraction := d.digits.drop 1,
      exponent := some (d.point - 1) }

/-- The numeral of a double, unless it is infinite or no number. -/
def ofDouble? : Double → Option Numeral
  | .finite negative m =>
    some <|
      if m = .zero then { negative, whole := ['0'], fraction := ['0'] }
      else ofDecimal negative (m.shortest .even)
  | _ => none

end Fieldbook.Numeral
