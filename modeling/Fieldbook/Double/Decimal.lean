import Fieldbook.Double.Basic

/-!
# Decimals

A decimal is a whole coefficient times a power of ten. `Double.ofDecimal` is the double nearest to one;
`Magnitude.shortest` is the way back: of the decimals that read back as the magnitude, one with the
fewest digits, and among those the nearest.

The search for the shortest decimal tries powers of ten from large to small. A grid of multiples of a
power of ten has a point in the interval of numbers that round to the magnitude exactly when one of the
two neighbours of the magnitude on that grid lies there, so two candidates per grid are enough.
-/

namespace Fieldbook

/-- The number `coefficient * 10 ^ exponent`. -/
structure Decimal where
  coefficient : Nat
  exponent : Int
  deriving DecidableEq

namespace Decimal

/-- A power of ten. -/
def tenTo (k : Nat) : Nat := Nat.pow 10 k

/-- The digits of the coefficient, most significant first. -/
def digits (d : Decimal) : List Char := Nat.toDigits 10 d.coefficient

/-- Where the decimal point stands: the number is `0.` followed by the digits, times ten to this
power. -/
def point (d : Decimal) : Int := d.digits.length + d.exponent

/-- The decimal as a quotient of natural numbers. -/
def ratio (d : Decimal) : Nat × Nat :=
  if 0 ≤ d.exponent then (d.coefficient * tenTo d.exponent.toNat, 1)
  else (d.coefficient, tenTo (-d.exponent).toNat)

end Decimal

/-- The double nearest to a signed decimal. Powers of ten far outside the range are not multiplied
out: a number from `10 ^ 400` on is infinite and one below `10 ^ (-400)` is zero. -/
def Double.ofDecimal (negative : Bool) (d : Decimal) : Double :=
  if d.coefficient = 0 ∨ d.point < -400 then .finite negative .zero
  else if 400 < d.point then .infinite negative
  else .signed negative (Magnitude.nearest d.ratio.1 d.ratio.2)

/-! ## Shortest decimals -/

/-- Which of two decimals is taken when both are equally near: the larger one, or the one whose last
digit is even. -/
inductive TieRule where
  | up
  | even
  deriving DecidableEq

namespace Magnitude

/-- Whether `num / den` rounds to the magnitude, the magnitude not being zero. The numbers half a step
below and above it bound the interval; a step down from the least mantissa is half as long. The bounds
themselves round to it exactly when the mantissa is even. -/
def admits (x : Magnitude) (num den : Nat) : Bool :=
  let scale := den <<< x.exponent
  let below := if x.mantissa = 1 <<< 52 ∧ 0 < x.exponent then 1 else 2
  let value := 4 * num * unitsPerOne
  let low := (4 * x.mantissa - below) * scale
  let high := (4 * x.mantissa + 2) * scale
  if x.mantissa % 2 = 0 then decide (low ≤ value ∧ value ≤ high)
  else decide (low < value ∧ value < high)

/-- The decimal with this exponent that reads back as the magnitude and is nearest to it. -/
def onGrid? (x : Magnitude) (tie : TieRule) (exponent : Int) : Option Decimal :=
  let one := Decimal.ratio ⟨1, exponent⟩
  -- The magnitude is `num / den` times the power of ten.
  let num := x.units * one.2
  let den := unitsPerOne * one.1
  let below := num / den
  let candidate := fun c =>
    if x.admits (c * one.1) one.2 then some (⟨c, exponent⟩ : Decimal) else none
  let down := candidate below
  let up := candidate (below + 1)
  match down, up with
  | some d, some u =>
    let twice := 2 * (num % den)
    if twice < den then some d
    else if den < twice then some u
    else
      match tie with
      | .up => some u
      | .even => if below % 2 = 0 then some d else some u
  | some d, none => some d
  | none, u => u

/-- Tries the grids of `exponent`, `exponent - 1`, and so on, `count` of them. -/
def searchGrids (x : Magnitude) (tie : TieRule) : Nat → Int → Decimal
  | 0, exponent => ⟨x.units, exponent⟩
  | count + 1, exponent =>
    match x.onGrid? tie exponent with
    | some d => d
    | none => x.searchGrids tie count (exponent - 1)

/-- A power of ten that is larger than the magnitude, by less than three digits. -/
def tenAbove (x : Magnitude) : Int :=
  ((x.units.log2 : Int) - 1074) * 30103 / 100000 + 2

/-- The shortest decimal that reads back as the magnitude, the magnitude not being zero. Seventeen
digits always suffice, and the first grid is at most three places above the first digit. -/
def shortest (x : Magnitude) (tie : TieRule) : Decimal :=
  x.searchGrids tie 24 x.tenAbove

end Magnitude

/-! ## Reading -/

namespace Decimal

/-- The value of a digit. -/
def digit? (c : Char) : Option Nat :=
  if '0' ≤ c ∧ c ≤ '9' then some (c.toNat - '0'.toNat) else none

/-- The number that a list of digits spells, nothing else being in the list. -/
def ofDigits? (cs : List Char) : Option Nat :=
  cs.foldlM (fun n c => (digit? c).map (10 * n + ·)) 0

/-- The character is one of the ten ASCII digits. -/
def isDigit (c : Char) : Bool := (digit? c).isSome

/-- An optional sign and what follows it; `true` is the minus. -/
def signed : List Char → Bool × List Char
  | '-' :: cs => (true, cs)
  | '+' :: cs => (false, cs)
  | cs => (false, cs)

/-- The power of ten after an `e`: an optional sign and at least one digit. -/
def exponentPart? (cs : List Char) : Option Int :=
  let (negative, digits) := signed cs
  if digits.isEmpty then none
  else (ofDigits? digits).map fun n => if negative then -(n : Int) else n

/-- Digits, an optional point and further digits, an optional exponent. At least one digit stands
before or after the point. -/
def read? (cs : List Char) : Option Decimal := do
  let whole := cs.takeWhile isDigit
  let rest := cs.dropWhile isDigit
  let (fraction, rest) :=
    match rest with
    | '.' :: more => (more.takeWhile isDigit, more.dropWhile isDigit)
    | _ => ([], rest)
  if whole.isEmpty && fraction.isEmpty then none
  else
    let coefficient ← ofDigits? (whole ++ fraction)
    let places : Int := fraction.length
    match rest with
    | [] => some ⟨coefficient, -places⟩
    | c :: digits =>
      if c = 'e' ∨ c = 'E' then
        (exponentPart? digits).map fun e => ⟨coefficient, e - places⟩
      else none

/-- A whole number without sign or with a plus, not above `limit`. -/
def readNat? (limit : Nat) (cs : List Char) : Option Nat :=
  let digits := match cs with
    | '+' :: more => more
    | _ => cs
  if digits.isEmpty then none
  else (ofDigits? digits).filter (· ≤ limit)

end Decimal

/-- The double a text spells: an optional sign, then a decimal or the name of an infinity or of no
number in any case. No blanks are allowed. -/
def Double.read? (s : String) : Option Double :=
  let (negative, cs) := Decimal.signed s.toList
  let name := String.ofList (cs.map Char.toLower)
  if name = "inf" ∨ name = "infinity" then some (.infinite negative)
  else if name = "nan" then some .notANumber
  else (Decimal.read? cs).map (Double.ofDecimal negative)

/-! ## Writing -/

/-- How a number is written out in full: a whole number below `10 ^ 15` plainly, every other number
with its shortest digits, and never an exponent. -/
def Double.plain : Double → String
  | .notANumber => "NaN"
  | .infinite negative => if negative then "-inf" else "inf"
  | .finite negative m =>
    if m.isWhole && m.wholePart < Decimal.tenTo 15 then
      if negative && m.wholePart != 0 then s!"-{m.wholePart}" else s!"{m.wholePart}"
    else
      let d := m.shortest .up
      let zeros := fun n => List.replicate n '0'
      let body :=
        if 0 ≤ d.exponent then d.digits ++ zeros d.exponent.toNat
        else if 0 < d.point then
          d.digits.take d.point.toNat ++ '.' :: d.digits.drop d.point.toNat
        else '0' :: '.' :: zeros (-d.point).toNat ++ d.digits
      String.ofList (if negative then '-' :: body else body)

end Fieldbook
