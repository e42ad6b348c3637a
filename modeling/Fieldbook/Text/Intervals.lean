/-!
# Sets of code points

Properties of characters are kept as data: closed intervals of code points in ascending order.
-/

namespace Fieldbook.Text

/-- A set of code points: closed intervals in ascending order. -/
abbrev Intervals := List (Nat × Nat)

namespace Intervals

/-- The code point lies in one of the ascending intervals. -/
def covers : Intervals → Nat → Bool
  | [], _ => false
  | (first, last) :: rest, n =>
    if n < first then false else if n ≤ last then true else covers rest n

/-- The character lies in one of the ascending intervals. -/
def has (set : Intervals) (c : Char) : Bool := set.covers c.toNat

end Intervals

end Fieldbook.Text
