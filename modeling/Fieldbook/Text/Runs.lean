/-!
# Runs of code points

Where each character of a regular row stands for another one, the row is kept as a run: its ends, its step
and the shift from a code point to the one it stands for.
-/

namespace Fieldbook.Text

/-- Code points `first`, `first + step`, … `last`, each standing for itself plus `shift`. -/
structure Run where
  first : Nat
  last : Nat
  step : Nat
  shift : Int

namespace Run

/-- The shifted code point when a run of the ascending list covers it. -/
def shifted? : List Run → Nat → Option Nat
  | [], _ => none
  | r :: rest, n =>
    if n < r.first then none
    else if n ≤ r.last then
      if (n - r.first) % r.step = 0 then some (n + r.shift).toNat else none
    else shifted? rest n

end Run

end Fieldbook.Text
