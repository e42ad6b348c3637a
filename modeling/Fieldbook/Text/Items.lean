import Fieldbook.Text.Blank

/-!
# Lists in one cell

A list of names can stand in one cell, its items divided by bars or commas. `splitItems` reads such a
cell: blanks around an item do not count, and neither does an item that is empty. `joinItems` writes
one.
-/

namespace Fieldbook.Text

/-- The characters that divide the items of a list. -/
def isDivider (c : Char) : Bool := c == '|' || c == ','

/-- The items of a list: trimmed, and none of them empty. -/
def splitItems (s : String) : List String :=
  (((s.toList.splitOnP isDivider).map trimChars).filter (!·.isEmpty)).map String.ofList

/-- The items one after another with a divider between them. -/
def joinItems (divider : String) (items : List String) : String :=
  divider.intercalate items

end Fieldbook.Text
