import Fieldbook.Double.Decimal
import Fieldbook.Text.Blank
import Fieldbook.Text.Case
import Fieldbook.Text.Items

/-!
# Values

What a sentence, a patch or a cell can hold: nothing, a truth value, a number, a text or a list of
texts. Values of different kinds are compared by the text they show (`Value.shown`), without regard to
case, so the number `100` and the text `100` match each other.
-/

namespace Fieldbook

/-- A loosely typed value. -/
inductive Value where
  /-- No value. -/
  | null
  | bool (b : Bool)
  | number (x : Double)
  | text (s : String)
  | list (items : List String)
  deriving DecidableEq

namespace Value

/-- The text a value shows. -/
def shown : Value → String
  | null => "null"
  | bool b => if b then "true" else "false"
  | number x => x.plain
  | text s => s
  | list items => Text.joinItems "," items

/-- The value agrees with `needle` but for case. A list agrees when one of its items does. -/
def agrees (value needle : Value) : Bool :=
  let wanted := Text.lower needle.shown
  match value with
  | list items => items.any fun item => Text.lower item == wanted
  | other => Text.lower other.shown == wanted

/-- The value a word or phrase stands for: a finite number, `true` or `false`, and otherwise its own
text without the blanks around it. -/
def ofPhrase (phrase : String) : Value :=
  let phrase := Text.trim phrase
  match (Double.read? phrase).filter Double.isFinite with
  | some x => number x
  | none =>
    if phrase = "true" then bool true
    else if phrase = "false" then bool false
    else text phrase

end Value

end Fieldbook
