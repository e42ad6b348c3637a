/-!
# JSON documents

A document as it is written: objects keep their members in order, repeated names included, and numbers
keep their digits. Nothing is rounded or looked up here, so a part of a document that nobody asks for
can say what it likes as long as its grammar is right.
-/

namespace Fieldbook

/-- A number as it is written. Digits are characters; a number without decimal places has no digits in
`fraction`. -/
structure Numeral where
  negative : Bool := false
  whole : List Char
  fraction : List Char := []
  exponent : Option Int := none
  deriving DecidableEq

/-- A document. A string that is well formed but spells no text, for it has half of a pair of
surrogates or a stray byte in it, is kept as `none`. -/
inductive Json where
  | null
  | bool (b : Bool)
  | number (n : Numeral)
  | string (s : Option String)
  | array (items : List Json)
  | object (members : List (Option String × Json))

namespace Json

/-- The document of a text. -/
def text (s : String) : Json := .string (some s)

/-- The document of an optional text. -/
def textOrNull : Option String → Json
  | some s => .text s
  | none => .null

/-- The document of a list of texts. -/
def texts (items : List String) : Json := .array (items.map .text)

/-- The object with these members. -/
def ofMembers (members : List (String × Json)) : Json :=
  .object (members.map fun (name, j) => (some name, j))

end Json

end Fieldbook
