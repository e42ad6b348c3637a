import Fieldbook.Text.Case.Table

/-!
# Lower case and upper case

The full case mappings of the Unicode standard, for texts in no particular language. Lower-casing goes
character by character with one exception: a capital sigma that ends a word becomes `ς`, any other
becomes `σ`. Upper-casing is needed for one character at a time only.

* `lowerChar` and `upperChar` may answer several characters (`İ` and `ß` do);
* `endsWord` says when a sigma is final: a letter with case precedes it and none follows, looking past
  characters that are case-ignorable.
-/

namespace Fieldbook.Text

/-- The character is a letter with case. -/
def isCased (c : Char) : Bool :=
  Case.casedIntervals.has c

/-- The character is passed over when the surroundings of a letter are looked at. -/
def isCaseIgnorable (c : Char) : Bool :=
  Case.ignorableIntervals.has c

/-- The lower-case form of a character standing alone. -/
def lowerChar (c : Char) : List Char :=
  if c = 'İ' then ['i', '\u0307']
  else
    match Run.shifted? Case.lowerRuns c.toNat with
    | some n => [Char.ofNat n]
    | none => [c]

/-- The upper-case form of a character. -/
def upperChar (c : Char) : List Char :=
  match Case.upperExpansions.lookup c.toNat with
  | some ns => ns.map Char.ofNat
  | none =>
    match Run.shifted? Case.upperRuns c.toNat with
    | some n => [Char.ofNat n]
    | none => [c]

/-- The first character that is not case-ignorable exists and has case. -/
def meetsCased (cs : List Char) : Bool :=
  match cs.dropWhile isCaseIgnorable with
  | c :: _ => isCased c
  | [] => false

/-- A letter between `before`, nearest character first, and `after` is the last of its word. -/
def endsWord (before after : List Char) : Bool :=
  meetsCased before && !meetsCased after

/-- Lower-cases the characters that follow `before`, which is given nearest character first. -/
def lowerAfter : List Char → List Char → List Char
  | _, [] => []
  | before, c :: after =>
    (if c = 'Σ' then [if endsWord before after then 'ς' else 'σ'] else lowerChar c) ++
      lowerAfter (c :: before) after

/-- The lower-case form of a list of characters. -/
def lowerChars (cs : List Char) : List Char :=
  lowerAfter [] cs

/-- The text in lower case. -/
def lower (s : String) : String :=
  String.ofList (lowerChars s.toList)

/-- The text with its first character in upper case and the rest as it was. -/
def capitalize (s : String) : String :=
  match s.toList with
  | [] => s
  | c :: cs => String.ofList (upperChar c ++ cs)

end Fieldbook.Text
