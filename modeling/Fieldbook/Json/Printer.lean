import Fieldbook.Json.Basic

/-!
# Writing JSON documents

Documents are written with every item and member on a line of its own, indented by two blanks for each
bracket around it; empty ones stay closed. In strings only quotes, backslashes and control characters
are written as escapes.
-/

namespace Fieldbook.Json

/-- A hexadecimal digit. -/
def hexDigit (n : Nat) : Char := Nat.digitChar n

/-- A character inside a string. -/
def escape (c : Char) : List Char :=
  if c = '"' then ['\\', '"']
  else if c = '\\' then ['\\', '\\']
  else if c = '\x08' then ['\\', 'b']
  else if c = '\x0c' then ['\\', 'f']
  else if c = '\n' then ['\\', 'n']
  else if c = '\r' then ['\\', 'r']
  else if c = '\t' then ['\\', 't']
  else if c.toNat < 0x20 then ['\\', 'u', '0', '0', hexDigit (c.toNat / 16), hexDigit (c.toNat % 16)]
  else [c]

/-- A string in its quotes. -/
def printString (s : String) : List Char :=
  '"' :: s.toList.flatMap escape ++ ['"']

/-- A number by its digits. An exponent always has a sign. -/
def printNumeral (n : Numeral) : List Char :=
  (if n.negative then ['-'] else []) ++ n.whole ++
    (if n.fraction.isEmpty then [] else '.' :: n.fraction) ++
    match n.exponent with
    | none => []
    | some e => 'e' :: (if e < 0 then '-' else '+') :: Nat.toDigits 10 e.natAbs

/-- The line break before an item that is `depth` brackets deep. -/
def lineBreak (depth : Nat) : List Char :=
  '\n' :: List.replicate (2 * depth) ' '

mutual

/-- A document that stands `depth` brackets deep. -/
def print (depth : Nat) : Json → List Char
  | .null => ['n', 'u', 'l', 'l']
  | .bool true => ['t', 'r', 'u', 'e']
  | .bool false => ['f', 'a', 'l', 's', 'e']
  | .number n => printNumeral n
  | .string s => printString (s.getD "")
  | .array [] => ['[', ']']
  | .array (item :: items) =>
    '[' :: lineBreak (depth + 1) ++ print (depth + 1) item ++ printItems (depth + 1) items ++
      lineBreak depth ++ [']']
  | .object [] => ['\x7b', '\x7d']
  | .object ((name, j) :: members) =>
    '\x7b' :: lineBreak (depth + 1) ++ printString (name.getD "") ++ [':', ' '] ++
      print (depth + 1) j ++ printMembers (depth + 1) members ++ lineBreak depth ++ ['\x7d']

/-- The items behind the first one. -/
def printItems (depth : Nat) : List Json → List Char
  | [] => []
  | item :: items => ',' :: lineBreak depth ++ print depth item ++ printItems depth items

/-- The members behind the first one. -/
def printMembers (depth : Nat) : List (Option String × Json) → List Char
  | [] => []
  | (name, j) :: members =>
    ',' :: lineBreak depth ++ printString (name.getD "") ++ [':', ' '] ++ print depth j ++
      printMembers depth members

end

/-- The text of a document. -/
def pretty (j : Json) : String := String.ofList (print 0 j)

end Fieldbook.Json
