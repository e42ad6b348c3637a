/-!
# Escapes

In an address a character can be written by the numbers of its bytes, each as a percent sign and two digits in
base sixteen. `escape` writes so what an address cannot have as it is, `unescape` reads any text so.
-/

namespace Fieldbook.Text

/-- A digit in base sixteen, in upper case. -/
def hexDigit (n : Nat) : Char := (Nat.digitChar n).toUpper

/-- The value of a digit in base sixteen, in either case. -/
def hexValue? (c : Char) : Option Nat :=
  if '0' ≤ c ∧ c ≤ '9' then some (c.toNat - '0'.toNat)
  else if 'a' ≤ c ∧ c ≤ 'f' then some (c.toNat - 'a'.toNat + 10)
  else if 'A' ≤ c ∧ c ≤ 'F' then some (c.toNat - 'A'.toNat + 10)
  else none

/-- A byte as a percent sign and two digits. -/
def escapedByte (byte : UInt8) : List Char :=
  ['%', hexDigit (byte.toNat / 16), hexDigit (byte.toNat % 16)]

/-- A printable ASCII character. -/
def isPlain (c : Char) : Bool := ' ' ≤ c && c < '\x7f'

/-- Characters, those that are not plain or are among the given marks by the numbers of their bytes. -/
def escape (marks : List Char) (cs : List Char) : List Char :=
  cs.flatMap fun c =>
    if isPlain c && !marks.contains c then [c] else (String.utf8EncodeChar c).flatMap escapedByte

/-- The bytes of a text with those in place that are written by their numbers. -/
def unescape : List Char → List UInt8
  | [] => []
  | '%' :: a :: b :: rest =>
    match hexValue? a, hexValue? b with
    | some high, some low => UInt8.ofNat (16 * high + low) :: unescape rest
    | _, _ => String.utf8EncodeChar '%' ++ unescape (a :: b :: rest)
  | c :: rest => String.utf8EncodeChar c ++ unescape rest

/-- The characters that a text with escapes stands for, if its bytes are characters. -/
def unescaped? (cs : List Char) : Option (List Char) :=
  (String.fromUTF8? (unescape cs).toByteArray).map String.toList

end Fieldbook.Text
