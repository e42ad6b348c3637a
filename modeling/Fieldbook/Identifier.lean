/-!
# Identifiers

Ids for rows that come without one: sixteen bytes, written as five groups of hexadecimal digits. Two
places are taken, for the version and for the variant, and the other 122 bits are those of the bytes.
-/

namespace Fieldbook.Identifier

/-- A hexadecimal digit. -/
def digit (n : Nat) : Char := Nat.digitChar (n % 16)

/-- The two digits of a byte. -/
def pair (byte : UInt8) : List Char := [digit (byte.toNat / 16), digit byte.toNat]

/-- A byte with the version or the variant put into it: of its bits those below `free` stay. -/
def marked (mark free : Nat) (byte : UInt8) : UInt8 := UInt8.ofNat (mark + byte.toNat % free)

/-- The id made of the bytes that a function gives for the places from zero to fifteen. -/
def ofBytes (byte : Nat → UInt8) : String :=
  let byte := fun place =>
    if place = 6 then marked 0x40 0x10 (byte place)
    else if place = 8 then marked 0x80 0x40 (byte place)
    else byte place
  let group := fun start size => (List.range size).flatMap fun k => pair (byte (start + k))
  String.ofList <|
    ['-'].intercalate [group 0 4, group 4 2, group 6 2, group 8 2, group 10 6]

end Fieldbook.Identifier
