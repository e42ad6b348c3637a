import Fieldbook.Json.Numeral

/-!
# Taking documents apart

What a program expects of a document it says member by member. A record, a structure with known
members, is written as an object or as the array of its members in their order; in an object members
may come in any order, none of the known ones twice, and others are passed over unread. What is read is
held to more than grammar: numbers in range, strings that spell a text.
-/

namespace Fieldbook.Json

/-! ## Simple values -/

/-- A text. -/
def toText? : Json → Option String
  | .string s => s
  | _ => none

/-- A text or nothing. -/
def toTextOrNull? : Json → Option (Option String)
  | .null => some none
  | .string (some s) => some (some s)
  | _ => none

/-- A whole number up to `limit`, written without point and exponent. -/
def toNat? (limit : Nat) : Json → Option Nat
  | .number n => n.toNat? limit
  | _ => none

/-- A whole number of thirty-two bits. -/
def toUInt32? (j : Json) : Option UInt32 :=
  (j.toNat? (UInt32.size - 1)).map UInt32.ofNat

/-- A whole number of sixty-four bits. -/
def toUInt64? (j : Json) : Option UInt64 :=
  (j.toNat? (UInt64.size - 1)).map UInt64.ofNat

/-- The items of an array, all of which `item?` has to read. -/
def toList? {α : Type} (item? : Json → Option α) : Json → Option (List α)
  | .array items => items.mapM item?
  | _ => none

/-- A list of texts. -/
def toTexts? (j : Json) : Option (List String) := j.toList? toText?

/-- A name out of a fixed choice: a text, or an object that gives the name alone a null. -/
def toName? : Json → Option String
  | .string s => s
  | .object [(some name, .null)] => some name
  | _ => none

/-! ## Records -/

/-- The members that a document gives to a record. -/
structure Record where
  /-- The document is an array, so a member that is missing is missing at its end. -/
  positional : Bool
  members : List (String × Json)

namespace Record

/-- The names of an object's members, if all of them are texts. -/
def names? (members : List (Option String × Json)) : Option (List (String × Json)) :=
  members.mapM fun (name, j) => name.map fun name => (name, j)

/-- The members of a document for a record with these names. -/
def ofJson? (names : List String) : Json → Option Record
  | .object members => do
    let known := (← names? members).filter fun m => names.contains m.1
    if (known.map Prod.fst).Nodup then some ⟨false, known⟩ else none
  | .array items =>
    if items.length ≤ names.length then some ⟨true, names.zip items⟩ else none
  | _ => none

variable {α : Type}

/-- A member that has to be there. -/
def required (r : Record) (name : String) (read? : Json → Option α) : Option α :=
  (r.members.lookup name).bind read?

/-- A member that may be missing and then has a default. -/
def defaulted (r : Record) (name : String) (read? : Json → Option α) (default : α) : Option α :=
  match r.members.lookup name with
  | some j => read? j
  | none => some default

/-- A member that may be null; an object may also leave it out. -/
def optional (r : Record) (name : String) (read? : Json → Option α) : Option (Option α) :=
  match r.members.lookup name with
  | some .null => some none
  | some j => (read? j).map some
  | none => if r.positional then none else some none

end Record

/-! ## Sound documents -/

mutual

/-- All numbers are in range, all strings spell a text, and no more than `room` brackets are open at
once. -/
def isSound : Nat → Json → Bool
  | _, .number n => n.toDouble?.isSome
  | _, .string s => s.isSome
  | room, .array items => 0 < room && areSound (room - 1) items
  | room, .object members => 0 < room && areSoundMembers (room - 1) members
  | _, _ => true

/-- All of the items are sound. -/
def areSound : Nat → List Json → Bool
  | _, [] => true
  | room, j :: items => isSound room j && areSound room items

/-- All of the members are sound, their names included. -/
def areSoundMembers : Nat → List (Option String × Json) → Bool
  | _, [] => true
  | room, (name, j) :: members => name.isSome && isSound room j && areSoundMembers room members

end

end Fieldbook.Json
