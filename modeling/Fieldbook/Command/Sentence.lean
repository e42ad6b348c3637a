import Fieldbook.Column
import Fieldbook.Command.Cuts

/-!
# Command sentences

Bulk edits are asked for in sentences of three forms:

* `set <field> to <value> for all <things> of type <type>`, or `update` in place of `set`;
* `set <field> to <value> where <field> is <value>`, likewise;
* `delete rows where <field> is <value>`, with or without `rows`.

A sentence is read in lower case and without the blanks at its ends. The forms are tried in this order
and the first one that fits decides: if its condition cannot be read, the sentence is not understood,
even if a later form would fit.
-/

namespace Fieldbook

/-- The rows that are meant: those in which a field agrees with a value. -/
structure Condition where
  field : Field
  value : Value
  deriving DecidableEq

/-- What a sentence asks for. -/
inductive Command where
  /-- Give a field of the rows that are meant a new value. -/
  | update (target : Field) (value : Value) (condition : Condition)
  /-- Remove the rows that are meant. -/
  | delete (condition : Condition)
  /-- Nothing that could be understood. -/
  | unrecognized
  deriving DecidableEq

/-- A condition as a phrase. -/
def Condition.phrase (condition : Condition) : String :=
  s!"{condition.field.key} is {condition.value.shown}"

/-- A command as a phrase. -/
def Command.phrase : Command → String
  | update target value condition =>
    s!"update {target.key} = {value.shown} where {condition.phrase}"
  | delete condition => s!"delete where {condition.phrase}"
  | unrecognized => "unrecognized"

/-! ## Fields in sentences -/

/-- What sentences call the fixed fields. -/
def Field.ofSynonym? : String → Option Field
  | "hp" => some (.stat .hp)
  | "attack" => some (.stat .attack)
  | "defense" => some (.stat .defense)
  | "sp. atk" | "special attack" => some (.stat .specialAttack)
  | "sp. def" | "special defense" => some (.stat .specialDefense)
  | "speed" => some (.stat .speed)
  | "gen" | "generation" => some .classification
  | "name" => some .name
  | "type" | "types" => some .categories
  | "ability" | "abilities" => some .capabilities
  | "image" | "sprite" => some .image
  | "id" => some .id
  | _ => none

/-- The field that a phrase names: by a synonym, else by a key, else as the label of a column. -/
def Field.ofPhrase (phrase : String) : Field :=
  let phrase := Text.lower (Text.trim phrase)
  match ofSynonym? phrase with
  | some field => field
  | none =>
    match ofKey phrase with
    | .dynamic label => .dynamic (Column.idOfLabel label)
    | field => field

/-! ## Conditions -/

namespace Condition

/-- What follows a separator at the front of a text: the word `is` with blanks on both sides. -/
def afterSeparator? (cs : List Char) : Option (List Char) :=
  if cs.head?.any Text.isBlank then
    match cs.dropWhile Text.isBlank with
    | 'i' :: 's' :: more =>
      if more.head?.any Text.isBlank then some (more.dropWhile Text.isBlank) else none
    | _ => none
  else none

/-- What is behind a separator is shorter, and so the search for another one comes to an end. -/
theorem length_afterSeparator? {cs more : List Char} (h : afterSeparator? cs = some more) :
    more.length < cs.length := by
  have hdrop : ∀ l : List Char, (l.dropWhile Text.isBlank).length ≤ l.length := fun l =>
    (List.dropWhile_suffix _).length_le
  rw [afterSeparator?] at h
  split at h
  · split at h
    · next rest hrest =>
      split at h
      · simp only [Option.some.injEq] at h
        subst h
        have h₁ := hdrop rest
        have h₂ := hdrop cs
        rw [hrest] at h₂
        simp only [List.length_cons] at h₂
        omega
      · exact absurd h (by simp)
    · exact absurd h (by simp)
  · exact absurd h (by simp)

/-- The parts of a condition between its separators, found from left to right. A separator can only begin
where blanks begin, so that one is not looked for `inBlanks`. -/
def parts (inBlanks : Bool) (cs : List Char) : List (List Char) :=
  match _h : if inBlanks then none else afterSeparator? cs with
  | some more => [] :: parts false more
  | none =>
    match cs with
    | [] => [[]]
    | c :: rest =>
      match parts (Text.isBlank c) rest with
      | part :: others => (c :: part) :: others
      | [] => [[c]]
termination_by cs.length
decreasing_by
  · cases inBlanks with
    | false => exact length_afterSeparator? _h
    | true => exact absurd _h (by simp)
  · simp

/-- Reads `<field> is <value>`: one separator, and neither side blank. -/
def read? (cs : List Char) : Option Condition :=
  match parts false cs with
  | [field, value] =>
    if (Text.trimChars field).isEmpty || (Text.trimChars value).isEmpty then none
    else some ⟨.ofPhrase (String.ofList field), .ofPhrase (String.ofList value)⟩
  | _ => none

end Condition

/-! ## Sentences -/

namespace Command

/-- The form `set <field> to <value> for all <things> of type <type>`. -/
def updateByType : Pattern :=
  [.oneOf ["set", "update"], .blanks, .phrase, .blanks, .oneOf ["to"], .blanks, .phrase, .blanks,
    .oneOf ["for"], .blanks, .oneOf ["all"], .blanks, .token, .blanks, .oneOf ["of"], .blanks,
    .oneOf ["type"], .blanks, .phrase]

/-- The form `set <field> to <value> where <condition>`. -/
def updateWhere : Pattern :=
  [.oneOf ["set", "update"], .blanks, .phrase, .blanks, .oneOf ["to"], .blanks, .phrase, .blanks,
    .oneOf ["where"], .blanks, .phrase]

/-- The form `delete where <condition>`. -/
def deleteWhere : Pattern :=
  [.oneOf ["delete"], .blanks, .oneOf ["where"], .blanks, .phrase]

/-- The form `delete rows where <condition>`. -/
def deleteRowsWhere : Pattern :=
  [.oneOf ["delete"], .blanks, .oneOf ["rows"], .blanks, .oneOf ["where"], .blanks, .phrase]

/-- The command of a condition that may not have been readable. -/
def withCondition (cs : List Char) (command : Condition → Command) : Command :=
  match Condition.read? (Text.trimChars cs) with
  | some condition => command condition
  | none => unrecognized

/-- The command of a sentence in lower case without blanks at its ends. -/
def ofSentence (cs : List Char) : Command :=
  match updateByType.find? cs with
  | some [target, value, type] =>
    update (.ofPhrase (String.ofList target)) (.ofPhrase (String.ofList value))
      ⟨.categories, .ofPhrase (String.ofList type)⟩
  | _ =>
    match updateWhere.find? cs with
    | some [target, value, condition] =>
      withCondition condition <|
        update (.ofPhrase (String.ofList target)) (.ofPhrase (String.ofList value))
    | _ =>
      match (deleteRowsWhere.find? cs).or (deleteWhere.find? cs) with
      | some [condition] => withCondition condition delete
      | _ => unrecognized

/-- The command that a text asks for. -/
def parse (text : String) : Command :=
  ofSentence (Text.lowerChars (Text.trimChars text.toList))

end Command

end Fieldbook
