import Fieldbook.WorkingSet
import Fieldbook.Command.Sentence

/-!
# Commands at work

A command looks for the rows it means and then changes or removes all of them. It fails, and changes
nothing, when it is not understood, when it means no row, or when the new value does not fit its field.
-/

namespace Fieldbook

/-- Why a command was not carried out. -/
inductive CommandFailure where
  | notUnderstood
  | noRows (condition : Condition)
  | rejected (reason : EditError)
  deriving DecidableEq

/-- What becomes of a command. -/
inductive Outcome where
  | updated (rows : Nat)
  | deleted (rows : Nat)
  | failed (why : CommandFailure)
  deriving DecidableEq

namespace Outcome

/-- The command was carried out. -/
def succeeded : Outcome → Bool
  | failed _ => false
  | _ => true

/-- How many rows were changed or removed. -/
def affected : Outcome → Nat
  | updated rows => rows
  | deleted rows => rows
  | failed _ => 0

/-- The outcome in words. -/
def message : Outcome → String
  | updated rows => s!"Updated {rows} rows."
  | deleted rows => s!"Deleted {rows} rows."
  | failed .notUnderstood => "Could not understand command."
  | failed (.noRows condition) => s!"No rows found where {condition.phrase}"
  | failed (.rejected reason) => s!"Update rejected: {reason.message}."

end Outcome

namespace Condition

/-- The row has the field, and its value agrees with the one asked for. -/
def selects (condition : Condition) (row : Row) : Bool :=
  (row.get? condition.field).any (·.agrees condition.value)

/-- The ids of the rows that are meant, in order. -/
def matchingIds (condition : Condition) (set : WorkingSet) : List String :=
  (set.rows.toList.filter condition.selects).map Row.id

end Condition

namespace Command

/-- The condition of a command that was understood. -/
def condition? : Command → Option Condition
  | update _ _ condition => some condition
  | delete condition => some condition
  | unrecognized => none

/-- Carries a command out. -/
def execute (command : Command) (set : WorkingSet) : WorkingSet × Outcome :=
  match command with
  | unrecognized => (set, .failed .notUnderstood)
  | update target value condition =>
    let ids := condition.matchingIds set
    if ids.isEmpty then (set, .failed (.noRows condition))
    else
      match set.updateMany ids (.single target value) with
      | .ok (set, count) => (set, .updated count)
      | .error reason => (set, .failed (.rejected reason))
  | delete condition =>
    let ids := condition.matchingIds set
    if ids.isEmpty then (set, .failed (.noRows condition))
    else
      let (set, count) := set.deleteMany ids
      (set, .deleted count)

/-- Reads a sentence and carries it out. -/
def run (text : String) (set : WorkingSet) : WorkingSet × Outcome :=
  (parse text).execute set

end Command

end Fieldbook
