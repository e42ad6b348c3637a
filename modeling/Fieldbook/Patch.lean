import Fieldbook.Row

/-!
# Patches

A patch gives new values to some fields of a row. Before anything changes it is resolved: every value is
checked against the type of its field, the declared columns included, and becomes a typed assignment.
One value that does not fit refuses the whole patch.
-/

namespace Fieldbook

/-- What a field would have accepted. -/
inductive Expected where
  | wholeNumber
  | text
  | textOrNull
  | names
  | cell (kind : ColumnKind)
  deriving DecidableEq

/-- The expectation as a phrase. -/
def Expected.phrase : Expected → String
  | wholeNumber => "a non-negative whole number"
  | text => "text"
  | textOrNull => "text or null"
  | names => "a list of names"
  | cell kind => kind.name

/-- Why an operation on the working set is refused. -/
inductive EditError where
  | unknownRow (id : String)
  | unknownColumn (id : String)
  | readOnlyField (field : Field)
  | reservedColumn (id : String)
  | misfit (field : Field) (value : Value) (expected : Expected)
  deriving DecidableEq

/-- The wording of a refusal. -/
def EditError.message : EditError → String
  | unknownRow id => s!"no row with id `{id}`"
  | unknownColumn id => s!"no column named `{id}`"
  | readOnlyField field => s!"`{field.key}` cannot be edited"
  | reservedColumn id =>
    s!"`{id}` is not a usable column id (empty or taken by a built-in field)"
  | misfit field value expected =>
    s!"cannot set {field.key} to {value.shown}: expected {expected.phrase}"

/-! ## Assignments -/

/-- A new value for one field, of the field's own type. -/
inductive Assignment where
  | sourceId (n : UInt64)
  | name (s : String)
  | image (s : Option String)
  | categories (items : List String)
  | classification (n : UInt32)
  | capabilities (items : List String)
  | stat (s : Stat) (n : UInt32)
  | cell (column : String) (value : Value)
  deriving DecidableEq

/-- The row with one assignment made. -/
def Row.assign (row : Row) : Assignment → Row
  | .sourceId n => { row with sourceId := n }
  | .name s => { row with name := s }
  | .image s => { row with image := s }
  | .categories items => { row with categories := items }
  | .classification n => { row with classification := n }
  | .capabilities items => { row with capabilities := items }
  | .stat s n => { row with stats := row.stats.set s n }
  | .cell column value => { row with cells := row.cells.put column value }

/-- The row with assignments made one after another. -/
def Row.assignAll (row : Row) (assignments : List Assignment) : Row :=
  assignments.foldl Row.assign row

namespace Value

/-- The natural number a value is, if it is one and does not exceed `limit`. -/
def toNat? (value : Value) (limit : Nat) : Option Nat :=
  match value with
  | number x => x.toNat?.filter (· ≤ limit)
  | _ => none

/-- The list a value stands for: a list, or a text that spells one. -/
def toItems? : Value → Option (List String)
  | list items => some items
  | text s => some (Text.splitItems s)
  | _ => none

/-- The text that a text, a number or a truth value shows. -/
def toText? (value : Value) : Option String :=
  match value with
  | text _ | number _ | bool _ => some value.shown
  | _ => none

/-- The value a cell of this kind would hold, if it takes the value: a text column takes numbers and
truth values as text, every other kind takes its own values only. -/
def toCell? (value : Value) : ColumnKind → Option Value
  | .text => value.toText?.map .text
  | .number =>
    match value with
    | number x => some (number x)
    | _ => none
  | .boolean =>
    match value with
    | bool b => some (bool b)
    | _ => none

end Value

namespace Assignment

/-- The assignment of a value to a field, or the reason why there is none. The largest source id is
`2 ^ 64 - 1`; the double `2 ^ 64`, the nearest to it, stands for it as well. -/
def resolve (columns : List Column) (field : Field) (value : Value) : Except EditError Assignment :=
  let fitting (expected : Expected) (a? : Option Assignment) : Except EditError Assignment :=
    match a? with
    | some a => .ok a
    | none => .error (.misfit field value expected)
  match field with
  | .id => .error (.readOnlyField .id)
  | .sourceId =>
    fitting .wholeNumber <| (value.toNat? UInt64.size).map fun n =>
      sourceId (UInt64.ofNat (min n (UInt64.size - 1)))
  | .classification =>
    fitting .wholeNumber <| (value.toNat? (UInt32.size - 1)).map fun n => classification (UInt32.ofNat n)
  | .stat s =>
    fitting .wholeNumber <| (value.toNat? (UInt32.size - 1)).map fun n => stat s (UInt32.ofNat n)
  | .name => fitting .text <| value.toText?.map name
  | .image =>
    fitting .textOrNull <|
      match value with
      | .null => some (image none)
      | .text s => some (image (some s))
      | _ => none
  | .categories => fitting .names <| value.toItems?.map categories
  | .capabilities => fitting .names <| value.toItems?.map capabilities
  | .dynamic id =>
    match columns.find? (·.id == id) with
    | none => .error (.unknownColumn id)
    | some column => fitting (.cell column.kind) <| (value.toCell? column.kind).map (cell id)

end Assignment

/-! ## Patches -/

/-- New values for some fields, each field named at most once. -/
structure Patch where
  entries : List (Field × Value) := []
  deriving DecidableEq

namespace Patch

/-- Gives a field its value; a value it was given before no longer counts. -/
def set (patch : Patch) (field : Field) (value : Value) : Patch :=
  ⟨patch.entries.filter (·.1 != field) ++ [(field, value)]⟩

/-- The patch of one field. -/
def single (field : Field) (value : Value) : Patch := set {} field value

/-- The patch of a list of pairs, set in order. -/
def ofList (entries : List (Field × Value)) : Patch :=
  entries.foldl (fun patch e => patch.set e.1 e.2) {}

/-- The assignments of a patch, or the first reason why it is refused. -/
def resolve (patch : Patch) (columns : List Column) : Except EditError (List Assignment) :=
  patch.entries.mapM fun e => Assignment.resolve columns e.1 e.2

end Patch

end Fieldbook
