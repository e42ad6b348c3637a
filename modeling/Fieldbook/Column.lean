import Fieldbook.Field
import Fieldbook.Value

/-!
# Columns

Extra columns that a user declares. A column has an id, by which its cells are found, a label and a
kind; its id usually is its label in lower case with the words joined by underscores. An id is reserved
when it is empty or would be taken for one of the fixed fields.
-/

namespace Fieldbook

/-- What the cells of a column hold. -/
inductive ColumnKind where
  | text
  | number
  | boolean
  deriving DecidableEq

namespace ColumnKind

/-- The name of a kind. -/
def name : ColumnKind → String
  | text => "text"
  | number => "number"
  | boolean => "boolean"

/-- The kind with this name. -/
def ofName? : String → Option ColumnKind
  | "text" => some text
  | "number" => some number
  | "boolean" => some boolean
  | _ => none

/-- What a cell holds before anything is put into it. -/
def default : ColumnKind → Value
  | text => .text ""
  | number => .number .zero
  | boolean => .bool false

/-- Reads a written cell. What does not read as the kind becomes the default. -/
def readCell (kind : ColumnKind) (cell : String) : Value :=
  let cell := Text.trim cell
  match kind with
  | text => .text cell
  | number =>
    match (Double.read? cell).filter Double.isFinite with
    | some x => .number x
    | none => kind.default
  | boolean => .bool (Text.sameLetters cell "true")

/-- The value is of the kind. -/
def Holds : ColumnKind → Value → Prop
  | text, .text _ => True
  | number, .number _ => True
  | boolean, .bool _ => True
  | _, _ => False

end ColumnKind

/-- A declared column. -/
structure Column where
  id : String
  label : String
  kind : ColumnKind
  deriving DecidableEq

namespace Column

/-- The id that belongs to a label: its words in lower case, joined by underscores. -/
def idOfLabel (label : String) : String :=
  "_".intercalate (Text.words (Text.lower (Text.trim label)))

/-- The column with this label and the id that belongs to it. -/
def ofLabel (label : String) (kind : ColumnKind) : Column :=
  ⟨idOfLabel label, Text.trim label, kind⟩

/-- The id without its underscores, which are not looked at when ids are compared with keys. -/
def foldedId (column : Column) : String :=
  String.ofList (column.id.toList.filter (· != '_'))

/-- The id is empty or means a fixed field. -/
def isReserved (column : Column) : Bool :=
  Text.isBlankText column.foldedId || (Field.ofKey? column.foldedId).isSome

/-- The field that the column's cells are. -/
def field (column : Column) : Field := .dynamic column.id

end Column

end Fieldbook
