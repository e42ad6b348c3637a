import Fieldbook.Csv.Reader
import Fieldbook.Csv.Writer
import Fieldbook.WorkingSet

/-!
# Exchange of rows as tables

Rows leave as a comma-separated table, the fixed fields first and a column for each declared one, headed
by their keys. They come back through a mapping from fields to headers, which can be guessed from the
headers or given. Reading never fails on what a cell says: a cell that is missing, blank or unreadable
leaves the field at its default, or at zero where a number was meant.
-/

namespace Fieldbook

/-! ## Mappings -/

/-- From which header each field is read, every field named at most once. -/
structure Mapping where
  entries : List (Field × String) := []
  deriving DecidableEq

/-- Why rows cannot be read from a table. -/
inductive ExchangeError where
  /-- Some part of the file is no text. -/
  | unreadable
  /-- The text does not give a field and a header. -/
  | badPair (pair : String)
  deriving DecidableEq

/-- The wording of a refusal. -/
def ExchangeError.message : ExchangeError → String
  | unreadable => "CSV error: the file is not UTF-8 text"
  | badPair pair => s!"invalid column mapping `{pair}` (expected field=Header)"

namespace Mapping

/-- The header of a field. -/
def header? (mapping : Mapping) (field : Field) : Option String :=
  mapping.entries.lookup field

/-- Reads a field from a header, and no longer from the one it was read from. -/
def insert (mapping : Mapping) (field : Field) (header : String) : Mapping :=
  ⟨mapping.entries.filter (·.1 != field) ++ [(field, header)]⟩

/-- How many fields are read. -/
def size (mapping : Mapping) : Nat := mapping.entries.length

/-- The header names the field by its label or its key, in any case. -/
def names (field : Field) (header : String) : Bool :=
  let header := Text.trim header
  Text.sameLetters header field.label || Text.sameLetters header field.key

/-- Every fixed field but the id from the first header that names it. -/
def auto (headers : List String) : Mapping :=
  ⟨(Field.fixed.filter (· != .id)).filterMap fun field =>
    (headers.find? (names field)).map fun header => (field, header)⟩

/-- Reads `field=Header`. Blanks around either do not count, and neither may be missing. -/
def readPair (pair : String) : Except ExchangeError (Field × String) :=
  let cs := pair.toList
  match cs.dropWhile (· != '=') with
  | [] => .error (.badPair pair)
  | _ :: after =>
    let field := Text.trim (String.ofList (cs.takeWhile (· != '=')))
    let header := Text.trim (String.ofList after)
    if field.isEmpty || header.isEmpty then .error (.badPair pair)
    else .ok (.ofKey field, header)

end Mapping

/-! ## Rows from a table -/

namespace Row

/-- The whole number of a cell, or zero for anything else; decimal places are dropped. -/
def readCount (cell : String) : UInt32 :=
  match (Double.read? cell).bind (Double.truncated? (UInt32.size - 1)) with
  | some n => UInt32.ofNat n
  | none => 0

/-- The source id of a cell: digits are read exactly, other numbers as counts are. -/
def readSourceId (cell : String) : UInt64 :=
  match Decimal.readNat? (UInt64.size - 1) cell.toList with
  | some n => UInt64.ofNat n
  | none =>
    match (Double.read? cell).bind (Double.truncated? (UInt64.size - 1)) with
    | some n => UInt64.ofNat n
    | none => 0

/-- The row with a field read from a cell. A blank cell and a cell for the id change nothing. -/
def readCell (columns : List Column) (row : Row) (field : Field) (cell : String) : Row :=
  let cell := Text.trim cell
  if cell.isEmpty then row
  else
    match field with
    | .id => row
    | .sourceId => { row with sourceId := readSourceId cell }
    | .name => { row with name := cell }
    | .image => { row with image := some cell }
    | .categories => { row with categories := Text.splitItems cell }
    | .classification => { row with classification := readCount cell }
    | .capabilities => { row with capabilities := Text.splitItems cell }
    | .stat s => { row with stats := row.stats.set s (readCount cell) }
    | .dynamic id =>
      match columns.find? (·.id == id) with
      | some column => { row with cells := row.cells.put id (column.kind.readCell cell) }
      | none => row

end Row

namespace Mapping

/-- The place of the first header with this name, in any case. -/
def place? (headers : List String) (name : String) : Option Nat :=
  headers.findIdx? (Text.sameLetters · name)

/-- Which fields are read from which places. The mapping comes first, as far as its headers exist and
its columns are declared; a declared column it does not mention is read from the header with its id,
or else with its label. -/
def plan (mapping : Mapping) (columns : List Column) (headers : List String) : List (Field × Nat) :=
  let declared := fun (field : Field) =>
    match field with
    | .id => false
    | .dynamic id => columns.any (·.id == id)
    | _ => true
  let mapped := mapping.entries.filterMap fun (field, header) =>
    if declared field then (place? headers header).map fun place => (field, place) else none
  let guessed := columns.filterMap fun column =>
    if (mapping.header? column.field).isSome then none
    else
      ((place? headers column.id).or (place? headers column.label)).map fun place =>
        (column.field, place)
  mapped ++ guessed

end Mapping

/-- The row of a record: blank but for what the plan reads from it. -/
def Row.ofRecord (columns : List Column) (plan : List (Field × Nat)) (id : String)
    (record : List String) : Row :=
  plan.foldl (fun row (field, place) =>
      match record[place]? with
      | some cell => row.readCell columns field cell
      | none => row)
    (.blank id)

/-- The rows of a file, one for each of its records, with ids from a supply of fresh ones. -/
def importRows (freshId : Nat → String) (mapping : Mapping) (columns : List Column)
    (file : List Symbol) : Except ExchangeError (List Row) :=
  match Csv.table? file with
  | none => .error .unreadable
  | some table =>
    let plan := mapping.plan columns table.headers
    .ok (table.records.mapIdx fun k record => .ofRecord columns plan (freshId k) record)

/-- The headers of a file. -/
def readHeaders (file : List Symbol) : Except ExchangeError (List String) :=
  match Csv.headers? file with
  | some headers => .ok headers
  | none => .error .unreadable

/-! ## Rows to a table -/

/-- The cell of a field: the items of a list divided by bars, and nothing for no value. -/
def Row.writeCell (row : Row) (field : Field) : String :=
  match row.get? field with
  | some (.list items) => Text.joinItems "|" items
  | some .null | none => ""
  | some value => value.shown

/-- The fields of a written table. -/
def exportFields (columns : List Column) : List Field :=
  Field.fixed ++ columns.map Column.field

/-- The table of rows as records, headers first. -/
def exportRecords (rows : List Row) (columns : List Column) : List (List String) :=
  let fields := exportFields columns
  fields.map Field.key :: rows.map fun row => fields.map row.writeCell

/-- The file of a table of rows. -/
def exportRows (rows : List Row) (columns : List Column) : String :=
  Csv.write (exportRecords rows columns)

end Fieldbook
