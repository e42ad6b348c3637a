import Fieldbook.Json.Members
import Fieldbook.Json.Printer
import Fieldbook.Json.Reader
import Fieldbook.WorkingSet

/-!
# Snapshots

A snapshot is what is kept of a working set between two runs: the declared columns and the rows, under
the number of the format. It is written as a JSON document and read back from one; reading is as strict
about the members it knows as `Json.Record` says and repairs the rest, since rows and columns go back in
through `WorkingSet.ofParts`.

A row is one object with its statistics among its members. The members of a row are read in full, those
that mean nothing included.
-/

namespace Fieldbook

/-- The columns and rows of a working set, under the version of their format. -/
structure Snapshot where
  version : UInt32
  columns : List Column
  rows : List Row
  deriving DecidableEq

/-- Why a snapshot cannot be read. -/
inductive SnapshotError where
  /-- The file is no document of the expected form. -/
  | undecodable
  | unsupportedVersion (version : UInt32)
  | refused (reason : EditError)
  deriving DecidableEq

namespace Snapshot

/-- The version that is written and read. -/
def currentVersion : UInt32 := 1

end Snapshot

/-- The wording of a failure. -/
def SnapshotError.message : SnapshotError → String
  | undecodable => "snapshot error: <json>"
  | unsupportedVersion version =>
    s!"snapshot error: unsupported snapshot version {version.toNat} (expected {Snapshot.currentVersion.toNat})"
  | refused reason => reason.message

/-! ## Writing -/

namespace Value

/-- The document of a value; a number that no numeral can express is written as null. -/
def toJson : Value → Json
  | null => .null
  | bool b => .bool b
  | number x => (Numeral.ofDouble? x).elim .null .number
  | text s => .text s
  | list items => .texts items

end Value

/-- The document of a column. -/
def Column.toJson (column : Column) : Json :=
  .ofMembers [("id", .text column.id), ("label", .text column.label),
    ("kind", .text column.kind.name)]

/-- The document of a row. -/
def Row.toJson (row : Row) : Json :=
  .ofMembers <|
    [("id", .text row.id), ("sourceId", .number (.ofNat row.sourceId.toNat)),
      ("name", .text row.name), ("image", .textOrNull row.image),
      ("categories", .texts row.categories),
      ("classification", .number (.ofNat row.classification.toNat)),
      ("capabilities", .texts row.capabilities)] ++
    Stat.all.map (fun s => (s.key, .number (.ofNat (row.stats.get s).toNat))) ++
    [("dynamic", .ofMembers (row.cells.entries.map fun (key, value) => (key, value.toJson)))]

namespace Snapshot

/-- The document of a snapshot. -/
def toJson (s : Snapshot) : Json :=
  .ofMembers [("version", .number (.ofNat s.version.toNat)),
    ("columns", .array (s.columns.map Column.toJson)), ("rows", .array (s.rows.map Row.toJson))]

/-- The file of a snapshot. -/
def text (s : Snapshot) : String := s.toJson.pretty

end Snapshot

/-! ## Reading -/

/-- The value that a document expresses. -/
def Value.ofJson? : Json → Option Value
  | .null => some .null
  | .bool b => some (.bool b)
  | .number n => n.toDouble?.map .number
  | .string s => s.map .text
  | .array items => (items.mapM Json.toText?).map .list
  | .object _ => none

/-- The kind of a column by its name. -/
def ColumnKind.ofJson? (j : Json) : Option ColumnKind :=
  j.toName?.bind ofName?

/-- The column that a document describes. -/
def Column.ofJson? (j : Json) : Option Column := do
  let r ← Json.Record.ofJson? ["id", "label", "kind"] j
  return {
    id := ← r.required "id" Json.toText?
    label := ← r.required "label" Json.toText?
    kind := ← r.required "kind" ColumnKind.ofJson? }

/-- The cells that an object gives; of two cells with one key the later counts. -/
def Cells.ofJson? : Json → Option Cells
  | .object members => do
    let members ← Json.Record.names? members
    let entries ← members.mapM fun (key, j) => (Value.ofJson? j).map fun value => (key, value)
    return .ofList entries
  | _ => none

namespace Row

/-- The members of a row, statistics included. -/
def memberNames : List String :=
  ["id", "sourceId", "name", "image", "categories", "classification", "capabilities"] ++
    Stat.all.map Stat.key ++ ["dynamic"]

/-- How many brackets may be open at once in a snapshot. -/
def nestingLimit : Nat := 127

/-- How many brackets are open around a member of a row: the snapshot's, the rows' and the row's. -/
def memberDepth : Nat := 3

/-- The members of a row that mean nothing are sound all the same. -/
def hasSoundExtras : Json → Bool
  | .object members =>
    members.all fun (name, j) =>
      name.any memberNames.contains || (name.isSome && j.isSound (nestingLimit - memberDepth))
  | _ => false

/-- The row that an object describes. -/
def ofJson? (j : Json) : Option Row := do
  let r ← if hasSoundExtras j then Json.Record.ofJson? memberNames j else none
  let stat := fun (s : Stat) => r.required s.key Json.toUInt32?
  return {
    id := ← r.required "id" Json.toText?
    sourceId := ← r.required "sourceId" Json.toUInt64?
    name := ← r.required "name" Json.toText?
    image := ← r.optional "image" Json.toText?
    categories := ← r.required "categories" Json.toTexts?
    classification := ← r.required "classification" Json.toUInt32?
    capabilities := ← r.required "capabilities" Json.toTexts?
    stats := {
      hp := ← stat .hp
      attack := ← stat .attack
      defense := ← stat .defense
      specialAttack := ← stat .specialAttack
      specialDefense := ← stat .specialDefense
      speed := ← stat .speed }
    cells := ← r.defaulted "dynamic" Cells.ofJson? .empty }

end Row

namespace Snapshot

/-- The snapshot that a document describes. -/
def ofJson? (j : Json) : Option Snapshot := do
  let r ← Json.Record.ofJson? ["version", "columns", "rows"] j
  return {
    version := ← r.required "version" Json.toUInt32?
    columns := ← r.required "columns" (Json.toList? Column.ofJson?)
    rows := ← r.required "rows" (Json.toList? Row.ofJson?) }

/-- The snapshot in a file. -/
def read? (file : ByteArray) : Option Snapshot :=
  (Json.read? (Symbol.ofBytes file)).bind ofJson?

/-- A snapshot put together from two looks at a working set, the first for the columns and the second
for the rows. -/
def ofReads (first second : WorkingSet) : Snapshot :=
  ⟨currentVersion, first.columns, second.rows.toList⟩

end Snapshot

namespace WorkingSet

/-- The snapshot of a working set at rest. -/
def snapshot (set : WorkingSet) : Snapshot := .ofReads set set

/-- The working set of a snapshot. A version that is not the current one is reported before anything
that is wrong with its columns. -/
def ofSnapshot (s : Snapshot) : Except SnapshotError WorkingSet :=
  if s.version = Snapshot.currentVersion then (ofParts s.columns s.rows).mapError .refused
  else .error (.unsupportedVersion s.version)

/-- The file that a working set is kept in. -/
def save (set : WorkingSet) : String := set.snapshot.text

/-- The working set kept in a file. -/
def load (file : ByteArray) : Except SnapshotError WorkingSet :=
  match Snapshot.read? file with
  | some s => ofSnapshot s
  | none => .error .undecodable

end WorkingSet

end Fieldbook
