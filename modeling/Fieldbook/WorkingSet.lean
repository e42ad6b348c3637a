import Std.Data.HashMap
import Fieldbook.Patch

/-!
# The working set

Rows in the order in which they came, the declared columns, and an index from ids to positions. What the
operations keep to:

* rows go in by id: a row whose id is known takes the place of the one that had it, any other goes to
  the end;
* a row's cells are those of the declared columns, brought in line when the row goes in and filled up
  when a column is declared;
* an update changes every row it names or, when its patch or one of the ids is refused, none.

An operation answers the working set it leaves and, beside it, what it reports.
-/

namespace Fieldbook

/-- The rows, where to find them, and the declared columns. -/
structure WorkingSet where
  rows : Array Row := #[]
  /-- The position of each row by its id. -/
  index : Std.HashMap String Nat := {}
  columns : List Column := []

namespace WorkingSet

/-- Without rows and columns. -/
def empty : WorkingSet := {}

/-- How many rows there are. -/
def size (set : WorkingSet) : Nat := set.rows.size

/-- The row with this id. -/
def get? (set : WorkingSet) (id : String) : Option Row :=
  set.index[id]?.bind fun pos => set.rows[pos]?

/-! ## Rows go in -/

/-- Cells in line with the columns: undeclared cells are dropped, missing ones get their default. -/
def conformCells (columns : List Column) (cells : Cells) : Cells :=
  columns.foldl (fun cells column =>
      if cells.has column.id then cells else cells.put column.id column.kind.default)
    (cells.keep fun key => columns.any (·.id == key))

/-- The row with its cells in line with the columns. -/
def conform (columns : List Column) (row : Row) : Row :=
  { row with cells := conformCells columns row.cells }

/-- Puts a row in by its id; reports whether the id is new. -/
def upsert (set : WorkingSet) (row : Row) : WorkingSet × Bool :=
  let row := conform set.columns row
  match set.index[row.id]? with
  | some pos => ({ set with rows := set.rows.setIfInBounds pos row }, false)
  | none =>
    ({ set with rows := set.rows.push row, index := set.index.insert row.id set.rows.size }, true)

/-- Puts rows in one after another; reports how many ids are new. -/
def appendBatch (set : WorkingSet) (rows : List Row) : WorkingSet × Nat :=
  rows.foldl (fun (set, added) row =>
      let (set, isNew) := set.upsert row
      (set, if isNew then added + 1 else added))
    (set, 0)

/-- Without rows but with the columns it had. -/
def clear (set : WorkingSet) : WorkingSet := { columns := set.columns }

/-- Puts rows in after every row that was there is gone. -/
def replaceAll (set : WorkingSet) (rows : List Row) : WorkingSet :=
  (set.clear.appendBatch rows).1

/-! ## Rows change and leave -/

/-- The position of the row with this id. -/
def position (set : WorkingSet) (id : String) : Except EditError Nat :=
  match set.index[id]? with
  | some pos => .ok pos
  | none => .error (.unknownRow id)

/-- The positions of the ids, each once, or the first id that no row has. -/
def positions (set : WorkingSet) (ids : List String) : Except EditError (List Nat) :=
  (ids.mapM set.position).map List.eraseDups

/-- Applies a patch to every row named; reports how many rows that are. A refused patch is reported
before an unknown id. -/
def updateMany (set : WorkingSet) (ids : List String) (patch : Patch) :
    Except EditError (WorkingSet × Nat) := do
  let assignments ← patch.resolve set.columns
  let positions ← set.positions ids
  let rows := positions.foldl (fun rows pos => rows.modify pos (·.assignAll assignments)) set.rows
  return ({ set with rows }, positions.length)

/-- Applies a patch to one row. -/
def updateOne (set : WorkingSet) (id : String) (patch : Patch) : Except EditError WorkingSet :=
  (set.updateMany [id] patch).map Prod.fst

/-- The index of rows by their ids. -/
def indexOf (rows : Array Row) : Std.HashMap String Nat :=
  (rows.toList.zipIdx.foldl fun index (row, pos) => index.insert row.id pos) {}

/-- Removes the rows named, as far as there are any; reports how many that were. -/
def deleteMany (set : WorkingSet) (ids : List String) : WorkingSet × Nat :=
  let rows := set.rows.filter fun row => !ids.contains row.id
  let removed := set.rows.size - rows.size
  if removed = 0 then (set, 0) else ({ set with rows, index := indexOf rows }, removed)

/-! ## Columns -/

/-- Declares a column and gives every row its default; reports whether the id is new. A column whose id
is declared already changes nothing, and one whose id is reserved is refused. -/
def declareColumn (set : WorkingSet) (column : Column) : Except EditError (WorkingSet × Bool) :=
  if column.isReserved then .error (.reservedColumn column.id)
  else if set.columns.any (·.id == column.id) then .ok (set, false)
  else
    let fill := fun (row : Row) => { row with cells := row.cells.put column.id column.kind.default }
    .ok ({ set with rows := set.rows.map fill, columns := set.columns ++ [column] }, true)

/-- The working set of a list of columns and a list of rows, declared and put in in order. -/
def ofParts (columns : List Column) (rows : List Row) : Except EditError WorkingSet := do
  let set ← columns.foldlM (fun set column => (set.declareColumn column).map Prod.fst) empty
  return (set.appendBatch rows).1

end WorkingSet

end Fieldbook
