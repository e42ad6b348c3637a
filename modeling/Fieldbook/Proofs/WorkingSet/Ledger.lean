import Fieldbook.Proofs.Assignment
import Mathlib.Data.List.Nodup

/-!
# The ledger

A working set without its index: rows in the order in which they came, and the declared columns. A row
is found by looking through them all. Every operation of a working set has its counterpart here, in the
words in which one would explain it: a row takes the place of the one with its id or goes to the end, an
update maps the rows it names, a removal filters them out.

* `Tidy` is what a ledger keeps to: no two rows with one id, no two columns with one id, no reserved
  column, and in every row a cell for each declared column and no others;
* `Tidy.append`, `Tidy.updateMany`, `Tidy.deleteMany` and `Tidy.declareColumn` say that every operation
  keeps it.
-/

namespace Fieldbook

/-! ## Operations -/

/-- Something to do with a working set. -/
inductive Operation where
  /-- Put rows in, one after another. -/
  | append (rows : List Row)
  /-- Put rows in after every row that was there is gone. -/
  | replace (rows : List Row)
  | updateOne (id : String) (patch : Patch)
  | updateMany (ids : List String) (patch : Patch)
  | deleteMany (ids : List String)
  | declare (column : Column)
  /-- Look for the row with an id. -/
  | get (id : String)
  /-- Count the rows. -/
  | size
  deriving DecidableEq

/-- What an operation answers. -/
inductive Answer where
  | done
  /-- So many rows: new, changed, removed, or there. -/
  | count (n : Nat)
  /-- The column is new, or it is not. -/
  | declared (isNew : Bool)
  | found (row? : Option Row)
  | refused (reason : EditError)
  deriving DecidableEq

/-- Rows in the order in which they came and the declared columns, and nothing to find them by. -/
structure Ledger where
  rows : List Row := []
  columns : List Column := []
  deriving DecidableEq

namespace Ledger

/-- There is a row with this id. -/
def knows (ledger : Ledger) (id : String) : Bool := ledger.rows.any (·.id == id)

/-- The row with this id. -/
def get? (ledger : Ledger) (id : String) : Option Row := ledger.rows.find? (·.id == id)

/-- Puts a row in the place of the one that has its id, or at the end; reports whether the id is
new. -/
def put (ledger : Ledger) (row : Row) : Ledger × Bool :=
  let row := WorkingSet.conform ledger.columns row
  if ledger.knows row.id then
    ({ ledger with rows := ledger.rows.map fun r => if r.id = row.id then row else r }, false)
  else ({ ledger with rows := ledger.rows ++ [row] }, true)

/-- Puts rows in one after another; reports how many ids are new. -/
def append (ledger : Ledger) : List Row → Ledger × Nat
  | [] => (ledger, 0)
  | row :: rest =>
    let (ledger, isNew) := ledger.put row
    let (ledger, added) := ledger.append rest
    (ledger, if isNew then added + 1 else added)

/-- Puts rows in where none are. -/
def replace (ledger : Ledger) (rows : List Row) : Ledger :=
  (append { columns := ledger.columns } rows).1

/-- Applies a patch to the rows named and counts them. -/
def updateMany (ledger : Ledger) (ids : List String) (patch : Patch) :
    Except EditError (Ledger × Nat) :=
  match patch.resolve ledger.columns with
  | .error reason => .error reason
  | .ok assignments =>
    match ids.find? (!ledger.knows ·) with
    | some id => .error (.unknownRow id)
    | none =>
      .ok ({ ledger with
              rows := ledger.rows.map fun row =>
                if row.id ∈ ids then row.assignAll assignments else row },
        ledger.rows.countP (·.id ∈ ids))

/-- Filters out the rows named and counts them. -/
def deleteMany (ledger : Ledger) (ids : List String) : Ledger × Nat :=
  ({ ledger with rows := ledger.rows.filter (·.id ∉ ids) }, ledger.rows.countP (·.id ∈ ids))

/-- Declares a column and gives every row its default; reports whether the id is new. -/
def declareColumn (ledger : Ledger) (column : Column) : Except EditError (Ledger × Bool) :=
  if column.isReserved then .error (.reservedColumn column.id)
  else if column.id ∈ ledger.columns.map Column.id then .ok (ledger, false)
  else
    .ok ({ rows := ledger.rows.map fun row =>
            { row with cells := row.cells.put column.id column.kind.default }
           columns := ledger.columns ++ [column] }, true)

/-- Does something and answers. What is refused changes nothing. -/
def operate (ledger : Ledger) : Operation → Ledger × Answer
  | .append rows => let (ledger, n) := ledger.append rows; (ledger, .count n)
  | .replace rows => (ledger.replace rows, .done)
  | .updateOne id patch =>
    match ledger.updateMany [id] patch with
    | .ok (ledger, _) => (ledger, .done)
    | .error reason => (ledger, .refused reason)
  | .updateMany ids patch =>
    match ledger.updateMany ids patch with
    | .ok (ledger, n) => (ledger, .count n)
    | .error reason => (ledger, .refused reason)
  | .deleteMany ids => let (ledger, n) := ledger.deleteMany ids; (ledger, .count n)
  | .declare column =>
    match ledger.declareColumn column with
    | .ok (ledger, isNew) => (ledger, .declared isNew)
    | .error reason => (ledger, .refused reason)
  | .get id => (ledger, .found (ledger.get? id))
  | .size => (ledger, .count ledger.rows.length)

/-- Does one thing after another. -/
def operateAll (ledger : Ledger) : List Operation → Ledger × List Answer
  | [] => (ledger, [])
  | operation :: rest =>
    let (ledger, answer) := ledger.operate operation
    let (ledger, answers) := ledger.operateAll rest
    (ledger, answer :: answers)

end Ledger

/-! ## What a ledger keeps to -/

namespace Ledger

/-- No id twice among the rows, none twice among the columns, no reserved column, and in every row a
cell for each column and no others. -/
structure Tidy (ledger : Ledger) : Prop where
  ids : (ledger.rows.map Row.id).Nodup
  columnIds : (ledger.columns.map Column.id).Nodup
  usable : ∀ column ∈ ledger.columns, column.isReserved = false
  uniform : ∀ row ∈ ledger.rows, row.Uniform ledger.columns

/-- The empty ledger is tidy. -/
theorem tidy_empty : Tidy {} :=
  ⟨List.nodup_nil, List.nodup_nil, fun _ h => absurd h List.not_mem_nil,
    fun _ h => absurd h List.not_mem_nil⟩

/-- A ledger knows the ids of its rows and no others. -/
theorem knows_iff {ledger : Ledger} {id : String} :
    ledger.knows id = true ↔ id ∈ ledger.rows.map Row.id := by
  simp [knows]

/-- A change that leaves every row its id leaves the list of ids as it is. -/
theorem map_id_map {f : Row → Row} (hf : ∀ row, (f row).id = row.id) (rows : List Row) :
    (rows.map f).map Row.id = rows.map Row.id := by
  rw [List.map_map]
  exact List.map_congr_left fun row _ => hf row

variable {ledger : Ledger}

/-- **A row that is put in leaves the ledger tidy.** In the place of another row it has its id; at the end
its id is new; and it was made to conform in either case. -/
theorem Tidy.put (h : ledger.Tidy) (row : Row) : (ledger.put row).1.Tidy := by
  have hrow := WorkingSet.uniform_conform ledger.columns row
  rw [Ledger.put]
  split
  · refine ⟨?_, h.columnIds, h.usable, ?_⟩
    · rw [map_id_map fun r => ?_]
      · exact h.ids
      · split
        · next heq => exact heq.symm
        · rfl
    · intro r hr
      obtain ⟨r', hr', rfl⟩ := List.mem_map.1 hr
      split
      · exact hrow
      · exact h.uniform r' hr'
  · next hnew =>
    refine ⟨?_, h.columnIds, h.usable, ?_⟩
    · rw [List.map_append, List.map_singleton, List.nodup_append]
      refine ⟨h.ids, List.nodup_singleton _, ?_⟩
      rintro id hid id' hid' rfl
      rw [List.mem_singleton] at hid'
      exact hnew (knows_iff.2 (hid' ▸ hid))
    · intro r hr
      rcases List.mem_append.1 hr with hr | hr
      · exact h.uniform r hr
      · rw [List.mem_singleton] at hr
        exact hr ▸ hrow

/-- A batch is put in row by row. -/
theorem Tidy.append (h : ledger.Tidy) (rows : List Row) : (ledger.append rows).1.Tidy := by
  induction rows generalizing ledger with
  | nil => exact h
  | cons row rest ih => exact ih (h.put row)

/-- Without its rows a ledger keeps its columns. -/
theorem Tidy.clear (h : ledger.Tidy) : Tidy { columns := ledger.columns } :=
  ⟨List.nodup_nil, h.columnIds, h.usable, fun _ hr => absurd hr List.not_mem_nil⟩

/-- Replacing all rows is a batch into what is left without them. -/
theorem Tidy.replace (h : ledger.Tidy) (rows : List Row) : (ledger.replace rows).Tidy :=
  h.clear.append rows

/-- **An update that is not refused leaves the ledger tidy**: no row changes its id, and cells are only
assigned to declared columns. -/
theorem Tidy.updateMany (h : ledger.Tidy) {ids : List String} {patch : Patch} {after : Ledger}
    {count : Nat} (hok : ledger.updateMany ids patch = .ok (after, count)) : after.Tidy := by
  rw [Ledger.updateMany] at hok
  split at hok
  · cases hok
  · next assignments hresolve =>
    split at hok
    · cases hok
    · cases hok
      refine ⟨?_, h.columnIds, h.usable, ?_⟩
      · rw [map_id_map fun r => ?_]
        · exact h.ids
        · split
          · exact r.assignAll_id assignments
          · rfl
      · intro r hr
        obtain ⟨r', hr', rfl⟩ := List.mem_map.1 hr
        split
        · exact (h.uniform r' hr').assignAll (Patch.mem_of_resolve_cell hresolve)
        · exact h.uniform r' hr'

/-- A removal leaves some of the rows as they are. -/
theorem Tidy.deleteMany (h : ledger.Tidy) (ids : List String) : (ledger.deleteMany ids).1.Tidy :=
  ⟨h.ids.sublist (List.filter_sublist.map Row.id), h.columnIds, h.usable,
    fun r hr => h.uniform r (List.mem_of_mem_filter hr)⟩

/-- **A column that is declared leaves the ledger tidy**: it is neither reserved nor there already, and
every row is given its cell. -/
theorem Tidy.declareColumn (h : ledger.Tidy) {column : Column} {after : Ledger} {isNew : Bool}
    (hok : ledger.declareColumn column = .ok (after, isNew)) : after.Tidy := by
  rw [Ledger.declareColumn] at hok
  split at hok
  · cases hok
  · next husable =>
    split at hok
    · cases hok
      exact h
    · next hnew =>
      cases hok
      refine ⟨?_, ?_, ?_, ?_⟩
      · rw [map_id_map]
        · exact h.ids
        · exact fun _ => rfl
      · rw [List.map_append, List.map_singleton]
        exact List.nodup_append.2 ⟨h.columnIds, List.nodup_singleton _, by
          rintro id hid id' hid' rfl
          rw [List.mem_singleton] at hid'
          exact hnew (hid' ▸ hid)⟩
      · intro c hc
        rcases List.mem_append.1 hc with hc | hc
        · exact h.usable c hc
        · rw [List.mem_singleton] at hc
          exact hc ▸ eq_false_of_ne_true husable
      · intro r hr
        obtain ⟨r', hr', rfl⟩ := List.mem_map.1 hr
        exact (h.uniform r' hr').declare column _

end Ledger

end Fieldbook
