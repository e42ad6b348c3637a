import Fieldbook.Proofs.WorkingSet.Appending
import Fieldbook.Proofs.WorkingSet.Parts

/-!
# Batches, and a column declared before or after them

A row comes into line with the columns when it goes in, and a column fills up every row when it is
declared. So neither the cut of the rows into batches nor the moment of a declaration can be told from
what there is in the end:

* rows that go in as one batch and as two leave the same rows and columns, and the counts add up;
  rows that go in again leave everything as it is (`Reachable.appendBatch_batches`);
* a column that is declared before rows without a cell for it leaves what it leaves when it is declared
  after them (`Reachable.declare_append_comm`).

The second rests on the two ways to a default being one: what conforming gives a row for one column more
is what declaring that column gives the conformed row (`conform_concat`). From there it goes row by row
(`Ledger.put_widened`) to whole batches (`Ledger.append_widened`).
-/

namespace Fieldbook

/-! ## One column more -/

/-- The row with the default of a column in its cell. -/
def Row.filled (column : Column) (row : Row) : Row :=
  { row with cells := row.cells.put column.id column.kind.default }

@[simp]
theorem Row.filled_id (column : Column) (row : Row) : (row.filled column).id = row.id := rfl

/-- **Conforming to one column more is conforming and then filling up**, for a row that has no cell under
the id of a column that is new. -/
theorem WorkingSet.conform_concat {columns : List Column} {column : Column} {row : Row}
    (hnew : column.id ∉ columns.map Column.id) (hrow : column.id ∉ row.cells.keys) :
    conform (columns ++ [column]) row = (conform columns row).filled column := by
  have hcells : conformCells (columns ++ [column]) row.cells =
      (conformCells columns row.cells).put column.id column.kind.default := by
    refine Cells.ext_get? fun key => ?_
    rw [get?_conformCells, List.find?_append]
    by_cases hkey : key = column.id
    · subst hkey
      have hearlier : columns.find? (·.id == column.id) = none := by
        simpa [List.find?_eq_none] using hnew
      have hmissing : row.cells.get? column.id = none := by
        simpa [Cells.mem_keys_iff, Cells.has] using hrow
      rw [Cells.get?_put_self, hearlier, hmissing]
      simp
    · rw [Cells.get?_put_of_ne _ _ hkey, get?_conformCells, List.find?_singleton,
        if_neg (mt eq_of_beq (Ne.symm hkey)), Option.or_none]
  rw [Row.filled, conform, hcells]
  rfl

namespace Ledger

/-- The ledger with one column more, filled up in every row. -/
def widened (ledger : Ledger) (column : Column) : Ledger :=
  ⟨ledger.rows.map (Row.filled column), ledger.columns ++ [column]⟩

variable {ledger : Ledger} {column : Column}

theorem declareColumn_of_new (husable : column.isReserved = false)
    (hnew : column.id ∉ ledger.columns.map Column.id) :
    ledger.declareColumn column = .ok (ledger.widened column, true) := by
  rw [declareColumn, husable, if_neg Bool.false_ne_true, if_neg hnew]
  rfl

@[simp]
theorem knows_widened (ledger : Ledger) (column : Column) (id : String) :
    (ledger.widened column).knows id = ledger.knows id := by
  simp only [knows, widened, List.any_map, Function.comp_def, Row.filled_id]

/-- **A row goes into the wider ledger as it goes into the narrow one**: in the place of the same row, or
at the end. -/
theorem put_widened {row : Row} (hnew : column.id ∉ ledger.columns.map Column.id)
    (hrow : column.id ∉ row.cells.keys) :
    (ledger.widened column).put row = ((ledger.put row).1.widened column, (ledger.put row).2) := by
  have hconform := WorkingSet.conform_concat hnew hrow
  cases hknows : ledger.knows row.id with
  | false =>
    have hwide : (ledger.widened column).knows row.id = false := by rw [knows_widened, hknows]
    rw [put_of_new hknows, put_of_new hwide]
    simp [widened, hconform]
  | true =>
    have hwide : (ledger.widened column).knows row.id = true := by rw [knows_widened, hknows]
    rw [put_of_known hknows, put_of_known hwide]
    simp only [widened, List.map_map, hconform, Prod.mk.injEq, Ledger.mk.injEq, and_true]
    refine List.map_congr_left fun r _ => ?_
    rw [Function.comp_apply, Function.comp_apply, Row.filled_id]
    split <;> rfl

/-- Several rows go into the wider ledger as they go into the narrow one. -/
theorem append_widened {rows : List Row} (hnew : column.id ∉ ledger.columns.map Column.id)
    (hrows : ∀ row ∈ rows, column.id ∉ row.cells.keys) :
    (ledger.widened column).append rows =
      ((ledger.append rows).1.widened column, (ledger.append rows).2) := by
  induction rows generalizing ledger with
  | nil => rfl
  | cons row rest ih =>
    have hput := put_widened hnew (hrows row List.mem_cons_self)
    have hrest : ((ledger.put row).1.widened column).append rest = _ :=
      ih (by rwa [columns_put]) fun r hr => hrows r (List.mem_cons_of_mem row hr)
    rw [append_cons, append_cons, hput]
    simp only [hrest]

/-- Declaring a column and putting rows in can change places. The three cases are those of the
declaration: it is refused, the column is there already, or every row is filled up. -/
theorem operateAll_declare_append {rows : List Row} (hrows : ∀ row ∈ rows, column.id ∉ row.cells.keys) :
    (ledger.operateAll [.declare column, .append rows]).1 =
      (ledger.operateAll [.append rows, .declare column]).1 ∧
    (ledger.operateAll [.declare column, .append rows]).2 =
      (ledger.operateAll [.append rows, .declare column]).2.reverse := by
  cases hreserved : column.isReserved with
  | true =>
    have hrefused : ∀ l : Ledger, l.declareColumn column = .error (.reservedColumn column.id) :=
      fun l => by rw [declareColumn, if_pos hreserved]
    simp [operateAll, operate, hrefused]
  | false =>
    by_cases hmem : column.id ∈ ledger.columns.map Column.id
    · have hkept : ∀ l : Ledger, l.columns = ledger.columns → l.declareColumn column = .ok (l, false) :=
        fun l hl => by rw [declareColumn, hreserved, if_neg Bool.false_ne_true, hl, if_pos hmem]
      simp [operateAll, operate, hkept]
    · have hnew : column.id ∉ (ledger.append rows).1.columns.map Column.id := by rwa [columns_append]
      simp [operateAll, operate, declareColumn_of_new hreserved hmem,
        declareColumn_of_new hreserved hnew, append_widened hmem hrows]

end Ledger

namespace WorkingSet

variable {set other : WorkingSet}

theorem ledger_eq_iff : set.ledger = other.ledger ↔ set.rows = other.rows ∧ set.columns = other.columns := by
  rw [ledger, ledger, Ledger.mk.injEq, Array.toList_inj]

/-! ## Batches -/

/-- **Batching does not matter.** Whatever is in the batches, and however often the ids in them are
repeated:

* rows that go in as one batch leave what they leave as two, and the counts add up;
* the count is what the working set grows by;
* a batch that goes in again changes nothing and counts nothing;
* replacing all rows leaves what putting the rows into a working set with the same columns and no rows
  leaves, and there is one. -/
theorem Reachable.appendBatch_batches (h : Reachable set) :
    (∀ a b : List Row,
      (set.appendBatch (a ++ b)).1.rows = ((set.appendBatch a).1.appendBatch b).1.rows ∧
      (set.appendBatch (a ++ b)).1.columns = ((set.appendBatch a).1.appendBatch b).1.columns ∧
      (set.appendBatch (a ++ b)).2 = (set.appendBatch a).2 + ((set.appendBatch a).1.appendBatch b).2) ∧
    (∀ a : List Row, (set.appendBatch a).1.size = set.size + (set.appendBatch a).2) ∧
    (∀ a : List Row,
      ((set.appendBatch a).1.appendBatch a).1.rows = (set.appendBatch a).1.rows ∧
      ((set.appendBatch a).1.appendBatch a).1.columns = (set.appendBatch a).1.columns ∧
      ((set.appendBatch a).1.appendBatch a).2 = 0) ∧
    (∃ bare, Reachable bare ∧ bare.rows = #[] ∧ bare.columns = set.columns) ∧
    ∀ bare, Reachable bare → bare.rows = #[] → bare.columns = set.columns → ∀ a : List Row,
      (set.replaceAll a).rows = (bare.appendBatch a).1.rows ∧
      (set.replaceAll a).columns = (bare.appendBatch a).1.columns := by
  obtain ⟨hindexed, htidy⟩ := h.sound
  have hone : ∀ a, Follows (set.appendBatch a) (set.ledger.append a) := follows_appendBatch hindexed
  have htwo : ∀ a b, Follows ((set.appendBatch a).1.appendBatch b)
      ((set.ledger.append a).1.append b) := by
    intro a b
    rw [← (hone a).ledger_eq]
    exact follows_appendBatch (hone a).indexed b
  refine ⟨fun a b => ?_, fun a => ?_, fun a => ?_, ?_, fun bare hbare hrows hcolumns a => ?_⟩
  · have hcut := Ledger.append_append set.ledger a b
    rw [← and_assoc, ← ledger_eq_iff, (hone (a ++ b)).ledger_eq, (htwo a b).ledger_eq,
      (hone (a ++ b)).answer_eq, (hone a).answer_eq, (htwo a b).answer_eq, hcut]
    exact ⟨rfl, rfl⟩
  · have hlength := Ledger.length_append set.ledger a
    rw [← (hone a).ledger_eq, ← (hone a).answer_eq] at hlength
    exact hlength
  · have hagain := Ledger.append_append_self htidy.ids a
    rw [← and_assoc, ← ledger_eq_iff, (htwo a a).ledger_eq, (hone a).ledger_eq, (htwo a a).answer_eq,
      hagain]
    exact ⟨rfl, rfl⟩
  · exact ⟨_, .parts (ofParts_eq htidy.columnIds htidy.usable []), rfl, rfl⟩
  · have hledger : bare.ledger = { columns := set.ledger.columns } := by
      rw [ledger, hrows, hcolumns]
      rfl
    have hbatch := follows_appendBatch hbare.sound.indexed a
    rw [hledger] at hbatch
    rw [← ledger_eq_iff, (follows_replaceAll set a).ledger_eq, hbatch.ledger_eq]
    rfl

/-- A row that is there already is not counted, and one that stands in both batches is counted once. -/
theorem appendBatch_batches_repeated :
    let set := (empty.operateAll [.declare ⟨"note", "Note", .text⟩, .append [.blank "a"]]).1
    let a : List Row := [.blank "b", .blank "a"]
    let b : List Row := [.blank "b", .blank "c"]
    Reachable set ∧ (set.appendBatch (a ++ b)).2 = 2 ∧
      (set.appendBatch a).2 + ((set.appendBatch a).1.appendBatch b).2 = 2 ∧
      (set.appendBatch a).1.size = set.size + 1 := by
  intro set a b
  have hset : Reachable set := Reachable.empty.operateAll _
  have hledger : set.ledger = _ := (follows_operateAll indexed_empty _).ledger_eq
  have hcount : ∀ rows, (set.appendBatch rows).2 = (set.ledger.append rows).2 := fun rows =>
    (follows_appendBatch hset.sound.indexed rows).answer_eq
  have hfirst : (set.appendBatch a).2 = 1 := by
    rw [hcount, hledger]
    decide
  have hwhole : (set.appendBatch (a ++ b)).2 = 2 := by
    rw [hcount, hledger]
    decide
  obtain ⟨hcut, hgrown, -⟩ := hset.appendBatch_batches
  refine ⟨hset, hwhole, (hcut a b).2.2.symm.trans hwhole, ?_⟩
  rw [hgrown, hfirst]

/-! ## Columns and batches change places -/

/-- **Declaring a column and putting in rows that have no cell under its id can change places.** The
rows, the columns and what each of the two answers are the same, whether the column is new, there already
with any kind, or refused. -/
theorem Reachable.declare_append_comm (h : Reachable set) (column : Column) (batch : List Row)
    (hbatch : ∀ row ∈ batch, column.id ∉ row.cells.keys) :
    (set.operateAll [.declare column, .append batch]).1.rows =
      (set.operateAll [.append batch, .declare column]).1.rows ∧
    (set.operateAll [.declare column, .append batch]).1.columns =
      (set.operateAll [.append batch, .declare column]).1.columns ∧
    (set.operateAll [.declare column, .append batch]).2 =
      (set.operateAll [.append batch, .declare column]).2.reverse := by
  have hcolumn := follows_operateAll h.sound.indexed [.declare column, .append batch]
  have hrows := follows_operateAll h.sound.indexed [.append batch, .declare column]
  rw [← and_assoc, ← ledger_eq_iff, hcolumn.ledger_eq, hrows.ledger_eq, hcolumn.answer_eq,
    hrows.answer_eq]
  exact Ledger.operateAll_declare_append hbatch

/-- A row that is there and two that go in, one of them in its place, have the default whenever the
column is declared. -/
theorem declare_append_comm_note :
    let set := (empty.operateAll [.append [.blank "a"]]).1
    let batch : List Row := [.blank "b", .blank "a"]
    (∀ row ∈ batch, "note" ∉ row.cells.keys) ∧
      (set.operateAll [.declare ⟨"note", "Note", .text⟩, .append batch]).1.rows =
        (set.operateAll [.append batch, .declare ⟨"note", "Note", .text⟩]).1.rows ∧
      (set.operateAll [.append batch, .declare ⟨"note", "Note", .text⟩]).2 =
        [.count 1, .declared true] := by
  intro set batch
  have hbatch : ∀ row ∈ batch, "note" ∉ row.cells.keys := by decide
  have hset : Reachable set := Reachable.empty.operateAll _
  have hledger : set.ledger = _ := (follows_operateAll indexed_empty _).ledger_eq
  obtain ⟨hrows, -, -⟩ := hset.declare_append_comm ⟨"note", "Note", .text⟩ batch hbatch
  refine ⟨hbatch, hrows, ?_⟩
  rw [(hset.operateAll_eq _).1, hledger]
  decide

end WorkingSet

end Fieldbook
