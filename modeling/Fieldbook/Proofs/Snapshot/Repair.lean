import Fieldbook.Proofs.Snapshot.RoundTrip
import Fieldbook.Proofs.WorkingSet.Appending

/-!
# What is made of any snapshot

A snapshot that was not written by this program, or that somebody has edited, may repeat columns and rows,
lack cells, have cells under no column, and mix kinds. Two things make it refused: another version, and a
column with a reserved id (`ofSnapshot_of_version`, `ofSnapshot_of_reserved`). Everything else is repaired,
and always in the same way (`ofSnapshot_repairs`):

* of several columns with one id the first counts (`declareAll_eq_firsts`);
* of several rows with one id the last counts, at the place of the first (`Ledger.map_id_append`,
  `Ledger.get?_append`);
* a row keeps its cells under declared columns, loses the others and gets the default where it has none
  (`Row.Repairs`).

There is nothing to repair a second time, for what is made is reachable (`ofSnapshot_snapshot`).
-/

namespace Fieldbook

/-! ## Columns that are refused -/

namespace WorkingSet

/-- A reserved column ends it, and is the one that is reported if none before it is reserved. -/
theorem declareAll_of_reserved {columns : List Column} {column : Column}
    (h : columns.find? Column.isReserved = some column) :
    columns.foldlM (fun set column => (set.declareColumn column).map Prod.fst) empty =
      .error (.reservedColumn column.id) := by
  obtain ⟨hreserved, front, rest, rfl, hfront⟩ := List.find?_eq_some_iff_append.1 h
  have hdeclared := declareAll_eq_firsts [] front fun c hc => by simpa using hfront c hc
  rw [List.foldlM_append]
  refine (congrArg (· >>= _) hdeclared).trans ?_
  have hrefused : ∀ set : WorkingSet, set.declareColumn column = .error (.reservedColumn column.id) :=
    fun set => by rw [declareColumn, if_pos hreserved]
  simp only [List.foldlM_cons, bind, Except.bind, hrefused]
  rfl

end WorkingSet

/-! ## What is made of the rest -/

/-- The row is what a given one becomes: it has the fixed fields of that row, a cell for each column and no
others, and in a cell the value that was given or, where none was, the default of the column. -/
structure Row.Repairs (columns : List Column) (given row : Row) : Prop where
  fixed : row = { given with cells := row.cells }
  keys : ∀ key, key ∈ row.cells.keys ↔ key ∈ columns.map Column.id
  cells : ∀ column ∈ columns,
    row.cells.get? column.id = some ((given.cells.get? column.id).getD column.kind.default)

namespace WorkingSet

variable {s : Snapshot}

theorem ofSnapshot_of_version (h : s.version ≠ Snapshot.currentVersion) :
    ofSnapshot s = .error (.unsupportedVersion s.version) := by
  rw [ofSnapshot, if_neg h]

theorem ofSnapshot_of_reserved (h : s.version = Snapshot.currentVersion) {column : Column}
    (hcolumn : s.columns.find? Column.isReserved = some column) :
    ofSnapshot s = .error (.refused (.reservedColumn column.id)) := by
  rw [ofSnapshot, if_pos h, ofParts, declareAll_of_reserved hcolumn]
  rfl

theorem ofSnapshot_of_usable (h : s.version = Snapshot.currentVersion)
    (husable : ∀ column ∈ s.columns, column.isReserved = false) :
    ofSnapshot s = .ok (appendBatch { columns := Column.firsts s.columns } s.rows).1 := by
  rw [ofSnapshot, if_pos h, ofParts_eq_firsts husable]
  rfl

/-- A snapshot that is not refused has the current version and no reserved column. -/
theorem usable_of_ofSnapshot {set : WorkingSet} (h : ofSnapshot s = .ok set) :
    s.version = Snapshot.currentVersion ∧ ∀ column ∈ s.columns, column.isReserved = false := by
  by_cases hversion : s.version = Snapshot.currentVersion
  · refine ⟨hversion, ?_⟩
    cases hfind : s.columns.find? Column.isReserved with
    | some column =>
      rw [ofSnapshot_of_reserved hversion hfind] at h
      cases h
    | none => simpa using hfind
  · rw [ofSnapshot_of_version hversion] at h
    cases h

/-- What is made of a snapshot, without its index. -/
theorem ledger_of_ofSnapshot {set : WorkingSet} (h : ofSnapshot s = .ok set) :
    set.ledger = (Ledger.append { columns := Column.firsts s.columns } s.rows).1 := by
  obtain ⟨hversion, husable⟩ := usable_of_ofSnapshot h
  rw [ofSnapshot_of_usable hversion husable] at h
  cases h
  have hindexed : Indexed { columns := Column.firsts s.columns } :=
    indexed_clear { columns := Column.firsts s.columns }
  exact (follows_appendBatch hindexed s.rows).ledger_eq

/-- Bringing a row in line with columns of different ids is repairing it. -/
theorem repairs_conform {columns : List Column} (h : (columns.map Column.id).Nodup) (row : Row) :
    row.Repairs columns (conform columns row) where
  fixed := rfl
  keys := uniform_conform columns row
  cells column hcolumn := by
    rw [conform, get?_conformCells, find?_key h hcolumn]
    rfl

/-- **Every row of a snapshot is repaired**: one for each id, at the place of the first row with the id and
with the content of the last. -/
theorem forall₂_repairs {columns : List Column} (h : (columns.map Column.id).Nodup) (rows : List Row) :
    List.Forall₂ (fun id row => ∃ given, rows.reverse.find? (·.id == id) = some given ∧
        given.Repairs columns row)
      (rows.map Row.id).eraseDups (Ledger.append { columns } rows).1.rows := by
  have hempty : (({ columns } : Ledger).rows.map Row.id).Nodup := List.nodup_nil
  have hids := Ledger.map_id_append hempty rows
  rw [List.map_nil, List.nil_append] at hids
  rw [← hids]
  refine (Ledger.forall₂_get? (Ledger.nodup_append hempty rows)).imp fun id row hrow => ?_
  rw [Ledger.get?_append] at hrow
  cases hlast : rows.reverse.find? (·.id == id) with
  | none =>
    rw [hlast] at hrow
    cases hrow
  | some given =>
    rw [hlast] at hrow
    cases hrow
    exact ⟨given, rfl, repairs_conform h given⟩

/-- **Any snapshot is repaired in one way, or refused.**

* It is refused exactly when its version is another one or one of its columns has a reserved id, and the
  version is reported before any column.
* Its columns are the first ones of each id.
* There is one row for each id, at the place of the first row with the id. It is the last row with the id,
  with a cell for each column and no others: a cell that was given is kept, and any other has the default of
  its column.
* The snapshot of what is made makes the same once more. -/
theorem ofSnapshot_repairs (s : Snapshot) :
    ((∃ set, ofSnapshot s = .ok set) ↔
      s.version = Snapshot.currentVersion ∧ ∀ column ∈ s.columns, column.isReserved = false) ∧
    (s.version ≠ Snapshot.currentVersion → ofSnapshot s = .error (.unsupportedVersion s.version)) ∧
    (s.version = Snapshot.currentVersion → ∀ column, s.columns.find? Column.isReserved = some column →
      ofSnapshot s = .error (.refused (.reservedColumn column.id))) ∧
    ∀ set, ofSnapshot s = .ok set →
      set.columns = Column.firsts s.columns ∧
      List.Forall₂ (fun id row => ∃ given, s.rows.reverse.find? (·.id == id) = some given ∧
          given.Repairs set.columns row)
        (s.rows.map Row.id).eraseDups set.rows.toList ∧
      ∃ again, ofSnapshot set.snapshot = .ok again ∧ again.columns = set.columns ∧
        again.rows = set.rows := by
  refine ⟨⟨fun ⟨_, hset⟩ => usable_of_ofSnapshot hset,
      fun ⟨hversion, husable⟩ => ⟨_, ofSnapshot_of_usable hversion husable⟩⟩,
    ofSnapshot_of_version, fun hversion _ => ofSnapshot_of_reserved hversion, fun set hset => ?_⟩
  have htidy := (Reachable.snapshot hset).sound.tidy
  have hledger := ledger_of_ofSnapshot hset
  have hcolumns : set.columns = Column.firsts s.columns :=
    (congrArg Ledger.columns hledger).trans (Ledger.columns_append _ s.rows)
  have hrows := forall₂_repairs htidy.columnIds s.rows
  rw [ledger_columns, hcolumns, ← hledger] at hrows
  obtain ⟨again, hagain, hsame⟩ := ofSnapshot_snapshot htidy
  refine ⟨hcolumns, hcolumns ▸ hrows, again, hagain, congrArg Ledger.columns hsame, ?_⟩
  exact Array.toList_inj.1 (congrArg Ledger.rows hsame)

/-- A snapshot with one column twice, of two kinds, and one row twice. The row has a truth value where the
column asks for text, and a cell under no column. -/
def editedSnapshot : Snapshot where
  version := 1
  columns := [⟨"note", "Note", .text⟩, ⟨"note", "Notes", .number⟩]
  rows :=
    [.blank "a", .blank "b",
      { Row.blank "a" with name := "A", cells := .ofList [("note", .bool true), ("stray", .null)] }]

/-- The first column and the last row count, the truth value stays, and the other row gets an empty text. -/
theorem ofSnapshot_repairs_edited :
    ∃ set a b, ofSnapshot editedSnapshot = .ok set ∧ set.columns = [⟨"note", "Note", .text⟩] ∧
      set.rows.toList = [a, b] ∧ a.name = "A" ∧ a.cells.get? "note" = some (.bool true) ∧
      "stray" ∉ a.cells.keys ∧ b.id = "b" ∧ b.cells.get? "note" = some (.text "") := by
  obtain ⟨hiff, -, -, hmade⟩ := ofSnapshot_repairs editedSnapshot
  obtain ⟨set, hset⟩ := hiff.2 ⟨rfl, by decide⟩
  obtain ⟨hcolumns, hrows, -⟩ := hmade set hset
  have hfirsts : Column.firsts editedSnapshot.columns = [⟨"note", "Note", .text⟩] := by decide
  have hids : (editedSnapshot.rows.map Row.id).eraseDups = ["a", "b"] := by decide
  rw [hcolumns, hfirsts, hids] at hrows
  obtain ⟨a, rest, ⟨given, hgiven, ha⟩, hrest, hlist⟩ := List.forall₂_cons_left_iff.1 hrows
  obtain ⟨b, rest', ⟨given', hgiven', hb⟩, hrest', rfl⟩ := List.forall₂_cons_left_iff.1 hrest
  obtain rfl := List.forall₂_nil_left_iff.1 hrest'
  cases hgiven
  cases hgiven'
  refine ⟨set, a, b, hset, hcolumns.trans hfirsts, hlist, ?_, ?_, ?_, ?_, ?_⟩
  · exact congrArg Row.name ha.fixed
  · exact ha.cells _ List.mem_cons_self
  · rw [ha.keys]
    decide
  · exact congrArg Row.id hb.fixed
  · exact hb.cells _ List.mem_cons_self

end WorkingSet

end Fieldbook
