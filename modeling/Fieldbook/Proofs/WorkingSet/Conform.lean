import Fieldbook.WorkingSet

/-!
# Cells in line with the columns

What `conform` makes of a row: exactly the declared columns have a cell, a cell that was there before
is as it was, and any other holds the default of its column.

* `get?_conformCells` says so for every key at once, and whatever the columns are: of two columns with
  one id the first counts;
* `uniform_conform` is the half that the working set keeps to (`Row.Uniform`), and `Uniform.declare`
  carries it over to one column more.
-/

namespace Fieldbook

/-- The row has a cell for every declared column and no others. -/
def Row.Uniform (columns : List Column) (row : Row) : Prop :=
  ∀ key, key ∈ row.cells.keys ↔ key ∈ columns.map Column.id

namespace Cells

theorem mem_keys_put {cells : Cells} {key k : String} {value : Value} :
    k ∈ (cells.put key value).keys ↔ k = key ∨ k ∈ cells.keys :=
  mem_keys_insertEntry

end Cells

namespace WorkingSet

/-- Filling up leaves the cells that there are alone and gives each other column its default. -/
theorem get?_foldl_fill (columns : List Column) (cells : Cells) (key : String) :
    (columns.foldl (fun cells column =>
        if cells.has column.id then cells else cells.put column.id column.kind.default) cells).get? key =
      (cells.get? key).or ((columns.find? (·.id == key)).map (·.kind.default)) := by
  induction columns generalizing cells with
  | nil => simp
  | cons column rest ih =>
    rw [List.foldl_cons, ih, List.find?_cons]
    by_cases hkey : column.id = key
    · subst hkey
      by_cases hhas : cells.has column.id
      · obtain ⟨value, hvalue⟩ := Option.isSome_iff_exists.1 hhas
        simp [hhas, hvalue]
      · have hnone : cells.get? column.id = none := by simpa [Cells.has] using hhas
        simp [hhas, hnone]
    · have hcells : (if cells.has column.id then cells
          else cells.put column.id column.kind.default).get? key = cells.get? key := by
        split
        · rfl
        · exact Cells.get?_put_of_ne cells _ (Ne.symm hkey)
      rw [hcells, beq_eq_false_iff_ne.2 hkey]

/-- **What conforming does to every cell.** A declared column keeps the value that was there and holds
its default where there was none; nothing else has a cell. -/
theorem get?_conformCells (columns : List Column) (cells : Cells) (key : String) :
    (conformCells columns cells).get? key =
      (columns.find? (·.id == key)).map fun column => (cells.get? key).getD column.kind.default := by
  rw [conformCells, get?_foldl_fill, Cells.get?_keep]
  cases hfind : columns.find? (·.id == key) with
  | none =>
    have hany : columns.any (·.id == key) = false := by
      simpa [List.find?_eq_none] using hfind
    simp [hany]
  | some column =>
    have hid : column.id = key := by simpa using List.find?_some hfind
    have hany : columns.any (·.id == key) = true :=
      List.any_eq_true.2 ⟨column, List.mem_of_find?_eq_some hfind, beq_iff_eq.2 hid⟩
    cases cells.get? key <;> simp [hany]

theorem uniform_conform (columns : List Column) (row : Row) :
    (conform columns row).Uniform columns := by
  intro key
  rw [Cells.mem_keys_iff, Cells.has, conform, get?_conformCells, Option.isSome_map, List.find?_isSome]
  simp

@[simp]
theorem conform_id (columns : List Column) (row : Row) : (conform columns row).id = row.id := rfl

end WorkingSet

/-- One column more is one cell more. -/
theorem Row.Uniform.declare {columns : List Column} {row : Row} (h : row.Uniform columns)
    (column : Column) (value : Value) :
    Row.Uniform (columns ++ [column]) { row with cells := row.cells.put column.id value } := by
  intro key
  rw [Cells.mem_keys_put, h key, List.map_append, List.mem_append, List.map_singleton,
    List.mem_singleton, or_comm]

end Fieldbook
