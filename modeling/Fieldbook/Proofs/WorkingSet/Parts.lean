import Fieldbook.Proofs.WorkingSet.Index

/-!
# Putting a working set together from its parts

Columns are declared in their order, and of those with one id the first counts (`declareAll_eq_firsts`). The
columns and rows of a tidy ledger, declared and put in in their order, make a working set with just these columns
and rows (`ofParts_of_tidy`). Nothing is refused, for no column is reserved; nothing is left out or replaced, for
no id is there twice; and no row is changed, for it is in line with the columns already (`conform_eq_self`).
-/

namespace Fieldbook

/-- In a list without repeated ids none before an item has the item's id. -/
theorem any_eq_false_of_nodup {α : Type} {id : α → String} {front rest : List α} {a : α}
    (h : ((front ++ a :: rest).map id).Nodup) : (front.any fun b => id b == id a) = false := by
  rw [List.map_append, List.nodup_append] at h
  refine List.any_eq_false.2 fun b hb heq => ?_
  exact h.2.2 (id b) (List.mem_map_of_mem hb) (id a) List.mem_cons_self (eq_of_beq heq)

namespace Column

/-- Of several columns with one id the first, in the order of the columns that are left. -/
def firsts (columns : List Column) : List Column :=
  columns.eraseDupsBy fun a b => a.id == b.id

theorem firsts_cons (column : Column) (rest : List Column) :
    firsts (column :: rest) = column :: firsts (rest.filter fun c => !(c.id == column.id)) := by
  rw [firsts, List.eraseDupsBy_cons, firsts]
  simp only [Bool.decide_eq_false]

/-- Columns with different ids are all first ones. -/
theorem firsts_eq_self {columns : List Column} (h : (columns.map Column.id).Nodup) :
    firsts columns = columns := by
  induction columns with
  | nil => rfl
  | cons column rest ih =>
    rw [List.map_cons, List.nodup_cons] at h
    have hfilter : (rest.filter fun c => !(c.id == column.id)) = rest :=
      List.filter_eq_self.2 fun c hc => by
        simpa using fun heq : c.id = column.id => h.1 (heq ▸ List.mem_map_of_mem hc)
    rw [firsts_cons, hfilter, ih h.2]

end Column

namespace WorkingSet

/-- A row that is in line with the columns is left as it is. -/
theorem conform_eq_self {columns : List Column} {row : Row} (h : row.Uniform columns) :
    conform columns row = row := by
  have hcells : conformCells columns row.cells = row.cells := by
    refine Cells.ext_get? fun key => ?_
    have hdeclared : (columns.find? (·.id == key)).isSome ↔ (row.cells.get? key).isSome := by
      rw [← Cells.has, ← Cells.mem_keys_iff, h key, List.find?_isSome]
      simp
    rw [get?_conformCells]
    cases hvalue : row.cells.get? key with
    | none =>
      rw [hvalue] at hdeclared
      rw [Option.not_isSome_iff_eq_none.1 fun hsome => Bool.noConfusion (hdeclared.1 hsome)]
      rfl
    | some value =>
      obtain ⟨column, hcolumn⟩ := Option.isSome_iff_exists.1 (hdeclared.2 (hvalue ▸ rfl))
      rw [hcolumn]
      rfl
  rw [conform, hcells]

/-- **Columns are declared in their order, and of those with one id the first counts**, unless one of them
has a reserved id. -/
theorem declareAll_eq_firsts (declared columns : List Column)
    (husable : ∀ column ∈ columns, column.isReserved = false) :
    columns.foldlM (fun set column => (set.declareColumn column).map Prod.fst)
        ({ columns := declared } : WorkingSet) =
      .ok { columns := declared ++ Column.firsts (columns.filter fun c => !declared.any (·.id == c.id)) } := by
  induction columns generalizing declared with
  | nil => rw [List.filter_nil, Column.firsts, List.eraseDupsBy_nil, List.append_nil]; rfl
  | cons column rest ih =>
    have hrest := fun declared => ih declared fun c hc => husable c (List.mem_cons_of_mem column hc)
    have hdeclare : ({ columns := declared } : WorkingSet).declareColumn column =
        if declared.any (·.id == column.id) then .ok ({ columns := declared }, false)
        else .ok ({ columns := declared ++ [column] }, true) := by
      rw [declareColumn, husable column List.mem_cons_self, if_neg Bool.false_ne_true]
      simp only [Array.map_empty]
    rw [List.foldlM_cons, hdeclare]
    cases hknown : declared.any (·.id == column.id) with
    | true =>
      rw [List.filter_cons_of_neg (by simp [hknown])]
      exact hrest declared
    | false =>
      -- What is declared already and the new column are looked for at once.
      have hfilter : rest.filter (fun c => !(declared ++ [column]).any (·.id == c.id)) =
          (rest.filter fun c => !declared.any (·.id == c.id)).filter fun c => !(c.id == column.id) := by
        rw [List.filter_filter]
        refine List.filter_congr fun c _ => ?_
        rw [List.any_append, List.any_cons, List.any_nil, Bool.or_false, Bool.not_or, Bool.and_comm,
          BEq.comm]
      have hafter := hrest (declared ++ [column])
      rw [hfilter, List.append_assoc, List.singleton_append] at hafter
      rw [List.filter_cons_of_pos (by simp [hknown]), Column.firsts_cons]
      exact hafter

end WorkingSet

namespace Ledger

/-- Rows with different ids are put in one behind the other, each in line with the columns, and all of
them are new. -/
theorem append_eq_conform {ledger : Ledger} {rows : List Row}
    (hnodup : ((ledger.rows ++ rows).map Row.id).Nodup) :
    ledger.append rows =
      ({ ledger with rows := ledger.rows ++ rows.map (WorkingSet.conform ledger.columns) },
        rows.length) := by
  induction rows generalizing ledger with
  | nil => rw [List.map_nil, List.append_nil]; rfl
  | cons row rest ih =>
    have hnew : ledger.knows row.id = false := any_eq_false_of_nodup hnodup
    have hput : ledger.put row =
        ({ ledger with rows := ledger.rows ++ [WorkingSet.conform ledger.columns row] }, true) := by
      rw [put, WorkingSet.conform_id, hnew, if_neg Bool.false_ne_true]
    rw [append, hput]
    dsimp only
    rw [ih (by simpa using hnodup), List.map_cons, List.append_assoc, List.singleton_append,
      if_pos rfl, List.length_cons]

/-- Rows with different ids that are in line with the columns are put in as they are, one behind the
other. -/
theorem append_eq {ledger : Ledger} {rows : List Row}
    (hnodup : ((ledger.rows ++ rows).map Row.id).Nodup)
    (huniform : ∀ row ∈ rows, row.Uniform ledger.columns) :
    (ledger.append rows).1 = { ledger with rows := ledger.rows ++ rows } := by
  have hsame : rows.map (WorkingSet.conform ledger.columns) = rows := by
    rw [List.map_congr_left fun row hrow => WorkingSet.conform_eq_self (huniform row hrow), List.map_id']
  rw [append_eq_conform hnodup, hsame]

end Ledger

namespace WorkingSet

/-- Where no column has a reserved id, the rows are put into a working set with the first columns of each
id. -/
theorem ofParts_eq_firsts {columns : List Column} (husable : ∀ column ∈ columns, column.isReserved = false)
    (rows : List Row) :
    ofParts columns rows = .ok (appendBatch { columns := Column.firsts columns } rows).1 := by
  have hdeclared := declareAll_eq_firsts [] columns husable
  have hall : columns.filter (fun c => !([] : List Column).any (·.id == c.id)) = columns :=
    List.filter_eq_self.2 fun _ _ => rfl
  rw [hall, List.nil_append] at hdeclared
  rw [ofParts, empty, hdeclared]
  rfl

/-- Where the columns have different ids, the rows are put into a working set with all of them. -/
theorem ofParts_eq {columns : List Column} (hnodup : (columns.map Column.id).Nodup)
    (husable : ∀ column ∈ columns, column.isReserved = false) (rows : List Row) :
    ofParts columns rows = .ok (appendBatch { columns } rows).1 := by
  rw [ofParts_eq_firsts husable, Column.firsts_eq_self hnodup]

/-- Rows with different ids are put into a working set that has columns and no rows in line with these. -/
theorem ledger_appendBatch_of_nodup (columns : List Column) {rows : List Row} (h : (rows.map Row.id).Nodup) :
    (appendBatch { columns } rows).1.ledger =
      { columns, rows := rows.map (conform columns) } := by
  have hindexed : Indexed { columns } := indexed_clear { columns }
  exact (follows_appendBatch hindexed rows).ledger_eq.trans
    (congrArg Prod.fst (@Ledger.append_eq_conform { columns } rows h))

/-- **The parts of a tidy ledger make the ledger.** -/
theorem ofParts_of_tidy {ledger : Ledger} (h : ledger.Tidy) :
    ∃ set, ofParts ledger.columns ledger.rows = .ok set ∧ set.ledger = ledger := by
  have hindexed : Indexed { columns := ledger.columns } := indexed_clear { columns := ledger.columns }
  have hbatch := follows_appendBatch hindexed ledger.rows
  exact ⟨_, ofParts_eq h.columnIds h.usable ledger.rows,
    hbatch.ledger_eq.trans (Ledger.append_eq h.ids h.uniform)⟩

end WorkingSet

end Fieldbook
