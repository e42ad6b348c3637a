import Fieldbook.Proofs.WorkingSet.Reachable

/-!
# Rows that are put in

What a ledger holds after rows have been put in has two sides, which together say everything
(`ext_ids_get?`):

* which ids there are, and in what order: those that were there and then the new ones, each where it
  came first (`map_id_append`);
* which row has an id: the last of those that were put in with it, brought in line with the columns, or
  else the one that was there (`get?_append`).

So a batch may be cut in pieces (`append_append`), and one that is put in a second time changes nothing
(`append_append_self`).
-/

namespace Fieldbook

namespace Ledger

variable {ledger other : Ledger}

/-! ## One row -/

/-- The ledger after a row has been put in whose id is known. -/
theorem put_of_known {row : Row} (h : ledger.knows row.id = true) :
    ledger.put row =
      ({ ledger with
          rows := ledger.rows.map fun r =>
            if r.id = row.id then WorkingSet.conform ledger.columns row else r }, false) :=
  if_pos h

/-- The ledger after a row has been put in whose id is new. -/
theorem put_of_new {row : Row} (h : ledger.knows row.id = false) :
    ledger.put row =
      ({ ledger with rows := ledger.rows ++ [WorkingSet.conform ledger.columns row] }, true) :=
  if_neg (Bool.eq_false_iff.1 h)

/-- The row that takes the place of another has its id. -/
theorem id_replaced (columns : List Column) (row r : Row) :
    (if r.id = row.id then WorkingSet.conform columns row else r).id = r.id := by
  split
  · next heq => exact heq.symm
  · rfl

@[simp]
theorem columns_put (ledger : Ledger) (row : Row) : (ledger.put row).1.columns = ledger.columns := by
  cases h : ledger.knows row.id with
  | false => rw [put_of_new h]
  | true => rw [put_of_known h]

theorem map_id_put (ledger : Ledger) (row : Row) :
    (ledger.put row).1.rows.map Row.id =
      if ledger.knows row.id then ledger.rows.map Row.id else ledger.rows.map Row.id ++ [row.id] := by
  cases h : ledger.knows row.id with
  | false =>
    rw [put_of_new h]
    simp
  | true =>
    rw [put_of_known h]
    exact map_id_map (id_replaced ledger.columns row) ledger.rows

/-- A change that leaves every row its id changes the row that an id has. -/
theorem get?_map {f : Row → Row} (hf : ∀ row, (f row).id = row.id) (id : String) :
    get? { ledger with rows := ledger.rows.map f } id = (ledger.get? id).map f := by
  simp only [get?, List.find?_map, Function.comp_def, hf]

theorem get?_eq_none_iff {id : String} : ledger.get? id = none ↔ ledger.knows id = false := by
  rw [get?, knows, List.find?_eq_none, List.any_eq_false]

/-- A row that is put in is the row with its id. -/
theorem get?_put (ledger : Ledger) (row : Row) (id : String) :
    (ledger.put row).1.get? id =
      if row.id = id then some (WorkingSet.conform ledger.columns row) else ledger.get? id := by
  cases hknows : ledger.knows row.id with
  | false =>
    rw [put_of_new hknows, get?, List.find?_append, ← get?]
    by_cases hid : row.id = id
    · subst hid
      rw [get?_eq_none_iff.2 hknows]
      simp
    · simp [hid]
  | true =>
    rw [put_of_known hknows]
    refine (get?_map (id_replaced ledger.columns row) id).trans ?_
    cases hfind : ledger.get? id with
    | none =>
      have hne : row.id ≠ id := by
        rintro rfl
        cases hknows.symm.trans (get?_eq_none_iff.1 hfind)
      rw [if_neg hne, Option.map_none]
    | some r =>
      have hid : r.id = id := by simpa using List.find?_some hfind
      rw [Option.map_some, hid]
      simp only [eq_comm]
      split <;> rfl

/-! ## Several rows -/

@[simp]
theorem columns_append (ledger : Ledger) (rows : List Row) :
    (ledger.append rows).1.columns = ledger.columns := by
  induction rows generalizing ledger with
  | nil => rfl
  | cons row rest ih => exact (ih _).trans (columns_put ledger row)

/-- **The ids that were there and then the new ones**, each where it came first. -/
theorem map_id_append (h : (ledger.rows.map Row.id).Nodup) (rows : List Row) :
    (ledger.append rows).1.rows.map Row.id =
      (ledger.rows.map Row.id ++ rows.map Row.id).eraseDups := by
  induction rows generalizing ledger with
  | nil => rw [List.map_nil, List.append_nil, eraseDups_of_nodup h]; rfl
  | cons row rest ih =>
    have hput := map_id_put ledger row
    have hnodup : ((ledger.put row).1.rows.map Row.id).Nodup := by
      rw [hput]
      split
      · exact h
      · next hnew => exact List.concat_eq_append ▸ h.concat (mt knows_iff.2 hnew)
    refine (ih hnodup).trans ?_
    rw [hput, List.map_cons]
    split
    · next hknown =>
      rw [List.eraseDups_append, List.eraseDups_append, List.cons_removeAll, if_neg]
      simpa using knows_iff.1 hknown
    · rw [List.append_assoc, List.singleton_append]

/-- **The row with an id is the last that was put in with it**, or else the one that was there. -/
theorem get?_append (ledger : Ledger) (rows : List Row) (id : String) :
    (ledger.append rows).1.get? id =
      ((rows.reverse.find? (·.id == id)).map (WorkingSet.conform ledger.columns)).or
        (ledger.get? id) := by
  induction rows generalizing ledger with
  | nil => rfl
  | cons row rest ih =>
    refine (ih (ledger.put row).1).trans ?_
    rw [get?_put, columns_put, List.reverse_cons, List.find?_append]
    cases rest.reverse.find? (·.id == id) with
    | some last => rfl
    | none => by_cases hid : row.id = id <;> simp [hid]

theorem knows_append (ledger : Ledger) (rows : List Row) {id : String} :
    (ledger.append rows).1.knows id = true ↔ id ∈ rows.map Row.id ∨ ledger.knows id = true := by
  rw [← Bool.not_eq_false, ← get?_eq_none_iff, get?_append, Option.or_eq_none_iff, Option.map_eq_none_iff,
    get?_eq_none_iff, Bool.eq_false_iff, List.find?_eq_none]
  simp [or_iff_not_imp_left]

/-- Putting several rows in is putting the first in and then the others. -/
theorem append_cons (ledger : Ledger) (row : Row) (rest : List Row) :
    ledger.append (row :: rest) =
      (((ledger.put row).1.append rest).1,
        (if (ledger.put row).2 then 1 else 0) + ((ledger.put row).1.append rest).2) := by
  refine Prod.ext rfl ?_
  rw [append]
  dsimp only
  split <;> omega

/-- **A batch may be cut in two.** -/
theorem append_append (ledger : Ledger) (a b : List Row) :
    ledger.append (a ++ b) =
      (((ledger.append a).1.append b).1, (ledger.append a).2 + ((ledger.append a).1.append b).2) := by
  induction a generalizing ledger with
  | nil => rw [List.nil_append, append, Nat.zero_add]
  | cons row rest ih => rw [List.cons_append, append_cons, ih, append_cons, Nat.add_assoc]

/-- A row that takes the place of another is no new one. -/
theorem append_of_known {rows : List Row} (h : ∀ row ∈ rows, ledger.knows row.id = true) :
    (ledger.append rows).2 = 0 := by
  induction rows generalizing ledger with
  | nil => rfl
  | cons row rest ih =>
    have hrow := h row List.mem_cons_self
    have hrest : ((ledger.put row).1.append rest).2 = 0 := ih fun other hother => by
      rw [knows_iff, map_id_put, if_pos hrow, ← knows_iff]
      exact h other (List.mem_cons_of_mem row hother)
    rw [append_cons, hrest, put_of_known hrow]
    rfl

theorem length_put (ledger : Ledger) (row : Row) :
    (ledger.put row).1.rows.length = ledger.rows.length + if (ledger.put row).2 then 1 else 0 := by
  cases h : ledger.knows row.id with
  | false => simp [put_of_new h]
  | true => simp [put_of_known h]

/-- **The new rows are as many as the ledger grows by.** -/
theorem length_append (ledger : Ledger) (rows : List Row) :
    (ledger.append rows).1.rows.length = ledger.rows.length + (ledger.append rows).2 := by
  induction rows generalizing ledger with
  | nil => rfl
  | cons row rest ih => rw [append_cons, ih, length_put, Nat.add_assoc]

/-! ## What there is to know -/

/-- **Ledgers with the same columns, the same ids in the same order and the same row for each id are
equal.** -/
theorem ext_ids_get? (h : (ledger.rows.map Row.id).Nodup) (hcolumns : ledger.columns = other.columns)
    (hids : ledger.rows.map Row.id = other.rows.map Row.id)
    (hget : ∀ id, ledger.get? id = other.get? id) : ledger = other := by
  have hall : ∀ {l : Ledger}, (l.rows.map Row.id).Nodup →
      l.rows = (l.rows.map Row.id).filterMap l.get? := by
    intro l hl
    rw [List.filterMap_map]
    refine List.filterMap_some.symm.trans (List.filterMap_congr fun row hrow => ?_)
    exact (find?_key hl hrow).symm
  have hrows : ledger.rows = other.rows :=
    calc ledger.rows
        = (ledger.rows.map Row.id).filterMap ledger.get? := hall h
      _ = (other.rows.map Row.id).filterMap other.get? := by
        rw [hids]
        exact List.filterMap_congr fun id _ => hget id
      _ = other.rows := (hall (hids ▸ h)).symm
  exact congrArg₂ Ledger.mk hrows hcolumns

theorem nodup_append (h : (ledger.rows.map Row.id).Nodup) (rows : List Row) :
    ((ledger.append rows).1.rows.map Row.id).Nodup := by
  rw [map_id_append h]
  exact nodup_eraseDups _

/-- **A batch that is put in again changes nothing**, and none of its rows is new. -/
theorem append_append_self (h : (ledger.rows.map Row.id).Nodup) (rows : List Row) :
    (ledger.append rows).1.append rows = ((ledger.append rows).1, 0) := by
  have hknown : ∀ row ∈ rows, (ledger.append rows).1.knows row.id = true := fun row hrow =>
    (knows_append ledger rows).2 (.inl (List.mem_map_of_mem hrow))
  have hnone : (rows.map Row.id).removeAll ((ledger.append rows).1.rows.map Row.id) = [] := by
    rw [List.removeAll, List.filter_eq_nil_iff]
    intro id hid
    obtain ⟨row, hrow, rfl⟩ := List.mem_map.1 hid
    simpa using knows_iff.1 (hknown row hrow)
  refine Prod.ext (ext_ids_get? (nodup_append (nodup_append h rows) rows) (columns_append _ rows) ?_ ?_)
    (append_of_known hknown)
  · rw [map_id_append (nodup_append h rows), List.eraseDups_append, hnone, List.eraseDups_nil,
      List.append_nil, eraseDups_of_nodup (nodup_append h rows)]
  · intro id
    rw [get?_append, get?_append, columns_append]
    cases (rows.reverse.find? (·.id == id)).map (WorkingSet.conform ledger.columns) <;> rfl

/-- The row of every id is found. -/
theorem forall₂_get? (h : (ledger.rows.map Row.id).Nodup) :
    List.Forall₂ (fun id row => ledger.get? id = some row) (ledger.rows.map Row.id) ledger.rows :=
  List.forall₂_map_left_iff.2 (List.forall₂_same.2 fun _ hrow => find?_key h hrow)

/-! ## Several batches -/

/-- Batches that are put in one after another leave what they leave when they are put in as one. -/
theorem operateAll_append (ledger : Ledger) (batches : List (List Row)) :
    (ledger.operateAll (batches.map .append)).1 = (ledger.append batches.flatten).1 := by
  induction batches generalizing ledger with
  | nil => rfl
  | cons rows rest ih =>
    rw [List.flatten_cons, append_append]
    exact ih (ledger.append rows).1

/-- Of batches with known ids only, each is answered with zero. -/
theorem answers_operateAll_of_known {batches : List (List Row)}
    (h : ∀ row ∈ batches.flatten, ledger.knows row.id = true) :
    (ledger.operateAll (batches.map .append)).2 = batches.map fun _ => .count 0 := by
  induction batches generalizing ledger with
  | nil => rfl
  | cons rows rest ih =>
    simp only [List.flatten_cons, List.mem_append] at h
    have hcount : (ledger.append rows).2 = 0 := append_of_known fun row hrow => h row (.inl hrow)
    have hrest := @ih (ledger.append rows).1 fun row hrow =>
      (knows_append ledger rows).2 (.inr (h row (.inr hrow)))
    rw [List.map_cons, List.map_cons, operateAll, ← hrest, ← hcount]
    rfl

end Ledger

end Fieldbook
