import Fieldbook.Proofs.WorkingSet.Ledger
import Mathlib.Data.List.Perm.Basic

/-!
# The index of a working set

A working set finds its rows by the positions that its index has for their ids. `Indexed` says that the
index has exactly those positions, neither one too few nor one that is out of date. As long as it does,
looking an id up is the same as going through the rows, and every operation of the working set does what
its ledger does (`Follows`) and leaves the index right:

* **reads**: `Indexed.get?_eq`, `Indexed.positions_of_known`;
* **rows go in**: `follows_upsert`, `follows_appendBatch`, `follows_replaceAll`;
* **rows change and leave**: `follows_updateMany`, `follows_deleteMany`;
* **columns**: `follows_declareColumn`.

What restores the index differs: an id is added at the end, the ids stay where they are, or the index is
made anew.
-/

namespace Fieldbook

namespace WorkingSet

/-- The rows and columns, without the index. -/
def ledger (set : WorkingSet) : Ledger := ⟨set.rows.toList, set.columns⟩

/-- The index has exactly the positions of the ids. -/
def Indexed (set : WorkingSet) : Prop :=
  ∀ (id : String) (pos : Nat),
    set.index[id]? = some pos ↔ (set.rows.toList.map Row.id)[pos]? = some id

@[simp]
theorem ledger_rows (set : WorkingSet) : set.ledger.rows = set.rows.toList := rfl

@[simp]
theorem ledger_columns (set : WorkingSet) : set.ledger.columns = set.columns := rfl

theorem indexed_clear (set : WorkingSet) : set.clear.Indexed := by
  intro id pos
  simp [clear]

theorem indexed_empty : Indexed .empty := indexed_clear .empty

variable {set : WorkingSet}

/-- Only the order of the ids matters to the index. -/
theorem Indexed.congr (h : set.Indexed) {after : WorkingSet} (hindex : after.index = set.index)
    (hids : after.rows.toList.map Row.id = set.rows.toList.map Row.id) : after.Indexed := by
  intro id pos
  rw [hindex, hids]
  exact h id pos

/-- An id that the index knows stands at one position only. -/
theorem Indexed.position_unique (h : set.Indexed) {id : String} {i j : Nat}
    (hi : (set.rows.toList.map Row.id)[i]? = some id)
    (hj : (set.rows.toList.map Row.id)[j]? = some id) : i = j :=
  Option.some.inj (((h id i).2 hi).symm.trans ((h id j).2 hj))

theorem Indexed.nodup (h : set.Indexed) : (set.rows.toList.map Row.id).Nodup := by
  rw [List.nodup_iff_getElem?_ne_getElem?]
  intro i j hij hj heq
  rw [List.getElem?_eq_getElem hj] at heq
  exact absurd (h.position_unique heq (List.getElem?_eq_getElem hj)) (Nat.ne_of_lt hij)

/-! ## Reads -/

theorem Indexed.eq_none_iff (h : set.Indexed) {id : String} :
    set.index[id]? = none ↔ set.ledger.knows id = false := by
  rw [← Bool.not_eq_true, Ledger.knows_iff, List.mem_iff_getElem?, Option.eq_none_iff_forall_ne_some]
  simp only [ne_eq, h id, not_exists]
  rfl

theorem Indexed.eq_some_iff (h : set.Indexed) {id : String} {pos : Nat} :
    set.index[id]? = some pos ↔ ∃ row, set.rows.toList[pos]? = some row ∧ row.id = id := by
  rw [h id pos, List.getElem?_map, Option.map_eq_some_iff]

theorem Indexed.knows_of_some (h : set.Indexed) {id : String} {pos : Nat}
    (hindex : set.index[id]? = some pos) : set.ledger.knows id = true := by
  rw [← Bool.not_eq_false, ← h.eq_none_iff, hindex]
  exact Option.some_ne_none pos

/-- **Looking an id up is going through the rows.** -/
theorem Indexed.get?_eq (h : set.Indexed) (id : String) : set.get? id = set.ledger.get? id := by
  rw [get?, Ledger.get?]
  cases hindex : set.index[id]? with
  | none =>
    have hknows := h.eq_none_iff.1 hindex
    rw [Ledger.knows, List.any_eq_false] at hknows
    exact (List.find?_eq_none.2 hknows).symm
  | some pos =>
    obtain ⟨row, hrow, rfl⟩ := h.eq_some_iff.1 hindex
    obtain ⟨hlt, hget⟩ := List.getElem?_eq_some_iff.1 hrow
    rw [Option.bind_some, ← Array.getElem?_toList, hrow, eq_comm, ledger,
      List.find?_eq_some_iff_getElem]
    refine ⟨beq_self_eq_true row.id, pos, hlt, hget, fun j hj => ?_⟩
    -- A row before it with the same id would have the position of the id to itself.
    have hne : set.rows.toList[j].id ≠ row.id := fun heq =>
      Nat.ne_of_lt hj (Option.some.inj ((h.eq_some_iff.2
        ⟨_, List.getElem?_eq_getElem (Nat.lt_trans hj hlt), heq⟩).symm.trans hindex))
    simpa using hne

theorem Indexed.position_eq (h : set.Indexed) {id : String} {pos : Nat} :
    set.position id = .ok pos ↔ (set.rows.toList.map Row.id)[pos]? = some id := by
  rw [← h id pos, position]
  cases set.index[id]? <;> simp

/-- The first unknown id is reported, whatever stands behind it. -/
theorem Indexed.positions_of_unknown (h : set.Indexed) {ids : List String} {id : String}
    (hfind : ids.find? (!set.ledger.knows ·) = some id) :
    set.positions ids = .error (.unknownRow id) := by
  rw [positions]
  induction ids with
  | nil => cases hfind
  | cons first rest ih =>
    rw [List.mapM_cons, position]
    rw [List.find?_cons] at hfind
    cases hindex : set.index[first]? with
    | none =>
      rw [h.eq_none_iff.1 hindex] at hfind
      cases hfind
      rfl
    | some pos =>
      rw [h.knows_of_some hindex] at hfind
      have hrest := ih hfind
      cases hmap : rest.mapM set.position with
      | ok positions => rw [hmap] at hrest; cases hrest
      | error reason => rw [hmap] at hrest; cases hrest; rfl

/-- Known ids have positions, and these are the positions of the rows they name, each once. -/
theorem Indexed.positions_of_known (h : set.Indexed) {ids : List String}
    (hfind : ids.find? (!set.ledger.knows ·) = none) :
    ∃ positions, set.positions ids = .ok positions ∧ positions.Nodup ∧
      ∀ pos, pos ∈ positions ↔ ∃ row, set.rows.toList[pos]? = some row ∧ row.id ∈ ids := by
  have hall : ∃ positions, List.Forall₂ (fun id pos => set.position id = .ok pos) ids positions := by
    induction ids with
    | nil => exact ⟨[], .nil⟩
    | cons id rest ih =>
      rw [List.find?_cons] at hfind
      cases hknows : set.ledger.knows id with
      | false => rw [hknows] at hfind; cases hfind
      | true =>
        rw [hknows] at hfind
        obtain ⟨positions, hpositions⟩ := ih hfind
        obtain ⟨pos, hpos⟩ := List.mem_iff_getElem?.1 (Ledger.knows_iff.1 hknows)
        exact ⟨pos :: positions, .cons (h.position_eq.2 hpos) hpositions⟩
  obtain ⟨positions, hpositions⟩ := hall
  refine ⟨positions.eraseDups, ?_, nodup_eraseDups positions, fun pos => ?_⟩
  · rw [WorkingSet.positions, mapM_eq_ok_iff.2 hpositions]
    rfl
  · rw [List.mem_eraseDups]
    constructor
    · intro hpos
      obtain ⟨id, hid, hposition⟩ := exists_mem_of_forall₂ hpositions hpos
      obtain ⟨row, hrow, rfl⟩ := h.eq_some_iff.1 ((h id pos).2 (h.position_eq.1 hposition))
      exact ⟨row, hrow, hid⟩
    · rintro ⟨row, hrow, hid⟩
      obtain ⟨pos', hpos', hposition⟩ := exists_mem_of_forall₂ hpositions.flip hid
      have heq : pos' = pos := by
        refine h.position_unique (h.position_eq.1 hposition) ?_
        rw [List.getElem?_map, hrow]
        rfl
      exact heq ▸ hpos'

/-! ## Rows go in -/

/-- What became of a working set is what became of its ledger, the answer is the same, and the index is
right. -/
structure Follows {α : Type} (result : WorkingSet × α) (expected : Ledger × α) : Prop where
  indexed : result.1.Indexed
  ledger_eq : result.1.ledger = expected.1
  answer_eq : result.2 = expected.2

theorem getElem?_concat_eq_some_iff {ids : List String} {new id : String} {pos : Nat} :
    (ids ++ [new])[pos]? = some id ↔ ids[pos]? = some id ∨ (pos = ids.length ∧ new = id) := by
  rw [List.getElem?_append]
  split
  · next hlt => simp [Nat.ne_of_lt hlt]
  · next hge =>
    rw [List.getElem?_eq_none (Nat.le_of_not_lt hge), List.getElem?_singleton]
    by_cases hpos : pos = ids.length
    · simp [hpos]
    · simp [hpos]
      omega

/-- Adding a new id at the end adds its position. -/
theorem Indexed.push (h : set.Indexed) {row : Row} (hnew : set.index[row.id]? = none) :
    Indexed { set with
      rows := set.rows.push row
      index := set.index.insert row.id set.rows.size } := by
  intro id pos
  rw [Std.HashMap.getElem?_insert, Array.toList_push, List.map_append, List.map_singleton,
    getElem?_concat_eq_some_iff, ← h id pos, List.length_map, Array.length_toList]
  by_cases hid : row.id = id
  · subst hid
    simp [hnew, eq_comm]
  · simp [hid]

/-- Writing a row over the one at the position of its id is writing it over the one with its id. -/
theorem Indexed.set_eq_map (h : set.Indexed) {row : Row} {pos : Nat}
    (hpos : set.index[row.id]? = some pos) :
    set.rows.toList.set pos row = set.rows.toList.map fun r => if r.id = row.id then row else r := by
  refine List.ext_getElem? fun i => ?_
  obtain ⟨old, hold, hid⟩ := h.eq_some_iff.1 hpos
  rw [List.getElem?_set, List.getElem?_map]
  by_cases hi : pos = i
  · subst hi
    rw [if_pos rfl, if_pos (List.getElem?_eq_some_iff.1 hold).1, hold, Option.map_some, if_pos hid]
  · rw [if_neg hi]
    cases hr : set.rows.toList[i]? with
    | none => rfl
    | some r =>
      have hne : r.id ≠ row.id := fun heq =>
        hi (Option.some.inj (hpos.symm.trans (h.eq_some_iff.2 ⟨r, hr, heq⟩)))
      rw [Option.map_some, if_neg hne]

/-- **Putting a row in by the index is putting it in by going through the rows.** -/
theorem follows_upsert (h : set.Indexed) (row : Row) :
    Follows (set.upsert row) (set.ledger.put row) := by
  rw [upsert, Ledger.put, ledger_columns]
  cases hindex : set.index[(conform set.columns row).id]? with
  | none =>
    rw [if_neg (by rw [h.eq_none_iff.1 hindex]; exact Bool.false_ne_true)]
    exact ⟨h.push hindex, by simp [ledger], rfl⟩
  | some pos =>
    have hset := h.set_eq_map hindex
    rw [if_pos (h.knows_of_some hindex)]
    refine ⟨h.congr rfl ?_, ?_, rfl⟩
    · rw [Array.toList_setIfInBounds, hset, Ledger.map_id_map]
      intro r
      split
      · next heq => exact heq.symm
      · rfl
    · simp [ledger, hset]

/-- Counting may start anywhere. -/
theorem foldl_upsert (rows : List Row) (set : WorkingSet) (n : Nat) :
    rows.foldl (fun (set, added) row =>
        let (set, isNew) := set.upsert row
        (set, if isNew then added + 1 else added)) (set, n) =
      ((set.appendBatch rows).1, n + (set.appendBatch rows).2) := by
  induction rows generalizing set n with
  | nil => rfl
  | cons row rest ih =>
    have hrest := ih (set.upsert row).1
    have hbatch : set.appendBatch (row :: rest) = _ :=
      hrest (if (set.upsert row).2 then 0 + 1 else 0)
    rw [hbatch]
    -- Both counts go on from the same working set, one from `n` and one from zero.
    refine (hrest (if (set.upsert row).2 then n + 1 else n)).trans (Prod.ext rfl ?_)
    dsimp only
    split <;> omega

/-- Putting several rows in is putting the first in and then the others. -/
theorem appendBatch_cons (set : WorkingSet) (row : Row) (rows : List Row) :
    set.appendBatch (row :: rows) =
      (((set.upsert row).1.appendBatch rows).1,
        (if (set.upsert row).2 then 1 else 0) + ((set.upsert row).1.appendBatch rows).2) :=
  foldl_upsert rows (set.upsert row).1 _

theorem follows_appendBatch (h : set.Indexed) (rows : List Row) :
    Follows (set.appendBatch rows) (set.ledger.append rows) := by
  induction rows generalizing set with
  | nil => exact ⟨h, rfl, rfl⟩
  | cons row rest ih =>
    have hput := follows_upsert h row
    have hrest := ih hput.indexed
    rw [hput.ledger_eq] at hrest
    rw [appendBatch_cons, Ledger.append]
    refine ⟨hrest.indexed, hrest.ledger_eq, ?_⟩
    dsimp only
    rw [hput.answer_eq, hrest.answer_eq]
    split <;> omega

theorem follows_replaceAll (set : WorkingSet) (rows : List Row) :
    Follows (set.replaceAll rows, ()) (set.ledger.replace rows, ()) := by
  have hbatch := follows_appendBatch (indexed_clear set) rows
  exact ⟨hbatch.indexed, hbatch.ledger_eq, rfl⟩

/-! ## Rows change and leave -/

/-- Modifying at several positions, none of them twice, modifies each of them once. -/
theorem getElem?_foldl_modify {positions : List Nat} (h : positions.Nodup) (f : Row → Row)
    (rows : Array Row) (i : Nat) :
    (positions.foldl (fun rows pos => rows.modify pos f) rows)[i]? =
      if i ∈ positions then rows[i]?.map f else rows[i]? := by
  induction positions generalizing rows with
  | nil => rfl
  | cons pos rest ih =>
    obtain ⟨hpos, hrest⟩ := List.nodup_cons.1 h
    rw [List.foldl_cons, ih hrest, Array.getElem?_modify]
    by_cases hi : i = pos
    · subst hi
      simp [hpos]
    · simp [hi, Ne.symm hi]

/-- Positions of the rows that pass a test, each once, are as many as these rows. -/
theorem length_eq_countP {rows : List Row} {test : Row → Bool} {positions : List Nat}
    (hnodup : positions.Nodup)
    (hmem : ∀ pos, pos ∈ positions ↔ ∃ row, rows[pos]? = some row ∧ test row = true) :
    positions.length = rows.countP test := by
  have hperm : positions.Perm (positionsOf test rows) :=
    (List.perm_ext_iff_of_nodup hnodup (nodup_positionsOf test rows)).2 fun pos =>
      (hmem pos).trans mem_positionsOf.symm
  rw [hperm.length_eq, length_positionsOf]

/-- Both refuse for one reason, or the first follows the second. -/
inductive FollowsOrRefuses {α : Type} :
    Except EditError (WorkingSet × α) → Except EditError (Ledger × α) → Prop where
  | ok {result : WorkingSet × α} {expected : Ledger × α} (h : Follows result expected) :
      FollowsOrRefuses (.ok result) (.ok expected)
  | error (reason : EditError) : FollowsOrRefuses (.error reason) (.error reason)

/-- **Changing rows at the positions of the ids is changing the rows that have the ids.** -/
theorem follows_updateMany (h : set.Indexed) (ids : List String) (patch : Patch) :
    FollowsOrRefuses (set.updateMany ids patch) (set.ledger.updateMany ids patch) := by
  rw [updateMany, Ledger.updateMany, ledger_columns]
  cases hresolve : patch.resolve set.columns with
  | error reason => exact .error reason
  | ok assignments =>
    cases hfind : ids.find? (!set.ledger.knows ·) with
    | some id =>
      rw [h.positions_of_unknown hfind]
      exact .error (.unknownRow id)
    | none =>
      obtain ⟨positions, hpositions, hnodup, hmem⟩ := h.positions_of_known hfind
      rw [hpositions]
      have hrows : (positions.foldl (fun rows pos => rows.modify pos (·.assignAll assignments))
          set.rows).toList = set.rows.toList.map fun row =>
            if row.id ∈ ids then row.assignAll assignments else row := by
        refine List.ext_getElem? fun i => ?_
        rw [Array.getElem?_toList, getElem?_foldl_modify hnodup, List.getElem?_map,
          ← Array.getElem?_toList]
        cases hrow : set.rows.toList[i]? with
        | none => simp
        | some row =>
          have hpos : i ∈ positions ↔ row.id ∈ ids := by simp [hmem, hrow]
          by_cases hid : row.id ∈ ids <;> simp [hpos, hid]
      refine .ok ⟨h.congr rfl ?_, ?_, ?_⟩
      · refine (congrArg (List.map Row.id) hrows).trans (Ledger.map_id_map (fun row => ?_) _)
        split
        · exact row.assignAll_id assignments
        · rfl
      · exact congrArg (Ledger.mk · set.columns) hrows
      · exact length_eq_countP hnodup (by simpa using hmem)

/-- An index made anew has the position of every id, when no id is there twice. -/
theorem getElem?_foldl_insert {rows : List Row} (h : (rows.map Row.id).Nodup) (start : Nat)
    (index : Std.HashMap String Nat) (id : String) (pos : Nat) :
    ((rows.zipIdx start).foldl (fun index (row, pos) => index.insert row.id pos) index)[id]? =
        some pos ↔
      (∃ i, pos = start + i ∧ (rows.map Row.id)[i]? = some id) ∨
        (id ∉ rows.map Row.id ∧ index[id]? = some pos) := by
  induction rows generalizing start index with
  | nil => simp
  | cons row rest ih =>
    obtain ⟨hrow, hrest⟩ := List.nodup_cons.1 h
    -- The id is the one of the first row or it stands further on, counted from one place later.
    have hsplit : (∃ i, pos = start + i ∧ ((row :: rest).map Row.id)[i]? = some id) ↔
        (pos = start ∧ row.id = id) ∨ ∃ i, pos = start + 1 + i ∧ (rest.map Row.id)[i]? = some id := by
      constructor
      · rintro ⟨i, rfl, hi⟩
        cases i with
        | zero => exact .inl ⟨rfl, by simpa using hi⟩
        | succ i => exact .inr ⟨i, by omega, by simpa using hi⟩
      · rintro (⟨rfl, hid⟩ | ⟨i, rfl, hi⟩)
        · exact ⟨0, rfl, by simp [hid]⟩
        · exact ⟨i + 1, by omega, by simpa using hi⟩
    rw [List.zipIdx_cons, List.foldl_cons, ih hrest, hsplit, Std.HashMap.getElem?_insert,
      List.map_cons, List.mem_cons]
    by_cases hid : row.id = id
    · subst hid
      have hnot : ¬ ∃ i, pos = start + 1 + i ∧ (rest.map Row.id)[i]? = some row.id := by
        rintro ⟨i, -, hi⟩
        exact hrow (List.mem_of_getElem? hi)
      rw [beq_self_eq_true, if_pos rfl]
      constructor
      · rintro (hlater | ⟨-, hpos⟩)
        · exact absurd hlater hnot
        · exact .inl (.inl ⟨(Option.some.inj hpos).symm, rfl⟩)
      · rintro ((⟨rfl, -⟩ | hlater) | ⟨hother, -⟩)
        · exact .inr ⟨hrow, rfl⟩
        · exact absurd hlater hnot
        · exact absurd (.inl rfl) hother
    · simp [hid, Ne.symm hid]

theorem indexed_indexOf {rows : Array Row} (h : (rows.toList.map Row.id).Nodup)
    (columns : List Column) : Indexed { rows, index := indexOf rows, columns } := by
  intro id pos
  rw [indexOf, getElem?_foldl_insert h]
  simp

/-- **Removing rows and making the index anew is filtering the rows out.** -/
theorem follows_deleteMany (h : set.Indexed) (ids : List String) :
    Follows (set.deleteMany ids) (set.ledger.deleteMany ids) := by
  obtain ⟨left, hleft⟩ : ∃ left, left = set.rows.filter fun row => !ids.contains row.id := ⟨_, rfl⟩
  have hrows : left.toList = set.rows.toList.filter (·.id ∉ ids) := by simp [hleft]
  have hcount : set.rows.size - left.size = set.rows.toList.countP (·.id ∈ ids) := by
    have hsplit := List.length_eq_countP_add_countP (fun row : Row => decide (row.id ∈ ids))
      (l := set.rows.toList)
    have hsize : left.size = set.rows.toList.countP fun row => !decide (row.id ∈ ids) := by
      rw [← Array.length_toList, hrows, List.countP_eq_length_filter]
      simp
    simp only [Array.length_toList, Bool.not_eq_true, ← Bool.not_eq_true'] at hsplit
    simp only [Bool.decide_eq_true] at hsplit
    omega
  rw [deleteMany, ← hleft]
  -- When nothing is removed the index is not made anew, and need not be.
  by_cases hzero : set.rows.size - left.size = 0
  · have hnone : set.rows.toList.countP (·.id ∈ ids) = 0 := hcount.symm.trans hzero
    rw [if_pos hzero]
    refine ⟨h, congrArg (Ledger.mk · set.columns) ?_, hnone.symm⟩
    refine (List.filter_eq_self.2 fun row hrow => ?_).symm
    simpa using List.countP_eq_zero.1 hnone row hrow
  · rw [if_neg hzero]
    refine ⟨indexed_indexOf ?_ set.columns, congrArg (Ledger.mk · set.columns) hrows, hcount⟩
    rw [hrows]
    exact h.nodup.sublist (List.filter_sublist.map Row.id)

/-! ## Columns -/

theorem follows_declareColumn (h : set.Indexed) (column : Column) :
    FollowsOrRefuses (set.declareColumn column) (set.ledger.declareColumn column) := by
  have hknown : set.columns.any (·.id == column.id) = true ↔
      column.id ∈ set.ledger.columns.map Column.id := by simp
  rw [declareColumn, Ledger.declareColumn]
  cases column.isReserved with
  | true => exact .error (.reservedColumn column.id)
  | false =>
    rw [if_neg Bool.false_ne_true, if_neg Bool.false_ne_true]
    by_cases hmem : column.id ∈ set.ledger.columns.map Column.id
    · rw [if_pos (hknown.2 hmem), if_pos hmem]
      exact .ok ⟨h, rfl, rfl⟩
    · rw [if_neg (mt hknown.1 hmem), if_neg hmem]
      refine .ok ⟨h.congr rfl ?_, ?_, rfl⟩
      · simp
      · simp [ledger]

end WorkingSet

end Fieldbook
