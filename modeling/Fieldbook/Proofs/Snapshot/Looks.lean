import Fieldbook.Proofs.Snapshot.Repair

/-!
# Snapshots taken while others write

Whoever takes a snapshot of a shared working set looks at it twice, first at its columns and then at its
rows, and holds it in neither case longer than the look takes. Between the looks others may do what they
like. Each look and each operation is one step (`Step`), and the steps come in any order (`Run`).

* What a step keeps is that columns come in behind those there are and never leave
  (`Ledger.columns_operate`). So the columns of the first look are still the first ones at the second look
  (`grounded_of_run`).
* What a snapshot shows is therefore one state of the run, unless a column was declared between the looks;
  then every row in it has cells that belong to no column in it. These cells, and nothing else, are lost
  when it is loaded (`Reachable.snapshot_of_run`).
* A snapshot that shows no state of its run is `exists_torn`.
-/

namespace Fieldbook

/-! ## Columns stay -/

namespace Ledger

variable {ledger : Ledger}

theorem columns_updateMany {ids : List String} {patch : Patch} {after : Ledger} {count : Nat}
    (h : ledger.updateMany ids patch = .ok (after, count)) : after.columns = ledger.columns := by
  rw [updateMany] at h
  split at h
  · cases h
  · split at h
    · cases h
    · cases h
      rfl

theorem columns_declareColumn {column : Column} {after : Ledger} {isNew : Bool}
    (h : ledger.declareColumn column = .ok (after, isNew)) : ledger.columns <+: after.columns := by
  rw [declareColumn] at h
  split at h
  · cases h
  · split at h
    · cases h
      exact List.prefix_rfl
    · cases h
      exact List.prefix_append _ _

/-- **No operation takes a column away or puts one in front of another.** -/
theorem columns_operate (ledger : Ledger) (operation : Operation) :
    ledger.columns <+: (ledger.operate operation).1.columns := by
  cases operation with
  | append rows => exact (columns_append ledger rows).symm ▸ List.prefix_rfl
  | replace rows => exact (columns_append { columns := ledger.columns } rows).symm ▸ List.prefix_rfl
  | updateOne id patch =>
    rw [operate]
    split
    · next h => exact (columns_updateMany h).symm ▸ List.prefix_rfl
    · exact List.prefix_rfl
  | updateMany ids patch =>
    rw [operate]
    split
    · next h => exact (columns_updateMany h).symm ▸ List.prefix_rfl
    · exact List.prefix_rfl
  | deleteMany ids => exact List.prefix_rfl
  | declare column =>
    rw [operate]
    split
    · next h => exact columns_declareColumn h
    · exact List.prefix_rfl
  | get id => exact List.prefix_rfl
  | size => exact List.prefix_rfl

end Ledger

theorem WorkingSet.Reachable.columns_operate {set : WorkingSet} (h : Reachable set) (operation : Operation) :
    set.columns <+: (set.operate operation).1.columns := by
  have hledger := (follows_operate h.sound.indexed operation).ledger_eq
  rw [← ledger_columns, ← ledger_columns, hledger]
  exact set.ledger.columns_operate operation

/-! ## Runs -/

namespace Snapshot

/-- How far taking a snapshot has come. -/
inductive Stage where
  | begun
  /-- The columns have been looked at, when the working set was this one. -/
  | looked (first : WorkingSet)
  | finished (s : Snapshot)

/-- A working set that is shared, and a snapshot of it that is being taken. -/
structure Shared where
  set : WorkingSet
  stage : Stage

/-- One step: somebody operates on the working set, or the next look is taken. -/
inductive Step : Shared → Shared → Prop where
  | operate (set : WorkingSet) (stage : Stage) (operation : Operation) :
      Step ⟨set, stage⟩ ⟨(set.operate operation).1, stage⟩
  | lookAtColumns (set : WorkingSet) : Step ⟨set, .begun⟩ ⟨set, .looked set⟩
  | lookAtRows (first set : WorkingSet) : Step ⟨set, .looked first⟩ ⟨set, .finished (.ofReads first set)⟩

/-- Any number of steps, and the working sets that there have been, the latest first. -/
inductive Run (start : WorkingSet) : List WorkingSet → Shared → Prop where
  | refl : Run start [start] ⟨start, .begun⟩
  | step {sets : List WorkingSet} {s s' : Shared} (h : Run start sets s) (hstep : Step s s') :
      Run start (s'.set :: sets) s'

/-- What there is to say of a stage: each look was at a working set of the run, and the columns of the first
look are the first ones at the second look, and until then. -/
def Stage.Grounded (sets : List WorkingSet) (set : WorkingSet) : Stage → Prop
  | begun => True
  | looked first => first ∈ sets ∧ first.Reachable ∧ first.columns <+: set.columns
  | finished s => ∃ first ∈ sets, ∃ second ∈ sets, first.Reachable ∧ second.Reachable ∧
      first.columns <+: second.columns ∧ s = .ofReads first second

variable {start set : WorkingSet} {sets : List WorkingSet} {s : Snapshot}

/-- An operation leaves what has been looked at as it is. -/
theorem Stage.Grounded.operate {stage : Stage} (h : stage.Grounded sets set) (hset : set.Reachable)
    (operation : Operation) :
    stage.Grounded ((set.operate operation).1 :: sets) (set.operate operation).1 := by
  cases stage with
  | begun => trivial
  | looked first =>
    obtain ⟨hmem, hfirst, hcolumns⟩ := h
    exact ⟨List.mem_cons_of_mem _ hmem, hfirst, hcolumns.trans (hset.columns_operate operation)⟩
  | finished s =>
    obtain ⟨first, hmem, second, hmem', hrest⟩ := h
    exact ⟨first, List.mem_cons_of_mem _ hmem, second, List.mem_cons_of_mem _ hmem', hrest⟩

theorem grounded_of_run {shared : Shared} (h : start.Reachable) (hrun : Run start sets shared) :
    shared.set ∈ sets ∧ shared.set.Reachable ∧ shared.stage.Grounded sets shared.set := by
  induction hrun with
  | refl => exact ⟨List.mem_cons_self, h, trivial⟩
  | step _ hstep ih =>
    obtain ⟨hmem, hset, hgrounded⟩ := ih
    cases hstep with
    | operate set stage operation =>
      exact ⟨List.mem_cons_self, hset.operate operation, hgrounded.operate hset operation⟩
    | lookAtColumns set =>
      exact ⟨List.mem_cons_self, hset, List.mem_cons_self, hset, List.prefix_rfl⟩
    | lookAtRows first set =>
      obtain ⟨hfirst, hreachable, hcolumns⟩ := hgrounded
      exact ⟨List.mem_cons_self, hset, first, List.mem_cons_of_mem _ hfirst, set, List.mem_cons_self,
        hreachable, hset, hcolumns, rfl⟩

end Snapshot

/-! ## What a snapshot shows -/

namespace WorkingSet

open Snapshot

variable {start set : WorkingSet} {sets : List WorkingSet} {s : Snapshot}

/-- A row that lacks no cell is brought in line with the columns by taking cells away. -/
theorem conform_of_subset {columns : List Column} {row : Row}
    (h : ∀ key ∈ columns.map Column.id, key ∈ row.cells.keys) :
    conform columns row = { row with cells := row.cells.keep fun key => columns.any (·.id == key) } := by
  have hcells : conformCells columns row.cells = row.cells.keep fun key => columns.any (·.id == key) := by
    refine Cells.ext_get? fun key => ?_
    rw [get?_conformCells, Cells.get?_keep]
    cases hfind : columns.find? (·.id == key) with
    | none =>
      have hany : columns.any (·.id == key) = false := by simpa [List.find?_eq_none] using hfind
      rw [hany]
      rfl
    | some column =>
      have hid : column.id = key := by simpa using List.find?_some hfind
      have hmem := List.mem_of_find?_eq_some hfind
      have hany : columns.any (·.id == key) = true := List.any_eq_true.2 ⟨column, hmem, beq_iff_eq.2 hid⟩
      obtain ⟨value, hvalue⟩ := Option.isSome_iff_exists.1 <|
        Cells.mem_keys_iff.1 (h key (hid ▸ List.mem_map_of_mem hmem))
      rw [hany, if_pos rfl, hvalue]
      rfl
  rw [conform, hcells]

/-- What is loaded from a snapshot with columns that may be declared, and rows that lack no cell for them. -/
theorem ofSnapshot_of_subset {columns : List Column} {rows : List Row}
    (hcolumns : (columns.map Column.id).Nodup) (husable : ∀ column ∈ columns, column.isReserved = false)
    (hrows : (rows.map Row.id).Nodup)
    (hcells : ∀ row ∈ rows, ∀ key ∈ columns.map Column.id, key ∈ row.cells.keys) :
    ∃ loaded, ofSnapshot ⟨currentVersion, columns, rows⟩ = .ok loaded ∧ loaded.columns = columns ∧
      loaded.rows.toList = rows.map fun row =>
        { row with cells := row.cells.keep fun key => columns.any (·.id == key) } := by
  have hmade : ofSnapshot ⟨currentVersion, columns, rows⟩ = .ok (appendBatch { columns } rows).1 := by
    rw [ofSnapshot, if_pos rfl, ofParts_eq hcolumns husable]
    rfl
  have hledger := ledger_appendBatch_of_nodup columns hrows
  refine ⟨_, hmade, congrArg Ledger.columns hledger, (congrArg Ledger.rows hledger).trans ?_⟩
  exact List.map_congr_left fun row hrow => conform_of_subset (hcells row hrow)

/-- **What a snapshot shows that is taken while others write.** Its columns are those of one working set of
the run and its rows those of another one, which has the same columns and perhaps some new ones behind them.

* With no new columns, which is to say that none was declared between the looks, the snapshot is that of the
  second working set alone, and its rows have cells for just its columns.
* With new columns no row has: each has cells for the new columns too.
* Loading the snapshot takes these cells away and changes nothing else. -/
theorem Reachable.snapshot_of_run (h : Reachable start) (hrun : Run start sets ⟨set, .finished s⟩) :
    ∃ first ∈ sets, ∃ second ∈ sets, ∃ new,
      s = .ofReads first second ∧ second.columns = s.columns ++ new ∧
      (∀ row ∈ s.rows, ∀ key, key ∈ row.cells.keys ↔ key ∈ (s.columns ++ new).map Column.id) ∧
      (new = [] → s = second.snapshot ∧ ∀ row ∈ s.rows, row.Uniform s.columns) ∧
      (new ≠ [] → ∀ row ∈ s.rows, ¬ row.Uniform s.columns) ∧
      ∃ loaded, ofSnapshot s = .ok loaded ∧ loaded.columns = s.columns ∧
        loaded.rows.toList = s.rows.map fun row =>
          { row with cells := row.cells.keep fun key => s.columns.any (·.id == key) } := by
  obtain ⟨-, -, first, hfirst, second, hsecond, hreachable, hreachable', ⟨new, hnew⟩, rfl⟩ :=
    grounded_of_run h hrun
  obtain ⟨hids, hcolumnIds, -, huniform⟩ := hreachable'.sound.tidy
  rw [ledger_columns, ← hnew] at hcolumnIds huniform
  have hlacks : ∀ row ∈ second.rows.toList, ∀ key ∈ first.columns.map Column.id, key ∈ row.cells.keys := by
    intro row hrow key hkey
    rw [huniform row hrow key, List.map_append]
    exact List.mem_append_left _ hkey
  refine ⟨first, hfirst, second, hsecond, new, rfl, hnew.symm, huniform, ?_, ?_, ?_⟩
  · rintro rfl
    rw [List.append_nil] at hnew huniform
    exact ⟨congrArg (Snapshot.mk currentVersion · _) hnew, huniform⟩
  · intro hne row hrow hshown
    obtain ⟨column, rest, rfl⟩ := List.exists_cons_of_ne_nil hne
    have hcell : column.id ∈ row.cells.keys := by
      rw [huniform row hrow, List.map_append]
      exact List.mem_append_right _ List.mem_cons_self
    rw [List.map_append, List.nodup_append] at hcolumnIds
    exact hcolumnIds.2.2 _ ((hshown column.id).1 hcell) _ List.mem_cons_self rfl
  · exact ofSnapshot_of_subset hreachable.sound.tidy.columnIds hreachable.sound.tidy.usable hids hlacks

/-- Somebody adds a row, declares a column and writes in the row under the new column. -/
def noting : List Operation :=
  [.append [.blank "a"], .declare ⟨"note", "Note", .text⟩, .updateOne "a" (.single (.dynamic "note") (.text "new"))]

/-- The working set after so many steps of this. -/
def noting.after (steps : Nat) : WorkingSet :=
  (empty.operateAll (noting.take steps)).1

theorem noting.ledger_after (steps : Nat) :
    (after steps).ledger = (Ledger.operateAll {} (noting.take steps)).1 :=
  (follows_operateAll indexed_empty _).ledger_eq

/-- A run in which the row is there at the first look and the rest comes before the second. -/
theorem noting.run :
    Run (after 1) [after 3, after 3, after 2, after 1, after 1]
      ⟨after 3, .finished (.ofReads (after 1) (after 3))⟩ := by
  have hdeclare : Step ⟨after 1, .looked (after 1)⟩ ⟨after 2, .looked (after 1)⟩ :=
    .operate (after 1) _ (.declare ⟨"note", "Note", .text⟩)
  have hupdate : Step ⟨after 2, .looked (after 1)⟩ ⟨after 3, .looked (after 1)⟩ :=
    .operate (after 2) _ (.updateOne "a" (.single (.dynamic "note") (.text "new")))
  exact (((Run.refl.step (.lookAtColumns _)).step hdeclare).step hupdate).step (.lookAtRows _ _)

/-- The columns at the first look are none, and the row at the second has a note. -/
theorem noting.seen :
    (ofReads (after 1) (after 3)).columns = [] ∧
      (ofReads (after 1) (after 3)).rows =
        [{ Row.blank "a" with cells := .ofList [("note", .text "new")] }] :=
  ⟨(congrArg Ledger.columns (ledger_after 1)).trans (by decide),
    (congrArg Ledger.rows (ledger_after 3)).trans (by decide +kernel)⟩

/-- The note is there when the snapshot is taken, and not when it is loaded. -/
theorem snapshot_of_run_noting :
    (Snapshot.ofReads (noting.after 1) (noting.after 3)).rows.map (·.cells.get? "note") =
        [some (.text "new")] ∧
      ∃ loaded, ofSnapshot (.ofReads (noting.after 1) (noting.after 3)) = .ok loaded ∧
        loaded.columns = [] ∧ loaded.rows.toList = [.blank "a"] := by
  obtain ⟨hcolumns, hrows⟩ := noting.seen
  obtain ⟨-, -, -, -, -, -, -, -, -, -, loaded, hloaded, hsame, hloadedRows⟩ :=
    (Reachable.empty.operateAll _).snapshot_of_run noting.run
  refine ⟨by rw [hrows]; decide, loaded, hloaded, hsame.trans hcolumns, ?_⟩
  rw [hloadedRows, hrows, hcolumns]
  decide +kernel

/-- **A snapshot that shows no state of its run**, for a column is declared between the looks: it has the
columns of one state and the rows of another, and a row with a cell under no column. -/
theorem exists_torn :
    ∃ start sets set s, start.Reachable ∧ Run start sets ⟨set, .finished s⟩ ∧
      (∀ state ∈ sets, ¬ (s.columns = state.columns ∧ s.rows = state.rows.toList)) ∧
      ∃ row ∈ s.rows, ¬ row.Uniform s.columns := by
  obtain ⟨hcolumns, hrows⟩ := noting.seen
  have hrow : ∃ row ∈ (ofReads (noting.after 1) (noting.after 3)).rows,
      ¬ row.Uniform (ofReads (noting.after 1) (noting.after 3)).columns := by
    refine ⟨_, hrows ▸ List.mem_singleton_self _, fun huniform => ?_⟩
    rw [hcolumns] at huniform
    exact absurd ((huniform "note").1 (by decide)) List.not_mem_nil
  refine ⟨_, _, _, _, Reachable.empty.operateAll _, noting.run, fun state hstate hshown => ?_, hrow⟩
  have hreachable : state.Reachable := by
    simp only [List.mem_cons, List.not_mem_nil, or_false] at hstate
    obtain rfl | rfl | rfl | rfl | rfl := hstate <;> exact Reachable.empty.operateAll _
  obtain ⟨row, hmem, hnot⟩ := hrow
  rw [hshown.1] at hnot
  rw [hshown.2] at hmem
  exact hnot (hreachable.sound.tidy.uniform row hmem)

end WorkingSet

end Fieldbook
