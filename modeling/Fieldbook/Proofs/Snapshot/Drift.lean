import Fieldbook.Proofs.Snapshot.RoundTrip

/-!
# Numbers that drift

A working set is saved at the end of a run and loaded at the beginning of the next. However often this happens,
it never fails, and columns, rows, fixed fields and cells other than numbers are the same as ever. A number moves
by less than five units in the last place each time, and one with few digits does not move
(`Reachable.reload_near`). There are numbers that do (`exists_drifting`).

One round makes of the ledger what `Ledger.reread` says, and a tidy ledger stays tidy (`Tidy.reread`), so that
the next round can begin.
-/

namespace Fieldbook

/-! ## One round -/

namespace Ledger

/-- What the rows and columns are when they are read back. -/
def reread (ledger : Ledger) : Ledger := { ledger with rows := ledger.rows.map Row.reread }

/-- A ledger stays tidy when it is read back: only values change. -/
theorem Tidy.reread {ledger : Ledger} (h : ledger.Tidy) : ledger.reread.Tidy where
  ids := by
    have hids : (ledger.rows.map Row.reread).map Row.id = ledger.rows.map Row.id :=
      map_id_map (fun row => (rfl : row.reread.id = row.id)) ledger.rows
    exact hids ▸ h.ids
  columnIds := h.columnIds
  usable := h.usable
  uniform := by
    intro row hrow key
    obtain ⟨before, hbefore, rfl⟩ := List.mem_map.1 hrow
    rw [Row.reread, Cells.mem_keys_iff, Cells.has, Cells.get?_map, Option.isSome_map]
    exact Cells.mem_keys_iff.symm.trans (h.uniform before hbefore key)

end Ledger

namespace WorkingSet

variable {set : WorkingSet}

/-- **What is saved is always loaded again**, as it is read back. -/
theorem load_save_of_tidy (h : set.ledger.Tidy) :
    ∃ loaded, load set.save.toUTF8 = .ok loaded ∧ loaded.ledger = set.ledger.reread := by
  rw [load_save_eq]
  exact ofSnapshot_of_tidy h.reread

/-! ## Any number of rounds -/

/-- Saves the working set and loads it again, as often as is said. -/
def reload : Nat → WorkingSet → Except SnapshotError WorkingSet
  | 0, set => .ok set
  | n + 1, set => (load set.save.toUTF8).bind (reload n)

/-- **Saving and loading over and over is reading back over and over**, by induction on the rounds. -/
theorem reload_of_tidy (n : Nat) (h : set.ledger.Tidy) :
    ∃ loaded, reload n set = .ok loaded ∧ loaded.ledger = Ledger.reread^[n] set.ledger := by
  induction n generalizing set with
  | zero => exact ⟨set, rfl, rfl⟩
  | succ n ih =>
    obtain ⟨next, hnext, hledger⟩ := load_save_of_tidy h
    obtain ⟨loaded, hloaded, hrest⟩ := ih (hledger ▸ h.reread)
    refine ⟨loaded, ?_, ?_⟩
    · rw [reload, hnext]
      exact hloaded
    · rw [hrest, hledger, Function.iterate_succ_apply]

end WorkingSet

theorem Ledger.reread_iterate (n : Nat) (ledger : Ledger) :
    Ledger.reread^[n] ledger = { ledger with rows := ledger.rows.map Row.reread^[n] } := by
  induction n with
  | zero => rw [Function.iterate_zero, Function.iterate_zero, List.map_id]; rfl
  | succ n ih =>
    rw [Function.iterate_succ_apply', ih, reread, List.map_map, Function.iterate_succ']

theorem Row.get?_reread_iterate (n : Nat) (row : Row) (key : String) :
    (Row.reread^[n] row).cells.get? key = (row.cells.get? key).map Value.reread^[n] := by
  induction n with
  | zero => rw [Function.iterate_zero, Function.iterate_zero, Option.map_id]; rfl
  | succ n ih =>
    rw [Function.iterate_succ_apply', reread, Cells.get?_map, ih, Option.map_map, Function.iterate_succ']

/-- A finite number is one after any number of rounds. -/
theorem Value.reread_iterate (n : Nat) {x : Double} (h : x.isFinite = true) :
    Value.reread^[n] (.number x) = .number (Double.reread^[n] x) ∧
      (Double.reread^[n] x).isFinite = true := by
  induction n with
  | zero => exact ⟨rfl, h⟩
  | succ n ih =>
    rw [Function.iterate_succ_apply', Function.iterate_succ_apply', ih.1, reread, if_pos ih.2,
      Double.isFinite_reread]
    exact ⟨rfl, ih.2⟩

namespace WorkingSet

variable {set : WorkingSet}

/-- **Saving and loading never fails, and changes nothing but numbers**, however often it is done. In each round
a finite number keeps its sign and moves by less than five units in the last place, and a brief one stays what it
is. -/
theorem Reachable.reload_near (h : Reachable set) (n : Nat) :
    ∃ loaded, reload n set = .ok loaded ∧ loaded.columns = set.columns ∧
      loaded.rows = set.rows.map Row.reread^[n] ∧
      ∀ row ∈ set.rows, ∀ key x, row.cells.get? key = some (.number x) → x.isFinite = true →
        (Row.reread^[n] row).cells.get? key = some (.number (Double.reread^[n] x)) ∧
          (Double.reread^[n] x).Near (Double.reread^[n + 1] x) ∧
          (x.IsBrief → Double.reread^[n] x = x) := by
  obtain ⟨loaded, hloaded, hledger⟩ := reload_of_tidy n h.sound.tidy
  rw [Ledger.reread_iterate] at hledger
  refine ⟨loaded, hloaded, congrArg Ledger.columns hledger, ?_, ?_⟩
  · refine Array.toList_inj.1 ((congrArg Ledger.rows hledger).trans ?_)
    rw [Array.toList_map]
    rfl
  · intro row hrow key x hvalue hfinite
    obtain ⟨hnumber, hstill⟩ := Value.reread_iterate n hfinite
    refine ⟨?_, ?_, fun hbrief => Function.iterate_fixed (Double.reread_of_isBrief hbrief) n⟩
    · rw [Row.get?_reread_iterate, hvalue, Option.map_some, hnumber]
    · rw [Function.iterate_succ_apply']
      exact Double.near_reread hstill

/-- Columns and rows with one number in them. -/
def weighing (x : Double) : Ledger where
  columns := [⟨"weight", "Weight", .number⟩]
  rows := [{ id := "a", cells := .ofList [("weight", .number x)] }]

theorem reread_weighing {x y : Double} (h : (Value.number x).reread = .number y) :
    (weighing x).reread = weighing y := by
  have hcells : (Cells.ofList [("weight", .number x)]).map Value.reread =
      .ofList [("weight", (Value.number x).reread)] := rfl
  rw [Ledger.reread, weighing, List.map_singleton, Row.reread, hcells, h, weighing]

/-- A row with any number in its one cell can be come by. -/
theorem exists_weighing (x : Double) : ∃ set, Reachable set ∧ set.ledger = weighing x := by
  have htidy : (weighing x).Tidy := by
    refine ⟨List.nodup_singleton _, List.nodup_singleton _, ?_, ?_⟩
    · intro column hcolumn
      obtain rfl := List.mem_singleton.1 hcolumn
      decide
    · intro row hrow key
      obtain rfl := List.mem_singleton.1 hrow
      exact Iff.rfl
  obtain ⟨set, hset, hledger⟩ := ofParts_of_tidy htidy
  exact ⟨set, .parts hset, hledger⟩

/-- The largest whole number whose tenfold has no more than fifty-three bits is there after three rounds. -/
theorem reload_near_brief :
    ∃ set loaded, set.ledger = weighing (.ofNat 900719925474099) ∧ reload 3 set = .ok loaded ∧
      ∀ row ∈ loaded.rows, row.cells.get? "weight" = some (.number (.ofNat 900719925474099)) := by
  obtain ⟨set, hreachable, hledger⟩ := exists_weighing (.ofNat 900719925474099)
  obtain ⟨loaded, hloaded, -, hrows, hcells⟩ := hreachable.reload_near 3
  refine ⟨set, loaded, hledger, hloaded, fun row hrow => ?_⟩
  rw [hrows] at hrow
  obtain ⟨before, hbefore, rfl⟩ := Array.mem_map.1 hrow
  have hrow : before ∈ (weighing (.ofNat 900719925474099)).rows :=
    congrArg Ledger.rows hledger ▸ Array.mem_def.1 hbefore
  obtain rfl := List.mem_singleton.1 hrow
  obtain ⟨hvalue, -, hstays⟩ := hcells _ hbefore "weight" (.ofNat 900719925474099) rfl (by decide +kernel)
  have hbrief : (Double.ofNat 900719925474099).IsBrief := Double.isBrief_ofNat (by norm_num)
  exact hvalue.trans (congrArg (fun x => some (Value.number x)) (hstays hbrief))

/-- **A number with sixteen digits drifts**: the digits that are read for it, with the one behind the point, are
rounded before they are divided by ten. -/
theorem exists_drifting :
    ∃ set loaded, Reachable set ∧ set.ledger = weighing (.ofNat (2 ^ 53 - 1)) ∧
      load set.save.toUTF8 = .ok loaded ∧ loaded.ledger = weighing (.ofNat (2 ^ 53 - 2)) ∧
        Double.ofNat (2 ^ 53 - 1) ≠ Double.ofNat (2 ^ 53 - 2) := by
  obtain ⟨set, hreachable, hledger⟩ := exists_weighing (.ofNat (2 ^ 53 - 1))
  obtain ⟨loaded, hloaded, hreread⟩ := load_save_of_tidy hreachable.sound.tidy
  have hvalue : (Value.number (.ofNat (2 ^ 53 - 1))).reread = .number (.ofNat (2 ^ 53 - 2)) := by
    decide +kernel
  refine ⟨set, loaded, hreachable, hledger, hloaded, ?_, by decide +kernel⟩
  rw [hreread, hledger, reread_weighing hvalue]

end WorkingSet

end Fieldbook
