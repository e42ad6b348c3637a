import Fieldbook.Proofs.Double.Shown
import Fieldbook.Proofs.Exchange.RoundTrip

/-!
# Source ids in a table

A source id has sixty-four bits and its cell is read over the full range, but the cell shows it as a
double does. What comes back is the number that the cell shows, or zero if that number has more bits
(`readSourceId_toString`). So source ids up to `2 ^ 53` come back as they were, of the others only those
whose own digits the double shows, and the last `1024` come back as zero (`importRows_sourceIds`).

The columns may be any here. Whatever headers follow those of the fixed fields, a fixed field is read from
its own cell and from no other (`sameIn_ofRecord_written`).
-/

namespace Fieldbook

namespace Row

variable {columns : List Column} {record : List String} {f : Field}

/-! ## Fixed fields in any table -/

/-- Reads what a plan says from a record. -/
def readPlan (columns : List Column) (record : List String) (row : Row) (plan : List (Field × Nat)) : Row :=
  plan.foldl (fun row (field, place) =>
      match record[place]? with
      | some cell => row.readCell columns field cell
      | none => row)
    row

theorem readPlan_cons (columns : List Column) (record : List String) (row : Row) (field : Field)
    (place : Nat) (plan : List (Field × Nat)) :
    readPlan columns record row ((field, place) :: plan) =
      readPlan columns record
        (match record[place]? with
          | some cell => row.readCell columns field cell
          | none => row) plan := rfl

theorem readPlan_singleton (columns : List Column) (record : List String) (row : Row) (field : Field)
    (place : Nat) :
    readPlan columns record row [(field, place)] =
      match record[place]? with
      | some cell => row.readCell columns field cell
      | none => row := rfl

/-- A field that is not in the plan stays as it is. -/
theorem sameIn_readPlan_of_not_mem {plan : List (Field × Nat)} (h : f ∉ plan.map Prod.fst) (row : Row) :
    SameIn f (readPlan columns record row plan) row := by
  induction plan generalizing row with
  | nil => exact .refl f row
  | cons entry rest ih =>
    obtain ⟨field, place⟩ := entry
    rw [List.map_cons, List.mem_cons, not_or] at h
    rw [readPlan_cons]
    refine (ih h.2 _).trans ?_
    split
    · exact (sameBut_readCell columns row field _).sameIn (Ne.symm h.1)
    · exact .refl f row

/-- What was read before does not change what is read into a field. -/
theorem SameIn.readPlan {a b : Row} {plan : List (Field × Nat)} (h : SameIn f a b) (place : Nat)
    (hplan : f ∉ plan.map Prod.fst) :
    SameIn f (Row.readPlan columns record a ((f, place) :: plan))
      (Row.readPlan columns record b [(f, place)]) := by
  rw [readPlan_cons, readPlan_singleton]
  refine (sameIn_readPlan_of_not_mem hplan _).trans ?_
  cases record[place]? with
  | none => exact h
  | some cell => exact h.readCell columns cell

/-- **A field that comes once in a plan is read from its own place.** -/
theorem sameIn_readPlan {front rest : List (Field × Nat)} {place : Nat}
    (hfront : f ∉ front.map Prod.fst) (hrest : f ∉ rest.map Prod.fst) (row : Row) :
    SameIn f (readPlan columns record row (front ++ (f, place) :: rest))
      (readPlan columns record row [(f, place)]) := by
  have hsplit : readPlan columns record row (front ++ (f, place) :: rest) =
      readPlan columns record (readPlan columns record row front) ((f, place) :: rest) :=
    List.foldl_append
  rw [hsplit]
  exact (sameIn_readPlan_of_not_mem hfront row).readPlan place hrest

/-- **A fixed field other than the id is read from its own cell**, whatever columns are written and
whatever columns are declared where the table is read. -/
theorem sameIn_ofRecord_written (hf : f ∈ Field.fixed.tail) (columns known : List Column) (row : Row)
    (id : String) :
    SameIn f (ofRecord known
        ((Mapping.auto (((exportFields columns).map Field.key).map Text.trim)).plan known
          (((exportFields columns).map Field.key).map Text.trim)) id
        (((exportFields columns).map row.writeCell).map Text.trim))
      ((blank id).readCell known f (row.writeCell f)) := by
  have hkeys : ((exportFields columns).map Field.key).map Text.trim =
      Field.fixed.map Field.key ++ (columns.map Column.id).map Text.trim := by
    rw [keys_exportFields, List.map_append, List.map_map]
    exact congrArg (· ++ _) (List.map_congr_left fun f hf => (Field.key_plain f hf).1)
  have hfixed : ∀ id, Field.dynamic id ∉ Field.fixed := by simp [Field.fixed, Stat.all]
  have hmem := List.mem_of_mem_tail hf
  have hcell : (((exportFields columns).map row.writeCell).map Text.trim)[Field.fixed.idxOf f]? =
      some (Text.trim (row.writeCell f)) := by
    have hplace := List.idxOf_lt_length_of_mem hmem
    rw [List.getElem?_map, List.getElem?_map, exportFields, List.getElem?_append_left hplace,
      List.getElem?_idxOf hmem]
    rfl
  obtain ⟨front, rest, hsplit⟩ := List.append_of_mem hf
  have hnodup : (front ++ f :: rest).Nodup := hsplit ▸ (by decide : Field.fixed.tail.Nodup)
  obtain ⟨hfront, hrest⟩ : f ∉ front ∧ f ∉ rest := by
    simpa [not_or] using (List.nodup_cons.1 (List.nodup_middle.1 hnodup)).1
  rw [hkeys, Mapping.plan_append, ← readCell_trim, hsplit, List.map_append, List.map_cons,
    List.append_assoc, List.cons_append]
  refine (sameIn_readPlan ?_ ?_ (blank id)).trans ?_
  · simpa using hfront
  · rw [List.map_append, List.mem_append, not_or]
    refine ⟨by simpa using hrest, ?_⟩
    -- What follows in the plan are declared columns.
    intro hdeclared
    obtain ⟨entry, hentry, rfl⟩ := List.mem_map.1 hdeclared
    obtain ⟨column, -, hguessed⟩ := List.mem_filterMap.1 hentry
    obtain ⟨place, -, rfl⟩ := Option.map_eq_some_iff.1 hguessed
    exact hfixed column.id hmem
  · simp only [readPlan_singleton, hcell]
    exact .refl f _

/-! ## Cells of source ids -/

/-- **Digits are read exactly**, as far as there are bits for them. -/
theorem readSourceId_toString {v : Nat} (h : v < 2 ^ 66) :
    readSourceId (toString v) = if v < 2 ^ 64 then UInt64.ofNat v else 0 := by
  rw [readSourceId, Nat.toString_eq_repr, Nat.repr_eq_ofList_toDigits, String.toList_ofList,
    Decimal.readNat?_toDigits]
  by_cases hv : v < 2 ^ 64
  · have hle : v ≤ UInt64.size - 1 := by simp only [UInt64.size]; omega
    rw [if_pos hle, if_pos hv]
  · have hlarge : ¬ v ≤ UInt64.size - 1 := by simp only [UInt64.size]; omega
    have hlength : (Nat.toDigits 10 v).length ≤ 20 :=
      (Nat.length_toDigits_le_iff (by decide) (by decide)).2 (by omega)
    have hnone : Double.truncated? (UInt64.size - 1) (.ofNat v) = none :=
      Double.truncated?_ofNat_of_le (by omega) h
    rw [if_neg hlarge, if_neg hv, Double.read?_digits (by omega), Option.bind_some, hnone]

variable {row : Row}

/-- The cell of a source id shows a number: the same one up to `2 ^ 53`. -/
theorem exists_writeCell_sourceId (row : Row) :
    ∃ v, row.writeCell .sourceId = toString v ∧ v < 2 ^ 66 ∧
      (row.sourceId.toNat ≤ 2 ^ 53 → v = row.sourceId.toNat) :=
  Double.exists_plain_ofNat row.sourceId.toNat_lt

/-- What a source id comes back as from its cell. -/
theorem sourceId_readCell (columns : List Column) (row back : Row) :
    (back.readCell columns .sourceId (row.writeCell .sourceId)).sourceId =
      readSourceId (row.writeCell .sourceId) := by
  obtain ⟨v, hcell, -, -⟩ := exists_writeCell_sourceId row
  rw [readCell.eq_def, hcell, trim_toString]
  dsimp only
  rw [if_neg (mt String.isEmpty_iff.1 (toString_ne_empty v))]

theorem readSourceId_of_le (h : row.sourceId.toNat ≤ 2 ^ 53) :
    readSourceId (row.writeCell .sourceId) = row.sourceId := by
  obtain ⟨v, hcell, hv, hsame⟩ := exists_writeCell_sourceId row
  rw [hcell, readSourceId_toString hv, hsame h, if_pos row.sourceId.toNat_lt, UInt64.ofNat_toNat]

/-- **A source id comes back if its cell shows its own digits**, and not otherwise. -/
theorem readSourceId_eq_iff :
    readSourceId (row.writeCell .sourceId) = row.sourceId ↔
      row.writeCell .sourceId = toString row.sourceId.toNat := by
  constructor
  · intro hback
    by_cases hle : row.sourceId.toNat ≤ 2 ^ 53
    · obtain ⟨v, hcell, -, hsame⟩ := exists_writeCell_sourceId row
      rw [hcell, hsame hle]
    · obtain ⟨v, hcell, hv, -⟩ := exists_writeCell_sourceId row
      rw [hcell, readSourceId_toString hv] at hback
      split at hback
      · next hlt => rw [hcell, ← hback, UInt64.toNat_ofNat_of_lt' hlt]
      · rw [← hback] at hle
        exact absurd (Nat.zero_le _) hle
  · intro hcell
    have hlt := row.sourceId.toNat_lt
    rw [hcell, readSourceId_toString (by omega), if_pos hlt, UInt64.ofNat_toNat]

/-- The last source ids are shown as a number that has too many bits. -/
theorem readSourceId_last (h : 2 ^ 64 - 1024 ≤ row.sourceId.toNat) :
    readSourceId (row.writeCell .sourceId) = 0 := by
  have hcell : row.writeCell .sourceId = "18446744073709552000" :=
    Double.plain_ofNat_of_le h row.sourceId.toNat_lt
  rw [hcell]
  decide +kernel

end Row

/-! ## Whole tables -/

/-- Every source id comes back as what is read from its cell. -/
theorem exists_imported (rows : List Row) (columns known : List Column) (freshId : Nat → String) :
    ∃ headers imported,
      readHeaders (Symbol.ofBytes (exportRows rows columns).toUTF8) = .ok headers ∧
      importRows freshId (.auto headers) known (Symbol.ofBytes (exportRows rows columns).toUTF8) =
        .ok imported ∧
      imported.map Row.sourceId = rows.map fun row => Row.readSourceId (row.writeCell .sourceId) := by
  obtain ⟨hheaders, hread⟩ := readTable_written rows columns
  refine ⟨_, _, hheaders, hread freshId _ known, List.ext_getElem (by simp) fun k hk hk' => ?_⟩
  rw [List.getElem_map, List.getElem_mapIdx, List.getElem_map, ← Row.sourceId_readCell known]
  exact @Row.sameIn_ofRecord_written .sourceId (by decide) columns known _ (freshId k)

/-- **Source ids up to `2 ^ 53` come back from a table as they were**, whatever else stands in it. Of the
others those do whose own digits are shown by a double, and the last `1024` come back as zero. -/
theorem importRows_sourceIds (rows : List Row) (columns known : List Column) (freshId : Nat → String) :
    ∃ headers imported,
      readHeaders (Symbol.ofBytes (exportRows rows columns).toUTF8) = .ok headers ∧
      importRows freshId (.auto headers) known (Symbol.ofBytes (exportRows rows columns).toUTF8) =
        .ok imported ∧
      List.Forall₂ (fun row back =>
          (row.sourceId.toNat ≤ 2 ^ 53 → back.sourceId = row.sourceId) ∧
          (back.sourceId = row.sourceId ↔
            (Double.ofNat row.sourceId.toNat).plain = toString row.sourceId.toNat) ∧
          (2 ^ 64 - 1024 ≤ row.sourceId.toNat → back.sourceId = 0))
        rows imported := by
  obtain ⟨headers, imported, hheaders, hread, hback⟩ := exists_imported rows columns known freshId
  refine ⟨headers, imported, hheaders, hread, ?_⟩
  have hlength : imported.length = rows.length := by simpa using congrArg List.length hback
  rw [List.forall₂_iff_get]
  refine ⟨hlength.symm, fun k hk hk' => ?_⟩
  have hat : (imported.get ⟨k, hk'⟩).sourceId =
      Row.readSourceId ((rows.get ⟨k, hk⟩).writeCell .sourceId) := by
    have hsame : (imported.map Row.sourceId)[k]? =
        (rows.map fun row => Row.readSourceId (row.writeCell .sourceId))[k]? := by rw [hback]
    simpa [hk, hk'] using hsame
  rw [hat]
  exact ⟨Row.readSourceId_of_le, Row.readSourceId_eq_iff, Row.readSourceId_last⟩

/-- Rows with the first source id that is lost and with the last one. -/
def wideRows : List Row :=
  [9007199254740993, 18446744073709551615].map fun n => { Row.blank "a" with sourceId := n }

/-- The first comes back with the source id before it, the last one with none. -/
theorem importRows_wideRows :
    ∃ headers imported,
      readHeaders (Symbol.ofBytes (exportRows wideRows []).toUTF8) = .ok headers ∧
      importRows (fun k => toString k) (.auto headers) []
          (Symbol.ofBytes (exportRows wideRows []).toUTF8) = .ok imported ∧
      imported.map Row.sourceId = [9007199254740992, 0] := by
  obtain ⟨headers, imported, hheaders, hread, hback⟩ :=
    exists_imported wideRows [] [] fun k => toString k
  refine ⟨headers, imported, hheaders, hread, hback.trans ?_⟩
  decide +kernel

end Fieldbook
