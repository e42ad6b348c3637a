import Fieldbook.Proofs.Double.Reading
import Fieldbook.Proofs.Exchange.RoundTrip

/-!
# Tables settle after one trip

A trip writes rows out as a table and puts what is read from it into a working set without rows but with the
same columns (`trip?`). A table cannot carry everything, so a trip may change much: blanks at the ends of texts
go, and so does a name without anything else; the items of a list are divided at their bars and commas; a
number that is not finite becomes zero. It does so once. What comes back can be carried (`Row.portable_carried`),
field by field and cell by cell (`ColumnKind.readCell_shown`), and **a second trip changes nothing more than the
ids and the source ids** (`trips_settle`).
-/

namespace Fieldbook

/-! ## Cells -/

namespace ColumnKind

theorem holds_readCell (kind : ColumnKind) (cell : String) : kind.Holds (kind.readCell cell) := by
  rw [readCell.eq_def]
  cases kind with
  | text => trivial
  | boolean => trivial
  | number =>
    dsimp only
    split <;> trivial

/-- A number that is read from a cell is a finite one. -/
theorem equals_self_of_readCell {kind : ColumnKind} {cell : String} {x : Double}
    (h : kind.readCell cell = .number x) : x.equals x = true := by
  rw [readCell.eq_def] at h
  cases kind with
  | text => cases h
  | boolean => cases h
  | number =>
    dsimp only at h
    split at h
    · next y hread =>
      obtain rfl := Value.number.inj h
      have hfinite := (Option.filter_eq_some_iff.1 hread).2
      cases y with
      | finite negative m => simp [Double.equals]
      | _ => cases hfinite
    · obtain rfl := Value.number.inj h
      decide

/-- Every number but negative zero is read from what it shows, and that one as zero; what is no finite number is
read as zero too. -/
theorem readCell_number (x : Double) :
    ∃ y, number.readCell x.plain = .number y ∧ number.readCell y.plain = .number y := by
  have hzero : number.readCell Double.zero.plain = .number .zero := by decide +kernel
  cases x with
  | notANumber => exact ⟨.zero, by decide +kernel, hzero⟩
  | infinite negative => exact ⟨.zero, by cases negative <;> decide +kernel, hzero⟩
  | finite negative m =>
    by_cases hnegative : negative = true ∧ m = .zero
    · obtain ⟨rfl, rfl⟩ := hnegative
      exact ⟨.zero, by decide +kernel, hzero⟩
    · have hread : number.readCell (Double.finite negative m).plain = .number (.finite negative m) := by
        rw [readCell.eq_def, Double.trim_plain]
        dsimp only
        rw [Double.read?_plain fun h hm => hnegative ⟨h, hm⟩]
        rfl
      exact ⟨_, hread, hread⟩

/-- **What a cell of the kind is read as is read as itself again.** -/
theorem readCell_shown {kind : ColumnKind} {value : Value} (h : kind.Holds value) :
    kind.readCell (kind.readCell value.shown).shown = kind.readCell value.shown := by
  cases kind with
  | text => exact congrArg Value.text (Text.trim_trim _)
  | boolean =>
    have hbool : ∀ b, boolean.readCell (Value.bool b).shown = .bool b := by decide
    exact hbool _
  | number =>
    cases value with
    | number x =>
      obtain ⟨y, hread, hagain⟩ := readCell_number x
      have hread : number.readCell (Value.number x).shown = .number y := hread
      rw [hread]
      exact hagain
    | _ => cases h

end ColumnKind

/-! ## Rows -/

namespace Row

variable {columns : List Column} {row : Row}

theorem name_readCell (id cell : String) :
    ((blank id).readCell columns .name cell).name =
      if (Text.trim cell).isEmpty then "Unknown" else Text.trim cell := by
  rw [readCell.eq_def]
  dsimp only
  split <;> rfl

theorem image_readCell (id cell : String) :
    ((blank id).readCell columns .image cell).image =
      if (Text.trim cell).isEmpty then none else some (Text.trim cell) := by
  rw [readCell.eq_def]
  dsimp only
  split <;> rfl

theorem categories_readCell (id cell : String) :
    ((blank id).readCell columns .categories cell).categories = Text.splitItems (Text.trim cell) := by
  rw [readCell.eq_def]
  dsimp only
  split
  · next hempty =>
    rw [String.isEmpty_iff.1 hempty, Text.splitItems_empty]
    rfl
  · dsimp only

theorem capabilities_readCell (id cell : String) :
    ((blank id).readCell columns .capabilities cell).capabilities = Text.splitItems (Text.trim cell) := by
  rw [readCell.eq_def]
  dsimp only
  split
  · next hempty =>
    rw [String.isEmpty_iff.1 hempty, Text.splitItems_empty]
    rfl
  · dsimp only

theorem uniform_carried (columns : List Column) (id : String) (row : Row) :
    (row.carried columns id).Uniform columns :=
  WorkingSet.uniform_conform columns _

/-- **What comes back from a table can be carried by one.** -/
theorem portable_carried (hcolumns : Labelled columns) (huniform : row.Uniform columns)
    (htyped : ∀ column ∈ columns, ∀ value, row.cells.get? column.id = some value → column.kind.Holds value)
    (id : String) : (row.carried columns id).Portable columns := by
  have hcells : ∀ column ∈ columns, ∀ value, (row.carried columns id).cells.get? column.id = some value →
      ∃ given, column.kind.Holds given ∧ value = column.kind.readCell given.shown := by
    intro column hcolumn value hvalue
    obtain ⟨given, hgiven⟩ := Option.isSome_iff_exists.1 <|
      Cells.mem_keys_iff.1 ((huniform column.id).2 (List.mem_map_of_mem hcolumn))
    have hholds := htyped column hcolumn given hgiven
    rw [get?_carried hcolumns hcolumn hgiven hholds] at hvalue
    exact ⟨given, hholds, (Option.some.inj hvalue).symm⟩
  constructor
  case uniform => exact uniform_carried columns id row
  case typed =>
    intro column hcolumn value hvalue
    obtain ⟨given, -, rfl⟩ := hcells column hcolumn value hvalue
    exact column.kind.holds_readCell _
  case name =>
    have hread : (row.carried columns id).name = _ :=
      sameIn_carried hcolumns (f := .name) (by decide) id row
    rw [hread, name_readCell]
    split
    · decide +kernel
    · next hempty => exact ⟨fun h => hempty (String.isEmpty_iff.2 h), Text.trim_trim _⟩
  case image =>
    intro image himage
    have hread : (row.carried columns id).image = _ :=
      sameIn_carried hcolumns (f := .image) (by decide) id row
    rw [hread, image_readCell] at himage
    split at himage
    · cases himage
    · next hempty =>
      obtain rfl := Option.some.inj himage
      exact ⟨fun h => hempty (String.isEmpty_iff.2 h), Text.trim_trim _⟩
  case categories =>
    have hread : (row.carried columns id).categories = _ :=
      sameIn_carried hcolumns (f := .categories) (by decide) id row
    rw [hread, categories_readCell]
    exact fun item => Text.isItem_of_mem_splitItems
  case capabilities =>
    have hread : (row.carried columns id).capabilities = _ :=
      sameIn_carried hcolumns (f := .capabilities) (by decide) id row
    rw [hread, capabilities_readCell]
    exact fun item => Text.isItem_of_mem_splitItems
  case text =>
    intro column hcolumn s hs
    obtain ⟨given, -, hread⟩ := hcells column hcolumn _ hs
    cases hkind : column.kind with
    | text =>
      rw [hkind] at hread
      exact Value.text.inj hread ▸ Text.trim_trim _
    | _ =>
      have hholds := column.kind.holds_readCell given.shown
      rw [← hread, hkind] at hholds
      cases hholds
  case number =>
    intro column hcolumn x hx
    obtain ⟨given, hholds, hread⟩ := hcells column hcolumn _ hx
    have hagain := ColumnKind.readCell_shown hholds
    have hkind := column.kind.holds_readCell given.shown
    have hself := ColumnKind.equals_self_of_readCell hread.symm
    rw [← hread] at hagain hkind
    cases hcase : column.kind with
    | number =>
      rw [hcase] at hagain
      rw [hagain]
      exact hself
    | _ => rw [hcase] at hkind; cases hkind

/-- **A row that has come back once comes back a second time as it is**, but for its id and source id. -/
theorem sameIn_carried_carried (hcolumns : Labelled columns) (huniform : row.Uniform columns)
    (htyped : ∀ column ∈ columns, ∀ value, row.cells.get? column.id = some value → column.kind.Holds value)
    (id id' : String) {f : Field} (hid : f ≠ .id) (hsource : f ≠ .sourceId) :
    SameIn f ((row.carried columns id).carried columns id') (row.carried columns id) := by
  have hportable := portable_carried hcolumns huniform htyped id
  have hfixed : ∀ g ∈ Field.fixed.tail, g ≠ .id → g ≠ .sourceId →
      SameIn g ((row.carried columns id).carried columns id') (row.carried columns id) :=
    fun g hg hid hsource => (sameIn_carried hcolumns hg id' _).trans
      (sameIn_written hportable (List.mem_of_mem_tail hg) hid hsource id')
  cases f with
  | id => exact absurd rfl hid
  | sourceId => exact absurd rfl hsource
  | stat s => exact hfixed (.stat s) (by cases s <;> decide) nofun nofun
  | dynamic key =>
    change ((row.carried columns id).carried columns id').cells.get? key = (row.carried columns id).cells.get? key
    by_cases hkey : key ∈ columns.map Column.id
    · obtain ⟨column, hcolumn, rfl⟩ := List.mem_map.1 hkey
      obtain ⟨value, hvalue⟩ := Option.isSome_iff_exists.1 <|
        Cells.mem_keys_iff.1 ((huniform column.id).2 hkey)
      have hholds := htyped column hcolumn value hvalue
      have honce := get?_carried hcolumns hcolumn hvalue hholds id
      rw [get?_carried hcolumns hcolumn honce (column.kind.holds_readCell _) id', honce,
        ColumnKind.readCell_shown hholds]
    · have hnone : ∀ {given : Row}, given.Uniform columns → given.cells.get? key = none := fun h =>
        Option.not_isSome_iff_eq_none.1 fun hsome => hkey ((h key).1 (Cells.mem_keys_iff.2 hsome))
      rw [hnone (uniform_carried columns id' _), hnone hportable.uniform]
  | _ => exact hfixed _ (by decide) nofun nofun

end Row

/-! ## Trips -/

section Trip

variable {columns : List Column} {rows : List Row} {freshId freshId' : Nat → String}

/-- A trip: the rows are written out as a table, the table is read through the mapping guessed from its headers,
and what is read is put into a working set without rows but with the same columns. -/
def trip? (freshId : Nat → String) (columns : List Column) (rows : List Row) : Option (List Row) :=
  let file := Symbol.ofBytes (exportRows rows columns).toUTF8
  match readHeaders file with
  | .error _ => none
  | .ok headers =>
    match importRows freshId (.auto headers) columns file, WorkingSet.ofParts columns [] with
    | .ok imported, .ok set => some (set.appendBatch imported).1.rows.toList
    | _, _ => none

/-- On a trip each row is carried for itself, in its place. -/
theorem trip?_eq (hcolumns : Labelled columns) (hfresh : freshId.Injective) (rows : List Row) :
    trip? freshId columns rows = some (rows.mapIdx fun k row => row.carried columns (freshId k)) := by
  obtain ⟨hheaders, hread⟩ := importRows_written hcolumns rows freshId
  have hset : WorkingSet.ofParts columns [] = .ok { columns } :=
    WorkingSet.ofParts_eq hcolumns.ids hcolumns.usable []
  have hids : (rows.mapIdx fun k row =>
      Row.readAll columns (fun f => Text.trim (row.writeCell f)) (.blank (freshId k))
        (exportFields columns).tail).map Row.id = (List.range rows.length).map freshId := by
    refine List.ext_getElem (by simp) fun k hk hk' => ?_
    rw [List.getElem_map, List.getElem_mapIdx, List.getElem_map, List.getElem_range]
    exact @Row.sameIn_readAll_of_not_mem .id _ _ _ (List.nodup_cons.1 (Row.nodup_exportFields hcolumns)).1 _
  have hledger := WorkingSet.ledger_appendBatch_of_nodup columns (hids ▸ List.nodup_range.map hfresh)
  rw [trip?, hheaders]
  dsimp only
  rw [hread, hset]
  dsimp only
  refine congrArg some ((congrArg Ledger.rows hledger).trans (List.ext_getElem (by simp) fun k hk hk' => ?_))
  rw [List.getElem_map, List.getElem_mapIdx, List.getElem_mapIdx]
  rfl

/-- **A table settles after one trip.** Whatever rows with the columns hold in cells of the columns' kinds, they
come back from a trip and from a second one after it, and the second time nothing in them is changed but their
ids and source ids. -/
theorem trips_settle (hcolumns : Labelled columns) (huniform : ∀ row ∈ rows, row.Uniform columns)
    (htyped : ∀ row ∈ rows, ∀ column ∈ columns, ∀ value, row.cells.get? column.id = some value →
      column.kind.Holds value)
    (hfresh : freshId.Injective) (hfresh' : freshId'.Injective) :
    ∃ once twice, trip? freshId columns rows = some once ∧ trip? freshId' columns once = some twice ∧
      once.length = rows.length ∧
      List.Forall₂ (fun again row => ∀ f, f ≠ .id → f ≠ .sourceId → Row.SameIn f again row) twice once := by
  refine ⟨_, _, trip?_eq hcolumns hfresh rows, trip?_eq hcolumns hfresh' _, by simp, ?_⟩
  rw [List.forall₂_iff_get]
  refine ⟨by simp, fun k hk hk' f hid hsource => ?_⟩
  have hlt : k < rows.length := by simpa using hk'
  simp only [List.get_eq_getElem, List.getElem_mapIdx]
  exact Row.sameIn_carried_carried hcolumns (huniform _ (List.getElem_mem hlt))
    (htyped _ (List.getElem_mem hlt)) _ _ hid hsource

/-- What stands in the column of a kind: a text with blanks around it, a number that is none, a truth value. -/
def untidyValue : ColumnKind → Value
  | .text => .text "  oran "
  | .number => .number .notANumber
  | .boolean => .bool true

/-- A row with a blank name, an empty image, and items that are blank or hold a comma or a bar. -/
def untidy : Row :=
  { id := "a"
    name := " \t"
    image := some ""
    categories := ["fire|ice ", " , "]
    capabilities := ["a,b", "", " c"]
    cells := .ofList (markColumns.map fun column => (column.id, untidyValue column.kind)) }

theorem get?_untidy :
    ∀ column ∈ markColumns, untidy.cells.get? column.id = some (untidyValue column.kind) := by
  decide +kernel

/-- Two such rows come back once, and then as they are. -/
theorem trips_settle_untidy :
    let freshId := fun k => String.ofList (List.replicate k 'x')
    ∃ once twice, trip? freshId markColumns [untidy, untidy] = some once ∧
      trip? freshId markColumns once = some twice ∧ once.length = 2 ∧
      List.Forall₂ (fun again row => ∀ f, f ≠ .id → f ≠ .sourceId → Row.SameIn f again row) twice once := by
  have hfresh : (fun k => String.ofList (List.replicate k 'x')).Injective := fun j k h => by
    simpa using congrArg String.toList h
  have hkeys : untidy.cells.keys = ["favourite_berry", "seen", "weight"] := by decide +kernel
  have hids : markColumns.map Column.id = ["favourite_berry", "weight", "seen"] := by decide +kernel
  refine trips_settle labelled_markColumns (fun row hrow key => ?_) (fun row hrow column hcolumn value hvalue => ?_)
    hfresh hfresh
  · obtain rfl : row = untidy := by simpa using hrow
    rw [hkeys, hids]
    simp [or_comm]
  · obtain rfl : row = untidy := by simpa using hrow
    rw [get?_untidy column hcolumn, Option.some.injEq] at hvalue
    subst hvalue
    cases column.kind <;> trivial

end Trip

end Fieldbook
