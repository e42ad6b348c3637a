import Fieldbook.Proofs.Assignment
import Fieldbook.Proofs.Csv
import Fieldbook.Proofs.Double.Whole
import Fieldbook.Proofs.Exchange.Plan
import Fieldbook.Proofs.WorkingSet.Parts

/-!
# Tables of rows, written and read

Rows that go out as a table and come back into a working set with the same columns have the same content
as before (`importRows_exportRows`), if what their cells say can be read at all (`Row.Portable`). Ids are
new, and nothing is said about source ids.

Reading a record is reading its fields one after another, each into its own place of the row. So what is
read for a field is what would have been read for it alone (`sameIn_readAll`), and only fields one by one
are left to be compared (`sameIn_written`). A declared column that was blank in the table gets its default
when the row is put in, and the default is what a blank cell reads as (`readCell_blank`).
-/

namespace Fieldbook

/-- The same value. Numbers are compared as numbers. -/
def Value.equals : Value → Value → Bool
  | .number x, .number y => x.equals y
  | x, y => x == y

/-! ## Reading fields -/

namespace Row

variable {field : Field} {a b : Row} {columns : List Column}

theorem sameBut_self (field : Field) (a : Row) : SameBut field a a := by
  constructor <;> intros <;> rfl

/-- A cell that is read changes its field and no other. -/
theorem sameBut_readCell (columns : List Column) (a : Row) (field : Field) (cell : String) :
    SameBut field (a.readCell columns field cell) a := by
  rw [readCell.eq_def]
  dsimp only
  split
  · exact sameBut_self field a
  · cases field with
    | id => exact sameBut_self .id a
    | sourceId => exact a.sameBut_assign (.sourceId (readSourceId (Text.trim cell)))
    | name => exact a.sameBut_assign (.name _)
    | image => exact a.sameBut_assign (.image (some _))
    | categories => exact a.sameBut_assign (.categories _)
    | classification => exact a.sameBut_assign (.classification (readCount (Text.trim cell)))
    | capabilities => exact a.sameBut_assign (.capabilities _)
    | stat s => exact a.sameBut_assign (.stat s (readCount (Text.trim cell)))
    | dynamic key =>
      dsimp only
      split
      · exact a.sameBut_assign (.cell key _)
      · exact sameBut_self (.dynamic key) a

/-- What is read into a field does not depend on the others. -/
theorem SameIn.readCell (h : SameIn field a b) (columns : List Column) (cell : String) :
    SameIn field (a.readCell columns field cell) (b.readCell columns field cell) := by
  rw [Row.readCell.eq_def, Row.readCell.eq_def columns b]
  dsimp only
  split
  · exact h
  · cases field with
    | id => exact h
    | stat s => exact (a.stats.get_set_self s _).trans (b.stats.get_set_self s _).symm
    | dynamic key =>
      dsimp only
      split
      · exact (a.cells.get?_put_self key _).trans (b.cells.get?_put_self key _).symm
      · exact h
    | _ => rfl

/-- Reads fields from cells, one after another. -/
def readAll (columns : List Column) (cell : Field → String) (row : Row) (fields : List Field) : Row :=
  fields.foldl (fun row f => row.readCell columns f (cell f)) row

theorem readAll_cons (columns : List Column) (cell : Field → String) (row : Row) (f : Field)
    (fields : List Field) :
    readAll columns cell row (f :: fields) =
      readAll columns cell (row.readCell columns f (cell f)) fields := by
  rw [readAll, List.foldl_cons, readAll]

/-- Blanks around a cell do not matter. -/
theorem readCell_trim (columns : List Column) (a : Row) (field : Field) (cell : String) :
    a.readCell columns field (Text.trim cell) = a.readCell columns field cell := by
  rw [readCell.eq_def, readCell.eq_def columns a field cell, Text.trim_trim]

variable {cell : Field → String} {fields : List Field}

/-- A field that is not read stays as it is. -/
theorem sameIn_readAll_of_not_mem (h : field ∉ fields) (row : Row) :
    SameIn field (readAll columns cell row fields) row := by
  induction fields generalizing row with
  | nil => exact .refl field row
  | cons f rest ih =>
    rw [List.mem_cons, not_or] at h
    rw [readAll_cons]
    exact (ih h.2 _).trans ((sameBut_readCell columns row f (cell f)).sameIn (Ne.symm h.1))

/-- **Of different fields each is read as if it were the only one.** -/
theorem sameIn_readAll (hnodup : fields.Nodup) (h : field ∈ fields) (row : Row) :
    SameIn field (readAll columns cell row fields) (row.readCell columns field (cell field)) := by
  induction fields generalizing row with
  | nil => cases h
  | cons f rest ih =>
    rw [List.nodup_cons] at hnodup
    rw [readAll_cons]
    rcases List.mem_cons.1 h with rfl | h
    · exact sameIn_readAll_of_not_mem hnodup.1 _
    · have hne : f ≠ field := fun heq => hnodup.1 (heq ▸ h)
      have hbefore := (sameBut_readCell columns row f (cell f)).sameIn hne
      exact (ih hnodup.2 h _).trans (hbefore.readCell columns (cell field))

/-- A record that has a cell for each field in its turn is read field by field. -/
theorem foldl_zipIdx (columns : List Column) (cell : Field → String) (fields : List Field)
    (front : List String) (row : Row) :
    (fields.zipIdx front.length).foldl (fun row (f, place) =>
        match (front ++ fields.map cell)[place]? with
        | some text => row.readCell columns f text
        | none => row) row =
      readAll columns cell row fields := by
  induction fields generalizing front row with
  | nil => rfl
  | cons f rest ih =>
    have hrest := ih (front ++ [cell f]) (row.readCell columns f (cell f))
    rw [List.length_append, List.length_singleton, List.append_assoc, List.singleton_append] at hrest
    have hhere : (front ++ cell f :: rest.map cell)[front.length]? = some (cell f) := by simp
    rw [List.zipIdx_cons, List.foldl_cons, List.map_cons]
    dsimp only
    rw [hhere, hrest, readAll_cons]

/-! ## Rows that a table can carry -/

/-- What the cells of a row say can be read from a table: the name and the image are neither empty nor
surrounded by blanks, lists have no items that cannot stand in a cell, declared cells are of their
column's kind, texts have no blanks around them, and numbers read as the numbers they show. -/
structure Portable (columns : List Column) (row : Row) : Prop where
  uniform : row.Uniform columns
  typed : ∀ column ∈ columns, ∀ value, row.cells.get? column.id = some value → column.kind.Holds value
  name : row.name ≠ "" ∧ Text.trim row.name = row.name
  image : ∀ image, row.image = some image → image ≠ "" ∧ Text.trim image = image
  categories : ∀ item ∈ row.categories, Text.IsItem item
  capabilities : ∀ item ∈ row.capabilities, Text.IsItem item
  text : ∀ column ∈ columns, ∀ s, row.cells.get? column.id = some (.text s) → Text.trim s = s
  number : ∀ column ∈ columns, ∀ x, row.cells.get? column.id = some (.number x) →
    (ColumnKind.number.readCell (Value.number x).shown).equals (.number x) = true

/-- The rows have the same content: all but their ids and source ids. -/
structure SameContent (a b : Row) : Prop where
  name : a.name = b.name
  image : a.image = b.image
  categories : a.categories = b.categories
  classification : a.classification = b.classification
  capabilities : a.capabilities = b.capabilities
  stats : a.stats = b.stats
  cells : ∀ key, Option.Rel (fun x y => Value.equals x y = true) (a.cells.get? key) (b.cells.get? key)

variable {row : Row}

/-! ## Cells, written and read -/

theorem toString_ne_empty (n : Nat) : toString n ≠ "" := by
  rw [Nat.toString_eq_repr, Nat.repr_eq_ofList_toDigits]
  intro h
  have hnil : Nat.toDigits 10 n = [] := by simpa using congrArg String.toList h
  exact Nat.toDigits_ne_nil hnil

theorem trim_toString (n : Nat) : Text.trim (toString n) = toString n := by
  refine Text.trim_of_not_isBlank fun c hc => Text.isBlank_of_isDigit ?_
  rw [Nat.toString_eq_repr, Nat.repr_eq_ofList_toDigits, String.toList_ofList] at hc
  exact Nat.isDigit_of_mem_toDigits (by decide) (by decide) hc

/-- A count shows its digits. -/
theorem shown_count (n : UInt32) : (Value.number (.ofNat n.toNat)).shown = toString n.toNat :=
  Double.plain_ofNat (Nat.lt_trans n.toNat_lt (by decide))

/-- **A count is read from its digits**, over the full range. -/
theorem readCount_toString (n : UInt32) : readCount (toString n.toNat) = n := by
  have hlt := n.toNat_lt
  have hle : n.toNat ≤ UInt32.size - 1 := by simp only [UInt32.size]; omega
  rw [readCount, Double.read?_toString (by omega), Option.bind_some,
    Double.truncated?_ofNat hle (by omega)]
  exact UInt32.ofNat_toNat

/-- A list of no items leaves a blank cell; any other is read from its cell. -/
theorem joinItems_cases {items : List String} (h : ∀ item ∈ items, Text.IsItem item) :
    Text.trim (Text.joinItems "|" items) = Text.joinItems "|" items ∧
      (Text.joinItems "|" items = "" → [] = items) ∧
      Text.splitItems (Text.joinItems "|" items) = items := by
  have hbar : "|".toList = ['|'] := by decide
  have hsplit := Text.splitItems_joinItems hbar (by decide) h
  refine ⟨Text.trim_joinItems hbar h, fun hempty => ?_, hsplit⟩
  rw [hempty] at hsplit
  exact hsplit

/-- The cell of a field that is there and no list is the text of its value. -/
theorem writeCell_eq {f : Field} {kind : ColumnKind} {value : Value} (hvalue : row.get? f = some value)
    (hholds : kind.Holds value) : row.writeCell f = value.shown := by
  rw [writeCell, hvalue]
  cases value with
  | null => cases kind <;> cases hholds
  | list items => cases kind <;> cases hholds
  | _ => rfl

/-- **A fixed field other than the ids is read as it was written.** -/
theorem sameIn_written (h : row.Portable columns) {f : Field} (hf : f ∈ Field.fixed) (hid : f ≠ .id)
    (hsource : f ≠ .sourceId) (id : String) :
    SameIn f ((blank id).readCell columns f (row.writeCell f)) row := by
  rw [readCell.eq_def]
  dsimp only
  cases f with
  | id => exact absurd rfl hid
  | sourceId => exact absurd rfl hsource
  | name =>
    have hcell : row.writeCell .name = row.name := rfl
    rw [hcell, h.name.2, if_neg (mt String.isEmpty_iff.1 h.name.1)]
    rfl
  | image =>
    cases himage : row.image with
    | none =>
      have hcell : row.writeCell .image = "" := by rw [writeCell, get?, himage]; rfl
      rw [hcell]
      exact himage.symm
    | some image =>
      obtain ⟨hne, htrim⟩ := h.image image himage
      have hcell : row.writeCell .image = image := by rw [writeCell, get?, himage]; rfl
      rw [hcell, htrim, if_neg (mt String.isEmpty_iff.1 hne)]
      exact himage.symm
  | categories =>
    obtain ⟨htrim, hblank, hsplit⟩ := joinItems_cases h.categories
    have hcell : row.writeCell .categories = Text.joinItems "|" row.categories := rfl
    rw [hcell, htrim]
    split
    · next hempty => exact hblank (String.isEmpty_iff.1 hempty)
    · exact hsplit
  | capabilities =>
    obtain ⟨htrim, hblank, hsplit⟩ := joinItems_cases h.capabilities
    have hcell : row.writeCell .capabilities = Text.joinItems "|" row.capabilities := rfl
    rw [hcell, htrim]
    split
    · next hempty => exact hblank (String.isEmpty_iff.1 hempty)
    · exact hsplit
  | classification =>
    have hcell : row.writeCell .classification = toString row.classification.toNat := by
      rw [← shown_count]
      exact @writeCell_eq row .classification .number _ rfl trivial
    rw [hcell, trim_toString, if_neg (mt String.isEmpty_iff.1 (toString_ne_empty _)),
      readCount_toString]
    rfl
  | stat s =>
    have hcell : row.writeCell (.stat s) = toString (row.stats.get s).toNat := by
      rw [← shown_count]
      exact @writeCell_eq row (.stat s) .number _ rfl trivial
    rw [hcell, trim_toString, if_neg (mt String.isEmpty_iff.1 (toString_ne_empty _)),
      readCount_toString]
    exact BaseStats.get_set_self _ s _
  | dynamic key => simp [Field.fixed, Stat.all] at hf

end Row

namespace ColumnKind

/-- What a blank cell reads as is what a cell holds before anything is put into it. -/
theorem readCell_blank (kind : ColumnKind) {cell : String} (h : Text.trim cell = "") :
    kind.readCell cell = kind.default := by
  rw [readCell.eq_def, h]
  cases kind <;> decide

/-- **A cell of the kind is read as it was written**, if it is written so that it can be read. -/
theorem equals_readCell {kind : ColumnKind} {value : Value} (hholds : kind.Holds value)
    (htext : ∀ s, value = .text s → Text.trim s = s)
    (hnumber : ∀ x, value = .number x →
      (ColumnKind.number.readCell (Value.number x).shown).equals (.number x) = true) :
    (kind.readCell value.shown).equals value = true := by
  cases kind with
  | text =>
    cases value with
    | text s =>
      have hread : text.readCell (Value.text s).shown = .text s := congrArg Value.text (htext s rfl)
      rw [hread]
      exact beq_self_eq_true _
    | _ => cases hholds
  | number =>
    cases value with
    | number x => exact hnumber x rfl
    | _ => cases hholds
  | boolean =>
    cases value with
    | bool b => cases b <;> decide
    | _ => cases hholds

end ColumnKind

namespace Row

/-- The cell of a declared column that is read into a blank row, or its default. -/
theorem getD_readCell (h : Labelled columns) {column : Column} (hcolumn : column ∈ columns)
    (id cell : String) :
    (((blank id).readCell columns column.field cell).cells.get? column.id).getD column.kind.default =
      column.kind.readCell cell := by
  rw [readCell.eq_def]
  dsimp only [Column.field]
  split
  · next hempty => exact (column.kind.readCell_blank (String.isEmpty_iff.1 hempty)).symm
  · rw [find?_key h.ids hcolumn]
    dsimp only
    rw [Cells.get?_put_self, Option.getD_some, ColumnKind.readCell.eq_def,
      ColumnKind.readCell.eq_def _ cell, Text.trim_trim]

theorem nodup_exportFields (h : Labelled columns) : (exportFields columns).Nodup := by
  have hfields : columns.map Column.field = (columns.map Column.id).map Field.dynamic := by
    rw [List.map_map]
    rfl
  rw [exportFields, List.nodup_append, hfields]
  refine ⟨by decide, h.ids.map fun _ _ heq => Field.dynamic.inj heq, ?_⟩
  rintro f hf g hg rfl
  obtain ⟨id, -, rfl⟩ := List.mem_map.1 hg
  simp [Field.fixed, Stat.all] at hf

/-- What a row becomes when it is written as a record, read from it as the row with the id, and brought in line
with the columns. -/
def carried (columns : List Column) (id : String) (row : Row) : Row :=
  WorkingSet.conform columns
    (readAll columns (fun f => Text.trim (row.writeCell f)) (.blank id) (exportFields columns).tail)

/-- Each field is read from its own cell alone. -/
theorem sameIn_readAll_written (hcolumns : Labelled columns) {f : Field} (hf : f ∈ (exportFields columns).tail)
    (id : String) (row : Row) :
    SameIn f
      (readAll columns (fun f => Text.trim (row.writeCell f)) (.blank id) (exportFields columns).tail)
      ((blank id).readCell columns f (row.writeCell f)) := by
  rw [← readCell_trim]
  exact sameIn_readAll (nodup_exportFields hcolumns).tail hf (.blank id)

theorem sameIn_carried (hcolumns : Labelled columns) {f : Field} (hf : f ∈ Field.fixed.tail) (id : String)
    (row : Row) :
    SameIn f (row.carried columns id) ((blank id).readCell columns f (row.writeCell f)) := by
  have hfields : (exportFields columns).tail = Field.fixed.tail ++ columns.map Column.field := rfl
  have hread := sameIn_readAll_written hcolumns (hfields ▸ List.mem_append_left _ hf) id row
  rw [carried]
  generalize readAll columns (fun f => Text.trim (row.writeCell f)) (.blank id)
    (exportFields columns).tail = imported at hread ⊢
  cases f with
  | dynamic key => simp [Field.fixed, Stat.all] at hf
  | _ => exact hread

/-- The cell of a declared column is what its kind reads from the text that the value shows. -/
theorem get?_carried (hcolumns : Labelled columns) {column : Column} (hcolumn : column ∈ columns)
    {row : Row} {value : Value} (hvalue : row.cells.get? column.id = some value) (hholds : column.kind.Holds value)
    (id : String) :
    (row.carried columns id).cells.get? column.id = some (column.kind.readCell value.shown) := by
  have hfields : (exportFields columns).tail = Field.fixed.tail ++ columns.map Column.field := rfl
  have hread := sameIn_readAll_written hcolumns
    (hfields ▸ List.mem_append_right _ (List.mem_map_of_mem (f := Column.field) hcolumn)) id row
  rw [carried, WorkingSet.conform, WorkingSet.get?_conformCells, find?_key hcolumns.ids hcolumn,
    Option.map_some, hread, getD_readCell hcolumns hcolumn,
    writeCell_eq (f := column.field) hvalue hholds]

/-- **A row that a table can carry has the content that it had** when it is read from its record and
brought in line with the columns. -/
theorem sameContent_readAll (hcolumns : Labelled columns) (h : row.Portable columns) (id : String) :
    SameContent (WorkingSet.conform columns
        (readAll columns (fun f => Text.trim (row.writeCell f)) (.blank id) (exportFields columns).tail))
      row := by
  change SameContent (row.carried columns id) row
  have hfixed : ∀ f ∈ Field.fixed.tail, f ≠ .sourceId → SameIn f (row.carried columns id) row := by
    intro f hf hsource
    have hid : f ≠ .id := by rintro rfl; revert hf; decide
    exact (sameIn_carried hcolumns hf id row).trans
      (sameIn_written h (List.mem_of_mem_tail hf) hid hsource id)
  constructor
  case name => exact hfixed .name (by decide) nofun
  case image => exact hfixed .image (by decide) nofun
  case categories => exact hfixed .categories (by decide) nofun
  case classification => exact hfixed .classification (by decide) nofun
  case capabilities => exact hfixed .capabilities (by decide) nofun
  case stats =>
    refine BaseStats.ext_get fun s => hfixed (.stat s) ?_ nofun
    cases s <;> decide
  case cells =>
    intro key
    cases hfind : columns.find? (·.id == key) with
    | none =>
      have hnone : row.cells.get? key = none := by
        refine Option.not_isSome_iff_eq_none.1 fun hsome => ?_
        obtain ⟨column, hcolumn, hid⟩ := List.mem_map.1 ((h.uniform key).1 (Cells.mem_keys_iff.2 hsome))
        exact List.find?_eq_none.1 hfind column hcolumn (beq_iff_eq.2 hid)
      rw [carried, WorkingSet.conform, WorkingSet.get?_conformCells, hfind, hnone]
      exact .none
    | some column =>
      obtain rfl : column.id = key := eq_of_beq (List.find?_some hfind :)
      have hcolumn := List.mem_of_find?_eq_some hfind
      obtain ⟨value, hvalue⟩ := Option.isSome_iff_exists.1 <|
        Cells.mem_keys_iff.1 ((h.uniform column.id).2 (List.mem_map_of_mem hcolumn))
      have hholds := h.typed column hcolumn value hvalue
      rw [get?_carried hcolumns hcolumn hvalue hholds, hvalue]
      refine .some (ColumnKind.equals_readCell hholds ?_ ?_)
      · rintro s rfl
        exact h.text column hcolumn s hvalue
      · rintro x rfl
        exact h.number column hcolumn x hvalue

/-- A record of a written table is read field by field, the id left out. -/
theorem ofRecord_written (columns : List Column) (row : Row) (id : String) :
    ofRecord columns (exportFields columns).zipIdx.tail id
        (((exportFields columns).map row.writeCell).map Text.trim) =
      readAll columns (fun f => Text.trim (row.writeCell f)) (.blank id) (exportFields columns).tail := by
  have hfields : exportFields columns = .id :: (exportFields columns).tail := rfl
  have hfold := foldl_zipIdx columns (fun f => Text.trim (row.writeCell f)) (exportFields columns).tail
    [Text.trim (row.writeCell .id)] (.blank id)
  rw [← hfold, ofRecord, List.map_map]
  rw [hfields, List.zipIdx_cons, List.tail_cons, List.map_cons]
  rfl

end Row

/-! ## Whole tables -/

section Table

variable {columns : List Column} {rows : List Row} {freshId : Nat → String}

/-- **A written table is read record by record**, whatever is written, under its own headers without
the blanks at their ends. -/
theorem readTable_written (rows : List Row) (columns : List Column) :
    readHeaders (Symbol.ofBytes (exportRows rows columns).toUTF8) =
        .ok (((exportFields columns).map Field.key).map Text.trim) ∧
      ∀ freshId mapping known,
        importRows freshId mapping known (Symbol.ofBytes (exportRows rows columns).toUTF8) =
          .ok (rows.mapIdx fun k row =>
            Row.ofRecord known
              (mapping.plan known (((exportFields columns).map Field.key).map Text.trim)) (freshId k)
              (((exportFields columns).map row.writeCell).map Text.trim)) := by
  have hne : ∀ record ∈ exportRecords rows columns, record ≠ [] := by
    intro record hrecord
    rcases List.mem_cons.1 hrecord with rfl | hrecord
    · exact List.cons_ne_nil _ _
    · obtain ⟨row, -, rfl⟩ := List.mem_map.1 hrecord
      exact List.cons_ne_nil _ _
  have hmark : (exportRows rows columns).toList.head? ≠ some '\uFEFF' := by
    -- The file begins with the header of the id.
    have hkeys : ∃ keys, (exportFields columns).map Field.key = "id" :: "sourceId" :: keys := ⟨_, rfl⟩
    obtain ⟨keys, hkeys⟩ := hkeys
    have hid : Csv.writeCell "id".toList = ['i', 'd'] := by decide
    rw [exportRows, exportRecords, hkeys, Csv.write, String.toList_ofList, List.flatMap_cons,
      Csv.writeRecord, List.map_cons, List.map_cons, List.intercalate_cons_cons, hid]
    · simp
    · simp
  have hheaders := Csv.headers?_write hne hmark
  have htable := Csv.table?_write hne hmark
  rw [Symbol.ofBytes_toUTF8]
  refine ⟨?_, fun freshId mapping known => ?_⟩
  · rw [readHeaders, exportRows, exportRecords, hheaders]
  · rw [importRows, exportRows, exportRecords, htable]
    dsimp only
    refine congrArg Except.ok (List.ext_getElem (by simp) fun k hk hk' => ?_)
    rw [List.getElem_mapIdx, List.getElem_mapIdx, List.getElem_map, List.getElem_map]

/-- **A table is read with its own headers, and as the rows that its records are**, if its columns are
made from labels. -/
theorem importRows_written (hcolumns : Labelled columns) (rows : List Row) (freshId : Nat → String) :
    readHeaders (Symbol.ofBytes (exportRows rows columns).toUTF8) =
        .ok ((exportFields columns).map Field.key) ∧
      importRows freshId (.auto ((exportFields columns).map Field.key)) columns
          (Symbol.ofBytes (exportRows rows columns).toUTF8) =
        .ok (rows.mapIdx fun k row =>
          Row.readAll columns (fun f => Text.trim (row.writeCell f)) (.blank (freshId k))
            (exportFields columns).tail) := by
  obtain ⟨hheaders, hread⟩ := readTable_written rows columns
  rw [hcolumns.trim_keys] at hheaders hread
  refine ⟨hheaders, (hread freshId _ columns).trans ?_⟩
  rw [Mapping.plan_keys hcolumns]
  refine congrArg Except.ok (congrArg (rows.mapIdx ·) (funext fun k => funext fun row => ?_))
  exact Row.ofRecord_written columns row (freshId k)

/-- **Rows that a table can carry come back from it with the content that they had**, in their order,
when their table is read through the mapping guessed from its headers and put into a working set without
rows but with the same columns. -/
theorem importRows_exportRows (hcolumns : Labelled columns) (hrows : ∀ row ∈ rows, row.Portable columns)
    (hfresh : freshId.Injective) :
    ∃ headers imported set,
      readHeaders (Symbol.ofBytes (exportRows rows columns).toUTF8) = .ok headers ∧
      importRows freshId (.auto headers) columns (Symbol.ofBytes (exportRows rows columns).toUTF8) =
        .ok imported ∧
      WorkingSet.ofParts columns [] = .ok set ∧
      (set.appendBatch imported).2 = rows.length ∧
      (set.appendBatch imported).1.columns = columns ∧
      List.Forall₂ Row.SameContent (set.appendBatch imported).1.rows.toList rows := by
  obtain ⟨hheaders, hread⟩ := importRows_written hcolumns rows freshId
  generalize himported : (rows.mapIdx fun k row =>
    Row.readAll columns (fun f => Text.trim (row.writeCell f)) (.blank (freshId k))
      (exportFields columns).tail) = imported at hread
  have hset : WorkingSet.ofParts columns [] = .ok { columns } :=
    WorkingSet.ofParts_eq hcolumns.ids hcolumns.usable []
  have hfollows := WorkingSet.follows_appendBatch (WorkingSet.indexed_clear { columns }) imported
  have hids : imported.map Row.id = (List.range rows.length).map freshId := by
    subst himported
    refine List.ext_getElem (by simp) fun k hk hk' => ?_
    rw [List.getElem_map, List.getElem_mapIdx, List.getElem_map, List.getElem_range]
    exact @Row.sameIn_readAll_of_not_mem .id _ _ _ (List.nodup_cons.1 (Row.nodup_exportFields hcolumns)).1 _
  have hnodup : (imported.map Row.id).Nodup := hids ▸ List.nodup_range.map hfresh
  have happend := @Ledger.append_eq_conform { columns } imported hnodup
  have hledger := hfollows.ledger_eq.trans (congrArg Prod.fst happend)
  refine ⟨_, imported, { columns }, hheaders, hread, hset, ?_, congrArg Ledger.columns hledger, ?_⟩
  · refine hfollows.answer_eq.trans ((congrArg Prod.snd happend).trans ?_)
    rw [← himported, List.length_mapIdx]
  · have hafter : ((WorkingSet.appendBatch { columns } imported).1).rows.toList =
        imported.map (WorkingSet.conform columns) := congrArg Ledger.rows hledger
    rw [hafter, ← himported, List.forall₂_iff_get]
    refine ⟨by simp, fun k hk hk' => ?_⟩
    rw [List.get_eq_getElem, List.get_eq_getElem, List.getElem_map, List.getElem_mapIdx]
    exact Row.sameContent_readAll hcolumns (hrows _ (List.getElem_mem hk')) (freshId k)

end Table

/-! ## A table with quotes, commas and bars -/

/-- A column of each kind. -/
def markColumns : List Column :=
  [.ofLabel "Favourite Berry" .text, .ofLabel "Weight" .number, .ofLabel "Seen" .boolean]

/-- What stands in the column of a kind: a text that looks like a list, a number that is no whole one,
and a truth value. -/
def markValue : ColumnKind → Value
  | .text => .text "oran | sitrus"
  | .number => .number (.ofDecimal false ⟨545, -1⟩)
  | .boolean => .bool false

/-- A row with quotes and a comma in its name and the largest count. -/
def marked : Row :=
  { id := "a"
    sourceId := 122
    name := "Mime, \"the mime\""
    categories := ["psychic", "fairy"]
    classification := 4294967295
    stats := { speed := 90 }
    cells := .ofList (markColumns.map fun column => (column.id, markValue column.kind)) }

theorem labelled_markColumns : Labelled markColumns where
  ofLabel column h := by
    rcases List.mem_cons.1 h with rfl | h
    · exact ⟨_, _, rfl⟩
    rcases List.mem_cons.1 h with rfl | h
    · exact ⟨_, _, rfl⟩
    · rw [List.mem_singleton.1 h]
      exact ⟨_, _, rfl⟩
  ids := by decide +kernel
  usable := by decide +kernel

theorem get?_marked :
    ∀ column ∈ markColumns, marked.cells.get? column.id = some (markValue column.kind) := by
  decide +kernel

theorem portable_marked : marked.Portable markColumns where
  uniform key := by
    have hkeys : marked.cells.keys = ["favourite_berry", "seen", "weight"] := by decide +kernel
    have hids : markColumns.map Column.id = ["favourite_berry", "weight", "seen"] := by decide +kernel
    rw [hkeys, hids]
    simp [or_comm]
  typed column hcolumn value hvalue := by
    rw [get?_marked column hcolumn, Option.some.injEq] at hvalue
    subst hvalue
    cases column.kind <;> trivial
  name := by decide +kernel
  image _ h := nomatch h
  categories item h := by
    have hitem : ∀ item ∈ marked.categories,
        item ≠ "" ∧ Text.trim item = item ∧ '|' ∉ item.toList ∧ ',' ∉ item.toList := by decide +kernel
    exact ⟨(hitem item h).1, (hitem item h).2.1, (hitem item h).2.2⟩
  capabilities _ h := nomatch h
  text column hcolumn s hs := by
    rw [get?_marked column hcolumn, Option.some.injEq] at hs
    cases hkind : column.kind with
    | text =>
      rw [hkind] at hs
      cases hs
      decide +kernel
    | _ => rw [hkind] at hs; cases hs
  number column hcolumn x hx := by
    rw [get?_marked column hcolumn, Option.some.injEq] at hx
    cases hkind : column.kind with
    | number =>
      rw [hkind] at hx
      rw [← hx]
      decide +kernel
    | _ => rw [hkind] at hx; cases hx

/-- Two rows of one id come back as two rows. -/
theorem importRows_exportRows_marked :
    ∃ headers imported set,
      readHeaders (Symbol.ofBytes (exportRows [marked, marked] markColumns).toUTF8) = .ok headers ∧
      importRows (fun k => String.ofList (List.replicate k 'x')) (.auto headers) markColumns
          (Symbol.ofBytes (exportRows [marked, marked] markColumns).toUTF8) = .ok imported ∧
      WorkingSet.ofParts markColumns [] = .ok set ∧
      (set.appendBatch imported).2 = 2 ∧
      (set.appendBatch imported).1.columns = markColumns ∧
      List.Forall₂ Row.SameContent (set.appendBatch imported).1.rows.toList [marked, marked] := by
  refine importRows_exportRows labelled_markColumns (fun row hrow => ?_) fun j k h => ?_
  · have hmarked : row = marked := by simpa using hrow
    exact hmarked ▸ portable_marked
  · simpa using congrArg String.toList h

end Fieldbook
