import Fieldbook.Proofs.Json.Documents
import Fieldbook.Proofs.Lists
import Fieldbook.Proofs.Snapshot.Values

/-!
# Snapshots, written and read

A snapshot is read back from its file (`Snapshot.read?_text_eq`): the document is one that can be written,
so it is read back as a document, and each part of the program's data is made of its document again, a
value, a column, a row with its statistics among its members.

* the five kinds of values are told apart by the form of their documents alone (`Value.ofJson?_toJson`);
* only a number may be another one afterwards; `Double.ReadsBack` says of a number that it is not
  (`Double.readsBack_iff_reread`);
* when all numbers read back, the snapshot that is read is the one that was written (`Snapshot.read?_text`).
-/

namespace Fieldbook

/-- Reading the items that were made of values gives what is read for each value. -/
theorem mapM_map {α β γ : Type} {write : α → β} {read? : β → Option γ} {read : α → γ} {items : List α}
    (h : ∀ a, read? (write a) = some (read a)) :
    (items.map write).mapM read? = some (items.map read) := by
  induction items with
  | nil => rfl
  | cons a items ih =>
    rw [List.map_cons, List.mapM_cons, h a, ih]
    rfl

/-- Reading the items that were made of values gives the values if each is read as it was. -/
theorem mapM_map_eq_self {α β : Type} {write : α → β} {read? : β → Option α} {items : List α}
    (h : ∀ a, read? (write a) = some a) : (items.map write).mapM read? = some items :=
  (mapM_map h).trans (congrArg some items.map_id)

namespace Json

theorem areWritten_iff {items : List Json} : AreWritten items ↔ ∀ j ∈ items, j.IsWritten := by
  induction items with
  | nil => simp [AreWritten]
  | cons j items ih => simp [AreWritten, ih]

/-- A record can be written if its members can. -/
theorem isWritten_ofMembers {members : List (String × Json)} (h : ∀ m ∈ members, m.2.IsWritten) :
    (ofMembers members).IsWritten := by
  rw [ofMembers, IsWritten]
  induction members with
  | nil => trivial
  | cons m members ih =>
    exact ⟨rfl, h m List.mem_cons_self, ih fun m' hm' => h m' (List.mem_cons_of_mem m hm')⟩

/-- A list can be written if its items can. -/
theorem isWritten_array_map {α : Type} {write : α → Json} (h : ∀ a, (write a).IsWritten)
    (items : List α) : (array (items.map write)).IsWritten := by
  rw [IsWritten, areWritten_iff]
  intro j hj
  obtain ⟨a, -, rfl⟩ := List.mem_map.1 hj
  exact h a

theorem isWritten_text (s : String) : (text s).IsWritten := rfl

theorem isWritten_texts (items : List String) : (texts items).IsWritten :=
  isWritten_array_map isWritten_text items

theorem isWritten_textOrNull (s : Option String) : (textOrNull s).IsWritten := by
  cases s with
  | none => trivial
  | some s => exact isWritten_text s

theorem isWritten_ofNat (n : Nat) : (number (.ofNat n)).IsWritten := Numeral.wellFormed_ofNat n

theorem toTexts?_texts (items : List String) : toTexts? (texts items) = some items :=
  mapM_map_eq_self fun _ => rfl

/-- A number of four bytes is read back as it is. -/
theorem toUInt32?_ofNat (n : UInt32) : toUInt32? (.number (.ofNat n.toNat)) = some n := by
  have hle : n.toNat ≤ UInt32.size - 1 := Nat.le_sub_one_of_lt n.toNat_lt_size
  rw [toUInt32?, toNat?, Numeral.toNat?_ofNat hle, Option.map_some, UInt32.ofNat_toNat]

/-- A number of eight bytes is read back as it is. -/
theorem toUInt64?_ofNat (n : UInt64) : toUInt64? (.number (.ofNat n.toNat)) = some n := by
  have hle : n.toNat ≤ UInt64.size - 1 := Nat.le_sub_one_of_lt n.toNat_lt_size
  rw [toUInt64?, toNat?, Numeral.toNat?_ofNat hle, Option.map_some, UInt64.ofNat_toNat]

theorem names?_ofMembers (members : List (String × Json)) :
    Record.names? (members.map fun (name, j) => (some name, j)) = some members :=
  mapM_map_eq_self fun _ => rfl

/-- A record is found in the object that has exactly its members. -/
theorem Record.ofJson?_ofMembers {names : List String} {members : List (String × Json)}
    (hnames : members.map Prod.fst = names) (hnodup : names.Nodup) :
    Record.ofJson? names (ofMembers members) = some ⟨false, members⟩ := by
  have hknown : (members.filter fun m => names.contains m.1) = members := by
    refine List.filter_eq_self.2 fun m hm => ?_
    simpa [← hnames] using ⟨m.2, hm⟩
  rw [ofMembers, Record.ofJson?, names?_ofMembers, Option.bind_eq_bind, Option.bind_some]
  dsimp only
  rw [hknown, hnames, if_pos hnodup]

end Json

/-! ## Values -/

/-- What is written for the number is read as the number. -/
def Double.ReadsBack (x : Double) : Prop :=
  (Json.read? (Symbol.ofText (Value.number x).toJson.pretty)).bind Value.ofJson? = some (.number x)

instance (x : Double) : Decidable x.ReadsBack := inferInstanceAs (Decidable (_ = _))

namespace Value

theorem isWritten_toJson (value : Value) : value.toJson.IsWritten := by
  cases value with
  | null => trivial
  | bool b => trivial
  | text s => exact Json.isWritten_text s
  | list items => exact Json.isWritten_texts items
  | number x =>
    rw [toJson]
    cases hn : Numeral.ofDouble? x with
    | none => trivial
    | some n => exact Numeral.wellFormed_of_ofDouble? hn

end Value

namespace Value

/-- **A value is always read back.** -/
theorem ofJson?_toJson (value : Value) : ofJson? value.toJson = some value.reread := by
  cases value with
  | null => rfl
  | bool b => rfl
  | text s => rfl
  | list items =>
    exact congrArg (Option.map _) (Json.toTexts?_texts items)
  | number x =>
    rw [reread]
    split
    · next hfinite =>
      obtain ⟨n, hn, hread⟩ := Option.bind_eq_some_iff.1 (Numeral.toDouble?_ofDouble? hfinite)
      rw [toJson, hn, Option.elim_some, ofJson?, hread, Option.map_some]
    · next hnot =>
      cases x with
      | finite negative x => exact absurd rfl hnot
      | notANumber => rfl
      | infinite negative => rfl

end Value

/-- A number reads back if its document does, for the text of a document is read as the document. -/
theorem Double.readsBack_iff {x : Double} :
    x.ReadsBack ↔ Value.ofJson? (Value.number x).toJson = some (.number x) := by
  rw [ReadsBack, Json.read?_pretty (Value.isWritten_toJson _)]
  rfl

/-- A number reads back if it is what is read of it. -/
theorem Double.readsBack_iff_reread {x : Double} : x.ReadsBack ↔ (Value.number x).reread = .number x := by
  rw [readsBack_iff, Value.ofJson?_toJson, Option.some_inj]

/-- A value other than a number that does not read back is read as it was, of its own kind. -/
theorem Value.reread_eq_self {value : Value} (h : ∀ x, value = .number x → x.ReadsBack) :
    value.reread = value := by
  cases value with
  | number x => exact Double.readsBack_iff_reread.1 (h x rfl)
  | _ => rfl

/-! ## Columns -/

namespace Column

theorem isWritten_toJson (column : Column) : column.toJson.IsWritten := by
  refine Json.isWritten_ofMembers ?_
  simp [Json.isWritten_text]

theorem ofJson?_toJson (column : Column) : ofJson? column.toJson = some column := by
  have hrecord : Json.Record.ofJson? ["id", "label", "kind"] column.toJson = some ⟨false, _⟩ :=
    Json.Record.ofJson?_ofMembers rfl (by decide)
  obtain ⟨id, label, kind⟩ := column
  rw [ofJson?, hrecord]
  cases kind <;> rfl

end Column

/-! ## Rows -/

namespace Cells

theorem isWritten_entries (cells : Cells) :
    (Json.ofMembers (cells.entries.map fun (key, value) => (key, value.toJson))).IsWritten := by
  refine Json.isWritten_ofMembers fun m hm => ?_
  obtain ⟨e, -, rfl⟩ := List.mem_map.1 hm
  exact e.2.isWritten_toJson

/-- No key comes twice, for the keys ascend. -/
theorem nodup_keys (cells : Cells) : cells.keys.Nodup := by
  refine cells.ascending.imp ?_
  rintro a b hlt rfl
  exact String.lt_irrefl a hlt

/-- Putting cells with different keys in one after another puts each of them in. -/
theorem get?_foldl_put {entries : List (String × Value)} (h : (entries.map Prod.fst).Nodup)
    (cells : Cells) (key : String) :
    (entries.foldl (fun cells e => cells.put e.1 e.2) cells).get? key =
      (entries.lookup key).or (cells.get? key) := by
  induction entries generalizing cells with
  | nil => rfl
  | cons e rest ih =>
    obtain ⟨hnew, hrest⟩ := List.nodup_cons.1 h
    rw [List.foldl_cons, ih hrest, lookup_cons_eq]
    by_cases hkey : key = e.1
    · subst hkey
      have hnone : rest.lookup e.1 = none := by
        rw [← Option.not_isSome_iff_eq_none, lookup_isSome_iff]
        exact hnew
      simp [hnone]
    · rw [if_neg hkey, get?_put_of_ne cells _ hkey]

/-- A table of cells is made of its entries. -/
theorem ofList_entries (cells : Cells) : ofList cells.entries = cells := by
  refine ext_get? fun key => ?_
  rw [ofList, get?_foldl_put cells.nodup_keys]
  exact Option.or_none

/-- Does something to every value. -/
def map (f : Value → Value) (cells : Cells) : Cells where
  entries := cells.entries.map fun (key, value) => (key, f value)
  ascending := by
    rw [List.map_map]
    exact cells.ascending

theorem get?_map (f : Value → Value) (cells : Cells) (key : String) :
    (cells.map f).get? key = (cells.get? key).map f := by
  rw [get?, get?]
  dsimp only [map]
  induction cells.entries with
  | nil => rfl
  | cons e rest ih =>
    rw [List.map_cons, lookup_cons_eq, lookup_cons_eq, ih]
    split <;> rfl

/-- Cells whose values stay are the same cells. -/
theorem map_eq_self {f : Value → Value} {cells : Cells}
    (h : ∀ key value, cells.get? key = some value → f value = value) : cells.map f = cells := by
  refine ext_get? fun key => ?_
  rw [get?_map]
  cases hvalue : cells.get? key with
  | none => rfl
  | some value => rw [Option.map_some, h key value hvalue]

/-- **Cells are read back under their keys.** -/
theorem ofJson?_entries (cells : Cells) :
    ofJson? (Json.ofMembers (cells.entries.map fun (key, value) => (key, value.toJson))) =
      some (cells.map Value.reread) := by
  have hread : ∀ e : String × Value,
      ((Value.ofJson? e.2.toJson).map fun value => (e.1, value)) = some (e.1, e.2.reread) := fun e => by
    rw [Value.ofJson?_toJson, Option.map_some]
  have hentries : (cells.entries.map fun (key, value) => (key, value.toJson)).mapM
      (fun (key, j) => (Value.ofJson? j).map fun value => (key, value)) =
        some (cells.map Value.reread).entries := mapM_map hread
  rw [Json.ofMembers, ofJson?, Json.names?_ofMembers, Option.bind_eq_bind, Option.bind_some, hentries,
    Option.bind_eq_bind, Option.bind_some, ofList_entries]
  rfl

end Cells

namespace Row

theorem isWritten_toJson (row : Row) : row.toJson.IsWritten := by
  refine Json.isWritten_ofMembers ?_
  simp [Json.isWritten_text, Json.isWritten_texts, Json.isWritten_textOrNull, Json.isWritten_ofNat,
    Cells.isWritten_entries, Stat.all]

/-- An object with no members but those of a row has nothing that could be unsound. -/
theorem hasSoundExtras_ofMembers {members : List (String × Json)}
    (h : members.map Prod.fst = memberNames) : hasSoundExtras (Json.ofMembers members) = true := by
  rw [Json.ofMembers, hasSoundExtras, List.all_map, List.all_eq_true]
  intro m hm
  have hname : m.1 ∈ memberNames := h ▸ List.mem_map_of_mem hm
  simp [hname]

/-- The members that are written for a row. -/
def members (row : Row) : List (String × Json) :=
  [("id", .text row.id), ("sourceId", .number (.ofNat row.sourceId.toNat)),
    ("name", .text row.name), ("image", .textOrNull row.image),
    ("categories", .texts row.categories),
    ("classification", .number (.ofNat row.classification.toNat)),
    ("capabilities", .texts row.capabilities)] ++
  Stat.all.map (fun s => (s.key, .number (.ofNat (row.stats.get s).toNat))) ++
  [("dynamic", .ofMembers (row.cells.entries.map fun (key, value) => (key, value.toJson)))]

/-- What the row is when it is read back. -/
def reread (row : Row) : Row := { row with cells := row.cells.map Value.reread }

/-- A row comes back as it was if all its numbers do. -/
theorem reread_eq_self {row : Row} (h : ∀ key x, row.cells.get? key = some (.number x) → x.ReadsBack) :
    row.reread = row := by
  have hcells : row.cells.map Value.reread = row.cells :=
    Cells.map_eq_self fun key value hvalue => Value.reread_eq_self fun x hx => h key x (hx ▸ hvalue)
  rw [reread, hcells]

/-- **A row is always read back**, with its fixed fields as they were. -/
theorem ofJson?_toJson (row : Row) : ofJson? row.toJson = some row.reread := by
  obtain ⟨r, hr⟩ : ∃ r : Json.Record, r = ⟨false, row.members⟩ := ⟨_, rfl⟩
  have hextras : hasSoundExtras row.toJson = true := hasSoundExtras_ofMembers rfl
  have hrecord : Json.Record.ofJson? memberNames row.toJson = some r :=
    hr ▸ Json.Record.ofJson?_ofMembers rfl (by decide)
  have hid : r.required "id" Json.toText? = some row.id := hr ▸ rfl
  have hsourceId : r.required "sourceId" Json.toUInt64? = some row.sourceId :=
    hr ▸ Json.toUInt64?_ofNat row.sourceId
  have hname : r.required "name" Json.toText? = some row.name := hr ▸ rfl
  have himage : r.optional "image" Json.toText? = some row.image := by
    rw [hr]
    obtain ⟨-, -, -, image⟩ := row
    cases image <;> rfl
  have hcategories : r.required "categories" Json.toTexts? = some row.categories :=
    hr ▸ Json.toTexts?_texts row.categories
  have hclassification : r.required "classification" Json.toUInt32? = some row.classification :=
    hr ▸ Json.toUInt32?_ofNat row.classification
  have hcapabilities : r.required "capabilities" Json.toTexts? = some row.capabilities :=
    hr ▸ Json.toTexts?_texts row.capabilities
  have hstat : ∀ s : Stat, r.required s.key Json.toUInt32? = some (row.stats.get s) := by
    intro s
    rw [hr]
    cases s <;> exact Json.toUInt32?_ofNat _
  have hcells : r.defaulted "dynamic" Cells.ofJson? .empty = some (row.cells.map Value.reread) := by
    rw [hr]
    exact Cells.ofJson?_entries row.cells
  rw [ofJson?, if_pos hextras, hrecord, Option.bind_eq_bind, Option.bind_some]
  simp only [hid, hsourceId, hname, himage, hcategories, hclassification, hcapabilities, hstat, hcells]
  rfl

end Row

/-! ## Snapshots -/

namespace Snapshot

theorem isWritten_toJson (s : Snapshot) : s.toJson.IsWritten := by
  refine Json.isWritten_ofMembers ?_
  simp [Json.isWritten_ofNat, Json.isWritten_array_map Column.isWritten_toJson,
    Json.isWritten_array_map Row.isWritten_toJson]

/-- What the snapshot is when it is read back. -/
def reread (s : Snapshot) : Snapshot := { s with rows := s.rows.map Row.reread }

theorem ofJson?_toJson (s : Snapshot) : ofJson? s.toJson = some s.reread := by
  have hrecord : Json.Record.ofJson? ["version", "columns", "rows"] s.toJson = some ⟨false, _⟩ :=
    Json.Record.ofJson?_ofMembers rfl (by decide)
  have hversion : Json.toUInt32? (.number (.ofNat s.version.toNat)) = some s.version :=
    Json.toUInt32?_ofNat s.version
  have hcolumns : Json.toList? Column.ofJson? (.array (s.columns.map Column.toJson)) = some s.columns :=
    mapM_map_eq_self Column.ofJson?_toJson
  have hrows : Json.toList? Row.ofJson? (.array (s.rows.map Row.toJson)) = some (s.rows.map Row.reread) :=
    mapM_map Row.ofJson?_toJson
  rw [ofJson?, hrecord]
  simp [Json.Record.required, List.lookup_cons, hversion, hcolumns, hrows, reread]

/-- **A snapshot is always read back from its file**, columns, rows and cells in their order. -/
theorem read?_text_eq (s : Snapshot) : read? s.text.toUTF8 = some s.reread := by
  rw [read?, text, Symbol.ofBytes_toUTF8, Json.read?_pretty s.isWritten_toJson, Option.bind_some,
    ofJson?_toJson]

/-- A snapshot is read as it was, unless a number in a cell does not read back. -/
theorem read?_text {s : Snapshot}
    (h : ∀ row ∈ s.rows, ∀ key x, row.cells.get? key = some (.number x) → x.ReadsBack) :
    read? s.text.toUTF8 = some s := by
  have hrows : s.rows.map Row.reread = s.rows :=
    (List.map_congr_left fun row hrow => Row.reread_eq_self (h row hrow)).trans s.rows.map_id
  rw [read?_text_eq, reread, hrows]

end Snapshot

/-- What is saved is loaded as far as a snapshot is read back: it is read in any case. -/
theorem WorkingSet.load_save_eq (set : WorkingSet) :
    load set.save.toUTF8 = ofSnapshot set.snapshot.reread := by
  rw [load, save, Snapshot.read?_text_eq]

end Fieldbook
