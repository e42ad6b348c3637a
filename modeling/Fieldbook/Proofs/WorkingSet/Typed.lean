import Fieldbook.Catalog.Record
import Fieldbook.Exchange
import Fieldbook.Proofs.Command.Execute
import Fieldbook.Proofs.Snapshot.Drift

/-!
# Cells stay typed

The working set itself does not look at what a cell holds: a row goes in with the values it brings. That
every cell is of its column's kind all the same, and every number finite, is due to those who make the
values, each for itself:

* what a sentence says is finite (`Command.finite_of_parse`) and is fitted to the kind when it is assigned
  (`Value.fits_toCell?`);
* a table is read by the kind of each column (`ColumnKind.fits_readCell`), and a row of the catalog has no
  cells;
* a cell that is missing gets the default of its column (`ColumnKind.fits_default`);
* what is read from a snapshot is of the kind that was written (`ColumnKind.Fits.reread`).

`Typed.perform` goes through all that can be done to a working set, and `typed_cells` is the result.
-/

namespace Fieldbook

/-! ## What can be done to a working set -/

/-- Something that is done to the working set in the course of time. -/
inductive Deed where
  | declare (column : Column)
  /-- Carries out the command that a text asks for. -/
  | command (text : String)
  /-- Reads the rows of a table, which are added to those that there are or take their place. -/
  | importTable (freshId : Nat → String) (mapping : Mapping) (file : List Symbol) (append : Bool)
  /-- Takes records of the catalog, each with the classification found for it. -/
  | ingest (records : List (CatalogRecord × UInt32)) (append : Bool)
  | delete (ids : List String)
  /-- Saves the working set and loads it again. -/
  | reload

/-- Rows go in, with those that there are or in their place. -/
def Operation.take (rows : List Row) (append : Bool) : Operation :=
  if append then .append rows else .replace rows

/-- Does something. What fails changes nothing. -/
def WorkingSet.perform (set : WorkingSet) : Deed → WorkingSet
  | .declare column => (set.operate (.declare column)).1
  | .command text => (Command.run text set).1
  | .importTable freshId mapping file append =>
    match importRows freshId mapping set.columns file with
    | .ok rows => (set.operate (.take rows append)).1
    | .error _ => set
  | .ingest records append =>
    let rows := records.map fun (record, classification) => record.toRow classification
    (set.operate (.take rows append)).1
  | .delete ids => (set.operate (.deleteMany ids)).1
  | .reload =>
    match WorkingSet.load set.save.toUTF8 with
    | .ok loaded => loaded
    | .error _ => set

/-! ## Values that fit a kind -/

namespace ColumnKind

/-- The default of a kind is of that kind. -/
theorem fits_default (kind : ColumnKind) : kind.Fits kind.default := by
  cases kind with
  | number => exact ⟨trivial, by rintro _ ⟨⟩; rfl⟩
  | _ => exact ⟨trivial, nofun⟩

/-- **What is read from a table is of the kind of its column.** -/
theorem fits_readCell (kind : ColumnKind) (cell : String) : kind.Fits (kind.readCell cell) := by
  cases kind with
  | text => exact ⟨trivial, nofun⟩
  | boolean => exact ⟨trivial, nofun⟩
  | number =>
    unfold readCell
    dsimp only
    split
    · next x hx =>
      refine ⟨trivial, ?_⟩
      rintro _ ⟨⟩
      exact (Option.filter_eq_some_iff.1 hx).2
    · exact fits_default number

end ColumnKind

namespace Value

variable {value : Value}

/-- A phrase that stands for a number stands for a finite one. -/
theorem finite_ofPhrase (phrase : String) : (ofPhrase phrase).Finite := by
  unfold ofPhrase
  dsimp only
  split
  · next x hx =>
    rintro _ ⟨⟩
    exact (Option.filter_eq_some_iff.1 hx).2
  · split
    · nofun
    · split <;> nofun

/-- **What a finite value becomes in a cell fits the cell.** -/
theorem fits_toCell? {kind : ColumnKind} {cell : Value} (h : value.Finite)
    (hcell : value.toCell? kind = some cell) : kind.Fits cell := by
  cases kind with
  | text =>
    obtain ⟨s, -, rfl⟩ := Option.map_eq_some_iff.1 hcell
    exact ⟨trivial, nofun⟩
  | number =>
    cases value with
    | number x => cases hcell; exact ⟨trivial, h⟩
    | _ => cases hcell
  | boolean =>
    cases value with
    | bool b => cases hcell; exact ⟨trivial, nofun⟩
    | _ => cases hcell

end Value

namespace Command

variable {target : Field} {value : Value} {condition : Condition}

theorem of_withCondition {cs : List Char} {command : Condition → Command}
    (h : withCondition cs command = .update target value condition) :
    ∃ condition', command condition' = .update target value condition := by
  rw [withCondition] at h
  split at h
  · exact ⟨_, h⟩
  · cases h

/-- **Every value that a sentence assigns is finite.** -/
theorem finite_of_parse {text : String} (h : parse text = .update target value condition) :
    value.Finite := by
  rw [parse, ofSentence] at h
  generalize updateByType.find? _ = byType at h
  generalize updateWhere.find? _ = byCondition at h
  generalize (deleteRowsWhere.find? _).or _ = deletion at h
  -- Whatever the two forms of an update have found, the value is what a phrase stands for.
  have hphrase : ∀ {target' : Field} {phrase : List Char} {condition' : Condition},
      update target' (.ofPhrase (String.ofList phrase)) condition' = .update target value condition →
        value.Finite := by
    intro target' phrase condition' h
    obtain ⟨-, hvalue, -⟩ := Command.update.inj h
    rw [← hvalue]
    exact Value.finite_ofPhrase (String.ofList phrase)
  split at h
  · exact hphrase h
  · split at h
    · obtain ⟨condition', h⟩ := of_withCondition h
      exact hphrase h
    · split at h
      · obtain ⟨condition', h⟩ := of_withCondition h
        exact Command.noConfusion h
      · exact Command.noConfusion h

end Command

/-! ## Rows -/

namespace Row

/-- The cells of declared columns fit them, as far as there are any. -/
def Typed (columns : List Column) (row : Row) : Prop :=
  ∀ column ∈ columns, ∀ value, row.cells.get? column.id = some value → column.kind.Fits value

variable {columns : List Column} {row : Row}

theorem typed_of_empty (h : row.cells = .empty) : row.Typed columns := by
  intro column _ value hvalue
  rw [h] at hvalue
  cases hvalue

theorem Typed.congr (h : row.Typed columns) {other : Row} (hcells : other.cells = row.cells) :
    other.Typed columns := by
  intro column hcolumn
  rw [hcells]
  exact h column hcolumn

/-- A value that fits every column with its key may go into a cell. -/
theorem Typed.put (h : row.Typed columns) {key : String} {value : Value}
    (hvalue : ∀ column ∈ columns, column.id = key → column.kind.Fits value) :
    Row.Typed columns { row with cells := row.cells.put key value } := by
  intro column hcolumn v hv
  by_cases hkey : column.id = key
  · subst hkey
    have hv : (row.cells.put column.id value).get? column.id = some v := hv
    rw [Cells.get?_put_self, Option.some.injEq] at hv
    exact hv ▸ hvalue column hcolumn rfl
  · have hv : (row.cells.put key value).get? column.id = some v := hv
    rw [Cells.get?_put_of_ne _ _ hkey] at hv
    exact h column hcolumn v hv

/-- **Cells that fit still do when the row is made to conform**, for what is added are the defaults. -/
theorem Typed.conform (h : row.Typed columns) (hnodup : (columns.map Column.id).Nodup) :
    (WorkingSet.conform columns row).Typed columns := by
  intro column hcolumn value hvalue
  rw [WorkingSet.conform, WorkingSet.get?_conformCells, find?_key hnodup hcolumn,
    Option.map_some, Option.some.injEq] at hvalue
  cases hcell : row.cells.get? column.id with
  | none =>
    rw [hcell] at hvalue
    exact hvalue ▸ column.kind.fits_default
  | some cell =>
    rw [hcell] at hvalue
    exact h column hcolumn value (hcell.trans (congrArg some hvalue))

/-- Assigning a finite value that was found to fit leaves the cells typed. -/
theorem Typed.assign (h : row.Typed columns) (hnodup : (columns.map Column.id).Nodup) {target : Field}
    {value : Value} (hfinite : value.Finite) {a : Assignment}
    (hresolve : Assignment.resolve columns target value = .ok a) : (row.assign a).Typed columns := by
  cases a with
  | cell key cell =>
    obtain rfl : Field.dynamic key = target := Assignment.field_of_resolve hresolve
    refine h.put fun column hcolumn hkey => ?_
    subst hkey
    rw [Assignment.resolve, find?_key hnodup hcolumn] at hresolve
    obtain ⟨x, hx, hcell⟩ := Assignment.fitted_eq_ok_iff.1 hresolve
    cases hcell
    exact Value.fits_toCell? hfinite hx
  | _ => exact h.congr rfl

/-- A cell that is read from a table leaves the cells typed. -/
theorem Typed.readCell (h : row.Typed columns) (hnodup : (columns.map Column.id).Nodup) (field : Field)
    (text : String) : (row.readCell columns field text).Typed columns := by
  rw [Row.readCell.eq_def]
  dsimp only
  split
  · exact h
  · cases field with
    | dynamic key =>
      dsimp only
      split
      · next found hfound =>
        refine h.put fun column hcolumn hkey => ?_
        subst hkey
        rw [find?_key hnodup hcolumn, Option.some.injEq] at hfound
        rw [hfound]
        exact found.kind.fits_readCell (Text.trim text)
      · exact h
    | _ => exact h.congr rfl

theorem typed_ofRecord (hnodup : (columns.map Column.id).Nodup) (plan : List (Field × Nat)) (id : String)
    (record : List String) : (ofRecord columns plan id record).Typed columns := by
  rw [ofRecord]
  have hstart : (blank id).Typed columns := typed_of_empty rfl
  generalize blank id = row at hstart
  induction plan generalizing row with
  | nil => exact hstart
  | cons step plan ih =>
    obtain ⟨field, place⟩ := step
    rw [List.foldl_cons]
    apply ih
    dsimp only
    cases record[place]? with
    | some text => exact hstart.readCell hnodup field text
    | none => exact hstart

end Row

/-- **The rows of a table have cells that fit**, whatever the table says and however it is read. -/
theorem typed_of_importRows {freshId : Nat → String} {mapping : Mapping} {columns : List Column}
    {file : List Symbol} {rows : List Row} (hnodup : (columns.map Column.id).Nodup)
    (h : importRows freshId mapping columns file = .ok rows) {row : Row} (hrow : row ∈ rows) :
    row.Typed columns := by
  rw [importRows] at h
  split at h
  · cases h
  · obtain rfl := Except.ok.inj h
    obtain ⟨k, hk, rfl⟩ := List.mem_mapIdx.1 hrow
    exact Row.typed_ofRecord hnodup _ _ _

/-! ## Ledgers -/

namespace Ledger

/-- The cells of all rows fit their columns. -/
def Typed (ledger : Ledger) : Prop := ∀ row ∈ ledger.rows, row.Typed ledger.columns

variable {ledger : Ledger}

theorem put_columns (ledger : Ledger) (row : Row) : (ledger.put row).1.columns = ledger.columns := by
  rw [put]
  split <;> rfl

theorem Typed.put (h : ledger.Typed) (htidy : ledger.Tidy) {row : Row}
    (hrow : row.Typed ledger.columns) : (ledger.put row).1.Typed := by
  have hrow := hrow.conform htidy.columnIds
  rw [Typed, put_columns, Ledger.put]
  split
  · intro r hr
    obtain ⟨r', hr', rfl⟩ := List.mem_map.1 hr
    split
    · exact hrow
    · exact h r' hr'
  · intro r hr
    rcases List.mem_append.1 hr with hr | hr
    · exact h r hr
    · exact List.mem_singleton.1 hr ▸ hrow

theorem Typed.append (h : ledger.Typed) (htidy : ledger.Tidy) {rows : List Row}
    (hrows : ∀ row ∈ rows, row.Typed ledger.columns) : (ledger.append rows).1.Typed := by
  induction rows generalizing ledger with
  | nil => exact h
  | cons row rest ih =>
    have hrest : ∀ r ∈ rest, r.Typed (ledger.put row).1.columns := fun r hr => by
      rw [put_columns]
      exact hrows r (List.mem_cons_of_mem row hr)
    exact ih (h.put htidy (hrows row List.mem_cons_self)) (htidy.put row) hrest

theorem Typed.take (h : ledger.Typed) (htidy : ledger.Tidy) {rows : List Row}
    (hrows : ∀ row ∈ rows, row.Typed ledger.columns) (append : Bool) :
    (ledger.operate (.take rows append)).1.Typed := by
  cases append with
  | true => exact h.append htidy hrows
  | false => exact Typed.append (fun _ hr => absurd hr List.not_mem_nil) htidy.clear hrows

theorem Typed.deleteMany (h : ledger.Typed) (ids : List String) :
    (ledger.operate (.deleteMany ids)).1.Typed :=
  fun row hrow => h row (List.mem_of_mem_filter hrow)

/-- A column that is declared gives every row a cell that fits it. -/
theorem Typed.declare (h : ledger.Typed) (column : Column) :
    (ledger.operate (.declare column)).1.Typed := by
  rw [operate, declareColumn]
  by_cases hreserved : column.isReserved = true
  · rw [if_pos hreserved]
    exact h
  by_cases hknown : column.id ∈ ledger.columns.map Column.id
  · rw [if_neg hreserved, if_pos hknown]
    exact h
  rw [if_neg hreserved, if_neg hknown]
  intro row hrow other hother value hvalue
  obtain ⟨before, hbefore, rfl⟩ := List.mem_map.1 hrow
  have hput : (before.cells.put column.id column.kind.default).get? other.id = some value := hvalue
  rcases List.mem_append.1 hother with hother | hother
  · have hne : other.id ≠ column.id := fun heq => hknown (heq ▸ List.mem_map_of_mem hother)
    rw [Cells.get?_put_of_ne _ _ hne] at hput
    exact h before hbefore other hother value hput
  · obtain rfl := List.mem_singleton.1 hother
    rw [Cells.get?_put_self, Option.some.injEq] at hput
    exact hput ▸ other.kind.fits_default

end Ledger

/-! ## Working sets -/

namespace WorkingSet

/-- The working set is sound and its cells fit their columns. -/
structure Typed (set : WorkingSet) : Prop where
  sound : set.Sound
  cells : set.ledger.Typed

theorem typed_empty : Typed .empty := ⟨sound_empty, fun _ hrow => absurd hrow List.not_mem_nil⟩

variable {set : WorkingSet}

/-- An operation leaves cells that fit if its counterpart on the ledger does. -/
theorem Typed.operate (h : set.Typed) {operation : Operation}
    (hcells : (set.ledger.operate operation).1.Typed) : (set.operate operation).1.Typed :=
  ⟨h.sound.operate operation, (follows_operate h.sound.indexed operation).ledger_eq ▸ hcells⟩

/-- **A command leaves cells that fit**, whatever it says. -/
theorem Typed.command (h : set.Typed) (text : String) : (Command.run text set).1.Typed := by
  have hsound : (Command.run text set).1.Sound := by
    rw [Command.run, ← Command.run_transaction]
    exact h.sound.run _
  refine ⟨hsound, ?_⟩
  rw [Command.run]
  by_cases happlies : (Command.parse text).Applies set
  · obtain ⟨hmeant, hfits⟩ := happlies
    cases hparse : Command.parse text with
    | unrecognized => rw [hparse] at hfits; exact hfits.elim
    | delete condition =>
      rw [hparse] at hmeant
      rw [(Command.execute_delete h.sound hmeant).1]
      exact fun row hrow => h.cells row (List.mem_of_mem_filter hrow)
    | update target value condition =>
      rw [hparse] at hmeant hfits
      obtain ⟨a, hresolve⟩ := Assignment.resolve_isOk_iff.2 hfits
      rw [(Command.execute_update h.sound hmeant hresolve).1]
      intro row hrow
      obtain ⟨before, hbefore, rfl⟩ := List.mem_map.1 hrow
      split
      · exact (h.cells before hbefore).assign h.sound.tidy.columnIds (Command.finite_of_parse hparse)
          hresolve
      · exact h.cells before hbefore
  · obtain ⟨why, -, hexecute⟩ := Command.execute_of_not_applies happlies
    rw [hexecute]
    exact h.cells

/-- **What is loaded again has cells that fit.** -/
theorem Typed.load (h : set.Typed) {loaded : WorkingSet} (hload : load set.save.toUTF8 = .ok loaded) :
    loaded.Typed := by
  obtain ⟨loaded', hloaded, hledger⟩ := load_save_of_tidy h.sound.tidy
  obtain rfl : loaded' = loaded := Except.ok.inj (hloaded.symm.trans hload)
  refine ⟨(Reachable.of_load hload).sound, ?_⟩
  rw [hledger]
  intro row hrow column hcolumn value hvalue
  obtain ⟨written, hwritten, rfl⟩ := List.mem_map.1 hrow
  obtain ⟨before, hbefore, rfl⟩ := Option.map_eq_some_iff.1 ((Cells.get?_map _ _ _).symm.trans hvalue)
  exact (h.cells written hwritten column hcolumn before hbefore).reread

/-- **Every deed keeps the cells fitting.** -/
theorem Typed.perform (h : set.Typed) (deed : Deed) : (set.perform deed).Typed := by
  cases deed with
  | declare column => exact h.operate (h.cells.declare column)
  | command text => exact h.command text
  | importTable freshId mapping file append =>
    rw [WorkingSet.perform]
    split
    · next rows hrows =>
      refine h.operate (h.cells.take h.sound.tidy (fun row hrow => ?_) append)
      exact typed_of_importRows h.sound.tidy.columnIds hrows hrow
    · exact h
  | ingest records append =>
    refine h.operate (h.cells.take h.sound.tidy (fun row hrow => ?_) append)
    obtain ⟨⟨record, classification⟩, -, rfl⟩ := List.mem_map.1 hrow
    exact Row.typed_of_empty rfl
  | delete ids => exact h.operate (h.cells.deleteMany ids)
  | reload =>
    rw [WorkingSet.perform]
    split
    · next loaded hload => exact h.load hload
    · exact h

/-- **Whatever is done to a working set that was empty, in any order, its cells stay typed**: every row has
a cell for every declared column and no others, each cell is of its column's kind, and a cell that holds a
number holds a finite one. -/
theorem typed_cells (deeds : List Deed) :
    ∀ row ∈ (deeds.foldl perform .empty).rows,
      (∀ key ∈ row.cells.keys, ∃ column ∈ (deeds.foldl perform .empty).columns, column.id = key) ∧
      ∀ column ∈ (deeds.foldl perform .empty).columns,
        ∃ value, row.cells.get? column.id = some value ∧ column.kind.Holds value ∧
          ∀ x, value = .number x → x.isFinite = true := by
  have htyped : (deeds.foldl perform .empty).Typed := by
    refine List.foldlRecOn (motive := Typed) deeds perform typed_empty fun set h deed _ => ?_
    exact h.perform deed
  generalize deeds.foldl perform .empty = set at htyped
  intro row hrow
  have huniform := htyped.sound.tidy.uniform row (Array.mem_def.1 hrow)
  refine ⟨fun key hkey => List.mem_map.1 ((huniform key).1 hkey), fun column hcolumn => ?_⟩
  obtain ⟨value, hvalue⟩ := Option.isSome_iff_exists.1 <|
    Cells.mem_keys_iff.1 ((huniform column.id).2 (List.mem_map_of_mem hcolumn))
  have hfits := htyped.cells row (Array.mem_def.1 hrow) column hcolumn value hvalue
  exact ⟨value, hvalue, hfits.holds, hfits.finite⟩

/-- What is no number in a table is no number in a cell either. -/
theorem typed_cells_unreadable :
    let set := ([.declare ⟨"weight", "Weight", .number⟩,
      .importTable (fun _ => "a") {} (Symbol.ofText "weight\nNaN\n") true].foldl perform .empty)
    ∃ row ∈ set.rows, row.id = "a" ∧
      ∃ value, row.cells.get? "weight" = some value ∧ ColumnKind.number.Holds value ∧
        ∀ x, value = .number x → x.isFinite = true := by
  intro set
  obtain ⟨row, hrow⟩ : ∃ row : Row, row = { id := "a", cells := .ofList [("weight", .number .zero)] } :=
    ⟨_, rfl⟩
  obtain ⟨first, hfirst⟩ : ∃ first, first = empty.perform (.declare ⟨"weight", "Weight", .number⟩) :=
    ⟨_, rfl⟩
  have hdeclared := follows_operate indexed_empty (.declare ⟨"weight", "Weight", .number⟩)
  have hindexed : first.Indexed := hfirst ▸ hdeclared.indexed
  have hempty : first.ledger = ⟨[], [⟨"weight", "Weight", .number⟩]⟩ :=
    hfirst ▸ hdeclared.ledger_eq.trans (by decide)
  have hread : importRows (fun _ => "a") {} first.columns (Symbol.ofText "weight\nNaN\n") =
      .ok [row] := by
    rw [hrow, ← ledger_columns, hempty]
    decide +kernel
  have hset : set = (first.operate (.append [row])).1 := by
    have hlast : set = first.perform (.importTable (fun _ => "a") {}
        (Symbol.ofText "weight\nNaN\n") true) := hfirst ▸ rfl
    rw [hlast, perform, hread]
    rfl
  have hledger := (follows_operate hindexed (.append [row])).ledger_eq
  rw [← hset, hempty, hrow] at hledger
  have hrows : set.rows.toList = [row] := hrow ▸ (congrArg Ledger.rows hledger).trans (by decide)
  have hcolumns : set.columns = [⟨"weight", "Weight", .number⟩] :=
    (congrArg Ledger.columns hledger).trans (by decide)
  have hmem : row ∈ set.rows := Array.mem_def.2 (hrows ▸ List.mem_singleton_self row)
  obtain ⟨-, htyped⟩ := typed_cells _ row hmem
  exact ⟨row, hmem, hrow ▸ rfl, htyped _ (hcolumns ▸ List.mem_singleton_self _)⟩

end WorkingSet

end Fieldbook
