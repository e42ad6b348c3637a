import Fieldbook.Proofs.Exchange.SourceIds

/-!
# Tables that are read

A table is read record by record, and a record field by field. For each field there is one header at most
that it is read from (`Mapping.headerOf?`), and what is read is the text under that header, if there is
any (`Mapping.text?`): headers that stand for no field, other headers of the same name and the cells of
other fields make no difference. Without a text the field is as it is in a blank row. This is what
`Row.Reads` says of a row, and `importRows_reads` of all the rows of a table.

* the plan of a table has each field once (`Mapping.Distinct.nodup_plan`) and, for each, the place of its
  header (`Mapping.Distinct.mem_plan_iff`);
* so each field is read from its own place (`Row.sameIn_ofRecord`);
* a number in a cell is read as what it is, or else as zero (`Row.counted_readCount`,
  `Row.counted_readSourceId`).
-/

namespace Fieldbook

/-! ## Numbers in cells -/

/-- The double is a number from zero to `limit`, and `n` is what stands before its decimal point. -/
def Double.Truncates (limit : Nat) (x : Double) (n : Nat) : Prop :=
  ∃ negative m, x = .finite negative m ∧ (negative = true → m = .zero) ∧
    m.units ≤ limit * Magnitude.unitsPerOne ∧
    n * Magnitude.unitsPerOne ≤ m.units ∧ m.units < (n + 1) * Magnitude.unitsPerOne

theorem Magnitude.wholePart_eq_iff {m : Magnitude} {n : Nat} :
    m.wholePart = n ↔ n * unitsPerOne ≤ m.units ∧ m.units < (n + 1) * unitsPerOne := by
  rw [wholePart]
  constructor
  · rintro rfl
    exact ⟨Nat.div_mul_le_self _ _, Nat.lt_mul_of_div_lt (Nat.lt_succ_self _) unitsPerOne_pos⟩
  · rintro ⟨hle, hlt⟩
    refine Nat.le_antisymm (Nat.le_of_lt_succ ?_) ((Nat.le_div_iff_mul_le unitsPerOne_pos).2 hle)
    exact (Nat.div_lt_iff_lt_mul unitsPerOne_pos).2 hlt

theorem Double.truncated?_eq_some_iff {limit n : Nat} {x : Double} :
    x.truncated? limit = some n ↔ x.Truncates limit n := by
  cases x with
  | finite negative m =>
    have hsign : (!negative || m == .zero) = true ↔ (negative = true → m = .zero) := by
      cases negative <;> simp
    rw [truncated?, Option.ite_none_right_eq_some, Bool.and_eq_true, hsign, decide_eq_true_eq,
      Option.some.injEq, Magnitude.wholePart_eq_iff]
    constructor
    · rintro ⟨⟨hzero, hlimit⟩, hwhole⟩
      exact ⟨negative, m, rfl, hzero, hlimit, hwhole⟩
    · rintro ⟨_, _, heq, hzero, hlimit, hwhole⟩
      cases heq
      exact ⟨⟨hzero, hlimit⟩, hwhole⟩
  | _ =>
    constructor
    · intro hnone
      cases hnone
    · rintro ⟨_, _, heq, -⟩
      cases heq

/-- What stands before the decimal point is no more than the limit either. -/
theorem Double.Truncates.le {limit n : Nat} {x : Double} (h : x.Truncates limit n) : n ≤ limit := by
  obtain ⟨negative, m, -, -, hlimit, hle, -⟩ := h
  exact Nat.le_of_mul_le_mul_right (Nat.le_trans hle hlimit) Magnitude.unitsPerOne_pos

namespace Row

/-- The number that is read from a cell: what stands before the decimal point of a number from zero to
`limit`, and zero for anything else. -/
def Counted (limit : Nat) (cell : String) (n : Nat) : Prop :=
  (∃ x, Double.read? cell = some x ∧ x.Truncates limit n) ∨
    n = 0 ∧ ∀ x, Double.read? cell = some x → ∀ k, ¬ x.Truncates limit k

/-- What is read as a number of so many bits is the number, and is not reduced. -/
theorem counted_ofNat {α : Type} {limit : Nat} {toNat : α → Nat} {zero : α} (ofNat : Nat → α)
    (hzero : toNat zero = 0) (hofNat : ∀ n ≤ limit, toNat (ofNat n) = n) (cell : String) :
    Counted limit cell (toNat <|
      match (Double.read? cell).bind (Double.truncated? limit) with
      | some n => ofNat n
      | none => zero) := by
  cases hread : Double.read? cell with
  | none => exact .inr ⟨hzero, fun x hx => nomatch hread.symm.trans hx⟩
  | some x =>
    rw [Option.bind_some]
    cases hwhole : x.truncated? limit with
    | none =>
      refine .inr ⟨hzero, fun y hy k htruncates => ?_⟩
      cases hread.symm.trans hy
      cases hwhole.symm.trans (Double.truncated?_eq_some_iff.2 htruncates)
    | some n =>
      have htruncates := Double.truncated?_eq_some_iff.1 hwhole
      exact .inl ⟨x, hread, (hofNat n htruncates.le).symm ▸ htruncates⟩

/-- **A count is the number of its cell**, or zero if that is no number in range. -/
theorem counted_readCount (cell : String) : Counted (UInt32.size - 1) cell (readCount cell).toNat := by
  refine counted_ofNat UInt32.ofNat rfl (fun n hn => ?_) cell
  exact UInt32.toNat_ofNat_of_lt' (Nat.lt_of_le_pred (by decide) hn)

/-- **A source id is the number of its cell**: the very one if it is written in digits, or else as a count
is. -/
theorem counted_readSourceId (cell : String) :
    (∀ n, Decimal.readNat? (UInt64.size - 1) cell.toList = some n → (readSourceId cell).toNat = n) ∧
      (Decimal.readNat? (UInt64.size - 1) cell.toList = none →
        Counted (UInt64.size - 1) cell (readSourceId cell).toNat) := by
  have hofNat : ∀ n ≤ UInt64.size - 1, (UInt64.ofNat n).toNat = n := fun n hn =>
    UInt64.toNat_ofNat_of_lt' (Nat.lt_of_le_pred (by decide) hn)
  refine ⟨fun n hdigits => ?_, fun hdigits => ?_⟩
  · have hle : n ≤ UInt64.size - 1 := (Decimal.readNat?_eq_some_iff.1 hdigits).2
    rw [readSourceId, hdigits]
    exact hofNat n hle
  · rw [readSourceId, hdigits]
    exact counted_ofNat UInt64.ofNat rfl hofNat cell

end Row

/-! ## What a field is read from -/

/-- The text of a cell without the blanks around it, if there is any. -/
def filled? (cell : String) : Option String :=
  if (Text.trim cell).isEmpty then none else some (Text.trim cell)

/-- The text under the first header with this name, in any case. There is none if no header has the name,
if the record ends before it, or if the cell is blank. -/
def textUnder? (name : String) : List String → List String → Option String
  | header :: headers, cell :: record =>
    if Text.sameLetters header name then filled? cell else textUnder? name headers record
  | _, _ => none

namespace Mapping

/-- No field is mapped twice. -/
def Distinct (mapping : Mapping) : Prop := (mapping.entries.map Prod.fst).Nodup

/-- The header that a field is read from. A declared column is read from the header it is mapped to; if
it is not mapped, from one with its id; and if there is none, from one with its label. -/
def headerOf? (mapping : Mapping) (columns : List Column) (headers : List String) :
    Field → Option String
  | .id => none
  | .dynamic id =>
    (columns.find? (·.id == id)).map fun column =>
      (mapping.header? column.field).getD
        (if headers.any (Text.sameLetters · column.id) then column.id else column.label)
  | field => mapping.header? field

/-- The text of a record that a field is read from. -/
def text? (mapping : Mapping) (columns : List Column) (headers record : List String) (field : Field) :
    Option String :=
  (mapping.headerOf? columns headers field).bind fun name => textUnder? name headers record

end Mapping

/-- What a row holds when each field is read from its own text: the conversion of the text or, where there
is none, what a blank row holds. A column that is not declared has no cell, and neither has one without a
text. -/
structure Row.Reads (columns : List Column) (text? : Field → Option String) (row : Row) : Prop where
  sourceId : row.sourceId = ((text? .sourceId).map readSourceId).getD 0
  name : row.name = (text? .name).getD "Unknown"
  image : row.image = text? .image
  categories : row.categories = ((text? .categories).map Text.splitItems).getD []
  classification : row.classification = ((text? .classification).map readCount).getD 1
  capabilities : row.capabilities = ((text? .capabilities).map Text.splitItems).getD []
  stats : ∀ s, row.stats.get s = ((text? (.stat s)).map readCount).getD 0
  cells : ∀ id, row.cells.get? id =
    (columns.find? (·.id == id)).bind fun column => (text? (.dynamic id)).map column.kind.readCell

/-! ## The plan -/

namespace Mapping

variable {mapping : Mapping} {columns : List Column} {headers : List String}

theorem distinct_auto (headers : List String) : (auto headers).Distinct := by
  refine nodup_fst_filterMap id (fun field entry hentry => ?_) (by decide)
  obtain ⟨header, -, rfl⟩ := Option.map_eq_some_iff.1 hentry
  rfl

/-- Mapping a field anew leaves it mapped once. -/
theorem Distinct.insert (h : mapping.Distinct) (field : Field) (header : String) :
    (mapping.insert field header).Distinct := by
  rw [Distinct, Mapping.insert, List.map_append, List.nodup_append]
  refine ⟨h.sublist (List.filter_sublist.map Prod.fst), List.nodup_singleton _, ?_⟩
  rintro f hf g hg rfl
  obtain ⟨entry, hentry, rfl⟩ := List.mem_map.1 hf
  have hne : entry.1 ≠ field := by simpa using (List.mem_filter.1 hentry).2
  exact hne (List.mem_singleton.1 hg)

theorem Distinct.header?_eq_some_iff (h : mapping.Distinct) {field : Field} {header : String} :
    mapping.header? field = some header ↔ (field, header) ∈ mapping.entries :=
  lookup_eq_some_iff_mem h

/-- The first of two names that a header has. -/
theorem place?_or (headers : List String) (a b : String) :
    (place? headers a).or (place? headers b) =
      place? headers (if headers.any (Text.sameLetters · a) then a else b) := by
  cases hany : headers.any (Text.sameLetters · a) with
  | true =>
    have hsome : (place? headers a).isSome = true := by rw [place?, List.findIdx?_isSome, hany]
    obtain ⟨place, hplace⟩ := Option.isSome_iff_exists.1 hsome
    rw [if_pos rfl, hplace, Option.some_or]
  | false =>
    have hnone : place? headers a = none := by
      rw [place?, ← Option.not_isSome_iff_eq_none, List.findIdx?_isSome, hany]
      exact Bool.false_ne_true
    rw [hnone, Option.none_or]
    rfl

/-- The text under a header is in the place of the header. -/
theorem textUnder?_eq (name : String) (headers record : List String) :
    textUnder? name headers record =
      (place? headers name).bind fun place => record[place]?.bind filled? := by
  induction headers generalizing record with
  | nil => cases record <;> rfl
  | cons header headers ih =>
    rw [place?, List.findIdx?_cons]
    cases record with
    | nil => cases Text.sameLetters header name <;> simp [textUnder?]
    | cons cell record =>
      rw [textUnder?, ih record, place?]
      cases Text.sameLetters header name <;> simp [Option.bind_map]

/-- A field is filled from cells if it is not the id and, for a column, if this is declared. -/
def isFilled (columns : List Column) : Field → Bool
  | .id => false
  | .dynamic id => columns.any (·.id == id)
  | _ => true

/-- What an entry of the mapping puts into the plan: its field, if that is filled and has a header. -/
def entryPlace? (columns : List Column) (headers : List String) (entry : Field × String) :
    Option (Field × Nat) :=
  if isFilled columns entry.1 then (place? headers entry.2).map fun place => (entry.1, place) else none

/-- What a declared column puts into the plan: itself, if it is not mapped and has a header. -/
def columnPlace? (mapping : Mapping) (headers : List String) (column : Column) : Option (Field × Nat) :=
  if (mapping.header? column.field).isSome then none
  else
    ((place? headers column.id).or (place? headers column.label)).map fun place => (column.field, place)

theorem plan_eq (mapping : Mapping) (columns : List Column) (headers : List String) :
    mapping.plan columns headers =
      mapping.entries.filterMap (entryPlace? columns headers) ++
        columns.filterMap (mapping.columnPlace? headers) := rfl

theorem entryPlace?_eq_some_iff {entry : Field × String} {field : Field} {place : Nat} :
    entryPlace? columns headers entry = some (field, place) ↔
      entry.1 = field ∧ place? headers entry.2 = some place ∧ isFilled columns field = true := by
  rw [entryPlace?, Option.ite_none_right_eq_some, Option.map_eq_some_iff]
  constructor
  · rintro ⟨hfilled, _, hplace, heq⟩
    cases heq
    exact ⟨rfl, hplace, hfilled⟩
  · rintro ⟨rfl, hplace, hfilled⟩
    exact ⟨hfilled, place, hplace, rfl⟩

theorem columnPlace?_eq_some_iff {column : Column} {field : Field} {place : Nat} :
    mapping.columnPlace? headers column = some (field, place) ↔
      column.field = field ∧ mapping.header? field = none ∧
        (place? headers column.id).or (place? headers column.label) = some place := by
  rw [columnPlace?, Option.ite_none_left_eq_some, Option.map_eq_some_iff, Option.not_isSome_iff_eq_none]
  constructor
  · rintro ⟨hnone, _, hplace, heq⟩
    cases heq
    exact ⟨rfl, hnone, hplace⟩
  · rintro ⟨rfl, hnone, hplace⟩
    exact ⟨hnone, place, hplace, rfl⟩

/-- The fields of a plan: those that are mapped to a header, as far as they can be read, and the declared
columns that are not mapped. -/
theorem mem_plan {field : Field} {place : Nat} :
    (field, place) ∈ mapping.plan columns headers ↔
      (∃ header, (field, header) ∈ mapping.entries ∧ place? headers header = some place ∧
        isFilled columns field = true) ∨
      ∃ column ∈ columns, column.field = field ∧ mapping.header? field = none ∧
        (place? headers column.id).or (place? headers column.label) = some place := by
  rw [plan_eq, List.mem_append, List.mem_filterMap, List.mem_filterMap]
  simp only [entryPlace?_eq_some_iff, columnPlace?_eq_some_iff]
  refine or_congr_left ⟨?_, ?_⟩
  · rintro ⟨⟨f, header⟩, hentry, rfl, hplace⟩
    exact ⟨header, hentry, hplace⟩
  · rintro ⟨header, hentry, hplace⟩
    exact ⟨(field, header), hentry, rfl, hplace⟩

/-- A declared column is read from its header, or from its own names if it has none. -/
theorem Distinct.mem_plan_column (h : mapping.Distinct) (hcolumns : (columns.map Column.id).Nodup)
    {column : Column} (hmem : column ∈ columns) {place : Nat} :
    (column.field, place) ∈ mapping.plan columns headers ↔
      (mapping.headerOf? columns headers column.field).bind (place? headers) = some place := by
  have hheaderOf : mapping.headerOf? columns headers column.field =
      some ((mapping.header? column.field).getD
        (if headers.any (Text.sameLetters · column.id) then column.id else column.label)) := by
    rw [Column.field, headerOf?, find?_key hcolumns hmem]
    rfl
  rw [hheaderOf, Option.bind_some, mem_plan]
  cases hheader : mapping.header? column.field with
  | some header =>
    constructor
    · rintro (⟨header', hentry, hplace, -⟩ | ⟨column', -, -, hnone, -⟩)
      · cases hheader.symm.trans (h.header?_eq_some_iff.2 hentry)
        exact hplace
      · cases hnone
    · intro hplace
      have hfilled : isFilled columns column.field = true :=
        List.any_eq_true.2 ⟨column, hmem, beq_self_eq_true column.id⟩
      exact .inl ⟨header, h.header?_eq_some_iff.1 hheader, hplace, hfilled⟩
  | none =>
    rw [Option.getD_none, ← place?_or]
    constructor
    · rintro (⟨header', hentry, -⟩ | ⟨column', hmem', hfield, -, hplace⟩)
      · cases hheader.symm.trans (h.header?_eq_some_iff.2 hentry)
      · obtain rfl : column' = column :=
          List.inj_on_of_nodup_map hcolumns hmem' hmem (Field.dynamic.inj hfield)
        exact hplace
    · intro hplace
      exact .inr ⟨column, hmem, rfl, rfl, hplace⟩

/-- **The plan has for each field the place of its header**, and nothing else. -/
theorem Distinct.mem_plan_iff (h : mapping.Distinct) (hcolumns : (columns.map Column.id).Nodup)
    {field : Field} {place : Nat} :
    (field, place) ∈ mapping.plan columns headers ↔
      (mapping.headerOf? columns headers field).bind (place? headers) = some place := by
  by_cases hdeclared : field ∈ columns.map Column.field
  · obtain ⟨column, hmem, rfl⟩ := List.mem_map.1 hdeclared
    exact h.mem_plan_column hcolumns hmem
  · have hother : ∀ column ∈ columns, column.field ≠ field := fun column hmem heq =>
      hdeclared (List.mem_map.2 ⟨column, hmem, heq⟩)
    -- Only the mapping says where a field is that is no declared column.
    have hmapped : (field, place) ∈ mapping.plan columns headers ↔
        ∃ header, mapping.header? field = some header ∧ place? headers header = some place ∧
          isFilled columns field = true := by
      rw [mem_plan, or_iff_left]
      · simp only [h.header?_eq_some_iff]
      · rintro ⟨column, hmem, heq, -⟩
        exact hother column hmem heq
    rw [hmapped, Option.bind_eq_some_iff]
    cases field with
    | id => simp [headerOf?, isFilled]
    | dynamic id =>
      have hnone : columns.find? (·.id == id) = none := by
        rw [List.find?_eq_none]
        exact fun column hmem hid => hother column hmem (congrArg Field.dynamic (eq_of_beq hid))
      have hnot : isFilled columns (.dynamic id) = false := by
        rw [isFilled, List.any_eq_false]
        exact List.find?_eq_none.1 hnone
      simp [headerOf?, hnone, hnot]
    | _ => simp [headerOf?, isFilled]

/-- **The plan has every field once.** -/
theorem Distinct.nodup_plan (h : mapping.Distinct) (hcolumns : (columns.map Column.id).Nodup)
    (headers : List String) : ((mapping.plan columns headers).map Prod.fst).Nodup := by
  have hfields : (columns.map Column.field).Nodup := by
    have hmap : columns.map Column.field = (columns.map Column.id).map Field.dynamic := by
      rw [List.map_map]
      rfl
    rw [hmap]
    exact hcolumns.map fun _ _ heq => Field.dynamic.inj heq
  rw [plan_eq, List.map_append, List.nodup_append]
  refine ⟨nodup_fst_filterMap Prod.fst ?_ h, nodup_fst_filterMap Column.field ?_ hfields, ?_⟩
  · intro entry p hp
    exact (entryPlace?_eq_some_iff.1 hp).1.symm
  · intro column p hp
    exact (columnPlace?_eq_some_iff.1 hp).1.symm
  · -- A column that is mapped is not looked for by its own names.
    rintro f hf g hg rfl
    obtain ⟨p, hp, rfl⟩ := List.mem_map.1 hf
    obtain ⟨⟨f, header⟩, hentry, hp⟩ := List.mem_filterMap.1 hp
    obtain ⟨rfl, -⟩ := entryPlace?_eq_some_iff.1 hp
    obtain ⟨q, hq, heq⟩ := List.mem_map.1 hg
    obtain ⟨column, -, hq⟩ := List.mem_filterMap.1 hq
    obtain ⟨-, hnone, -⟩ := columnPlace?_eq_some_iff.1 hq
    rw [heq, h.header?_eq_some_iff.2 hentry] at hnone
    cases hnone

end Mapping

/-! ## Rows -/

namespace Row

variable {columns : List Column} {record : List String} {field : Field}

/-- Reads a field from a cell, if there is one. -/
def readCell? (columns : List Column) (row : Row) (field : Field) : Option String → Row
  | some cell => row.readCell columns field cell
  | none => row

/-- Of different fields each is read from its own place. -/
theorem sameIn_readPlan_of_mem {plan : List (Field × Nat)} {place : Nat}
    (hnodup : (plan.map Prod.fst).Nodup) (hmem : (field, place) ∈ plan) (row : Row) :
    SameIn field (readPlan columns record row plan) (row.readCell? columns field record[place]?) := by
  obtain ⟨front, rest, rfl⟩ := List.append_of_mem hmem
  rw [List.map_append, List.map_cons, List.nodup_middle, List.nodup_cons, List.mem_append,
    not_or] at hnodup
  refine (sameIn_readPlan hnodup.1.1 hnodup.1.2 row).trans ?_
  rw [readPlan_singleton]
  cases record[place]? <;> exact .refl field _

/-- **Every field is read from its own cell**, or is as in a blank row. -/
theorem sameIn_ofRecord {mapping : Mapping} (hmapping : mapping.Distinct)
    (hcolumns : (columns.map Column.id).Nodup) (headers record : List String) (id : String)
    (field : Field) :
    SameIn field (ofRecord columns (mapping.plan columns headers) id record)
      ((blank id).readCell? columns field
        (((mapping.headerOf? columns headers field).bind (Mapping.place? headers)).bind (record[·]?))) := by
  cases hplace : (mapping.headerOf? columns headers field).bind (Mapping.place? headers) with
  | some place =>
    have hmem := (hmapping.mem_plan_iff hcolumns).2 hplace
    exact sameIn_readPlan_of_mem (hmapping.nodup_plan hcolumns headers) hmem (blank id)
  | none =>
    refine sameIn_readPlan_of_not_mem (fun hmem => ?_) (blank id)
    obtain ⟨⟨f, place⟩, hentry, rfl⟩ := List.mem_map.1 hmem
    cases hplace.symm.trans ((hmapping.mem_plan_iff hcolumns).1 hentry)

/-- What a part of a row is when a field has been read: the conversion of the text, or what it was. -/
theorem get_readCell? {α : Type} {row : Row} (get : Row → α) (convert : String → α)
    (hconvert : ∀ cell, (Text.trim cell).isEmpty = false →
      get (row.readCell columns field cell) = convert (Text.trim cell)) (cell? : Option String) :
    get (row.readCell? columns field cell?) = ((cell?.bind filled?).map convert).getD (get row) := by
  cases cell? with
  | none => rfl
  | some cell =>
    rw [readCell?, Option.bind_some, filled?]
    cases hempty : (Text.trim cell).isEmpty with
    | true => simp [readCell, hempty]
    | false => exact hconvert cell hempty

/-- A row that has been read field by field, in words of what was read. -/
theorem Reads.of_sameIn {row : Row} {id : String} {cell? : Field → Option String}
    (h : ∀ field, SameIn field row ((blank id).readCell? columns field (cell? field))) :
    row.Reads columns fun field => (cell? field).bind filled? where
  sourceId := Eq.trans (h .sourceId) <|
    get_readCell? Row.sourceId readSourceId (fun cell hcell => by simp [readCell, hcell]) _
  name := by
    have hname := Eq.trans (h .name) <|
      get_readCell? Row.name (fun text => text) (fun cell hcell => by simp [readCell, hcell]) _
    rwa [Option.map_id'] at hname
  image := by
    have himage := Eq.trans (h .image) <|
      get_readCell? Row.image some (fun cell hcell => by simp [readCell, hcell]) _
    cases hcell : (cell? .image).bind filled? <;> rw [himage, hcell] <;> rfl
  categories := Eq.trans (h .categories) <|
    get_readCell? Row.categories Text.splitItems (fun cell hcell => by simp [readCell, hcell]) _
  classification := Eq.trans (h .classification) <|
    get_readCell? Row.classification readCount (fun cell hcell => by simp [readCell, hcell]) _
  capabilities := Eq.trans (h .capabilities) <|
    get_readCell? Row.capabilities Text.splitItems (fun cell hcell => by simp [readCell, hcell]) _
  stats s := by
    have hconvert : ∀ cell, (Text.trim cell).isEmpty = false →
        ((blank id).readCell columns (.stat s) cell).stats.get s = readCount (Text.trim cell) :=
      fun cell hcell => by simp [readCell, hcell, BaseStats.get_set_self]
    have hblank : (blank id).stats.get s = 0 := by cases s <;> rfl
    rw [← hblank]
    exact Eq.trans (h (.stat s)) (get_readCell? (fun row => row.stats.get s) readCount hconvert _)
  cells key := by
    have hcell := h (.dynamic key)
    cases hfind : columns.find? (·.id == key) with
    | none =>
      have hconvert : ∀ cell, (Text.trim cell).isEmpty = false →
          ((blank id).readCell columns (.dynamic key) cell).cells.get? key = none :=
        fun cell hcell => by simp [readCell, hcell, hfind, blank, Cells.get?, Cells.empty]
      refine Eq.trans hcell ((get_readCell? (fun row => row.cells.get? key) (fun _ => none)
        hconvert _).trans ?_)
      cases (cell? (.dynamic key)).bind filled? <;> rfl
    | some column =>
      have hconvert : ∀ cell, (Text.trim cell).isEmpty = false →
          ((blank id).readCell columns (.dynamic key) cell).cells.get? key =
            some (column.kind.readCell (Text.trim cell)) :=
        fun cell hcell => by simp [readCell, hcell, hfind]
      refine Eq.trans hcell ((get_readCell? (fun row => row.cells.get? key)
        (fun text => some (column.kind.readCell text)) hconvert _).trans ?_)
      cases (cell? (.dynamic key)).bind filled? <;> rfl

/-- The row of a record is read field by field. -/
theorem reads_ofRecord {mapping : Mapping} (hmapping : mapping.Distinct)
    (hcolumns : (columns.map Column.id).Nodup) (headers record : List String) (id : String) :
    (ofRecord columns (mapping.plan columns headers) id record).Reads columns
      (mapping.text? columns headers record) := by
  have htext : mapping.text? columns headers record = fun field =>
      (((mapping.headerOf? columns headers field).bind (Mapping.place? headers)).bind
        (record[·]?)).bind filled? := by
    funext field
    simp only [Mapping.text?, Mapping.textUnder?_eq, Option.bind_assoc]
  rw [htext]
  exact .of_sameIn (sameIn_ofRecord hmapping hcolumns headers record id)

end Row

/-! ## Whole tables -/

/-- **Reading a table follows its mapping.** Of any table that can be read at all, and for any mapping and
columns, there is a row for each record, in the order of the records and with an id from the supply.

* Each field of a row is the conversion of the text under the first header that stands for the field, or
  what it is in a blank row (`Row.Reads`); what the cells say makes nothing fail.
* A count is the number of its cell if that is from zero to the largest count, and zero otherwise; so is a
  source id, whose digits are read exactly. -/
theorem importRows_reads (freshId : Nat → String) {mapping : Mapping} {columns : List Column}
    {file : List Symbol} {table : Csv.Table} (hmapping : mapping.Distinct)
    (hcolumns : (columns.map Column.id).Nodup) (htable : Csv.table? file = some table) :
    (∃ rows, importRows freshId mapping columns file = .ok rows ∧
      rows.map Row.id = (List.range table.records.length).map freshId ∧
      (freshId.Injective → (rows.map Row.id).Nodup) ∧
      List.Forall₂ (fun record row =>
          row.Reads columns (mapping.text? columns table.headers record))
        table.records rows) ∧
    (∀ cell, Row.Counted (UInt32.size - 1) cell (Row.readCount cell).toNat) ∧
    ∀ cell,
      (∀ n, Decimal.readNat? (UInt64.size - 1) cell.toList = some n →
        (Row.readSourceId cell).toNat = n) ∧
      (Decimal.readNat? (UInt64.size - 1) cell.toList = none →
        Row.Counted (UInt64.size - 1) cell (Row.readSourceId cell).toNat) := by
  obtain ⟨rows, hrows⟩ : ∃ rows, rows = table.records.mapIdx fun k record =>
      Row.ofRecord columns (mapping.plan columns table.headers) (freshId k) record := ⟨_, rfl⟩
  have himport : importRows freshId mapping columns file = .ok rows := by
    rw [importRows, htable, hrows]
  have hids : rows.map Row.id = (List.range table.records.length).map freshId := by
    refine List.ext_getElem (by simp [hrows]) fun k hk hk' => ?_
    simp only [hrows, List.getElem_map, List.getElem_mapIdx, List.getElem_range]
    exact Row.sameIn_ofRecord hmapping hcolumns table.headers _ (freshId k) .id
  refine ⟨⟨rows, himport, hids, fun hfresh => ?_, ?_⟩, Row.counted_readCount, Row.counted_readSourceId⟩
  · rw [hids]
    exact List.nodup_range.map hfresh
  · rw [hrows, List.forall₂_iff_get]
    refine ⟨by simp, fun k hk hk' => ?_⟩
    simp only [List.get_eq_getElem, List.getElem_mapIdx]
    exact Row.reads_ofRecord hmapping hcolumns table.headers _ (freshId k)

/-- A table with a header twice, a number out of range, a short record and an empty one. -/
def shortFile : List Symbol :=
  Symbol.ofText "Name, HP,hp,Note,Tag\nBulbasaur,45,46,seed,grass\nMystery,-3,7\n,,\n"

/-- A column that is read from the header `Tag` although there is a header with its name. -/
def noteColumns : List Column := [.ofLabel "Note" .text]

/-- A cell that is missing, blank or no count leaves its row readable. -/
theorem importRows_reads_short :
    ∃ rows, importRows (fun k => String.ofList (List.replicate k 'x'))
        ((Mapping.auto ["Name", "HP", "hp"]).insert (.dynamic "note") "tag") noteColumns shortFile =
          .ok rows ∧
      (rows.map Row.id).Nodup ∧
      rows.map Row.name = ["Bulbasaur", "Mystery", "Unknown"] ∧
      rows.map (·.stats.get .hp) = [45, 0, 0] ∧
      rows.map (·.cells.get? "note") = [some (.text "grass"), none, none] := by
  have htable : Csv.table? shortFile = some
      { headers := ["Name", "HP", "hp", "Note", "Tag"]
        records := [["Bulbasaur", "45", "46", "seed", "grass"], ["Mystery", "-3", "7"], ["", "", ""]] } := by
    decide +kernel
  have hfresh : (fun k => String.ofList (List.replicate k 'x')).Injective := fun j k h => by
    simpa using congrArg String.toList h
  have hmapping := (Mapping.distinct_auto ["Name", "HP", "hp"]).insert (.dynamic "note") "tag"
  have hcolumns : (noteColumns.map Column.id).Nodup := List.nodup_singleton _
  obtain ⟨⟨rows, himport, -, hids, hrows⟩, -⟩ :=
    importRows_reads (fun k => String.ofList (List.replicate k 'x')) hmapping hcolumns htable
  refine ⟨rows, himport, hids hfresh, ?_⟩
  obtain ⟨first, rest, hfirst, hrest, rfl⟩ := List.forall₂_cons_left_iff.1 hrows
  obtain ⟨second, last, hsecond, hlast, rfl⟩ := List.forall₂_cons_left_iff.1 hrest
  obtain ⟨third, _, hthird, hnil, rfl⟩ := List.forall₂_cons_left_iff.1 hlast
  cases hnil
  refine ⟨?_, ?_, ?_⟩
  · rw [List.map_cons, List.map_cons, List.map_cons, hfirst.name, hsecond.name, hthird.name]
    decide +kernel
  · rw [List.map_cons, List.map_cons, List.map_cons, hfirst.stats, hsecond.stats, hthird.stats]
    decide +kernel
  · rw [List.map_cons, List.map_cons, List.map_cons, hfirst.cells, hsecond.cells, hthird.cells]
    decide +kernel

end Fieldbook
