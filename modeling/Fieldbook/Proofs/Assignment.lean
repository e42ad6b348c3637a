import Fieldbook.Proofs.Lists
import Fieldbook.Proofs.WorkingSet.Conform

/-!
# What a field takes, and what an assignment leaves alone

A value becomes a typed assignment or is refused. `Field.Takes` says which values a field takes, field
by field and without the assignment; it is the whole of the check (`resolve_isOk_iff`).

An assignment is to one field (`Assignment.field`), which is the one it was resolved for
(`field_of_resolve`), and a row is the same as before in every other (`Row.sameBut_assign`). Sameness is
sameness of the stored fields, not of the values shown for them: two source ids beyond `2 ^ 53` may show
one number and differ. What an assignment puts into its field does not depend on what was there, so that
assigning twice is assigning once (`Row.assignAll_assignAll`).
-/

namespace Fieldbook

/-! ## What a field takes -/

/-- The double is a whole number from zero to `limit`. -/
def Double.Counts (limit : Nat) (x : Double) : Prop := ∃ n, x.toNat? = some n ∧ n ≤ limit

/-- A cell of this kind takes the value. -/
def ColumnKind.Takes : ColumnKind → Value → Prop
  | text, .text _ | text, .number _ | text, .bool _ => True
  | number, .number _ => True
  | boolean, .bool _ => True
  | _, _ => False

/-- The field takes the value: what counts must be a whole number in range, a name may be a text, a
number or a truth value, an image a text or nothing, a list may be spelled as a text, and a dynamic
field must be declared and takes what its kind takes. The id takes nothing. -/
def Field.Takes (columns : List Column) : Field → Value → Prop
  | .sourceId, .number x => x.Counts UInt64.size
  | .classification, .number x | .stat _, .number x => x.Counts (UInt32.size - 1)
  | .name, .text _ | .name, .number _ | .name, .bool _ => True
  | .image, .text _ | .image, .null => True
  | .categories, .list _ | .categories, .text _ => True
  | .capabilities, .list _ | .capabilities, .text _ => True
  | .dynamic key, value =>
    ∃ column, columns.find? (·.id == key) = some column ∧ column.kind.Takes value
  | _, _ => False

theorem Value.isSome_toNat? (value : Value) (limit : Nat) :
    (value.toNat? limit).isSome = true ↔ ∃ x, value = .number x ∧ x.Counts limit := by
  cases value with
  | number x =>
    cases hx : x.toNat? with
    | none => simp [Value.toNat?, Double.Counts, hx]
    | some n => by_cases hn : n ≤ limit <;> simp [Value.toNat?, Double.Counts, Option.filter, hx, hn]
  | _ => simp [Value.toNat?]

theorem Value.isSome_toCell? (value : Value) (kind : ColumnKind) :
    (value.toCell? kind).isSome = true ↔ kind.Takes value := by
  cases kind <;> cases value <;> simp [Value.toCell?, Value.toText?, ColumnKind.Takes]

namespace Assignment

/-- The field that an assignment is to. -/
def field : Assignment → Field
  | sourceId _ => .sourceId
  | name _ => .name
  | image _ => .image
  | categories _ => .categories
  | classification _ => .classification
  | capabilities _ => .capabilities
  | stat s _ => .stat s
  | cell column _ => .dynamic column

/-- What is made of a value of the right type is assigned, and the lack of one is the refusal. -/
theorem fitted_eq_ok_iff {α : Type} {typed? : Option α} {make : α → Assignment}
    {reason : EditError} {a : Assignment} :
    (match typed?.map make with
      | some a => Except.ok a
      | none => .error reason) = .ok a ↔ ∃ x, typed? = some x ∧ make x = a := by
  cases typed? <;> simp

theorem fitted_ne_unknownRow {a? : Option Assignment} {field : Field} {value : Value}
    {expected : Expected} {id : String} :
    (match a? with
      | some a => Except.ok a
      | none => .error (EditError.misfit field value expected)) ≠ .error (.unknownRow id) := by
  cases a? <;> simp

variable {columns : List Column} {field : Field} {value : Value} {a : Assignment}

/-- A value that must count is assigned exactly when it counts. -/
theorem exists_counted_iff {limit : Nat} {make : Nat → Assignment} {reason : EditError} :
    (∃ a, (match (value.toNat? limit).map make with
        | some a => Except.ok a
        | none => .error reason) = .ok a) ↔ ∃ x, value = .number x ∧ x.Counts limit := by
  rw [← Value.isSome_toNat?, Option.isSome_iff_exists]
  constructor
  · rintro ⟨a, h⟩
    obtain ⟨n, hn, -⟩ := fitted_eq_ok_iff.1 h
    exact ⟨n, hn⟩
  · rintro ⟨n, hn⟩
    exact ⟨make n, fitted_eq_ok_iff.2 ⟨n, hn, rfl⟩⟩

/-- **The check of a value is `Field.Takes`**, for every field, value and list of columns. -/
theorem resolve_isOk_iff :
    (∃ a, resolve columns field value = .ok a) ↔ field.Takes columns value := by
  cases field with
  | id => simp [resolve, Field.Takes]
  | sourceId => exact exists_counted_iff.trans (by cases value <;> simp [Field.Takes])
  | classification => exact exists_counted_iff.trans (by cases value <;> simp [Field.Takes])
  | stat s => exact exists_counted_iff.trans (by cases value <;> simp [Field.Takes])
  | name => cases value <;> simp [resolve, Field.Takes, Value.toText?]
  | image => cases value <;> simp [resolve, Field.Takes]
  | categories => cases value <;> simp [resolve, Field.Takes, Value.toItems?]
  | capabilities => cases value <;> simp [resolve, Field.Takes, Value.toItems?]
  | dynamic key =>
    cases hfind : columns.find? (·.id == key) with
    | none => simp [resolve, Field.Takes, hfind]
    | some column =>
      have htakes := value.isSome_toCell? column.kind
      cases hcell : value.toCell? column.kind <;> simp_all [resolve, Field.Takes]

/-- A value resolved for a dynamic field is assigned to the cell of a declared column. -/
theorem resolve_dynamic {key : String} (h : resolve columns (.dynamic key) value = .ok a) :
    key ∈ columns.map Column.id ∧ ∃ cell, a = .cell key cell := by
  cases hfind : columns.find? (·.id == key) with
  | none => simp [resolve, hfind] at h
  | some column =>
    rw [resolve, hfind] at h
    obtain ⟨cell, -, rfl⟩ := fitted_eq_ok_iff.1 h
    have hid : column.id = key := by simpa using List.find?_some hfind
    exact ⟨List.mem_map.2 ⟨column, List.mem_of_find?_eq_some hfind, hid⟩, cell, rfl⟩

/-- A value resolved for a field is assigned to that field. -/
theorem field_of_resolve (h : resolve columns field value = .ok a) : a.field = field := by
  cases field with
  | id => simp [resolve] at h
  | image => cases value <;> simp [resolve] at h <;> subst h <;> rfl
  | dynamic key => obtain ⟨-, cell, rfl⟩ := resolve_dynamic h; rfl
  | _ => obtain ⟨x, -, rfl⟩ := fitted_eq_ok_iff.1 h; rfl

/-- What is wrong with a value is never that a row is missing. -/
theorem resolve_ne_unknownRow (id : String) :
    resolve columns field value ≠ .error (.unknownRow id) := by
  cases field with
  | id => simp [resolve]
  | dynamic key =>
    rw [resolve]
    cases columns.find? (·.id == key) with
    | none => simp
    | some column => exact fitted_ne_unknownRow
  | _ => exact fitted_ne_unknownRow

/-- Only a cell of a declared column is ever assigned to. -/
theorem mem_of_resolve_cell {key : String} {cell : Value}
    (h : resolve columns field value = .ok (.cell key cell)) : key ∈ columns.map Column.id := by
  obtain rfl : Field.dynamic key = field := field_of_resolve h
  exact (resolve_dynamic h).1

end Assignment

/-! ## What an assignment leaves alone -/

theorem BaseStats.get_set_of_ne (stats : BaseStats) {s t : Stat} (n : UInt32) (h : s ≠ t) :
    (stats.set s n).get t = stats.get t := by
  cases s <;> cases t <;> first | rfl | exact absurd rfl h

theorem BaseStats.get_set_self (stats : BaseStats) (s : Stat) (n : UInt32) :
    (stats.set s n).get s = n := by
  cases s <;> rfl

theorem BaseStats.ext_get {a b : BaseStats} (h : ∀ s, a.get s = b.get s) : a = b := by
  obtain ⟨⟩ := a
  obtain ⟨⟩ := b
  have hall := And.intro (And.intro (h .hp) (h .attack)) <|
    And.intro (And.intro (h .defense) (h .specialAttack)) (And.intro (h .specialDefense) (h .speed))
  simpa [get, and_assoc] using hall

namespace Row

/-- The rows are the same in every field but one. -/
structure SameBut (field : Field) (a b : Row) : Prop where
  id : field ≠ .id → a.id = b.id
  sourceId : field ≠ .sourceId → a.sourceId = b.sourceId
  name : field ≠ .name → a.name = b.name
  image : field ≠ .image → a.image = b.image
  categories : field ≠ .categories → a.categories = b.categories
  classification : field ≠ .classification → a.classification = b.classification
  capabilities : field ≠ .capabilities → a.capabilities = b.capabilities
  stat : ∀ s, field ≠ .stat s → a.stats.get s = b.stats.get s
  cell : ∀ key, field ≠ .dynamic key → a.cells.get? key = b.cells.get? key

/-- **An assignment changes its field and no other.** -/
theorem sameBut_assign (row : Row) (a : Assignment) : SameBut a.field (row.assign a) row := by
  have hall : ∀ field, SameBut field row row := fun field => by constructor <;> intros <;> rfl
  cases a with
  | stat s n =>
    exact { hall (.stat s) with
      stat := fun t hne => BaseStats.get_set_of_ne row.stats n fun h => hne (congrArg Field.stat h) }
  | cell key value =>
    exact { hall (.dynamic key) with
      cell := fun k hne =>
        Cells.get?_put_of_ne row.cells value fun h => hne (congrArg Field.dynamic h.symm) }
  | sourceId n => exact { hall .sourceId with sourceId := fun hne => absurd rfl hne }
  | name s => exact { hall .name with name := fun hne => absurd rfl hne }
  | image s => exact { hall .image with image := fun hne => absurd rfl hne }
  | categories items => exact { hall .categories with categories := fun hne => absurd rfl hne }
  | classification n =>
    exact { hall .classification with classification := fun hne => absurd rfl hne }
  | capabilities items => exact { hall .capabilities with capabilities := fun hne => absurd rfl hne }

/-- The rows are the same in a field. -/
def SameIn : Field → Row → Row → Prop
  | .id, a, b => a.id = b.id
  | .sourceId, a, b => a.sourceId = b.sourceId
  | .name, a, b => a.name = b.name
  | .image, a, b => a.image = b.image
  | .categories, a, b => a.categories = b.categories
  | .classification, a, b => a.classification = b.classification
  | .capabilities, a, b => a.capabilities = b.capabilities
  | .stat s, a, b => a.stats.get s = b.stats.get s
  | .dynamic key, a, b => a.cells.get? key = b.cells.get? key

variable {field : Field} {a b c : Row}

theorem SameIn.refl (field : Field) (a : Row) : SameIn field a a := by
  cases field <;> rfl

theorem SameIn.symm (h : SameIn field a b) : SameIn field b a := by
  cases field <;> exact Eq.symm h

theorem SameIn.trans (h : SameIn field a b) (h' : SameIn field b c) : SameIn field a c := by
  cases field <;> exact Eq.trans h h'

theorem SameBut.sameIn (h : SameBut field a b) {other : Field} (hne : field ≠ other) :
    SameIn other a b := by
  cases other with
  | id => exact h.id hne
  | sourceId => exact h.sourceId hne
  | name => exact h.name hne
  | image => exact h.image hne
  | categories => exact h.categories hne
  | classification => exact h.classification hne
  | capabilities => exact h.capabilities hne
  | stat s => exact h.stat s hne
  | dynamic key => exact h.cell key hne

/-- Rows that are the same in every field are equal. -/
theorem eq_of_sameIn (h : ∀ field, SameIn field a b) : a = b := by
  have hstats : a.stats = b.stats := BaseStats.ext_get fun s => h (.stat s)
  have hcells : a.cells = b.cells := Cells.ext_get? fun key => h (.dynamic key)
  obtain ⟨⟩ := a
  obtain ⟨⟩ := b
  rw [Row.mk.injEq]
  exact ⟨h .id, h .sourceId, h .name, h .image, h .categories, h .classification, h .capabilities,
    hstats, hcells⟩

/-- In the field that is assigned to it makes no difference what was there before. -/
theorem sameIn_assign_field (a b : Row) (x : Assignment) : SameIn x.field (a.assign x) (b.assign x) := by
  cases x with
  | stat s n => exact (a.stats.get_set_self s n).trans (b.stats.get_set_self s n).symm
  | cell key value =>
    exact (a.cells.get?_put_self key value).trans (b.cells.get?_put_self key value).symm
  | _ => rfl

theorem SameIn.assign (h : SameIn field a b) (x : Assignment) :
    SameIn field (a.assign x) (b.assign x) := by
  by_cases hfield : x.field = field
  · exact hfield ▸ sameIn_assign_field a b x
  · have ha := (a.sameBut_assign x).sameIn hfield
    have hb := (b.sameBut_assign x).sameIn hfield
    exact ha.trans (h.trans hb.symm)

variable {assignments : List Assignment}

theorem SameIn.assignAll (h : SameIn field a b) (assignments : List Assignment) :
    SameIn field (a.assignAll assignments) (b.assignAll assignments) := by
  induction assignments generalizing a b with
  | nil => exact h
  | cons x rest ih => exact ih (h.assign x)

/-- A field that nothing is assigned to stays as it is. -/
theorem sameIn_assignAll_of_not_mem (h : field ∉ assignments.map Assignment.field) (a : Row) :
    SameIn field (a.assignAll assignments) a := by
  induction assignments generalizing a with
  | nil => exact .refl field a
  | cons x rest ih =>
    rw [List.map_cons, List.mem_cons, not_or] at h
    exact (ih h.2 (a.assign x)).trans ((a.sameBut_assign x).sameIn (Ne.symm h.1))

/-- In a field that something is assigned to it makes no difference what was there before. -/
theorem sameIn_assignAll_of_mem (h : field ∈ assignments.map Assignment.field) (a b : Row) :
    SameIn field (a.assignAll assignments) (b.assignAll assignments) := by
  induction assignments generalizing a b with
  | nil => cases h
  | cons x rest ih =>
    rcases List.mem_cons.1 h with rfl | h
    · exact (sameIn_assign_field a b x).assignAll rest
    · exact ih h (a.assign x) (b.assign x)

/-- **Assigning twice is assigning once.** -/
theorem assignAll_assignAll (a : Row) (assignments : List Assignment) :
    (a.assignAll assignments).assignAll assignments = a.assignAll assignments := by
  refine eq_of_sameIn fun field => ?_
  by_cases h : field ∈ assignments.map Assignment.field
  · exact sameIn_assignAll_of_mem h _ a
  · exact sameIn_assignAll_of_not_mem h _

/-- The id is no assignment's field. -/
@[simp]
theorem assign_id (row : Row) (a : Assignment) : (row.assign a).id = row.id :=
  (row.sameBut_assign a).id (by cases a <;> nofun)

@[simp]
theorem assignAll_id (row : Row) (assignments : List Assignment) :
    (row.assignAll assignments).id = row.id := by
  induction assignments generalizing row with
  | nil => rfl
  | cons a rest ih => exact (ih (row.assign a)).trans (row.assign_id a)

/-- An assignment to a cell that is there, or to no cell, leaves the row with the cells it has. -/
theorem Uniform.assign {columns : List Column} {row : Row} {a : Assignment} (h : row.Uniform columns)
    (ha : ∀ key cell, a = .cell key cell → key ∈ columns.map Column.id) :
    (row.assign a).Uniform columns := by
  cases a with
  | cell key cell =>
    intro k
    rw [Row.assign, Cells.mem_keys_put, h k]
    constructor
    · rintro (rfl | hk)
      · exact ha k cell rfl
      · exact hk
    · exact Or.inr
  | _ => exact h

theorem Uniform.assignAll {columns : List Column} {row : Row} {assignments : List Assignment}
    (h : row.Uniform columns)
    (ha : ∀ a ∈ assignments, ∀ key cell, a = .cell key cell → key ∈ columns.map Column.id) :
    (row.assignAll assignments).Uniform columns := by
  induction assignments generalizing row with
  | nil => exact h
  | cons a rest ih =>
    exact ih (h.assign (ha a List.mem_cons_self)) fun b hb => ha b (List.mem_cons_of_mem a hb)

end Row

/-! ## Patches -/

/-- A patch that is resolved assigns to no cells but those of declared columns. -/
theorem Patch.mem_of_resolve_cell {patch : Patch} {columns : List Column}
    {assignments : List Assignment} (h : patch.resolve columns = .ok assignments) :
    ∀ a ∈ assignments, ∀ key cell, a = .cell key cell → key ∈ columns.map Column.id := by
  rintro a ha key cell rfl
  obtain ⟨e, -, he⟩ := exists_mem_of_forall₂ (mapM_eq_ok_iff.1 h) ha
  exact Assignment.mem_of_resolve_cell he

end Fieldbook
