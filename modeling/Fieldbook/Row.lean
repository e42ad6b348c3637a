import Fieldbook.Column

/-!
# Rows

One record of the working set: the fixed fields and a table of cells for the dynamic ones. The cells are
kept in ascending order of their keys, which is the order in which they are written, so two tables of
cells with the same contents are equal.

* reading a cell that was put gives what was put, and reading any other cell is as before
  (`Cells.get?_put_self`, `Cells.get?_put_of_ne`);
* tables that answer every key alike are equal (`Cells.ext_get?`).
-/

namespace Fieldbook

/-! ## Cells -/

/-- Cells by key, keys ascending. -/
structure Cells where
  entries : List (String × Value)
  ascending : (entries.map Prod.fst).Pairwise (· < ·)
  deriving DecidableEq

namespace Cells

/-- Puts a value under a key in a list with ascending keys, in place of the value that was there. -/
def insertEntry (key : String) (value : Value) : List (String × Value) → List (String × Value)
  | [] => [(key, value)]
  | (k, v) :: rest =>
    if key < k then (key, value) :: (k, v) :: rest
    else if key = k then (key, value) :: rest
    else (k, v) :: insertEntry key value rest

/-- An entry that is put in has its key added, and no other. -/
theorem mem_keys_insertEntry {key k : String} {value : Value} {entries : List (String × Value)} :
    k ∈ (insertEntry key value entries).map Prod.fst ↔ k = key ∨ k ∈ entries.map Prod.fst := by
  induction entries with
  | nil => simp [insertEntry]
  | cons e rest ih =>
    obtain ⟨k', v'⟩ := e
    rw [insertEntry]
    split
    · simp
    · split
      · next h => subst h; simp
      · simp only [List.map_cons, List.mem_cons, ih]
        constructor
        · rintro (h | h | h) <;> simp [h]
        · rintro (h | h | h) <;> simp [h]

/-- **Putting an entry in keeps the keys ascending.** -/
theorem ascending_insertEntry {key : String} {value : Value} {entries : List (String × Value)}
    (h : (entries.map Prod.fst).Pairwise (· < ·)) :
    ((insertEntry key value entries).map Prod.fst).Pairwise (· < ·) := by
  induction entries with
  | nil => simp [insertEntry]
  | cons e rest ih =>
    obtain ⟨k, v⟩ := e
    rw [List.map_cons, List.pairwise_cons] at h
    rw [insertEntry]
    split
    · next hlt =>
      simp only [List.map_cons, List.pairwise_cons, List.mem_cons]
      refine ⟨?_, h⟩
      rintro k' (rfl | hk')
      · exact hlt
      · exact String.lt_trans hlt (h.1 k' hk')
    · next hge =>
      split
      · next heq =>
        subst heq
        simpa only [List.map_cons, List.pairwise_cons] using h
      · next hne =>
        simp only [List.map_cons, List.pairwise_cons]
        refine ⟨fun k' hk' => ?_, ih h.2⟩
        rcases mem_keys_insertEntry.1 hk' with rfl | hk'
        · exact String.not_le.1 fun hle => hne (String.le_antisymm hle (String.not_lt.1 hge))
        · exact h.1 k' hk'

/-- No cells. -/
def empty : Cells := ⟨[], List.Pairwise.nil⟩

/-- The value of a cell. -/
def get? (cells : Cells) (key : String) : Option Value :=
  cells.entries.lookup key

/-- The keys, ascending. -/
def keys (cells : Cells) : List String := cells.entries.map Prod.fst

/-- There is a cell with this key. -/
def has (cells : Cells) (key : String) : Bool := (cells.get? key).isSome

/-- Puts a value into a cell. -/
def put (cells : Cells) (key : String) (value : Value) : Cells :=
  ⟨insertEntry key value cells.entries, ascending_insertEntry cells.ascending⟩

/-- Keeps the cells whose keys pass the test. -/
def keep (cells : Cells) (test : String → Bool) : Cells :=
  ⟨cells.entries.filter (test ·.1),
    cells.ascending.sublist (List.filter_sublist.map Prod.fst)⟩

/-- The cells of a list of pairs; of two pairs with one key the later counts. -/
def ofList (entries : List (String × Value)) : Cells :=
  entries.foldl (fun cells e => cells.put e.1 e.2) empty

theorem lookup_cons_eq (k k' : String) (v : Value) (rest : List (String × Value)) :
    ((k', v) :: rest).lookup k = if k = k' then some v else rest.lookup k := by
  rw [List.lookup_cons]
  by_cases h : k = k'
  · simp [h]
  · simp [h, beq_eq_false_iff_ne.2 h]

/-- What was put in is found under its key, and under every other key what was there. -/
theorem lookup_insertEntry (key : String) (value : Value) (entries : List (String × Value))
    (k : String) :
    (insertEntry key value entries).lookup k = if k = key then some value else entries.lookup k := by
  induction entries with
  | nil => simp [insertEntry, lookup_cons_eq]
  | cons e rest ih =>
    obtain ⟨k', v'⟩ := e
    rw [insertEntry]
    split
    · rw [lookup_cons_eq]
    · split
      · next heq =>
        subst heq
        rw [lookup_cons_eq, lookup_cons_eq]
        by_cases h : k = key <;> simp [h]
      · next hne =>
        rw [lookup_cons_eq, lookup_cons_eq, ih]
        by_cases hk : k = k'
        · have : k ≠ key := fun h => hne (h ▸ hk)
          simp [hk ▸ this, hk]
        · simp [hk]

/-- Reading the cell that was put gives what was put. -/
@[simp]
theorem get?_put_self (cells : Cells) (key : String) (value : Value) :
    (cells.put key value).get? key = some value := by
  simp [get?, put, lookup_insertEntry]

/-- Reading any other cell is as before. -/
theorem get?_put_of_ne (cells : Cells) {key k : String} (value : Value) (h : k ≠ key) :
    (cells.put key value).get? k = cells.get? k := by
  simp [get?, put, lookup_insertEntry, h]

theorem lookup_filter_keys (entries : List (String × Value)) (test : String → Bool) (k : String) :
    (entries.filter (test ·.1)).lookup k = if test k then entries.lookup k else none := by
  induction entries with
  | nil => simp
  | cons e rest ih =>
    obtain ⟨k', v'⟩ := e
    rw [List.filter_cons, lookup_cons_eq]
    by_cases hk : k = k'
    · subst hk
      by_cases ht : test k <;> simp [ht, ih]
    · by_cases ht : test k' <;> simp [ht, lookup_cons_eq, hk, ih]

/-- The cells that are kept are as before, the others are gone. -/
theorem get?_keep (cells : Cells) (test : String → Bool) (k : String) :
    (cells.keep test).get? k = if test k then cells.get? k else none :=
  lookup_filter_keys cells.entries test k

theorem lookup_isSome_iff {entries : List (String × Value)} {k : String} :
    (entries.lookup k).isSome ↔ k ∈ entries.map Prod.fst := by
  induction entries with
  | nil => simp
  | cons e rest ih =>
    obtain ⟨k', v'⟩ := e
    rw [lookup_cons_eq, List.map_cons, List.mem_cons, ← ih]
    by_cases hk : k = k' <;> simp [hk]

/-- A key is listed exactly when there is a cell with it. -/
theorem mem_keys_iff {cells : Cells} {k : String} : k ∈ cells.keys ↔ cells.has k = true :=
  lookup_isSome_iff.symm

theorem eq_of_lookup_eq {a b : List (String × Value)}
    (ha : (a.map Prod.fst).Pairwise (· < ·)) (hb : (b.map Prod.fst).Pairwise (· < ·))
    (h : ∀ k, a.lookup k = b.lookup k) : a = b := by
  induction a generalizing b with
  | nil =>
    cases b with
    | nil => rfl
    | cons e rest => simpa using (h e.1).trans (lookup_cons_eq e.1 e.1 e.2 rest)
  | cons e as ih =>
    obtain ⟨k, v⟩ := e
    cases b with
    | nil => simpa using (lookup_cons_eq k k v as).symm.trans (h k)
    | cons e' bs =>
      obtain ⟨k', v'⟩ := e'
      rw [List.map_cons, List.pairwise_cons] at ha hb
      -- Either head key occurs in the other list, and each list starts with its least key.
      have hk : k = k' := by
        have h₁ : k ∈ ((k', v') :: bs).map Prod.fst := by
          rw [← lookup_isSome_iff, ← h k, lookup_isSome_iff]; simp
        have h₂ : k' ∈ ((k, v) :: as).map Prod.fst := by
          rw [← lookup_isSome_iff, h k', lookup_isSome_iff]; simp
        rcases List.mem_cons.1 h₁ with h₁ | h₁
        · exact h₁
        · rcases List.mem_cons.1 h₂ with h₂ | h₂
          · exact h₂.symm
          · exact absurd (String.lt_trans (hb.1 k h₁) (ha.1 k' h₂)) (String.lt_irrefl k')
      subst hk
      have hv : v = v' := by simpa [lookup_cons_eq] using h k
      subst hv
      congr 1
      refine ih ha.2 hb.2 fun x => ?_
      by_cases hx : x = k
      · subst hx
        have hnot : ∀ {l : List (String × Value)}, (∀ y ∈ l.map Prod.fst, x < y) →
            l.lookup x = none := by
          intro l hl
          refine Option.not_isSome_iff_eq_none.1 fun hs => ?_
          exact String.lt_irrefl x (hl x (lookup_isSome_iff.1 hs))
        rw [hnot ha.1, hnot hb.1]
      · simpa [lookup_cons_eq, hx] using h x

/-- Tables of cells that answer every key alike are equal. -/
theorem ext_get? {a b : Cells} (h : ∀ k, a.get? k = b.get? k) : a = b := by
  obtain ⟨as, ha⟩ := a
  obtain ⟨bs, hb⟩ := b
  have : as = bs := eq_of_lookup_eq ha hb h
  subst this
  rfl

end Cells

/-! ## Base statistics -/

/-- The six base statistics of a record. -/
structure BaseStats where
  hp : UInt32 := 0
  attack : UInt32 := 0
  defense : UInt32 := 0
  specialAttack : UInt32 := 0
  specialDefense : UInt32 := 0
  speed : UInt32 := 0
  deriving DecidableEq

namespace BaseStats

/-- One of the statistics. -/
def get (stats : BaseStats) : Stat → UInt32
  | .hp => stats.hp
  | .attack => stats.attack
  | .defense => stats.defense
  | .specialAttack => stats.specialAttack
  | .specialDefense => stats.specialDefense
  | .speed => stats.speed

/-- The statistics with one of them replaced. -/
def set (stats : BaseStats) (stat : Stat) (n : UInt32) : BaseStats :=
  match stat with
  | .hp => { stats with hp := n }
  | .attack => { stats with attack := n }
  | .defense => { stats with defense := n }
  | .specialAttack => { stats with specialAttack := n }
  | .specialDefense => { stats with specialDefense := n }
  | .speed => { stats with speed := n }

/-- The statistics that a function gives. -/
def ofFunction (f : Stat → UInt32) : BaseStats :=
  ⟨f .hp, f .attack, f .defense, f .specialAttack, f .specialDefense, f .speed⟩

end BaseStats

/-! ## Rows -/

/-- A record of the working set. -/
structure Row where
  id : String
  sourceId : UInt64 := 0
  name : String := "Unknown"
  image : Option String := none
  categories : List String := []
  classification : UInt32 := 1
  capabilities : List String := []
  stats : BaseStats := {}
  cells : Cells := .empty
  deriving DecidableEq

namespace Row

/-- The row about which nothing but its id is known. -/
def blank (id : String) : Row := { id }

/-- The value of a field; a row may lack a dynamic field but has every other. -/
def get? (row : Row) : Field → Option Value
  | .id => some (.text row.id)
  | .sourceId => some (.number (.ofNat row.sourceId.toNat))
  | .name => some (.text row.name)
  | .image => some (row.image.elim .null .text)
  | .categories => some (.list row.categories)
  | .classification => some (.number (.ofNat row.classification.toNat))
  | .capabilities => some (.list row.capabilities)
  | .stat s => some (.number (.ofNat (row.stats.get s).toNat))
  | .dynamic column => row.cells.get? column

end Row

end Fieldbook
