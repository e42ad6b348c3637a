import Fieldbook.Proofs.WorkingSet.Index
import Fieldbook.Snapshot

/-!
# Reachable working sets

The working sets there are: the empty one, those put together from columns and rows or read back from a
snapshot, and whatever operations and transactions make of these. Nothing is asked of the columns and
rows that go in, and an operation may as well be refused.

* `Reachable.sound` is the invariant: the index is right and the ledger is tidy;
* `Reachable.ids_index_columns_cells` spells it out for rows, index and columns;
* `Reachable.operateAll_eq` says that a working set is the same as its ledger to everyone who can only
  operate on it: the answers are the same to any sequence of operations, and so are the rows and columns
  in the end.
-/

namespace Fieldbook

/-! ## Operations and transactions -/

/-- Does something and answers. What is refused changes nothing. -/
def WorkingSet.operate (set : WorkingSet) : Operation → WorkingSet × Answer
  | .append rows => let (set, n) := set.appendBatch rows; (set, .count n)
  | .replace rows => (set.replaceAll rows, .done)
  | .updateOne id patch =>
    match set.updateOne id patch with
    | .ok set => (set, .done)
    | .error reason => (set, .refused reason)
  | .updateMany ids patch =>
    match set.updateMany ids patch with
    | .ok (set, n) => (set, .count n)
    | .error reason => (set, .refused reason)
  | .deleteMany ids => let (set, n) := set.deleteMany ids; (set, .count n)
  | .declare column =>
    match set.declareColumn column with
    | .ok (set, isNew) => (set, .declared isNew)
    | .error reason => (set, .refused reason)
  | .get id => (set, .found (set.get? id))
  | .size => (set, .count set.size)

/-- Does one thing after another. -/
def WorkingSet.operateAll (set : WorkingSet) : List Operation → WorkingSet × List Answer
  | [] => (set, [])
  | operation :: rest =>
    let (set, answer) := set.operate operation
    let (set, answers) := set.operateAll rest
    (set, answer :: answers)

/-- A transaction: what it does next may depend on all that it has seen and been answered. -/
inductive Transaction (α : Type) where
  | finish (result : α)
  /-- Looks at the rows and columns. -/
  | look (next : List Row → List Column → Transaction α)
  | updateMany (ids : List String) (patch : Patch) (next : Except EditError Nat → Transaction α)
  | deleteMany (ids : List String) (next : Nat → Transaction α)

/-- Runs a transaction to its end. -/
def Transaction.run {α : Type} : Transaction α → WorkingSet → WorkingSet × α
  | finish result, set => (set, result)
  | look next, set => (next set.rows.toList set.columns).run set
  | updateMany ids patch next, set =>
    match set.updateMany ids patch with
    | .ok (set, n) => (next (.ok n)).run set
    | .error reason => (next (.error reason)).run set
  | deleteMany ids next, set =>
    let (set, n) := set.deleteMany ids
    (next n).run set

namespace WorkingSet

/-- The working sets there are. -/
inductive Reachable : WorkingSet → Prop where
  | empty : Reachable .empty
  | parts {set : WorkingSet} {columns : List Column} {rows : List Row}
      (h : ofParts columns rows = .ok set) : Reachable set
  | snapshot {set : WorkingSet} {s : Snapshot} (h : ofSnapshot s = .ok set) : Reachable set
  | operate {set : WorkingSet} (h : Reachable set) (operation : Operation) :
      Reachable (set.operate operation).1
  | transaction {set : WorkingSet} {α : Type} (h : Reachable set) (t : Transaction α) :
      Reachable (t.run set).1

/-! ## What one step keeps -/

variable {set : WorkingSet}

theorem follows_operate (h : set.Indexed) (operation : Operation) :
    Follows (set.operate operation) (set.ledger.operate operation) := by
  cases operation with
  | append rows =>
    have hbatch := follows_appendBatch h rows
    exact ⟨hbatch.indexed, hbatch.ledger_eq, congrArg Answer.count hbatch.answer_eq⟩
  | replace rows =>
    have hreplace := follows_replaceAll set rows
    exact ⟨hreplace.indexed, hreplace.ledger_eq, rfl⟩
  | updateOne id patch =>
    have hupdate := follows_updateMany h [id] patch
    rw [operate, Ledger.operate, updateOne]
    generalize set.updateMany [id] patch = result at hupdate ⊢
    generalize set.ledger.updateMany [id] patch = expected at hupdate ⊢
    cases hupdate with
    | ok hfollows => exact ⟨hfollows.indexed, hfollows.ledger_eq, rfl⟩
    | error reason => exact ⟨h, rfl, rfl⟩
  | updateMany ids patch =>
    have hupdate := follows_updateMany h ids patch
    rw [operate, Ledger.operate]
    generalize set.updateMany ids patch = result at hupdate ⊢
    generalize set.ledger.updateMany ids patch = expected at hupdate ⊢
    cases hupdate with
    | ok hfollows =>
      exact ⟨hfollows.indexed, hfollows.ledger_eq, congrArg Answer.count hfollows.answer_eq⟩
    | error reason => exact ⟨h, rfl, rfl⟩
  | deleteMany ids =>
    have hdelete := follows_deleteMany h ids
    exact ⟨hdelete.indexed, hdelete.ledger_eq, congrArg Answer.count hdelete.answer_eq⟩
  | declare column =>
    have hdeclare := follows_declareColumn h column
    rw [operate, Ledger.operate]
    generalize set.declareColumn column = result at hdeclare ⊢
    generalize set.ledger.declareColumn column = expected at hdeclare ⊢
    cases hdeclare with
    | ok hfollows =>
      exact ⟨hfollows.indexed, hfollows.ledger_eq, congrArg Answer.declared hfollows.answer_eq⟩
    | error reason => exact ⟨h, rfl, rfl⟩
  | get id => exact ⟨h, rfl, congrArg Answer.found (h.get?_eq id)⟩
  | size => exact ⟨h, rfl, rfl⟩

/-- The same for one operation after another. -/
theorem follows_operateAll (h : set.Indexed) (operations : List Operation) :
    Follows (set.operateAll operations) (set.ledger.operateAll operations) := by
  induction operations generalizing set with
  | nil => exact ⟨h, rfl, rfl⟩
  | cons operation rest ih =>
    have hfirst := follows_operate h operation
    have hrest := ih hfirst.indexed
    rw [hfirst.ledger_eq] at hrest
    exact ⟨hrest.indexed, hrest.ledger_eq, congrArg₂ List.cons hfirst.answer_eq hrest.answer_eq⟩

end WorkingSet

theorem Ledger.Tidy.operate {ledger : Ledger} (h : ledger.Tidy) (operation : Operation) :
    (ledger.operate operation).1.Tidy := by
  cases operation with
  | append rows => exact h.append rows
  | replace rows => exact h.replace rows
  | updateOne id patch =>
    rw [Ledger.operate]
    split
    · next hok => exact h.updateMany hok
    · exact h
  | updateMany ids patch =>
    rw [Ledger.operate]
    split
    · next hok => exact h.updateMany hok
    · exact h
  | deleteMany ids => exact h.deleteMany ids
  | declare column =>
    rw [Ledger.operate]
    split
    · next hok => exact h.declareColumn hok
    · exact h
  | get id => exact h
  | size => exact h

namespace WorkingSet

/-! ## What all of them keep -/

/-- The index is right and the ledger is tidy. -/
structure Sound (set : WorkingSet) : Prop where
  indexed : set.Indexed
  tidy : set.ledger.Tidy

theorem sound_empty : Sound .empty := ⟨indexed_empty, Ledger.tidy_empty⟩

variable {set : WorkingSet}

theorem Sound.operate (h : set.Sound) (operation : Operation) : (set.operate operation).1.Sound := by
  have hfollows := follows_operate h.indexed operation
  exact ⟨hfollows.indexed, hfollows.ledger_eq ▸ h.tidy.operate operation⟩

/-- Declaring columns in order either is refused or leaves a sound working set. -/
theorem Sound.declareAll (h : set.Sound) {columns : List Column} {after : WorkingSet}
    (hok : columns.foldlM (fun set column => (set.declareColumn column).map Prod.fst) set =
      .ok after) : after.Sound := by
  induction columns generalizing set with
  | nil => cases hok; exact h
  | cons column rest ih =>
    rw [List.foldlM_cons] at hok
    -- Declaring is an operation, whose refusal ends the fold.
    have hnext := h.operate (.declare column)
    rw [WorkingSet.operate] at hnext
    cases hdeclare : set.declareColumn column with
    | error reason => rw [hdeclare] at hok; cases hok
    | ok result =>
      rw [hdeclare] at hok hnext
      exact ih hnext hok

theorem sound_of_parts {columns : List Column} {rows : List Row} (h : ofParts columns rows = .ok set) :
    set.Sound := by
  rw [ofParts] at h
  cases hdeclared : columns.foldlM
      (fun set column => (set.declareColumn column).map Prod.fst) empty with
  | error reason => rw [hdeclared] at h; cases h
  | ok declared =>
    rw [hdeclared] at h
    cases h
    exact (sound_empty.declareAll hdeclared).operate (.append rows)

theorem sound_of_snapshot {s : Snapshot} (h : ofSnapshot s = .ok set) : set.Sound := by
  rw [ofSnapshot] at h
  split at h
  · cases hparts : ofParts s.columns s.rows with
    | error reason => rw [hparts] at h; cases h
    | ok made =>
      rw [hparts] at h
      cases h
      exact sound_of_parts hparts
  · cases h

/-- A transaction is a sequence of operations, whichever they turn out to be. -/
theorem Sound.run {α : Type} (h : set.Sound) (t : Transaction α) : (t.run set).1.Sound := by
  induction t generalizing set with
  | finish result => exact h
  | look next ih => exact ih _ _ h
  | updateMany ids patch next ih =>
    have hnext := h.operate (.updateMany ids patch)
    rw [WorkingSet.operate] at hnext
    rw [Transaction.run]
    cases hupdate : set.updateMany ids patch with
    | error reason => exact ih _ h
    | ok result =>
      rw [hupdate] at hnext
      exact ih _ hnext
  | deleteMany ids next ih => exact ih _ (h.operate (.deleteMany ids))

theorem Reachable.sound (h : Reachable set) : set.Sound := by
  induction h with
  | empty => exact sound_empty
  | parts hparts => exact sound_of_parts hparts
  | snapshot hsnapshot => exact sound_of_snapshot hsnapshot
  | operate _ operation ih => exact ih.operate operation
  | transaction _ t ih => exact ih.run t

/-- What is loaded from a file is reachable. -/
theorem Reachable.of_load {content : ByteArray} (h : load content = .ok set) : Reachable set := by
  rw [load] at h
  split at h
  · exact .snapshot h
  · cases h

theorem Reachable.operateAll (h : Reachable set) (operations : List Operation) :
    Reachable (set.operateAll operations).1 := by
  induction operations generalizing set with
  | nil => exact h
  | cons operation rest ih => exact ih (h.operate operation)

/-- **What every reachable working set keeps to.** No id twice; the index has the position of every id
and nothing else; no column twice and none with a reserved id; and in every row a cell for each declared
column and no others. -/
theorem Reachable.ids_index_columns_cells (h : Reachable set) :
    (set.rows.toList.map Row.id).Nodup ∧
    (∀ (id : String) (pos : Nat),
      set.index[id]? = some pos ↔ ∃ hpos : pos < set.rows.size, set.rows[pos].id = id) ∧
    ((set.columns.map Column.id).Nodup ∧ ∀ column ∈ set.columns, column.isReserved = false) ∧
    ∀ row ∈ set.rows, ∀ key, key ∈ row.cells.keys ↔ key ∈ set.columns.map Column.id := by
  obtain ⟨hindexed, htidy⟩ := h.sound
  refine ⟨htidy.ids, fun id pos => ?_, ⟨htidy.columnIds, htidy.usable⟩, fun row hrow => ?_⟩
  · rw [hindexed.eq_some_iff, Array.getElem?_toList]
    constructor
    · rintro ⟨row, hrow, rfl⟩
      obtain ⟨hpos, rfl⟩ := Array.getElem?_eq_some_iff.1 hrow
      exact ⟨hpos, rfl⟩
    · rintro ⟨hpos, rfl⟩
      exact ⟨_, Array.getElem?_eq_getElem hpos, rfl⟩
  · exact htidy.uniform row (Array.mem_def.1 hrow)

/-- Of two rows that are put in with one id there is one, and the index knows where the other row is. -/
theorem ids_index_columns_cells_repeated :
    let set := (empty.operateAll
      [.declare ⟨"note", "Note", .text⟩, .append [.blank "a", .blank "b", .blank "a"]]).1
    (set.rows.toList.map Row.id).Nodup ∧ set.index["b"]? = some 1 ∧
      ∀ row ∈ set.rows, "note" ∈ row.cells.keys := by
  intro set
  have hledger : set.ledger = _ := (follows_operateAll indexed_empty _).ledger_eq
  have hrows : set.rows.toList.map Row.id = ["a", "b"] :=
    (congrArg (fun ledger => ledger.rows.map Row.id) hledger).trans (by decide)
  have hcolumns : set.columns.map Column.id = ["note"] :=
    (congrArg (fun ledger => ledger.columns.map Column.id) hledger).trans (by decide)
  obtain ⟨hids, hindex, -, hcells⟩ := (Reachable.empty.operateAll _).ids_index_columns_cells
  refine ⟨hids, (hindex "b" 1).2 ?_, fun row hrow => (hcells row hrow "note").2 ?_⟩
  · have hsize : set.rows.size = 2 := by simpa using congrArg List.length hrows
    have hid : (set.rows.toList.map Row.id)[1]? = some "b" := by rw [hrows]; rfl
    refine ⟨hsize ▸ Nat.one_lt_two, ?_⟩
    simpa [hsize] using hid
  · exact hcolumns ▸ List.mem_singleton_self "note"

/-- **A working set answers as its ledger does**, to any operations in any order, and holds the same
rows in the same order and the same columns after them. -/
theorem Reachable.operateAll_eq (h : Reachable set) (operations : List Operation) :
    (set.operateAll operations).2 = (set.ledger.operateAll operations).2 ∧
    (set.operateAll operations).1.rows.toList = (set.ledger.operateAll operations).1.rows ∧
    (set.operateAll operations).1.columns = (set.ledger.operateAll operations).1.columns := by
  have hfollows := follows_operateAll h.sound.indexed operations
  exact ⟨hfollows.answer_eq, congrArg Ledger.rows hfollows.ledger_eq,
    congrArg Ledger.columns hfollows.ledger_eq⟩

/-- A row that stands twice in a batch counts once, and only ids that are there are removed. -/
theorem operateAll_eq_repeated :
    (empty.operateAll [.append [.blank "a", .blank "b", .blank "a"], .deleteMany ["a", "c", "a"],
        .get "b", .updateMany ["b", "c"] (.single .name (.text "B")), .size]).2 =
      [.count 2, .count 1, .found (some (.blank "b")), .refused (.unknownRow "c"), .count 1] :=
  (Reachable.empty.operateAll_eq _).1.trans (by decide)

end WorkingSet

end Fieldbook
