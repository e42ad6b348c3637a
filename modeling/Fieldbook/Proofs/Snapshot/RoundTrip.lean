import Fieldbook.Proofs.Files
import Fieldbook.Proofs.Snapshot.Documents
import Fieldbook.Proofs.WorkingSet.Parts
import Fieldbook.Proofs.WorkingSet.Reachable

/-!
# Saving and loading

What is saved is loaded again (`Reachable.load_save`). Between a working set and the one that is loaded
from its file lie three ways there and back:

* through the file tree, where what was saved under a path is found under it (`Files.readIfPresent_of_save`);
* through the document, where the snapshot is read back from its text (`Snapshot.read?_text`);
* through `ofParts`, which repairs what there is to repair: in a reachable working set, nothing
  (`ofSnapshot_snapshot`).

Rows and columns come back, the index is made anew.
-/

namespace Fieldbook.WorkingSet

variable {set : WorkingSet}

/-- A snapshot of tidy columns and rows makes the same rows and columns. -/
theorem ofSnapshot_of_tidy {ledger : Ledger} (h : ledger.Tidy) :
    ∃ loaded, ofSnapshot ⟨Snapshot.currentVersion, ledger.columns, ledger.rows⟩ = .ok loaded ∧
      loaded.ledger = ledger := by
  obtain ⟨loaded, hloaded, hledger⟩ := ofParts_of_tidy h
  refine ⟨loaded, ?_, hledger⟩
  rw [ofSnapshot, if_pos rfl]
  exact congrArg (Except.mapError SnapshotError.refused) hloaded

/-- The snapshot of a tidy working set makes the same rows and columns. -/
theorem ofSnapshot_snapshot (h : set.ledger.Tidy) :
    ∃ loaded, ofSnapshot set.snapshot = .ok loaded ∧ loaded.ledger = set.ledger :=
  ofSnapshot_of_tidy h

/-- The file depends on the rows and columns only. -/
theorem save_congr {other : WorkingSet} (h : other.ledger = set.ledger) : other.save = set.save := by
  have hsnapshot : ∀ set : WorkingSet,
      set.snapshot = ⟨Snapshot.currentVersion, set.ledger.columns, set.ledger.rows⟩ := fun _ => rfl
  rw [save, save, hsnapshot, hsnapshot, h]

/-- **What is saved is loaded again**, with the same columns and the same rows in the same order, so that
saving it once more writes the same file; and the file that was saved is the file that is found. -/
theorem Reachable.load_save (h : Reachable set)
    (hnumbers : ∀ row ∈ set.rows, ∀ key x, row.cells.get? key = some (.number x) → x.ReadsBack) :
    ∃ loaded, load set.save.toUTF8 = .ok loaded ∧ loaded.columns = set.columns ∧
      loaded.rows = set.rows ∧ loaded.save = set.save ∧
      ∀ (files : Files) (path : Path) (after : Files),
        files.save path set.save.toUTF8 = (after, none) →
          after.readIfPresent path = .ok (some set.save.toUTF8) := by
  obtain ⟨loaded, hloaded, hledger⟩ := ofSnapshot_snapshot h.sound.tidy
  have hread : Snapshot.read? set.save.toUTF8 = some set.snapshot :=
    Snapshot.read?_text fun row hrow => hnumbers row (Array.mem_def.2 hrow)
  refine ⟨loaded, ?_, congrArg Ledger.columns hledger,
    Array.toList_inj.1 (congrArg Ledger.rows hledger), save_congr hledger,
    fun _ _ _ => Files.readIfPresent_of_save⟩
  rw [load, hread]
  exact hloaded

/-- A row with a quote and a line break in its id, the largest source id, an image without a name, and
cells that do not all hold what their columns say. -/
def noted : Row where
  id := "a\n\""
  sourceId := 18446744073709551615
  image := some ""
  cells := .ofList [("weight", .number (.ofDecimal false ⟨1, -1⟩)), ("note", .list ["é", "\x07"])]

/-- The number in the row is one tenth, which is read back from `0.1`. -/
theorem readsBack_noted {key : String} {x : Double} (h : noted.cells.get? key = some (.number x)) :
    x.ReadsBack := by
  have hentries : noted.cells.entries =
      [("note", .list ["é", "\x07"]), ("weight", .number (.ofDecimal false ⟨1, -1⟩))] := by
    decide +kernel
  rw [Cells.get?, hentries, Cells.lookup_cons_eq, Cells.lookup_cons_eq] at h
  split_ifs at h
  · exact absurd (Option.some.inj h) Value.noConfusion
  · rw [← Value.number.inj (Option.some.inj h), Double.readsBack_iff]
    decide +kernel
  · exact absurd h (Option.some_ne_none _).symm

/-- A list under a column for texts, a control character and a number that is no whole one come back. -/
theorem load_save_noted :
    let set := (empty.operateAll
      [.declare ⟨"weight", "Weight", .number⟩, .declare ⟨"note", "Note", .text⟩, .append [noted]]).1
    ∃ loaded, load set.save.toUTF8 = .ok loaded ∧ loaded.rows.toList = [noted] ∧
      loaded.save = set.save := by
  intro set
  have hledger : set.ledger = _ := (follows_operateAll indexed_empty _).ledger_eq
  have hrows : set.rows.toList = [noted] :=
    (congrArg Ledger.rows hledger).trans (by decide +kernel)
  obtain ⟨loaded, hloaded, -, hsame, hsave, -⟩ :=
    (Reachable.empty.operateAll _).load_save fun row hrow key x hx => by
      obtain rfl : row = noted := List.mem_singleton.1 (hrows ▸ Array.mem_def.1 hrow)
      exact readsBack_noted hx
  exact ⟨loaded, hloaded, hsame ▸ hrows, hsave⟩

end Fieldbook.WorkingSet
