import Fieldbook.Proofs.WorkingSet.Reachable
import Mathlib.Data.Finset.Card

/-!
# Updates of many rows

An update is either refused as a whole or carried out on every row that it names. What it leaves when it
is carried out has a closed form, `revise`, from which follows how it compares with updates of one row
each:

* `updateMany_eq_ok` and `isError_updateMany_iff` say when an update is carried out and when it is
  refused;
* `revise_revise` and `revise_congr` say that revising rows in several goes is revising them in one, and
  that neither the order of the ids nor their repetitions matter;
* `Reachable.updateMany_whole` gathers what comes of it.
-/

namespace Fieldbook

/-- A patch is resolved exactly when every field takes its value. -/
theorem Patch.resolve_isOk_iff {patch : Patch} {columns : List Column} :
    (∃ assignments, patch.resolve columns = .ok assignments) ↔
      ∀ e ∈ patch.entries, e.1.Takes columns e.2 := by
  simp only [Patch.resolve, mapM_eq_ok_iff, ← Assignment.resolve_isOk_iff]
  generalize patch.entries = entries
  constructor
  · rintro ⟨assignments, hall⟩ e he
    obtain ⟨a, -, ha⟩ := exists_mem_of_forall₂ hall.flip he
    exact ⟨a, ha⟩
  · intro hall
    induction entries with
    | nil => exact ⟨[], .nil⟩
    | cons e rest ih =>
      obtain ⟨a, ha⟩ := hall e List.mem_cons_self
      obtain ⟨assignments, hrest⟩ := ih fun e he => hall e (List.mem_cons_of_mem _ he)
      exact ⟨a :: assignments, .cons ha hrest⟩

/-- The assignments of a patch are to the fields that it names. -/
theorem Patch.fields_of_resolve {patch : Patch} {columns : List Column} {assignments : List Assignment}
    (h : patch.resolve columns = .ok assignments) :
    assignments.map Assignment.field = patch.entries.map Prod.fst := by
  rw [Patch.resolve, mapM_eq_ok_iff] at h
  generalize patch.entries = entries at h
  induction h with
  | nil => rfl
  | cons he _ ih => rw [List.map_cons, List.map_cons, ih, Assignment.field_of_resolve he]

namespace WorkingSet

variable {set : WorkingSet} {ids order : List String} {patch : Patch} {assignments : List Assignment}

/-! ## Revised rows -/

/-- The working set with assignments made in the rows named. -/
def revise (set : WorkingSet) (ids : List String) (assignments : List Assignment) : WorkingSet :=
  { set with
    rows := set.rows.map fun row => if row.id ∈ ids then row.assignAll assignments else row }

theorem id_revised (row : Row) (ids : List String) (assignments : List Assignment) :
    (if row.id ∈ ids then row.assignAll assignments else row).id = row.id := by
  split
  · exact row.assignAll_id assignments
  · rfl

theorem ids_revise (set : WorkingSet) (ids : List String) (assignments : List Assignment) :
    (set.revise ids assignments).rows.toList.map Row.id = set.rows.toList.map Row.id := by
  rw [revise, Array.toList_map]
  exact Ledger.map_id_map (fun row => id_revised row ids assignments) _

theorem Indexed.revise (h : set.Indexed) (ids : List String) (assignments : List Assignment) :
    (set.revise ids assignments).Indexed :=
  h.congr rfl (ids_revise set ids assignments)

theorem knows_revise (set : WorkingSet) (ids : List String) (assignments : List Assignment)
    (id : String) : (set.revise ids assignments).ledger.knows id = set.ledger.knows id := by
  rw [Bool.eq_iff_iff, Ledger.knows_iff, Ledger.knows_iff, ledger_rows, ids_revise]
  rfl

theorem revise_nil (set : WorkingSet) (assignments : List Assignment) :
    set.revise [] assignments = set := by
  simp [revise]

/-- **Revising in two goes is revising in one.** A row that both of them name has the assignments made
twice, which is making them once. -/
theorem revise_revise (set : WorkingSet) (ids ids' : List String) (assignments : List Assignment) :
    (set.revise ids assignments).revise ids' assignments = set.revise (ids ++ ids') assignments := by
  have hrow : ∀ row : Row,
      (if (if row.id ∈ ids then row.assignAll assignments else row).id ∈ ids' then
          (if row.id ∈ ids then row.assignAll assignments else row).assignAll assignments
        else if row.id ∈ ids then row.assignAll assignments else row) =
      if row.id ∈ ids ++ ids' then row.assignAll assignments else row := by
    intro row
    rw [id_revised]
    by_cases hids : row.id ∈ ids <;> by_cases hids' : row.id ∈ ids' <;>
      simp [hids, hids', Row.assignAll_assignAll]
  simp only [revise, Array.map_map, Function.comp_def, hrow]

/-- It only matters which ids there are. -/
theorem revise_congr (set : WorkingSet) (h : ∀ id, id ∈ order ↔ id ∈ ids)
    (assignments : List Assignment) : set.revise order assignments = set.revise ids assignments := by
  simp only [revise, h]

/-! ## Updates -/

/-- Rows with different ids, among them all those named, are as many as there are different names. -/
theorem countP_eq_card {rows : List Row} (hnodup : (rows.map Row.id).Nodup)
    (hknown : ∀ id ∈ ids, id ∈ rows.map Row.id) :
    rows.countP (fun row => decide (row.id ∈ ids)) = ids.toFinset.card := by
  have hnamed : ((rows.map Row.id).filter (· ∈ ids)).toFinset = ids.toFinset := by
    ext id
    simp only [List.mem_toFinset, List.mem_filter, decide_eq_true_eq]
    exact ⟨And.right, fun hid => ⟨hknown id hid, hid⟩⟩
  have hcount : rows.countP (fun row => decide (row.id ∈ ids)) =
      ((rows.map Row.id).filter (· ∈ ids)).length := by
    rw [← List.countP_eq_length_filter, List.countP_map]
    rfl
  rw [hcount, ← hnamed, List.toFinset_card_of_nodup (hnodup.filter _)]

/-- **An update whose patch is resolved and whose ids are all known is carried out.** -/
theorem updateMany_eq_ok (h : set.Indexed) (hresolve : patch.resolve set.columns = .ok assignments)
    (hknown : ∀ id ∈ ids, set.ledger.knows id = true) :
    set.updateMany ids patch = .ok (set.revise ids assignments, ids.toFinset.card) := by
  have hfind : ids.find? (!set.ledger.knows ·) = none :=
    List.find?_eq_none.2 fun id hid => by simp [hknown id hid]
  have hfollows := follows_updateMany h ids patch
  rw [Ledger.updateMany, ledger_columns, hresolve] at hfollows
  dsimp only at hfollows
  rw [hfind] at hfollows
  dsimp only at hfollows
  rw [@countP_eq_card ids set.ledger.rows h.nodup fun id hid => Ledger.knows_iff.1 (hknown id hid)]
    at hfollows
  generalize hresult : set.updateMany ids patch = result at hfollows
  cases hfollows with
  | @ok result expected hfollows =>
    obtain ⟨after, count⟩ := result
    obtain ⟨positions, hpositions, -⟩ := h.positions_of_known hfind
    -- Nothing but the rows is put in a new place, and the rows are those of the ledger.
    have hafter : after = { set with rows := after.rows } := by
      rw [updateMany, hresolve, hpositions] at hresult
      cases hresult
      rfl
    have hrows : after.rows = (set.revise ids assignments).rows := by
      refine Array.toList_inj.1 ((congrArg Ledger.rows hfollows.ledger_eq).trans ?_)
      rw [revise, Array.toList_map]
      rfl
    have hcount : count = ids.toFinset.card := hfollows.answer_eq
    rw [hafter, hrows, hcount]
    rfl

/-- **An update is refused exactly when a field does not take its value or an id is not known.** -/
theorem isError_updateMany_iff (h : set.Indexed) :
    (∃ reason, set.updateMany ids patch = .error reason) ↔
      (∃ e ∈ patch.entries, ¬ e.1.Takes set.columns e.2) ∨
        ∃ id ∈ ids, ∀ row ∈ set.rows, row.id ≠ id := by
  have hknows : ∀ id, (∀ row ∈ set.rows, row.id ≠ id) ↔ ¬ set.ledger.knows id = true := by
    intro id
    simp only [Ledger.knows_iff, ledger_rows, List.mem_map, Array.mem_toList_iff, not_exists, not_and,
      ne_eq]
  have hunresolved : ∀ reason, patch.resolve set.columns = .error reason →
      set.updateMany ids patch = .error reason := fun reason hresolve => by
    rw [updateMany, hresolve]
    rfl
  constructor
  · rintro ⟨reason, hreason⟩
    by_contra hnone
    push Not at hnone
    obtain ⟨hfits, hfound⟩ := hnone
    obtain ⟨assignments, hresolve⟩ := Patch.resolve_isOk_iff.2 hfits
    have hknown : ∀ id ∈ ids, set.ledger.knows id = true := fun id hid => by
      by_contra hunknown
      obtain ⟨row, hrow, heq⟩ := hfound id hid
      exact (hknows id).2 hunknown row hrow heq
    rw [updateMany_eq_ok h hresolve hknown] at hreason
    cases hreason
  · rintro (⟨e, he, hmisfit⟩ | ⟨id, hid, hunknown⟩)
    · cases hresolve : patch.resolve set.columns with
      | ok assignments => exact absurd (Patch.resolve_isOk_iff.1 ⟨assignments, hresolve⟩ e he) hmisfit
      | error reason => exact ⟨reason, hunresolved reason hresolve⟩
    · cases hresolve : patch.resolve set.columns with
      | error reason => exact ⟨reason, hunresolved reason hresolve⟩
      | ok assignments =>
        have hfind : (ids.find? (!set.ledger.knows ·)).isSome = true :=
          List.find?_isSome.2 ⟨id, hid, by simpa using (hknows id).1 hunknown⟩
        obtain ⟨first, hfirst⟩ := Option.isSome_iff_exists.1 hfind
        refine ⟨.unknownRow first, ?_⟩
        rw [updateMany, hresolve, h.positions_of_unknown hfirst]
        rfl

/-- An update that is carried out has its patch resolved and knows all ids. -/
theorem exists_of_updateMany_eq_ok (h : set.Indexed) {after : WorkingSet} {count : Nat}
    (hok : set.updateMany ids patch = .ok (after, count)) :
    ∃ assignments, patch.resolve set.columns = .ok assignments ∧
      (∀ id ∈ ids, set.ledger.knows id = true) ∧ after = set.revise ids assignments ∧
      count = ids.toFinset.card := by
  have haccepted : ¬ ∃ reason, set.updateMany ids patch = .error reason := by
    rw [hok]
    nofun
  have hnone := mt (isError_updateMany_iff h).2 haccepted
  push Not at hnone
  obtain ⟨hfits, hfound⟩ := hnone
  obtain ⟨assignments, hresolve⟩ := Patch.resolve_isOk_iff.2 hfits
  have hknown : ∀ id ∈ ids, set.ledger.knows id = true := by
    intro id hid
    obtain ⟨row, hrow, rfl⟩ := hfound id hid
    exact Ledger.knows_iff.2 (List.mem_map_of_mem (Array.mem_def.1 hrow))
  rw [updateMany_eq_ok h hresolve hknown, Except.ok.injEq, Prod.mk.injEq] at hok
  exact ⟨assignments, hresolve, hknown, hok.1.symm, hok.2.symm⟩

/-- **Updates of one row each, one after another, are one update of all of them.** -/
theorem foldlM_updateOne (h : set.Indexed) (hresolve : patch.resolve set.columns = .ok assignments)
    (hknown : ∀ id ∈ order, set.ledger.knows id = true) :
    order.foldlM (fun set id => set.updateOne id patch) set = .ok (set.revise order assignments) := by
  induction order generalizing set with
  | nil => rw [revise_nil]; rfl
  | cons id rest ih =>
    have hone : set.updateOne id patch = .ok (set.revise [id] assignments) := by
      have hid : ∀ other ∈ [id], set.ledger.knows other = true := fun other hother =>
        List.mem_singleton.1 hother ▸ hknown id List.mem_cons_self
      rw [updateOne, updateMany_eq_ok h hresolve hid]
      rfl
    have hrest := ih (h.revise [id] assignments) hresolve fun other hother =>
      (knows_revise set [id] assignments other).trans
        (hknown other (List.mem_cons_of_mem id hother))
    rw [revise_revise, List.singleton_append] at hrest
    rw [List.foldlM_cons, hone]
    exact hrest

/-- The rows named have the assignments made and the others are as they were; in a field that the patch
does not name, no row has changed. -/
theorem forall₂_revise (set : WorkingSet) (ids : List String)
    (hresolve : patch.resolve set.columns = .ok assignments) :
    List.Forall₂ (fun old new => new.id = old.id ∧
        (old.id ∈ ids → new = old.assignAll assignments) ∧ (old.id ∉ ids → new = old) ∧
        ∀ field, field ∉ patch.entries.map Prod.fst → Row.SameIn field new old)
      set.rows.toList (set.revise ids assignments).rows.toList := by
  rw [revise, Array.toList_map, List.forall₂_map_right_iff]
  refine List.forall₂_same.2 fun row _ =>
    ⟨id_revised row ids assignments, fun hid => if_pos hid, fun hid => if_neg hid, fun field hfield => ?_⟩
  split
  · exact Row.sameIn_assignAll_of_not_mem (Patch.fields_of_resolve hresolve ▸ hfield) row
  · exact .refl field row

/-- **An update is carried out on all rows or on none.** It is refused exactly when a field does not take
its value or an id is not known, and then the working set stays as it is. Otherwise it answers how many
different ids there are, and leaves what updates of one row each leave, in whatever order they come: the
rows named with the assignments made, and everything else as it was. -/
theorem Reachable.updateMany_whole (h : Reachable set) (ids : List String) (patch : Patch) :
    ((∃ reason, set.updateMany ids patch = .error reason) ↔
      (∃ e ∈ patch.entries, ¬ e.1.Takes set.columns e.2) ∨
        ∃ id ∈ ids, ∀ row ∈ set.rows, row.id ≠ id) ∧
    (∀ reason, set.updateMany ids patch = .error reason →
      set.operate (.updateMany ids patch) = (set, .refused reason)) ∧
    ∀ (after : WorkingSet) (count : Nat), set.updateMany ids patch = .ok (after, count) →
      set.operate (.updateMany ids patch) = (after, .count count) ∧ count = ids.toFinset.card ∧
      after.index = set.index ∧ after.columns = set.columns ∧
      (∀ order : List String, (∀ id, id ∈ order ↔ id ∈ ids) →
        order.foldlM (fun set id => set.updateOne id patch) set = .ok after) ∧
      ∃ assignments, patch.resolve set.columns = .ok assignments ∧
        List.Forall₂ (fun old new => new.id = old.id ∧
            (old.id ∈ ids → new = old.assignAll assignments) ∧ (old.id ∉ ids → new = old) ∧
            ∀ field, field ∉ patch.entries.map Prod.fst → Row.SameIn field new old)
          set.rows.toList after.rows.toList := by
  have hindexed := h.sound.indexed
  refine ⟨isError_updateMany_iff hindexed, fun reason hreason => ?_, fun after count hok => ?_⟩
  · rw [WorkingSet.operate, hreason]
  · have hoperate : set.operate (.updateMany ids patch) = (after, .count count) := by
      rw [WorkingSet.operate, hok]
    obtain ⟨assignments, hresolve, hknown, rfl, rfl⟩ := exists_of_updateMany_eq_ok hindexed hok
    refine ⟨hoperate, rfl, rfl, rfl, fun order horder => ?_, assignments, hresolve,
      forall₂_revise set ids hresolve⟩
    rw [foldlM_updateOne hindexed hresolve fun id hid => hknown id ((horder id).1 hid),
      revise_congr set horder]

/-- Two of three rows are named, one of them twice: both are changed, and changing one after the other
comes to the same. With a row that is not there nothing is changed. -/
theorem updateMany_whole_repeated :
    let set := (empty.operateAll [.append [.blank "a", .blank "b", .blank "c"]]).1
    let patch := Patch.single .name (.text "B")
    (∃ after, set.updateMany ["b", "a", "b"] patch = .ok (after, 2) ∧
      ["a", "b"].foldlM (fun set id => set.updateOne id patch) set = .ok after ∧
      after.index = set.index) ∧
    ∃ reason, set.operate (.updateMany ["b", "d"] patch) = (set, .refused reason) := by
  intro set patch
  have hset : Reachable set := Reachable.empty.operateAll _
  have hids : set.rows.toList.map Row.id = ["a", "b", "c"] :=
    (congrArg (fun ledger => ledger.rows.map Row.id)
      (follows_operateAll indexed_empty _).ledger_eq).trans (by decide)
  have hknown : ∀ id, (∀ row ∈ set.rows, row.id ≠ id) ↔ id ∉ ["a", "b", "c"] := by
    intro id
    simp only [← hids, List.mem_map, Array.mem_toList_iff, not_exists, not_and, ne_eq]
  have hfits : ∀ e ∈ patch.entries, e.1.Takes set.columns e.2 := by
    intro e he
    cases List.mem_singleton.1 he
    trivial
  constructor
  · obtain ⟨hrefused, -, hdone⟩ := hset.updateMany_whole ["b", "a", "b"] patch
    cases hresult : set.updateMany ["b", "a", "b"] patch with
    | error reason =>
      rcases hrefused.1 ⟨reason, hresult⟩ with ⟨e, he, hmisfit⟩ | ⟨id, hid, hunknown⟩
      · exact absurd (hfits e he) hmisfit
      · have hnot := (hknown id).1 hunknown
        simp only [List.mem_cons, List.not_mem_nil, or_false] at hid hnot
        tauto
    | ok result =>
      obtain ⟨after, count⟩ := result
      obtain ⟨-, rfl, hindex, -, hsingly, -⟩ := hdone after count hresult
      exact ⟨after, rfl, hsingly ["a", "b"] (by simp), hindex⟩
  · obtain ⟨hrefused, hunchanged, -⟩ := hset.updateMany_whole ["b", "d"] patch
    obtain ⟨reason, hreason⟩ := hrefused.2 (.inr ⟨"d", by simp, (hknown "d").2 (by decide)⟩)
    exact ⟨reason, hunchanged reason hreason⟩

end WorkingSet

end Fieldbook
