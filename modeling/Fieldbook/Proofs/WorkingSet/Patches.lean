import Fieldbook.Proofs.WorkingSet.Updating

/-!
# Patches in any order

A patch is put together by giving fields their values, one after another, and a field may be given a value more
than once. Only the last one counts (`Patch.mem_entries_ofList`), and since no field is named twice in the end,
every field of a row becomes what its own last value makes of it, whatever happens to the others
(`Row.sameIn_assignAll_ofList`). So it does not matter in which order the fields came
(`WorkingSet.Reachable.updateMany_ofList`), except that a patch that is refused is refused for the first value
that does not fit.
-/

namespace Fieldbook

variable {calls calls' : List (Field × Value)} {field : Field} {value : Value} {columns : List Column}
  {assignments assignments' : List Assignment}

/-! ## The last value of a field -/

namespace Patch

/-- The value that a field was given last, if it was given one. -/
def lastValue? (calls : List (Field × Value)) (field : Field) : Option Value := calls.reverse.lookup field

theorem lastValue?_concat (calls : List (Field × Value)) (e : Field × Value) (field : Field) :
    lastValue? (calls ++ [e]) field = if field = e.1 then some e.2 else lastValue? calls field := by
  rw [lastValue?, List.reverse_concat, List.lookup_cons]
  by_cases h : field = e.1
  · rw [if_pos h, beq_iff_eq.2 h]
  · rw [if_neg h, beq_eq_false_iff_ne.2 h]
    rfl

theorem ofList_concat (calls : List (Field × Value)) (e : Field × Value) :
    ofList (calls ++ [e]) = (ofList calls).set e.1 e.2 := by
  rw [ofList, List.foldl_concat, ofList]

/-- **The last values of the fields are what a patch is made of.** -/
theorem mem_entries_ofList : (field, value) ∈ (ofList calls).entries ↔ lastValue? calls field = some value := by
  induction calls using List.reverseRecOn with
  | nil => simp [ofList, lastValue?]
  | append_singleton calls e ih =>
    obtain ⟨last, given⟩ := e
    rw [ofList_concat, set, lastValue?_concat, List.mem_append, List.mem_filter, List.mem_singleton, ih]
    by_cases h : field = last
    · simp [h, eq_comm]
    · simp [h]

/-- No field is named twice. -/
theorem nodup_fields_ofList (calls : List (Field × Value)) :
    ((ofList calls).entries.map Prod.fst).Nodup := by
  induction calls using List.reverseRecOn with
  | nil => exact List.nodup_nil
  | append_singleton calls e ih =>
    rw [ofList_concat, set, List.map_append, List.map_singleton, List.nodup_append]
    refine ⟨ih.sublist (List.filter_sublist.map Prod.fst), List.nodup_singleton _, ?_⟩
    rintro other hother _ hlast rfl
    rw [List.mem_singleton] at hlast
    obtain ⟨e', he', rfl⟩ := List.mem_map.1 hother
    simpa [hlast] using (List.mem_filter.1 he').2

/-- What a patch is refused for is a last value that does not fit its field. -/
def Refuses (columns : List Column) (calls : List (Field × Value)) (reason : EditError) : Prop :=
  ∃ field value, lastValue? calls field = some value ∧ Assignment.resolve columns field value = .error reason

theorem refuses_of_resolve {reason : EditError} (h : (ofList calls).resolve columns = .error reason) :
    Refuses columns calls reason := by
  obtain ⟨⟨field, value⟩, he, hreason⟩ := exists_of_mapM_eq_error h
  exact ⟨field, value, mem_entries_ofList.1 he, hreason⟩

/-- A patch is resolved exactly when every field takes its last value. -/
theorem resolve_ofList_isOk_iff :
    (∃ assignments, (ofList calls).resolve columns = .ok assignments) ↔
      ∀ field value, lastValue? calls field = some value → field.Takes columns value := by
  rw [resolve_isOk_iff, Prod.forall]
  simp only [mem_entries_ofList]

end Patch

/-! ## What becomes of a row -/

namespace Row

/-- Of assignments to different fields each does what it does alone. -/
theorem sameIn_assignAll_of_nodup (hnodup : (assignments.map Assignment.field).Nodup) {a : Assignment}
    (ha : a ∈ assignments) (row : Row) : SameIn a.field (row.assignAll assignments) (row.assign a) := by
  induction assignments generalizing row with
  | nil => cases ha
  | cons b rest ih =>
    obtain ⟨hb, hrest⟩ := List.nodup_cons.1 hnodup
    rcases List.mem_cons.1 ha with rfl | ha
    · exact sameIn_assignAll_of_not_mem hb (row.assign a)
    · exact (ih hrest ha (row.assign b)).trans (sameIn_assign_field (row.assign b) row a)

/-- **A field becomes what its last value makes of it**, and stays as it is if it was given none. -/
theorem sameIn_assignAll_ofList (h : (Patch.ofList calls).resolve columns = .ok assignments) (row : Row)
    (field : Field) :
    (∀ value, Patch.lastValue? calls field = some value →
        ∃ a, Assignment.resolve columns field value = .ok a ∧
          SameIn field (row.assignAll assignments) (row.assign a)) ∧
      (Patch.lastValue? calls field = none → SameIn field (row.assignAll assignments) row) := by
  have hfields := Patch.fields_of_resolve h
  constructor
  · intro value hvalue
    obtain ⟨a, ha, hresolve⟩ :=
      exists_mem_of_forall₂ (mapM_eq_ok_iff.1 h).flip (Patch.mem_entries_ofList.2 hvalue)
    obtain rfl : a.field = field := Assignment.field_of_resolve hresolve
    exact ⟨a, hresolve, sameIn_assignAll_of_nodup (hfields ▸ Patch.nodup_fields_ofList calls) ha row⟩
  · intro hnone
    refine sameIn_assignAll_of_not_mem (fun hmem => ?_) row
    rw [hfields] at hmem
    obtain ⟨⟨field, value⟩, he, rfl⟩ := List.mem_map.1 hmem
    rw [Patch.mem_entries_ofList.1 he] at hnone
    cases hnone

/-- With the same last values a row becomes the same. -/
theorem assignAll_eq_of_lastValue? (hsame : ∀ field, Patch.lastValue? calls field = Patch.lastValue? calls' field)
    (h : (Patch.ofList calls).resolve columns = .ok assignments)
    (h' : (Patch.ofList calls').resolve columns = .ok assignments') (row : Row) :
    row.assignAll assignments = row.assignAll assignments' := by
  refine eq_of_sameIn fun field => ?_
  obtain ⟨hgiven, hnone⟩ := sameIn_assignAll_ofList h row field
  obtain ⟨hgiven', hnone'⟩ := sameIn_assignAll_ofList h' row field
  rw [← hsame] at hgiven' hnone'
  cases hlast : Patch.lastValue? calls field with
  | none => exact (hnone hlast).trans (hnone' hlast).symm
  | some value =>
    obtain ⟨a, hresolve, hbecomes⟩ := hgiven value hlast
    obtain ⟨a', hresolve', hbecomes'⟩ := hgiven' value hlast
    obtain rfl : a' = a := Except.ok.inj (hresolve'.symm.trans hresolve)
    exact hbecomes.trans hbecomes'.symm

end Row

namespace WorkingSet

variable {set : WorkingSet}

/-- Patches that make the same of every row come to the same update. -/
theorem updateMany_congr {patch patch' : Patch} (h : patch.resolve set.columns = .ok assignments)
    (h' : patch'.resolve set.columns = .ok assignments')
    (hsame : ∀ row : Row, row.assignAll assignments = row.assignAll assignments') (ids : List String) :
    set.updateMany ids patch = set.updateMany ids patch' := by
  rw [updateMany, updateMany, h, h']
  simp only [bind, Except.bind, hsame]

theorem updateMany_of_resolve {patch : Patch} {reason : EditError}
    (h : patch.resolve set.columns = .error reason) (ids : List String) :
    set.updateMany ids patch = .error reason := by
  rw [updateMany, h]
  rfl

/-- With the same last values an update comes to the same, or it is refused for one of them. -/
theorem updateMany_ofList_cases
    (hsame : ∀ field, Patch.lastValue? calls field = Patch.lastValue? calls' field) (ids : List String) :
    set.updateMany ids (.ofList calls) = set.updateMany ids (.ofList calls') ∨
      ∃ reason reason', set.updateMany ids (.ofList calls) = .error reason ∧
        set.updateMany ids (.ofList calls') = .error reason' ∧
        Patch.Refuses set.columns calls reason ∧ Patch.Refuses set.columns calls reason' := by
  have hresolved : (∃ assignments, (Patch.ofList calls).resolve set.columns = .ok assignments) ↔
      ∃ assignments, (Patch.ofList calls').resolve set.columns = .ok assignments := by
    simp only [Patch.resolve_ofList_isOk_iff, hsame]
  cases h : (Patch.ofList calls).resolve set.columns with
  | ok assignments =>
    obtain ⟨assignments', h'⟩ := hresolved.1 ⟨assignments, h⟩
    exact .inl (updateMany_congr h h' (Row.assignAll_eq_of_lastValue? hsame h h') ids)
  | error reason =>
    cases h' : (Patch.ofList calls').resolve set.columns with
    | ok assignments' =>
      obtain ⟨assignments, hok⟩ := hresolved.2 ⟨assignments', h'⟩
      rw [h] at hok
      cases hok
    | error reason' =>
      obtain ⟨field, value, hvalue, hmisfit⟩ := Patch.refuses_of_resolve h'
      exact .inr ⟨reason, reason', updateMany_of_resolve h ids, updateMany_of_resolve h' ids,
        Patch.refuses_of_resolve h, field, value, (hsame field).trans hvalue, hmisfit⟩

/-- **An update depends on the last value of each field and on nothing else about its patch**: not on the values
that were given before, and not on the order of the fields. Patches with the same last values have the same
result, whether that is a working set and a count or a refusal; only where values do not fit may they be refused
for different ones. In a row named every field becomes what its own last value makes of it, and stays as it is
if there is none. -/
theorem Reachable.updateMany_ofList (h : Reachable set) (ids : List String)
    (hsame : ∀ field, Patch.lastValue? calls field = Patch.lastValue? calls' field) :
    (set.updateMany ids (.ofList calls) = set.updateMany ids (.ofList calls') ∨
      ∃ reason reason', set.updateMany ids (.ofList calls) = .error reason ∧
        set.updateMany ids (.ofList calls') = .error reason' ∧
        Patch.Refuses set.columns calls reason ∧ Patch.Refuses set.columns calls reason') ∧
    ∀ after count, set.updateMany ids (.ofList calls) = .ok (after, count) →
      count = ids.toFinset.card ∧
      List.Forall₂ (fun old new => ∀ field,
          (old.id ∈ ids → ∀ value, Patch.lastValue? calls field = some value →
            ∃ a, Assignment.resolve set.columns field value = .ok a ∧
              Row.SameIn field new (old.assign a)) ∧
          (old.id ∉ ids ∨ Patch.lastValue? calls field = none → Row.SameIn field new old))
        set.rows.toList after.rows.toList := by
  refine ⟨updateMany_ofList_cases hsame ids, fun after count hok => ?_⟩
  obtain ⟨assignments, hresolve, -, rfl, rfl⟩ := exists_of_updateMany_eq_ok h.sound.indexed hok
  refine ⟨rfl, ?_⟩
  rw [revise, Array.toList_map, List.forall₂_map_right_iff]
  refine List.forall₂_same.2 fun row _ field => ?_
  obtain ⟨hgiven, hnone⟩ := Row.sameIn_assignAll_ofList hresolve row field
  by_cases hid : row.id ∈ ids
  · rw [if_pos hid]
    exact ⟨fun _ => hgiven, fun hkept => hnone (hkept.resolve_left (not_not_intro hid))⟩
  · rw [if_neg hid]
    exact ⟨fun hnamed => absurd hnamed hid, fun _ => .refl field row⟩

/-- A name that is given twice, the second time after another field, and the same fields the other way round. -/
theorem updateMany_ofList_renamed :
    let set := (empty.operate (.append [.blank "a", .blank "b"])).1
    let calls : List (Field × Value) :=
      [(.name, .number .zero), (.stat .hp, .number (.ofNat 5)), (.name, .text "y")]
    let calls' : List (Field × Value) := [(.name, .text "y"), (.stat .hp, .number (.ofNat 5))]
    Reachable set ∧ (∀ field, Patch.lastValue? calls field = Patch.lastValue? calls' field) ∧
      ∃ after, set.updateMany ["a"] (.ofList calls) = .ok (after, 1) ∧
        set.updateMany ["a"] (.ofList calls') = .ok (after, 1) ∧
        after.rows.toList = [{ id := "a", name := "y", stats := { hp := 5 } }, .blank "b"] := by
  intro set calls calls'
  have hset : Reachable set := Reachable.empty.operate _
  have hsame : ∀ field, Patch.lastValue? calls field = Patch.lastValue? calls' field := by
    intro field
    by_cases hname : field = .name
    · rw [hname]
      rfl
    by_cases hhp : field = .stat .hp
    · rw [hhp]
      rfl
    have hname := beq_eq_false_iff_ne.2 hname
    have hhp := beq_eq_false_iff_ne.2 hhp
    simp [Patch.lastValue?, calls, calls', List.lookup_cons, hname, hhp]
  have hledger : set.ledger = _ := (follows_operate indexed_empty (.append _)).ledger_eq
  have hrows : set.rows.toList = [.blank "a", .blank "b"] :=
    (congrArg Ledger.rows hledger).trans (by decide)
  have hresolve : (Patch.ofList calls).resolve set.columns = .ok [.stat .hp 5, .name "y"] := by
    decide +kernel
  have hknown : ∀ id ∈ ["a"], set.ledger.knows id = true := by
    rw [hledger]
    decide
  have hok := updateMany_eq_ok hset.sound.indexed hresolve hknown
  refine ⟨hset, hsame, _, hok, ?_, ?_⟩
  · obtain heq | ⟨reason, -, hrefused, -⟩ := (hset.updateMany_ofList ["a"] hsame).1
    · exact heq.symm.trans hok
    · rw [hrefused] at hok
      cases hok
  · rw [revise, Array.toList_map, hrows]
    decide

end WorkingSet

end Fieldbook
