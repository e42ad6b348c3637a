import Fieldbook.Proofs.Command.SourceIds
import Fieldbook.Proofs.Double.Natural
import Fieldbook.Proofs.WorkingSet.Updating

/-!
# Updates looked at afterwards

A value is fitted to its field before it is stored, and what is stored is looked at as a value again. Nothing
is lost to a condition on the way: a row that was assigned a value shows it (`Row.shows_assign`), so every
row that an update meant is found by the new value afterwards (`WorkingSet.Reachable.execute_update_shows`).

A command that is carried out once more does nothing more (`WorkingSet.Reachable.execute_execute`). It may
mean fewer rows the second time, as an update can change the field that it looks at, but none that it did not
mean the first time, and those have been assigned their value already.
-/

namespace Fieldbook

open WorkingSet

/-! ## What a stored value shows -/

namespace Value

variable {value needle : Value} {limit n : Nat}

/-- A value other than a list agrees with what shows the same text. -/
theorem agrees_of_shown_eq (hlist : ∀ items, value ≠ .list items) (h : value.shown = needle.shown) :
    value.agrees needle = true := by
  cases value with
  | list items => exact absurd rfl (hlist items)
  | _ => exact beq_iff_eq.2 (congrArg Text.lower h)

theorem agrees_number {x y : Double} (h : x.plain = y.plain) : (number x).agrees (number y) = true :=
  agrees_of_shown_eq nofun h

theorem agrees_text {s : String} (h : s = needle.shown) : (text s).agrees needle = true :=
  agrees_of_shown_eq nofun h

theorem agrees_null : null.agrees null = true := agrees_of_shown_eq nofun rfl

/-- The value is the list, or a text that spells it. -/
def Lists : Value → List String → Prop
  | list given, items => items = given
  | text s, items => items = Text.splitItems s
  | _, _ => False

theorem exists_of_toNat? (h : value.toNat? limit = some n) :
    ∃ x, value = .number x ∧ x.toNat? = some n ∧ n ≤ limit := by
  cases value with
  | number x =>
    obtain ⟨hx, hn⟩ := Option.filter_eq_some_iff.1 h
    exact ⟨x, rfl, hx, of_decide_eq_true hn⟩
  | _ => cases h

theorem lists_of_toItems? {items : List String} (h : value.toItems? = some items) :
    value.Lists items := by
  cases value <;> cases h <;> rfl

theorem eq_shown_of_toText? {s : String} (h : value.toText? = some s) : s = value.shown := by
  cases value <;> cases h <;> rfl

/-- What a cell of any kind holds agrees with the value that was put into it. -/
theorem agrees_of_toCell? {kind : ColumnKind} {cell : Value} (h : value.toCell? kind = some cell) :
    cell.agrees value = true := by
  cases kind with
  | text =>
    obtain ⟨s, hs, rfl⟩ := Option.map_eq_some_iff.1 h
    exact agrees_text (eq_shown_of_toText? hs)
  | number => cases value <;> cases h; exact agrees_number rfl
  | boolean => cases value <;> cases h; exact agrees_of_shown_eq nofun rfl

end Value

variable {set : WorkingSet} {condition : Condition} {target : Field} {value : Value} {a : Assignment}

theorem Condition.selects_of_get? {row : Row} {current : Value} (hget : row.get? target = some current)
    (h : current.agrees value = true) : (⟨target, value⟩ : Condition).selects row = true := by
  rw [selects, hget, Option.any_some, h]

/-- The row has in a field what was asked for: in a list field the list that was given or spelled, in any other
field what a condition with the value selects. -/
def Row.Shows (row : Row) : Field → Value → Prop
  | .categories, value => value.Lists row.categories
  | .capabilities, value => value.Lists row.capabilities
  | field, value => (⟨field, value⟩ : Condition).selects row = true

/-- **A row that was assigned a value shows it**, in every field and for every value that the field takes. -/
theorem Row.shows_assign {columns : List Column} (h : Assignment.resolve columns target value = .ok a)
    (row : Row) : (row.assign a).Shows target value := by
  have hstored {n : Nat} (hn : n ≤ UInt32.size - 1) : (UInt32.ofNat n).toNat = n :=
    UInt32.toNat_ofNat_of_lt' (Nat.lt_of_le_pred (by decide) hn)
  cases target with
  | id => simp [Assignment.resolve] at h
  | sourceId =>
    obtain ⟨n, hn, rfl⟩ := Assignment.fitted_eq_ok_iff.1 h
    obtain ⟨x, rfl, hx, hle⟩ := Value.exists_of_toNat? hn
    exact Condition.selects_of_get? rfl (Value.agrees_number (Double.plain_ofNat_sourceId hx hle))
  | classification =>
    obtain ⟨n, hn, rfl⟩ := Assignment.fitted_eq_ok_iff.1 h
    obtain ⟨x, rfl, hx, hle⟩ := Value.exists_of_toNat? hn
    refine Condition.selects_of_get? rfl (Value.agrees_number ?_)
    rw [Row.assign, hstored hle, Double.plain_ofNat_of_toNat? hx]
  | stat s =>
    obtain ⟨n, hn, rfl⟩ := Assignment.fitted_eq_ok_iff.1 h
    obtain ⟨x, rfl, hx, hle⟩ := Value.exists_of_toNat? hn
    refine Condition.selects_of_get? rfl (Value.agrees_number ?_)
    rw [Row.assign, BaseStats.get_set_self, hstored hle, Double.plain_ofNat_of_toNat? hx]
  | name =>
    obtain ⟨s, hs, rfl⟩ := Assignment.fitted_eq_ok_iff.1 h
    exact Condition.selects_of_get? rfl (Value.agrees_text (Value.eq_shown_of_toText? hs))
  | image =>
    cases value with
    | null => cases h; exact Condition.selects_of_get? rfl Value.agrees_null
    | text s => cases h; exact Condition.selects_of_get? rfl (Value.agrees_text rfl)
    | _ => cases h
  | categories =>
    obtain ⟨items, hitems, rfl⟩ := Assignment.fitted_eq_ok_iff.1 h
    exact Value.lists_of_toItems? hitems
  | capabilities =>
    obtain ⟨items, hitems, rfl⟩ := Assignment.fitted_eq_ok_iff.1 h
    exact Value.lists_of_toItems? hitems
  | dynamic key =>
    rw [Assignment.resolve] at h
    cases hfind : columns.find? (·.id == key) with
    | none => rw [hfind] at h; cases h
    | some column =>
      rw [hfind] at h
      obtain ⟨cell, hcell, rfl⟩ := Assignment.fitted_eq_ok_iff.1 h
      exact Condition.selects_of_get? (Cells.get?_put_self row.cells key cell)
        (Value.agrees_of_toCell? hcell)

/-- Only a command that applies is carried out. -/
theorem Command.applies_of_succeeded {command : Command} (h : (command.execute set).2.succeeded = true) :
    command.Applies set := by
  by_contra hnot
  obtain ⟨why, -, hfailed⟩ := Command.execute_of_not_applies hnot
  rw [hfailed] at h
  cases h

namespace WorkingSet

/-- **An update that is carried out can be seen by a condition.** Every row stays in its place with its id,
and those that were meant show the new value in the target field. -/
theorem Reachable.execute_update_shows (h : Reachable set) {after : WorkingSet} {outcome : Outcome}
    (hexecute : (Command.update target value condition).execute set = (after, outcome))
    (hsucceeded : outcome.succeeded = true) :
    List.Forall₂ (fun old new =>
        new.id = old.id ∧ (condition.selects old = true → new.Shows target value))
      set.rows.toList after.rows.toList := by
  have happlies : (Command.update target value condition).Applies set :=
    Command.applies_of_succeeded (by rwa [hexecute])
  obtain ⟨hmeant, hfits⟩ := happlies
  obtain ⟨a, hresolve⟩ := Assignment.resolve_isOk_iff.2 hfits
  have hledger := (Command.execute_update h.sound hmeant hresolve).1
  rw [hexecute] at hledger
  have hrows : after.rows.toList =
      set.rows.toList.map fun row => if condition.selects row then row.assign a else row :=
    congrArg Ledger.rows hledger
  rw [hrows, List.forall₂_map_right_iff]
  refine List.forall₂_same.2 fun row _ => ⟨?_, fun hselected => ?_⟩
  · split
    · exact row.assign_id a
    · rfl
  · rw [if_pos hselected]
    exact row.shows_assign hresolve

/-- The number that is asked for is no source id, and finds the one that is stored for it all the same. -/
theorem execute_update_shows_beyond :
    let set := numbered [6, 7]
    let value := Value.number (.ofNat (2 ^ 64))
    ∃ after outcome,
      (Command.update .sourceId value ⟨.sourceId, .number (.ofNat 7)⟩).execute set = (after, outcome) ∧
      Reachable set ∧ outcome.succeeded = true ∧
      ∃ first second, after.rows.toList = [first, second] ∧
        second.sourceId = 18446744073709551615 ∧ second.Shows .sourceId value := by
  intro set value
  have hset : Reachable set := reachable_numbered [6, 7]
  have hrows : set.rows.toList = numberedRows [6, 7] :=
    (congrArg Ledger.rows (ledger_numbered [6, 7])).trans (by decide)
  obtain ⟨condition, hcondition⟩ : ∃ condition : Condition,
      condition = ⟨.sourceId, .number (.ofNat 7)⟩ := ⟨_, rfl⟩
  have hsome : set.rows.toList.filter condition.selects ≠ [] := by
    rw [hrows, hcondition]
    decide +kernel
  have hresolve : Assignment.resolve set.columns .sourceId value =
      .ok (.sourceId 18446744073709551615) := by
    have hcounts : value.toNat? UInt64.size = some (2 ^ 64) := by decide +kernel
    rw [Assignment.resolve, hcounts]
    rfl
  obtain ⟨after, outcome, hexecute⟩ :
      ∃ after outcome, (Command.update .sourceId value condition).execute set = (after, outcome) :=
    ⟨_, _, rfl⟩
  obtain ⟨hledger, houtcome⟩ := Command.execute_update hset.sound hsome hresolve
  rw [hexecute] at hledger houtcome
  have hsucceeded : outcome.succeeded = true := by
    dsimp only at houtcome
    rw [houtcome]
    rfl
  have hafter : after.rows.toList =
      [{ id := "6", sourceId := 6 }, { id := "7", sourceId := 18446744073709551615 }] := by
    refine (congrArg Ledger.rows hledger).trans ?_
    rw [hrows, hcondition]
    decide +kernel
  have hshows := hset.execute_update_shows hexecute hsucceeded
  rw [hrows, hafter] at hshows
  obtain ⟨-, hrest⟩ := List.forall₂_cons.1 hshows
  obtain ⟨⟨-, hsecond⟩, -⟩ := List.forall₂_cons.1 hrest
  refine ⟨after, outcome, hcondition ▸ hexecute, hset, hsucceeded, _, _, hafter, rfl, hsecond ?_⟩
  rw [hcondition]
  decide +kernel

end WorkingSet

/-! ## Once more -/

/-- An update of rows that are meant is a revision of them. -/
theorem Command.execute_update_eq_revise (h : set.Indexed)
    (hsome : set.rows.toList.filter condition.selects ≠ [])
    (hresolve : Assignment.resolve set.columns target value = .ok a) :
    ((update target value condition).execute set).1 = set.revise (condition.matchingIds set) [a] := by
  have hpatch : (Patch.single target value).resolve set.columns = .ok [a] := by
    rw [Patch.resolve_single, hresolve]
    rfl
  have hknown : ∀ id ∈ condition.matchingIds set, set.ledger.knows id = true := by
    simpa using List.find?_eq_none.1 (Condition.find?_matchingIds set condition)
  rw [execute, Condition.matchingIds_isEmpty, if_neg (by simpa using hsome),
    updateMany_eq_ok h hpatch hknown]

/-- **No row comes to be meant by a revision of those that are**: the others stay as they are. -/
theorem Condition.matchingIds_revise_subset (set : WorkingSet) (condition : Condition)
    (assignments : List Assignment) :
    condition.matchingIds (set.revise (condition.matchingIds set) assignments) ⊆
      condition.matchingIds set := by
  intro id hid
  obtain ⟨revised, hrevised, rfl⟩ := List.mem_map.1 hid
  obtain ⟨hmem, hselects⟩ := List.mem_filter.1 hrevised
  rw [revise, Array.toList_map] at hmem
  obtain ⟨row, hrow, rfl⟩ := List.mem_map.1 hmem
  rw [id_revised]
  by_contra hnot
  rw [if_neg hnot] at hselects
  exact hnot (List.mem_map.2 ⟨row, List.mem_filter.2 ⟨hrow, hselects⟩, rfl⟩)

namespace WorkingSet

/-- **A command that is carried out twice leaves what it leaves when it is carried out once**: the same rows,
columns and index, whether it succeeds or not. The second time it means no row that it did not mean before. -/
theorem Reachable.execute_execute (h : Reachable set) (command : Command) :
    (command.execute (command.execute set).1).1 = (command.execute set).1 ∧
      (command.meant (command.execute set).1).map Row.id ⊆ (command.meant set).map Row.id := by
  by_cases happlies : command.Applies set
  · obtain ⟨hmeant, hfits⟩ := happlies
    cases command with
    | unrecognized => exact hfits.elim
    | delete condition =>
      have hrows : ((Command.delete condition).execute set).1.rows.toList = _ :=
        congrArg Ledger.rows (Command.execute_delete h.sound hmeant).1
      have hnone : (Command.delete condition).meant ((Command.delete condition).execute set).1 = [] := by
        rw [Command.meant, hrows]
        simp [Command.condition?]
      obtain ⟨why, -, hexecute⟩ := Command.execute_of_none hnone
      rw [hexecute, hnone]
      exact ⟨rfl, List.nil_subset _⟩
    | update target value condition =>
      obtain ⟨a, hresolve⟩ := Assignment.resolve_isOk_iff.2 hfits
      have hindexed := h.sound.indexed
      have hsubset := condition.matchingIds_revise_subset set [a]
      rw [Command.execute_update_eq_revise hindexed hmeant hresolve]
      refine ⟨?_, hsubset⟩
      by_cases hagain : (Command.update target value condition).meant
          (set.revise (condition.matchingIds set) [a]) = []
      · obtain ⟨why, -, hexecute⟩ := Command.execute_of_none hagain
        rw [hexecute]
      · rw [Command.execute_update_eq_revise (hindexed.revise _ _) hagain hresolve, revise_revise]
        refine revise_congr set (fun id => ?_) [a]
        rw [List.mem_append]
        exact ⟨fun hid => hid.elim (fun hid => hid) fun hid => hsubset hid, .inl⟩
  · obtain ⟨why, -, hexecute⟩ := Command.execute_of_not_applies happlies
    rw [hexecute]
    exact ⟨congrArg Prod.fst hexecute, List.Subset.refl _⟩

/-- The field that the update changes is the one that it looks at, and the row is meant again. -/
theorem execute_execute_still_meant :
    let set := (empty.operate (.append [{ id := "a", categories := ["water"] }, { id := "b" }])).1
    let command := Command.update .categories (.text "Grass, Water") ⟨.categories, .text "water"⟩
    Reachable set ∧ (command.execute (command.execute set).1).1 = (command.execute set).1 ∧
      (command.execute set).1.rows.toList =
        [{ id := "a", categories := ["Grass", "Water"] }, { id := "b" }] := by
  intro set command
  have hset : Reachable set := Reachable.empty.operate _
  have hledger : set.ledger = _ := (follows_operate indexed_empty (.append _)).ledger_eq
  have hrows : set.rows.toList = [{ id := "a", categories := ["water"] }, { id := "b" }] :=
    (congrArg Ledger.rows hledger).trans (by decide)
  have hsome : set.rows.toList.filter (⟨.categories, .text "water"⟩ : Condition).selects ≠ [] := by
    rw [hrows]
    decide +kernel
  have hresolve : Assignment.resolve set.columns .categories (.text "Grass, Water") =
      .ok (.categories ["Grass", "Water"]) := by
    decide
  have hafter : (command.execute set).1.rows.toList = _ :=
    congrArg Ledger.rows (Command.execute_update hset.sound hsome hresolve).1
  refine ⟨hset, (hset.execute_execute command).1, hafter.trans ?_⟩
  rw [hrows]
  decide +kernel

end WorkingSet

end Fieldbook
