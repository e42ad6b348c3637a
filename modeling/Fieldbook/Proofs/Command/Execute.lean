import Fieldbook.Command.Execute
import Fieldbook.Proofs.WorkingSet.Reachable

/-!
# What a command does

A command goes from rows to ids and from ids back to rows. Since no id is there twice, it comes back to
the rows it started from (`mem_matchingIds`), and so it can be said what becomes of the working set
without any ids: a removal filters out the rows that are meant (`execute_delete`), an update assigns to
them and to no others (`execute_update`), and in every other case nothing changes
(`execute_of_not_applies`).

* `Reachable.execute_affects_meant_only` puts this together: when a command succeeds, how many rows it
  counts, and what it leaves;
* `Reachable.execute` says that what it leaves is reachable again, since a command is a transaction.
-/

namespace Fieldbook

open WorkingSet

/-! ## The rows that are meant -/

variable {set : WorkingSet} {condition : Condition}

/-- The rows that a command means, in order. -/
def Command.meant (command : Command) (set : WorkingSet) : List Row :=
  set.rows.toList.filter fun row => command.condition?.any (·.selects row)

/-- What it takes for a command to be carried out: it means a row, and what it assigns fits the field
it is assigned to. -/
def Command.Applies (command : Command) (set : WorkingSet) : Prop :=
  command.meant set ≠ [] ∧
    match command with
    | .unrecognized => False
    | .delete _ => True
    | .update target value _ => target.Takes set.columns value

namespace Condition

/-- **The ids that are found lead back to the rows that are meant.** -/
theorem mem_matchingIds (h : set.Sound) {row : Row} (hrow : row ∈ set.rows.toList) :
    row.id ∈ condition.matchingIds set ↔ condition.selects row = true := by
  rw [matchingIds, List.mem_map]
  constructor
  · rintro ⟨other, hother, hid⟩
    obtain ⟨hmem, hselects⟩ := List.mem_filter.1 hother
    rwa [← List.inj_on_of_nodup_map h.tidy.ids hmem hrow hid]
  · intro hselects
    exact ⟨row, List.mem_filter.2 ⟨hrow, hselects⟩, rfl⟩

theorem decide_mem_matchingIds (h : set.Sound) {row : Row} (hrow : row ∈ set.rows.toList) :
    decide (row.id ∈ condition.matchingIds set) = condition.selects row := by
  rw [Bool.eq_iff_iff, decide_eq_true_iff]
  exact mem_matchingIds h hrow

theorem countP_matchingIds (h : set.Sound) :
    set.rows.toList.countP (·.id ∈ condition.matchingIds set) =
      (set.rows.toList.filter condition.selects).length := by
  rw [← List.countP_eq_length_filter]
  exact List.countP_congr fun row hrow => by rw [decide_mem_matchingIds h hrow]

theorem matchingIds_isEmpty :
    (condition.matchingIds set).isEmpty = (set.rows.toList.filter condition.selects).isEmpty := by
  rw [matchingIds, List.isEmpty_map]

/-- Every id that is found is the id of a row. -/
theorem find?_matchingIds (set : WorkingSet) (condition : Condition) :
    (condition.matchingIds set).find? (!set.ledger.knows ·) = none := by
  refine List.find?_eq_none.2 fun id hid => ?_
  have hknows : set.ledger.knows id = true :=
    Ledger.knows_iff.2 ((List.filter_sublist.map Row.id).subset hid)
  simp [hknows]

end Condition

/-! ## One assignment -/

theorem Patch.resolve_single (columns : List Column) (field : Field) (value : Value) :
    (Patch.single field value).resolve columns =
      (Assignment.resolve columns field value).map fun a => [a] := by
  change [(field, value)].mapM _ = _
  rw [List.mapM_cons, List.mapM_nil]
  cases Assignment.resolve columns field value <;> rfl

/-! ## What becomes of each command -/

namespace Command

/-- A command that means no row leaves everything as it is. -/
theorem execute_of_none {command : Command} (h : command.meant set = []) :
    ∃ why, (∀ reason, why ≠ .rejected reason) ∧ command.execute set = (set, .failed why) := by
  cases command with
  | unrecognized => exact ⟨.notUnderstood, by simp, rfl⟩
  | delete condition =>
    refine ⟨.noRows condition, by simp, ?_⟩
    have hnone : set.rows.toList.filter condition.selects = [] := h
    rw [execute, Condition.matchingIds_isEmpty, hnone]
    rfl
  | update target value condition =>
    refine ⟨.noRows condition, by simp, ?_⟩
    have hnone : set.rows.toList.filter condition.selects = [] := h
    rw [execute, Condition.matchingIds_isEmpty, hnone]
    rfl

/-- **A removal filters out the rows that are meant.** -/
theorem execute_delete (h : set.Sound) (hsome : set.rows.toList.filter condition.selects ≠ []) :
    ((delete condition).execute set).1.ledger =
        { rows := set.rows.toList.filter fun row => !condition.selects row
          columns := set.columns } ∧
      ((delete condition).execute set).2 =
        .deleted (set.rows.toList.filter condition.selects).length := by
  have hfollows := follows_deleteMany h.indexed (condition.matchingIds set)
  rw [execute, Condition.matchingIds_isEmpty, if_neg (by simpa using hsome)]
  refine ⟨hfollows.ledger_eq.trans (congrArg (Ledger.mk · set.columns) ?_),
    congrArg Outcome.deleted (hfollows.answer_eq.trans (Condition.countP_matchingIds h))⟩
  refine List.filter_congr fun row hrow => ?_
  rw [decide_not, Condition.decide_mem_matchingIds h hrow]

/-- **An update assigns to the rows that are meant and to no others.** -/
theorem execute_update {target : Field} {value : Value} {a : Assignment} (h : set.Sound)
    (hsome : set.rows.toList.filter condition.selects ≠ [])
    (hresolve : Assignment.resolve set.columns target value = .ok a) :
    ((update target value condition).execute set).1.ledger =
        { rows := set.rows.toList.map fun row =>
            if condition.selects row then row.assign a else row
          columns := set.columns } ∧
      ((update target value condition).execute set).2 =
        .updated (set.rows.toList.filter condition.selects).length := by
  have hfollows := follows_updateMany h.indexed (condition.matchingIds set) (.single target value)
  rw [Ledger.updateMany, ledger_columns, Patch.resolve_single, hresolve,
    Condition.find?_matchingIds] at hfollows
  rw [execute, Condition.matchingIds_isEmpty, if_neg (by simpa using hsome)]
  generalize set.updateMany (condition.matchingIds set) (.single target value) = result at hfollows ⊢
  cases hfollows with
  | ok hfollows =>
    refine ⟨hfollows.ledger_eq.trans (congrArg (Ledger.mk · set.columns) ?_),
      congrArg Outcome.updated (hfollows.answer_eq.trans (Condition.countP_matchingIds h))⟩
    refine List.map_congr_left fun row hrow => ?_
    simp only [Condition.mem_matchingIds h hrow]
    rfl

/-- An update whose value does not fit leaves everything as it is. -/
theorem execute_update_of_error {target : Field} {value : Value} {reason : EditError}
    (hsome : set.rows.toList.filter condition.selects ≠ [])
    (hresolve : Assignment.resolve set.columns target value = .error reason) :
    (update target value condition).execute set = (set, .failed (.rejected reason)) := by
  rw [execute, Condition.matchingIds_isEmpty, if_neg (by simpa using hsome), updateMany,
    Patch.resolve_single, hresolve]
  rfl

/-- A command that does not apply leaves everything as it is, and never for want of a row that was
found. -/
theorem execute_of_not_applies {command : Command} (h : ¬ command.Applies set) :
    ∃ why, (∀ id, why ≠ .rejected (.unknownRow id)) ∧ command.execute set = (set, .failed why) := by
  by_cases hmeant : command.meant set = []
  · obtain ⟨why, hwhy, hexecute⟩ := execute_of_none hmeant
    exact ⟨why, fun id => hwhy (.unknownRow id), hexecute⟩
  · cases command with
    | unrecognized => exact ⟨.notUnderstood, by simp, rfl⟩
    | delete condition => exact absurd ⟨hmeant, trivial⟩ h
    | update target value condition =>
      -- Rows are meant, so it is the value that does not fit.
      cases hresolve : Assignment.resolve set.columns target value with
      | ok a => exact absurd ⟨hmeant, Assignment.resolve_isOk_iff.1 ⟨a, hresolve⟩⟩ h
      | error reason =>
        refine ⟨.rejected reason, fun id heq => ?_, execute_update_of_error hmeant hresolve⟩
        cases heq
        exact Assignment.resolve_ne_unknownRow id hresolve

/-- A command that applies counts the rows that are meant. -/
theorem execute_of_applies {command : Command} (h : set.Sound) (happlies : command.Applies set) :
    (command.execute set).2.succeeded = true ∧
      (command.execute set).2.affected = (command.meant set).length := by
  obtain ⟨hmeant, hfits⟩ := happlies
  cases command with
  | unrecognized => exact hfits.elim
  | delete condition =>
    rw [(execute_delete h hmeant).2]
    exact ⟨rfl, rfl⟩
  | update target value condition =>
    obtain ⟨a, hresolve⟩ := Assignment.resolve_isOk_iff.2 hfits
    rw [(execute_update h hmeant hresolve).2]
    exact ⟨rfl, rfl⟩

end Command

namespace WorkingSet

/-- **What a command does to a reachable working set.** It succeeds exactly when it applies, and then it
counts the rows that are meant, of which there is one at least. A removal leaves the other rows in their
order; an update leaves every row in its place with its id, assigns to those that are meant, which
changes them in the one field only, and leaves the others as they are. A command that fails counts
nothing and leaves everything as it is; that a row is unknown is never the reason. -/
theorem Reachable.execute_affects_meant_only (h : Reachable set) {command : Command}
    {after : WorkingSet} {outcome : Outcome} (hexecute : command.execute set = (after, outcome)) :
    (outcome.succeeded = true ↔ command.Applies set) ∧
    (outcome.succeeded = true →
      outcome.affected = (command.meant set).length ∧ 1 ≤ outcome.affected) ∧
    (∀ condition, command = .delete condition → outcome.succeeded = true →
      after.columns = set.columns ∧
      after.rows.toList = set.rows.toList.filter fun row => !condition.selects row) ∧
    (∀ target value condition, command = .update target value condition → outcome.succeeded = true →
      after.columns = set.columns ∧
      after.rows.toList.map Row.id = set.rows.toList.map Row.id ∧
      ∃ a, Assignment.resolve set.columns target value = .ok a ∧
        (after.rows.toList = set.rows.toList.map fun row =>
          if condition.selects row then row.assign a else row) ∧
        ∀ row : Row, Row.SameBut target (row.assign a) row) ∧
    (outcome.succeeded = false →
      outcome.affected = 0 ∧ after.rows = set.rows ∧ after.columns = set.columns) ∧
    ∀ id, outcome ≠ .failed (.rejected (.unknownRow id)) := by
  have hsound := h.sound
  obtain ⟨rfl, rfl⟩ := Prod.ext_iff.1 hexecute
  by_cases happlies : command.Applies set
  · obtain ⟨hsucceeded, haffected⟩ := Command.execute_of_applies hsound happlies
    refine ⟨iff_of_true hsucceeded happlies, fun _ => ⟨haffected, ?_⟩, ?_, ?_, ?_, ?_⟩
    · rw [haffected]
      exact List.length_pos_iff.2 happlies.1
    · rintro condition rfl -
      have hledger := (Command.execute_delete hsound happlies.1).1
      exact ⟨congrArg Ledger.columns hledger, congrArg Ledger.rows hledger⟩
    · rintro target value condition rfl -
      obtain ⟨a, hresolve⟩ := Assignment.resolve_isOk_iff.2 happlies.2
      have hledger := (Command.execute_update hsound happlies.1 hresolve).1
      have hrows := congrArg Ledger.rows hledger
      refine ⟨congrArg Ledger.columns hledger, ?_, a, hresolve, hrows, fun row => ?_⟩
      · refine (congrArg (List.map Row.id) hrows).trans (Ledger.map_id_map (fun row => ?_) _)
        split
        · exact row.assign_id a
        · rfl
      · exact Assignment.field_of_resolve hresolve ▸ row.sameBut_assign a
    · intro hfailed
      rw [hsucceeded] at hfailed
      cases hfailed
    · intro id hfailed
      rw [hfailed] at hsucceeded
      cases hsucceeded
  · obtain ⟨why, hwhy, hexecute⟩ := Command.execute_of_not_applies happlies
    rw [hexecute]
    refine ⟨iff_of_false nofun happlies, nofun, fun _ _ => nofun, fun _ _ _ _ => nofun,
      fun _ => ⟨rfl, rfl, rfl⟩, fun id hfailed => hwhy id ?_⟩
    cases hfailed
    rfl

/-- An update of the rows of one category, asked for in another case. -/
theorem execute_affects_meant_only_category :
    let set := (empty.operate (.append
      [{ id := "a", categories := ["Fire"] }, { id := "b", categories := ["water"] }])).1
    let command := Command.update .name (.text "x") ⟨.categories, .text "fire"⟩
    (command.execute set).2.succeeded = true ∧ (command.execute set).2.affected = 1 ∧
      (command.execute set).1.rows.toList =
        [{ id := "a", name := "x", categories := ["Fire"] },
          { id := "b", categories := ["water"] }] := by
  intro set command
  have hledger : set.ledger = _ := (follows_operate indexed_empty (.append _)).ledger_eq
  have hrows : set.rows.toList =
      [{ id := "a", categories := ["Fire"] }, { id := "b", categories := ["water"] }] :=
    (congrArg Ledger.rows hledger).trans (by decide)
  have hmeant : command.meant set = [{ id := "a", categories := ["Fire"] }] := by
    rw [Command.meant, hrows]
    decide +kernel
  obtain ⟨hsucceeds, hcounts, -, hupdates, -⟩ :=
    (Reachable.empty.operate (.append _)).execute_affects_meant_only (rfl : command.execute set = _)
  have hsucceeded := hsucceeds.2 ⟨by rw [hmeant]; nofun, trivial⟩
  obtain ⟨-, -, a, hresolve, hafter, -⟩ := hupdates _ _ _ rfl hsucceeded
  refine ⟨hsucceeded, (hcounts hsucceeded).1.trans (congrArg List.length hmeant), hafter.trans ?_⟩
  cases hresolve
  rw [hrows]
  decide +kernel

end WorkingSet

/-! ## What a command depends on -/

namespace Command

/-- A command that fails leaves everything as it is. -/
theorem execute_of_failed {command : Command} (h : (command.execute set).2.succeeded = false) :
    (command.execute set).1 = set := by
  cases command with
  | unrecognized => rfl
  | delete condition =>
    rw [execute] at h ⊢
    dsimp only at h ⊢
    split at h
    · next hnone => rw [if_pos hnone]
    · cases h
  | update target value condition =>
    rw [execute] at h ⊢
    split at h
    · next hnone => rw [if_pos hnone]
    · next hsome =>
      rw [if_neg hsome]
      split at h
      · cases h
      · rfl

/-- **A command does the same to the same rows and columns**, whatever else is different. -/
theorem execute_congr {other : WorkingSet} (h : set.Indexed) (hother : other.Indexed)
    (hledger : other.ledger = set.ledger) (command : Command) :
    (command.execute other).2 = (command.execute set).2 ∧
      (command.execute other).1.ledger = (command.execute set).1.ledger := by
  have hids (condition : Condition) : condition.matchingIds other = condition.matchingIds set := by
    have hrows : other.rows.toList = set.rows.toList := congrArg Ledger.rows hledger
    rw [Condition.matchingIds, hrows, Condition.matchingIds]
  cases command with
  | unrecognized => exact ⟨rfl, hledger⟩
  | delete condition =>
    have hfollows := follows_deleteMany h (condition.matchingIds set)
    have hfollows' := follows_deleteMany hother (condition.matchingIds set)
    rw [hledger] at hfollows'
    rw [execute, execute, hids]
    dsimp only
    split
    · exact ⟨rfl, hledger⟩
    · exact ⟨congrArg Outcome.deleted (hfollows'.answer_eq.trans hfollows.answer_eq.symm),
        hfollows'.ledger_eq.trans hfollows.ledger_eq.symm⟩
  | update target value condition =>
    have hfollows := follows_updateMany h (condition.matchingIds set) (.single target value)
    have hfollows' := follows_updateMany hother (condition.matchingIds set) (.single target value)
    rw [hledger] at hfollows'
    rw [execute, execute, hids]
    split
    · exact ⟨rfl, hledger⟩
    · generalize set.updateMany (condition.matchingIds set) (.single target value) = result at hfollows ⊢
      generalize other.updateMany (condition.matchingIds set) (.single target value) = result'
        at hfollows' ⊢
      generalize set.ledger.updateMany (condition.matchingIds set) (.single target value) = expected
        at hfollows hfollows'
      cases hfollows with
      | error reason =>
        cases hfollows' with
        | error _ => exact ⟨rfl, hledger⟩
      | ok hfollows =>
        cases hfollows' with
        | ok hfollows' =>
          exact ⟨congrArg Outcome.updated (hfollows'.answer_eq.trans hfollows.answer_eq.symm),
            hfollows'.ledger_eq.trans hfollows.ledger_eq.symm⟩

end Command

/-! ## Commands and transactions -/

/-- A command as a transaction: it looks once and then changes or removes what it has found. -/
def Command.transaction : Command → Transaction Outcome
  | unrecognized => .finish (.failed .notUnderstood)
  | update target value condition =>
    .look fun rows _ =>
      let ids := (rows.filter condition.selects).map Row.id
      if ids.isEmpty then .finish (.failed (.noRows condition))
      else
        .updateMany ids (.single target value) fun
          | .ok count => .finish (.updated count)
          | .error reason => .finish (.failed (.rejected reason))
  | delete condition =>
    .look fun rows _ =>
      let ids := (rows.filter condition.selects).map Row.id
      if ids.isEmpty then .finish (.failed (.noRows condition))
      else .deleteMany ids fun count => .finish (.deleted count)

theorem Command.run_transaction (command : Command) (set : WorkingSet) :
    command.transaction.run set = command.execute set := by
  cases command with
  | unrecognized => rfl
  | update target value condition =>
    rw [transaction, Transaction.run, execute, Condition.matchingIds]
    dsimp only
    split
    · rfl
    · rw [Transaction.run]
      cases set.updateMany _ (.single target value) <;> rfl
  | delete condition =>
    rw [transaction, Transaction.run, execute, Condition.matchingIds]
    dsimp only
    split <;> rfl

/-- What a command leaves of a reachable working set is reachable. -/
theorem WorkingSet.Reachable.execute (h : Reachable set) (command : Command) :
    Reachable (command.execute set).1 := by
  rw [← command.run_transaction set]
  exact h.transaction command.transaction

end Fieldbook
