import Fieldbook.Proofs.Command.Execute
import Fieldbook.Proofs.Command.Selecting
import Fieldbook.Proofs.Double.Shown

/-!
# Rows selected by their source ids

A source id has sixty-four bits, and so has the number in a sentence, but what is compared is what their doubles
show. Doubles that are shown alike are the same, so a removal by source id takes the rows whose source ids have
the double of the one that is asked for (`WorkingSet.Reachable.run_delete_sourceId`). Up to `2 ^ 53` that is the
row with this source id and no other; beyond, rows with other source ids go with it.
-/

namespace Fieldbook

open Text

variable {set : WorkingSet} {condition : Condition}

/-- A removal leaves the rows that are not meant, also if it is carried out on none. -/
theorem Command.ledger_execute_delete (h : set.Sound) :
    ((delete condition).execute set).1.ledger =
        { rows := set.rows.toList.filter fun row => !condition.selects row
          columns := set.columns } ∧
      ((delete condition).execute set).2.affected = set.rows.toList.countP condition.selects := by
  by_cases hmeant : set.rows.toList.filter condition.selects = []
  · obtain ⟨why, -, hexecute⟩ := @execute_of_none set (delete condition) hmeant
    have hkept : set.rows.toList.filter (fun row => !condition.selects row) = set.rows.toList := by
      rw [List.filter_eq_nil_iff] at hmeant
      rw [List.filter_eq_self]
      exact fun row hrow => by simpa using hmeant row hrow
    rw [hexecute, hkept, List.countP_eq_length_filter, hmeant]
    exact ⟨rfl, rfl⟩
  · obtain ⟨hledger, houtcome⟩ := execute_delete h hmeant
    rw [houtcome, List.countP_eq_length_filter]
    exact ⟨hledger, rfl⟩

variable {n : Nat}

theorem isLowWord_toString (n : Nat) : IsLowWord (toString n) where
  ne_nil := by
    rw [Nat.toString_eq_repr, Nat.repr_eq_ofList_toDigits, String.toList_ofList]
    exact Nat.toDigits_ne_nil
  not_blank := fun _ hc => (isLow_of_isLowAscii (Double.isLowAscii_of_mem_toString _ hc)).2
  isLow := fun _ hc => (isLow_of_isLowAscii (Double.isLowAscii_of_mem_toString _ hc)).1

/-- The digits of a number of sixty-four bits stand for its double. -/
theorem Value.ofPhrase_toString (h : n < 2 ^ 64) : ofPhrase (toString n) = .number (.ofNat n) := by
  obtain ⟨m, v, hfinite, -⟩ := Double.exists_admits_ofNat h
  have hread : (Double.read? (toString n)).filter Double.isFinite = some (.ofNat n) := by
    rw [Double.read?_toString h, Option.filter_some, hfinite]
    rfl
  rw [ofPhrase, (isLowWord_toString n).toIsWord.trim_eq, hread]

/-- **Source ids are compared as doubles.** -/
theorem Row.selects_sourceId {row : Row} (h : n < 2 ^ 64) :
    (⟨.sourceId, .number (.ofNat n)⟩ : Condition).selects row = true ↔
      Double.ofNat row.sourceId.toNat = Double.ofNat n := by
  have hlower : ∀ k < 2 ^ 64, lower (Double.ofNat k).plain = (Double.ofNat k).plain := by
    intro k hk
    obtain ⟨m, v, hfinite, -⟩ := Double.exists_admits_ofNat hk
    exact Double.lower_plain (hfinite ▸ rfl)
  have hid := row.sourceId.toNat_lt
  rw [Condition.selects, Row.get?, Option.any_some, Value.agrees, Value.shown, Value.shown, hlower _ hid,
    hlower n h, beq_iff_eq]
  · exact ⟨Double.ofNat_eq_of_plain_eq h hid, fun heq => congrArg Double.plain heq⟩
  · intro items hlist
    cases hlist

theorem Command.parse_delete_sourceId (n : UInt64) :
    parse s!"delete where sourceid is {n}" = delete ⟨.sourceId, .number (.ofNat n.toNat)⟩ := by
  have hfield : ∀ word ∈ ["sourceid"], IsLowWord word := isLowWord_of_isLowAscii (by decide)
  have hnamed : Field.ofPhrase "sourceid" = .sourceId := by decide +kernel
  have hread := parse_deleteWhere (hfield _ (List.mem_singleton_self _)) (isLowWord_toString n.toNat)
  rw [hnamed, Value.ofPhrase_toString n.toNat_lt] at hread
  refine (congrArg parse ?_).trans hread
  simp [toString]

/-- A removal by source id leaves the rows whose source ids have another double. -/
theorem Command.ledger_run_delete_sourceId (h : set.Sound) (n : UInt64) :
    (run s!"delete where sourceid is {n}" set).1.ledger =
        { rows := set.rows.toList.filter fun row =>
            Double.ofNat row.sourceId.toNat ≠ Double.ofNat n.toNat
          columns := set.columns } ∧
      (run s!"delete where sourceid is {n}" set).2.affected = set.rows.toList.countP fun row =>
        Double.ofNat row.sourceId.toNat = Double.ofNat n.toNat := by
  have hselects (row : Row) : (⟨.sourceId, .number (.ofNat n.toNat)⟩ : Condition).selects row =
      decide (Double.ofNat row.sourceId.toNat = Double.ofNat n.toNat) := by
    rw [Bool.eq_iff_iff, decide_eq_true_iff]
    exact Row.selects_sourceId n.toNat_lt
  obtain ⟨hledger, haffected⟩ := @ledger_execute_delete set ⟨.sourceId, .number (.ofNat n.toNat)⟩ h
  rw [run, parse_delete_sourceId]
  simp only [hselects, ← decide_not] at hledger
  refine ⟨hledger, haffected.trans (List.countP_congr fun row _ => ?_)⟩
  rw [hselects]

namespace WorkingSet

/-- **A removal by source id removes the rows whose source ids have the same double**, and no others. Below
`2 ^ 53` these are the rows with that source id. -/
theorem Reachable.run_delete_sourceId (h : Reachable set) (n : UInt64) :
    let after := Command.run s!"delete where sourceid is {n}" set
    after.1.columns = set.columns ∧
      (after.1.rows.toList = set.rows.toList.filter fun row =>
        Double.ofNat row.sourceId.toNat ≠ Double.ofNat n.toNat) ∧
      (after.2.affected = set.rows.toList.countP fun row =>
        Double.ofNat row.sourceId.toNat = Double.ofNat n.toNat) ∧
      (n.toNat < 2 ^ 53 → after.1.rows.toList = set.rows.toList.filter fun row => row.sourceId ≠ n) := by
  dsimp only
  obtain ⟨hledger, haffected⟩ := Command.ledger_run_delete_sourceId h.sound n
  have hrows := congrArg Ledger.rows hledger
  have hcolumns := congrArg Ledger.columns hledger
  simp only [ledger_rows, ledger_columns] at hrows hcolumns
  refine ⟨hcolumns, hrows, haffected, fun hn => ?_⟩
  have hbelow (row : Row) : Double.ofNat row.sourceId.toNat = Double.ofNat n.toNat ↔ row.sourceId = n := by
    rw [Double.ofNat_eq_iff_of_lt hn row.sourceId.toNat_lt, UInt64.toNat_inj]
  simp only [hrows, ne_eq, hbelow]

/-- Rows with these source ids. -/
def numberedRows (sourceIds : List UInt64) : List Row :=
  sourceIds.map fun n => { id := toString n, sourceId := n }

/-- The rows by themselves. -/
def numbered (sourceIds : List UInt64) : WorkingSet :=
  (empty.operate (.append (numberedRows sourceIds))).1

theorem reachable_numbered (sourceIds : List UInt64) : Reachable (numbered sourceIds) :=
  Reachable.empty.operate _

theorem ledger_numbered (sourceIds : List UInt64) :
    (numbered sourceIds).ledger = (Ledger.operate ⟨[], []⟩ (.append (numberedRows sourceIds))).1 :=
  (follows_operate indexed_empty (.append (numberedRows sourceIds))).ledger_eq

/-- One of three rows is removed. -/
theorem run_delete_sourceId_seven :
    Reachable (numbered [6, 7, 8]) ∧
      (Command.run "delete where sourceid is 7" (numbered [6, 7, 8])).1.rows.toList =
        numberedRows [6, 8] := by
  have hrows : (numbered [6, 7, 8]).rows.toList = numberedRows [6, 7, 8] :=
    (congrArg Ledger.rows (ledger_numbered [6, 7, 8])).trans (by decide)
  obtain ⟨-, -, -, hbelow⟩ := (reachable_numbered [6, 7, 8]).run_delete_sourceId 7
  refine ⟨reachable_numbered _, ?_⟩
  have htext : s!"delete where sourceid is {(7 : UInt64)}" = "delete where sourceid is 7" := by decide
  rw [htext, hrows] at hbelow
  exact (hbelow (by decide)).trans (by decide)

/-- **Of two source ids next to each other neither is spared**: they have one double. -/
theorem run_delete_sourceId_next :
    let sourceIds : List UInt64 := [9007199254740992, 9007199254740993]
    Reachable (numbered sourceIds) ∧ (numbered sourceIds).rows.toList = numberedRows sourceIds ∧
      (Command.run "delete where sourceid is 9007199254740993" (numbered sourceIds)).1.rows.toList = [] := by
  intro sourceIds
  have hrows : (numbered sourceIds).rows.toList = numberedRows sourceIds :=
    (congrArg Ledger.rows (ledger_numbered sourceIds)).trans (by decide)
  refine ⟨reachable_numbered sourceIds, hrows, ?_⟩
  have htext : s!"delete where sourceid is {(9007199254740993 : UInt64)}" =
      "delete where sourceid is 9007199254740993" := by decide
  have hledger := (Command.ledger_run_delete_sourceId (reachable_numbered sourceIds).sound 9007199254740993).1
  rw [htext, hrows] at hledger
  refine (congrArg Ledger.rows hledger).trans ?_
  decide +kernel

end WorkingSet

end Fieldbook
