import Std.Data.String.ToNat
import Fieldbook.Console.Program
import Fieldbook.Proofs.Catalog.Independence
import Fieldbook.Proofs.Catalog.Lookups
import Fieldbook.Proofs.WorkingSet.Appending

/-!
# What an ingestion leaves in a working set

The rows of an ingestion go into a working set batch by batch (`deliveries`), by the ids of their
records. As these are different for different records (`rowId_injective`), an empty working set is left
with one row for each record (`forall₂_deliveries`), however often the record was retrieved.

Of a source that does not change, a second ingestion hands on what the first did
(`emitted_eq_of_again`), so it finds all its rows there already; `one_row_per_record` puts this together.
-/

namespace Fieldbook

theorem CatalogRecord.rowId_injective : Function.Injective rowId := by
  intro a b h
  have hdigits : a.toNat.repr = b.toNat.repr := by simpa [rowId] using h
  exact UInt64.toNat_inj.1 (Nat.repr_inj.1 hdigits)

/-- What is done to a working set with an event. -/
def IngestEvent.operation? : IngestEvent → Option Operation
  | batch rows => some (.append rows)
  | progress _ _ => none

namespace Ingestion

/-- What an ingestion puts into a working set, batch by batch. -/
def deliveries : Except IngestError Ingestion → List Operation
  | .ok run => run.events.filterMap IngestEvent.operation?
  | .error _ => []

variable {index : Except SourceError IndexPage} {replies : Replies} {source : Source}
variable {cache : LookupCache} {set : WorkingSet} {batchSize batchSize' : Nat}
variable {result result' : Except IngestError Ingestion}

/-! ## Batch by batch -/

theorem exists_batches (result : Except IngestError Ingestion) :
    ∃ batches : List (List Row),
      deliveries result = batches.map .append ∧ batches.flatten = emitted result := by
  cases result with
  | error reason => exact ⟨[], rfl, rfl⟩
  | ok run =>
    rw [deliveries, emitted, Ingestion.rows]
    generalize run.events = events
    induction events with
    | nil => exact ⟨[], rfl, rfl⟩
    | cons event rest ih =>
      obtain ⟨batches, hdeliveries, hrows⟩ := ih
      cases event with
      | batch rows =>
        refine ⟨rows :: batches, ?_, ?_⟩
        · rw [List.filterMap_cons, hdeliveries]
          rfl
        · rw [List.flatten_cons, List.flatMap_cons, hrows]
          rfl
      | progress done total => exact ⟨batches, hdeliveries, hrows⟩

/-- The batches of an ingestion come to all its rows at once. -/
theorem ledger_deliveries (hset : set.Indexed) (result : Except IngestError Ingestion) :
    (set.operateAll (deliveries result)).1.ledger = (set.ledger.append (emitted result)).1 := by
  obtain ⟨batches, hdeliveries, hrows⟩ := exists_batches result
  rw [(WorkingSet.follows_operateAll hset _).ledger_eq, hdeliveries, Ledger.operateAll_append, hrows]

/-- A task that absorbs an ingestion does just this. -/
theorem foldl_absorb (set : WorkingSet) (run : Ingestion) :
    run.events.foldl Task.absorb set = (set.operateAll (deliveries (.ok run))).1 := by
  rw [deliveries]
  generalize run.events = events
  induction events generalizing set with
  | nil => rfl
  | cons event rest ih =>
    cases event with
    | batch rows => exact ih (set.appendBatch rows).1
    | progress done total => exact ih set

/-! ## One row for each record -/

/-- What was retrieved: records in the order of the index, each with the classification that it got. -/
theorem exists_retrieved (hidle : cache.Idle) (h : Runs index replies batchSize cache result) :
    ∃ (answers : List (Except SourceError CatalogRecord)) (retrieved : List (CatalogRecord × UInt32)),
      List.Forall₂ (fun entry answer => replies.record entry.url answer) (listed index) answers ∧
      retrieved.map Prod.fst = answers.filterMap Except.toOption ∧
      (∀ p ∈ retrieved, cache.MayAnswer replies p.1.species.url p.2) ∧
      emitted result = retrieved.map fun p => p.1.toRow p.2 := by
  obtain ⟨answers, hanswers, hrows⟩ := h.rowsOf hidle
  have hpairs : List.Forall₂ (fun (record : CatalogRecord) row => ∃ p : CatalogRecord × UInt32,
      (p.1 = record ∧ cache.MayAnswer replies p.1.species.url p.2) ∧ row = p.1.toRow p.2)
      (answers.filterMap Except.toOption) (emitted result) :=
    hrows.imp fun record row ⟨v, hv, hrow⟩ => ⟨(record, v), ⟨rfl, hv⟩, hrow⟩
  obtain ⟨retrieved, hrecords, hmade⟩ := exists_between hpairs
  refine ⟨answers, retrieved, hanswers, ?_, fun p hp => ?_, eq_map_of_forall₂ hmade⟩
  · exact (eq_map_of_forall₂ (hrecords.flip.imp fun _ _ h => h.1.symm)).symm
  · obtain ⟨record, -, -, hanswer⟩ := exists_mem_of_forall₂ hrecords hp
    exact hanswer

section

variable {α : Type} {items : List α} {make : α → Row} {number : α → UInt64}

/-- **The row of a record is the last that was made with its id**, or else the one that was there. -/
theorem get?_deliveries (hset : set.Indexed) (hrows : emitted result = items.map make)
    (hid : ∀ a, (make a).id = CatalogRecord.rowId (number a)) (id : UInt64) :
    (set.operateAll (deliveries result)).1.ledger.get? (CatalogRecord.rowId id) =
      ((items.reverse.find? (number · == id)).map fun a => WorkingSet.conform set.columns (make a)).or
        (set.ledger.get? (CatalogRecord.rowId id)) := by
  have hsame : (fun row : Row => row.id == CatalogRecord.rowId id) ∘ make = fun a => number a == id := by
    funext a
    rw [Function.comp_apply, hid, Bool.eq_iff_iff]
    simp [CatalogRecord.rowId_injective.eq_iff]
  rw [ledger_deliveries hset, Ledger.get?_append, hrows, ← List.map_reverse, List.find?_map, hsame,
    Option.map_map]
  rfl

/-- **Rows put into a working set without rows leave one row for each record**: where the record came
first, and as it came last. -/
theorem forall₂_deliveries (hset : set.Indexed) (hempty : set.rows.toList = [])
    (hrows : emitted result = items.map make)
    (hid : ∀ a, (make a).id = CatalogRecord.rowId (number a)) :
    List.Forall₂ (fun id row => row.id = CatalogRecord.rowId id ∧
        ∃ a, items.reverse.find? (number · == id) = some a ∧
          row = WorkingSet.conform set.columns (make a))
      (items.map number).eraseDups (set.operateAll (deliveries result)).1.rows.toList := by
  have hnodup : (set.ledger.rows.map Row.id).Nodup := hset.nodup
  have hnone : set.ledger.rows = [] := hempty
  have hids : (set.operateAll (deliveries result)).1.ledger.rows.map Row.id =
      (items.map number).eraseDups.map CatalogRecord.rowId := by
    rw [ledger_deliveries hset, Ledger.map_id_append hnodup, hnone, List.map_nil, List.nil_append, hrows,
      ← eraseDups_map CatalogRecord.rowId_injective, List.map_map, List.map_map]
    exact congrArg List.eraseDups (List.map_congr_left fun a _ => hid a)
  have hfound := Ledger.forall₂_get? (ledger_deliveries hset result ▸
    Ledger.nodup_append hnodup (emitted result))
  rw [hids, List.forall₂_map_left_iff] at hfound
  refine hfound.imp fun id row hrow => ⟨by simpa using List.find?_some hrow, ?_⟩
  have hempty' : set.ledger.get? (CatalogRecord.rowId id) = none := by
    rw [Ledger.get?, hnone]
    rfl
  rw [get?_deliveries hset hrows hid, hempty', Option.or_none] at hrow
  obtain ⟨a, ha, rfl⟩ := Option.map_eq_some_iff.1 hrow
  exact ⟨a, ha, rfl⟩

end

/-! ## A second time -/

/-- Of a source that does not change, a second ingestion hands on the same rows. -/
theorem emitted_eq_of_again (hidle : cache.Idle)
    (h : Runs source.index source.replies batchSize cache result)
    (h' : Runs source.index source.replies batchSize' (cacheAfter cache result) result') :
    emitted result' = emitted result := by
  have hsame : source.classificationFrom (cacheAfter cache result) =
      source.classificationFrom cache := by
    funext url
    exact mayAnswer_replies_iff.1 (h.mayAnswer hidle (mayAnswer_replies_iff.2 rfl))
  have hrow : source.row? (cacheAfter cache result) = source.row? cache := by
    funext entry
    rw [Source.row?, hsame, Source.row?]
  rw [emitted_eq (h.idle hidle) h', emitted_eq hidle h, hrow]

/-- **An ingestion knows records by their ids.** Different ids make different row ids. A working set
without rows is left with one row for each id of a retrieved record, at the place of the first retrieval
and with the content of the last, whatever the source answers when, in batches of whatever size and in
whatever order their entries come on. If the source does not change, a second ingestion with the same
cache leaves any working set as the first one left it, and each of its batches is told that nothing in it
is new. `Ingestion.run` is such an ingestion at either pace, and `Task.absorb` puts its rows in. -/
theorem one_row_per_record (hidle : cache.Idle) (hset : set.Reachable) :
    Function.Injective CatalogRecord.rowId ∧
    (∀ index replies batchSize result, Runs index replies batchSize cache result →
      set.rows.toList = [] →
      ∃ (answers : List (Except SourceError CatalogRecord)) (retrieved : List (CatalogRecord × UInt32)),
        List.Forall₂ (fun entry answer => replies.record entry.url answer) (listed index) answers ∧
        retrieved.map Prod.fst = answers.filterMap Except.toOption ∧
        (∀ p ∈ retrieved, cache.MayAnswer replies p.1.species.url p.2) ∧
        (emitted result = retrieved.map fun p => p.1.toRow p.2) ∧
        List.Forall₂ (fun id row => row.id = CatalogRecord.rowId id ∧
            ∃ p, retrieved.reverse.find? (·.1.id == id) = some p ∧
              row = WorkingSet.conform set.columns (p.1.toRow p.2))
          (retrieved.map (·.1.id)).eraseDups
          (set.operateAll (deliveries result)).1.rows.toList) ∧
    (∀ (source : Source) batchSize batchSize' result result',
      Runs source.index source.replies batchSize cache result →
      Runs source.index source.replies batchSize' (cacheAfter cache result) result' →
      let once := (set.operateAll (deliveries result)).1
      let twice := once.operateAll (deliveries result')
      twice.1.rows = once.rows ∧ twice.1.columns = once.columns ∧
        ∀ answer ∈ twice.2, answer = .count 0) ∧
    (∀ (source : Source) pace batchSize,
      Runs source.index source.replies batchSize cache
        (Ingestion.run source pace batchSize cache)) ∧
    ∀ run : Ingestion,
      run.events.foldl Task.absorb set = (set.operateAll (deliveries (.ok run))).1 := by
  have hindexed := hset.sound.indexed
  refine ⟨CatalogRecord.rowId_injective, ?_, ?_, fun source pace batchSize =>
    runs_run source pace batchSize hidle, foldl_absorb set⟩
  · intro index replies batchSize result hruns hempty
    obtain ⟨answers, retrieved, hanswers, hrecords, hmay, hrows⟩ := exists_retrieved hidle hruns
    exact ⟨answers, retrieved, hanswers, hrecords, hmay, hrows,
      forall₂_deliveries hindexed hempty hrows fun _ => rfl⟩
  · intro source batchSize batchSize' result result' hruns hruns' once twice
    have hagain := emitted_eq_of_again hidle hruns hruns'
    have honce : once.ledger = (set.ledger.append (emitted result)).1 := ledger_deliveries hindexed result
    have honceIndexed : once.Indexed := (WorkingSet.follows_operateAll hindexed _).indexed
    have htwice : twice.1.ledger = once.ledger := by
      rw [ledger_deliveries honceIndexed result', honce, hagain,
        Ledger.append_append_self hindexed.nodup]
    refine ⟨Array.toList_inj.1 (congrArg Ledger.rows htwice), congrArg Ledger.columns htwice, ?_⟩
    obtain ⟨batches, hdeliveries, hflatten⟩ := exists_batches result'
    have hanswers : twice.2 = batches.map fun _ => .count 0 := by
      rw [(WorkingSet.follows_operateAll honceIndexed _).answer_eq, hdeliveries, honce]
      refine Ledger.answers_operateAll_of_known fun row hrow => ?_
      rw [hflatten, hagain] at hrow
      exact (Ledger.knows_append set.ledger _).2 (.inl (List.mem_map_of_mem hrow))
    intro answer hanswer
    rw [hanswers] at hanswer
    obtain ⟨-, -, rfl⟩ := List.mem_map.1 hanswer
    rfl

/-- Two records with one id are one row, and when they are retrieved again, in other batches, nothing is
new. -/
theorem one_row_per_record_gapped :
    let result := Ingestion.run gapped.source .oneByOne 1 {}
    let again := Ingestion.run gapped.source .inStep 2 (cacheAfter {} result)
    let once := (WorkingSet.empty.operateAll (deliveries result)).1
    once.rows.toList.map Row.id = ["pokeapi-1"] ∧
      (once.operateAll (deliveries again)).1.rows = once.rows ∧
      ∀ answer ∈ (once.operateAll (deliveries again)).2, answer = .count 0 := by
  intro result again once
  have hidle : ({} : LookupCache).Idle := LookupCache.idle_of_inFlight_eq_nil rfl
  obtain ⟨-, hfirst, hsecond, hruns, -⟩ := @one_row_per_record {} .empty hidle .empty
  have hresult := hruns gapped.source .oneByOne 1
  constructor
  · obtain ⟨answers, retrieved, hanswers, hrecords, -, -, hrows⟩ := hfirst _ _ 1 result hresult rfl
    obtain rfl : answers = gapped.entries.map (gapped.source.record ·.url) := eq_map_of_forall₂ hanswers
    have hids : retrieved.map (·.1.id) = [1, 1] :=
      calc retrieved.map (·.1.id)
          = (retrieved.map Prod.fst).map CatalogRecord.id := List.map_map.symm
        _ = [1, 1] := by rw [hrecords]; rfl
    have honce : ([1, 1] : List UInt64).eraseDups = [1] := by decide
    rw [hids, honce] at hrows
    obtain ⟨row, rest, ⟨hrow, -⟩, hrest, hlist⟩ := List.forall₂_cons_left_iff.1 hrows
    obtain rfl := List.forall₂_nil_left_iff.1 hrest
    rw [hlist, List.map_singleton, hrow]
    rfl
  · have hagain := runs_run gapped.source .inStep 2 (hresult.idle hidle)
    obtain ⟨hrows, -, hanswers⟩ := hsecond gapped.source 1 2 result again hresult hagain
    exact ⟨hrows, hanswers⟩

end Ingestion

end Fieldbook
