import Fieldbook.Proofs.Catalog.Ingesting

/-!
# Rows do not depend on the order

Of a source that does not change, a call can be answered in one way only (`mayAnswer_replies_iff`), so
that the rows of an ingestion are a function of the source and the cache it starts with. They depend
neither on the size of the batches nor on the order in which the entries of a batch come on.
-/

namespace Fieldbook

/-- The rows that come with an event. -/
def IngestEvent.rows : IngestEvent → List Row
  | batch rows => rows
  | progress _ _ => []

/-- All rows that were handed on, in their order. -/
def Ingestion.rows (run : Ingestion) : List Row := run.events.flatMap IngestEvent.rows

/-- What the classification of a species is: what the cache holds, or else what the source says, or else
the default. -/
def Source.classificationFrom (source : Source) (cache : LookupCache) (url : String) : UInt32 :=
  (cache.get? url).getD ((source.classification url).toOption.getD cache.default)

/-- The row of an entry, if it has a record. -/
def Source.row? (source : Source) (cache : LookupCache) (entry : IndexEntry) : Option Row :=
  (source.record entry.url).toOption.map fun record =>
    record.toRow (source.classificationFrom cache record.species.url)

variable {source : Source} {cache : LookupCache}

theorem mayAnswer_replies_iff {key : String} {v : UInt32} :
    cache.MayAnswer source.replies key v ↔ v = source.classificationFrom cache key := by
  rw [LookupCache.MayAnswer, Source.classificationFrom]
  cases cache.get? key with
  | some w => simp [eq_comm]
  | none => simp [Source.replies]

/-- A source that does not change leaves no choice for the rows of a batch. -/
theorem rows_eq_of_rowsOf {entries : List IndexEntry} {rows : List Row}
    (h : Batch.RowsOf source.replies cache entries rows) : rows = entries.filterMap (source.row? cache) := by
  obtain ⟨answers, hanswers, hrows⟩ := h
  obtain rfl : answers = entries.map (source.record ·.url) := eq_map_of_forall₂ hanswers
  have hrow : List.Forall₂ (fun (record : CatalogRecord) row => row = record.toRow
      (source.classificationFrom cache record.species.url))
      ((entries.map (source.record ·.url)).filterMap Except.toOption) rows := by
    refine hrows.imp ?_
    rintro record row ⟨v, hv, rfl⟩
    rw [mayAnswer_replies_iff.1 hv]
  rw [eq_map_of_forall₂ hrow, List.filterMap_map, List.map_filterMap]
  rfl

namespace Ingestion

/-- The rows that were handed on are those of the batches. -/
theorem flatMap_rows_report (batchSize total k : Nat) (batches : List (List Row)) :
    ((batches.zipIdx k).flatMap fun p => report batchSize total p.1 p.2).flatMap IngestEvent.rows =
      batches.flatten := by
  induction batches generalizing k with
  | nil => rfl
  | cons rows batches ih =>
    rw [List.zipIdx_cons, List.flatMap_cons, List.flatMap_append, ih, List.flatten_cons]
    simp [report, IngestEvent.rows]

/-- What was handed on until an ingestion came to its end. -/
def emitted : Except IngestError Ingestion → List Row
  | .ok run => run.rows
  | .error _ => []

/-- What the index lists, if there is one. -/
def listed : Except SourceError IndexPage → List IndexEntry
  | .ok page => page.results
  | .error _ => []

/-- All rows that were handed on are rows for the entries of the index, whatever the source answers. -/
theorem Runs.rowsOf {index : Except SourceError IndexPage} {replies : Replies} {batchSize : Nat}
    {result : Except IngestError Ingestion} (h : Runs index replies batchSize cache result)
    (hidle : cache.Idle) : Batch.RowsOf replies cache (listed index) (emitted result) := by
  cases h with
  | failed hindex =>
    rw [hindex]
    exact .nil
  | @ended page after hindex hpasses =>
    obtain ⟨batches, hbatches, hevents, -⟩ :=
      hpasses.emits 0 page.results hidle (Nat.zero_add _) fun _ => (Nat.zero_mul _).symm
    have hrows := Batch.RowsOf.flatten hbatches
    rw [flatten_portions] at hrows
    rw [hindex, emitted, rows, hevents, listed, begun, List.nil_append, flatMap_rows_report]
    exact hrows

theorem emitted_eq {batchSize : Nat} {result : Except IngestError Ingestion}
    (hidle : cache.Idle) (h : Runs source.index source.replies batchSize cache result) :
    emitted result = (listed source.index).filterMap (source.row? cache) :=
  rows_eq_of_rowsOf (h.rowsOf hidle)

/-- **The rows depend neither on the size of the batches nor on the order** in which the entries of a
batch come on, as long as the source does not change and nobody else is calling the cache: there is one
for each entry that has a record, in the order of the index, with the classification that the cache holds
at the start, or else what the source says, or else the default. `Ingestion.run` is one of these ingestions
at either pace. -/
theorem rows_independent (source : Source) {cache : LookupCache} (hidle : cache.Idle) :
    (∀ batchSize batchSize' result result',
      Runs source.index source.replies batchSize cache result →
      Runs source.index source.replies batchSize' cache result' → emitted result = emitted result') ∧
    (∀ batchSize result, Runs source.index source.replies batchSize cache result →
      emitted result = (listed source.index).filterMap (source.row? cache)) ∧
    ∀ pace batchSize,
      Runs source.index source.replies batchSize cache (Ingestion.run source pace batchSize cache) := by
  refine ⟨?_, fun batchSize result h => emitted_eq hidle h, ?_⟩
  · intro batchSize batchSize' result result' h h'
    rw [emitted_eq hidle h, emitted_eq hidle h']
  · intro pace batchSize
    exact runs_run source pace batchSize hidle

/-- A cache that holds the value of one species, and whose attempt for another was given up. -/
def givenUp : LookupCache where
  default := 4
  completed := [("x", 7)]
  inFlight := [("y", 0)]
  attempts := #[.opened]

theorem idle_givenUp : givenUp.Idle where
  opened hmem := by cases List.mem_singleton.1 hmem; rfl
  key_eq hmem hmem' := by cases List.mem_singleton.1 hmem; cases List.mem_singleton.1 hmem'; rfl
  number_eq hmem hmem' := by cases List.mem_singleton.1 hmem; cases List.mem_singleton.1 hmem'; rfl
  closed hget hmem := by cases List.mem_singleton.1 hmem; cases hget

/-- One entry after another and all at once: the species that the cache knows keeps its classification,
and the one that fails has the default. -/
theorem rows_independent_gapped : givenUp.Idle ∧
    emitted (Ingestion.run gapped.source .oneByOne 1 givenUp) =
      emitted (Ingestion.run gapped.source .inStep 3 givenUp) ∧
    (emitted (Ingestion.run gapped.source .inStep 3 givenUp)).map (·.classification) = [7, 4] := by
  obtain ⟨hsame, -, hrun⟩ := rows_independent gapped.source idle_givenUp
  exact ⟨idle_givenUp, hsame 1 3 _ _ (hrun .oneByOne 1) (hrun .inStep 3), by cbv⟩

end Ingestion

end Fieldbook
