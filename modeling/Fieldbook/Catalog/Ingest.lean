import Fieldbook.Catalog.Lookup
import Fieldbook.Catalog.Source

/-!
# Ingestion

The index is asked for once and then walked in batches, in order. Each entry of a batch costs a request
for its record and, unless the lookup cache knows better, one for its species. When a batch is done its
rows are handed on, followed by a report on progress.

Only an index that cannot be had ends an ingestion. A record that cannot be had is left out, and a
species that cannot be had leaves the classification at the default of the cache.
-/

namespace Fieldbook

/-- A request that was made. -/
inductive Request where
  | index
  | record (url : String)
  | classification (url : String)
  deriving DecidableEq

/-- What an ingestion hands on while it runs. -/
inductive IngestEvent where
  /-- The rows of a batch. -/
  | batch (rows : List Row)
  /-- How many entries of the index are done, out of how many. -/
  | progress (done total : Nat)
  deriving DecidableEq

/-- The whole index is done. -/
def IngestEvent.isComplete : IngestEvent → Bool
  | progress done total => done == total
  | batch _ => false

/-- An ingestion in numbers. -/
structure IngestSummary where
  /-- Entries of the index. -/
  total : Nat := 0
  /-- Rows handed on. -/
  fetched : Nat := 0
  /-- Entries left out. -/
  dropped : Nat := 0
  batches : Nat := 0
  /-- Requests for species. -/
  classificationLookups : Nat := 0
  deriving DecidableEq

/-- Why there was no ingestion. -/
inductive IngestError where
  | index (reason : SourceError)
  deriving DecidableEq

/-- The request that failed, and why. -/
def IngestError.reason : IngestError → SourceError
  | index reason => reason

/-- The wording of a failed ingestion. -/
def IngestError.message : IngestError → String
  | index reason => s!"could not retrieve the catalog index: {reason.message}"

/-- How the entries of a batch go about their requests. -/
inductive Pace where
  /-- One entry after another. -/
  | oneByOne
  /-- All at once: first the records, then the lookups, each begun before any is answered. -/
  | inStep
  deriving DecidableEq

/-! ## One batch -/

/-- What became of a batch. -/
structure Batch where
  rows : List Row := []
  requests : List Request := []
  cache : LookupCache

namespace Batch

/-- The lookup that a record needs. -/
def call (source : Source) (record : CatalogRecord) : LookupCache.Call :=
  ⟨record.species.url, (source.classification record.species.url).toOption⟩

/-- The request for a species, if it was made. -/
def speciesRequest (record : CatalogRecord) (made : Bool) : List Request :=
  if made then [.classification record.species.url] else []

/-- Goes on with one more entry after all before it are done. -/
def step (source : Source) (batch : Batch) (entry : IndexEntry) : Batch :=
  let asked := batch.requests ++ [.record entry.url]
  match source.record entry.url with
  | .error _ => { batch with requests := asked }
  | .ok record =>
    let (cache, classification, made) := batch.cache.resolve (call source record)
    { rows := batch.rows ++ [record.toRow classification]
      requests := asked ++ speciesRequest record made
      cache }

/-- A batch with its entries in step. -/
def inStep (source : Source) (cache : LookupCache) (entries : List IndexEntry) : Batch :=
  let records := entries.filterMap fun entry => (source.record entry.url).toOption
  let (cache, answers) := cache.together (records.map (call source))
  { rows := List.zipWith (fun record answer => record.toRow answer.1) records answers
    requests := entries.map (.record ·.url) ++
      (List.zipWith (fun record answer => speciesRequest record answer.2) records answers).flatten
    cache }

/-- A batch at the given pace. -/
def run (source : Source) (pace : Pace) (cache : LookupCache) (entries : List IndexEntry) : Batch :=
  match pace with
  | .oneByOne => entries.foldl (step source) { cache }
  | .inStep => inStep source cache entries

end Batch

/-! ## The whole index -/

/-- The portions of a list, each as long as `size` says but the last; a size of zero counts as one. -/
def portions {α : Type} (size : Nat) : List α → List (List α)
  | [] => []
  | a :: rest => (a :: rest.take (size - 1)) :: portions size (rest.drop (size - 1))
termination_by items => items.length
decreasing_by simp only [List.length_cons, List.length_drop]; omega

/-- An ingestion that came to its end. -/
structure Ingestion where
  events : List IngestEvent := []
  summary : IngestSummary := {}
  requests : List Request := []
  cache : LookupCache

namespace Ingestion

/-- Hands on the batch that came of the next entries. -/
def add (total : Nat) (run : Ingestion) (entries : List IndexEntry) (batch : Batch) : Ingestion :=
  let fetched := batch.rows.length
  let done := run.summary.fetched + run.summary.dropped + entries.length
  { events := run.events ++ [.batch batch.rows, .progress (min done total) total]
    summary :=
      { run.summary with
        fetched := run.summary.fetched + fetched
        dropped := run.summary.dropped + (entries.length - fetched)
        batches := run.summary.batches + 1
        classificationLookups := run.summary.classificationLookups +
          (batch.cache.resolutions - run.cache.resolutions) }
    requests := run.requests ++ batch.requests
    cache := batch.cache }

/-- Goes on with one more batch. -/
def step (source : Source) (pace : Pace) (total : Nat) (run : Ingestion)
    (entries : List IndexEntry) : Ingestion :=
  run.add total entries (Batch.run source pace run.cache entries)

/-- Ingests a source in batches of the given size. -/
def run (source : Source) (pace : Pace) (batchSize : Nat) (cache : LookupCache) :
    Except IngestError Ingestion :=
  match source.index with
  | .error reason => .error (.index reason)
  | .ok page =>
    let total := page.results.length
    .ok <| (portions batchSize page.results).foldl (step source pace total)
      { summary := { total }, requests := [.index], cache }

end Ingestion

end Fieldbook
