import Fieldbook.Proofs.Catalog.Identity

/-!
# Failed lookups heal

Ingestions one after another share a cache, and between them species may begin to fail or recover. What
the cache holds then is what the labels say of the species that were found (`History.remembers`), and
never the default of a lookup that failed. So a failure shows in the rows of the ingestions in which it
happens, unless the species was found before, and in no later one (`History.heals`).
-/

namespace Fieldbook

/-- The classification that the label of a species stands for. -/
def Species.labelled (labels : List (String × String)) (url : String) : UInt32 :=
  (labels.lookup url).elim defaultClassification classification

/-- A shelf answers for the species that has a label and does not fail. -/
theorem Shelf.classification_eq_ok_iff {shelf : Shelf} {url : String} {v : UInt32} :
    shelf.source.classification url = .ok v ↔
      url ∉ shelf.failingSpecies ∧ (shelf.labels.lookup url).isSome = true ∧
        v = Species.labelled shelf.labels url := by
  rw [source, Species.labelled]
  by_cases hfails : url ∈ shelf.failingSpecies
  · simp [hfails]
  · cases hlabel : shelf.labels.lookup url <;> simp [hfails, hlabel, eq_comm]

/-- Without its label a species has the default, as if it failed. -/
theorem Shelf.toOption_getD_classification {shelf : Shelf} {url : String}
    (h : url ∉ shelf.failingSpecies) :
    (shelf.source.classification url).toOption.getD Species.defaultClassification =
      Species.labelled shelf.labels url := by
  rw [source, Species.labelled]
  cases hlabel : shelf.labels.lookup url <;> simp [h, hlabel, Except.toOption]

namespace Ingestion

/-- The records that a source has for its index, in the order of the index. -/
def retrieved (source : Source) : List CatalogRecord :=
  (listed source.index).filterMap fun entry => (source.record entry.url).toOption

/-- The species was asked for in one of the ingestions, and was found. -/
def Found (pasts : List (Shelf × Except IngestError Ingestion)) (url : String) : Prop :=
  ∃ p ∈ pasts, Asks p.2 url ∧ ∃ v, p.1.source.classification url = .ok v

/-- Ingestions one after another, the latest first, and the cache after them. The labels of the species
stay as they are; what fails, what the index lists and what the records say may be different each time. -/
inductive History (labels : List (String × String)) :
    List (Shelf × Except IngestError Ingestion) → LookupCache → Prop where
  | fresh : History labels [] {}
  | run {pasts : List (Shelf × Except IngestError Ingestion)} {cache : LookupCache} {shelf : Shelf}
      {batchSize : Nat} {result : Except IngestError Ingestion} (h : History labels pasts cache)
      (hlabels : shelf.labels = labels)
      (hruns : Runs shelf.source.index shelf.source.replies batchSize cache result) :
      History labels ((shelf, result) :: pasts) (cacheAfter cache result)

/-- The cache holds what was found, and nothing else. -/
structure Remembers (labels : List (String × String))
    (pasts : List (Shelf × Except IngestError Ingestion)) (cache : LookupCache) : Prop where
  idle : cache.Idle
  default_eq : cache.default = Species.defaultClassification
  get?_iff : ∀ {url v}, cache.get? url = some v ↔ Found pasts url ∧ v = Species.labelled labels url

variable {labels : List (String × String)} {pasts : List (Shelf × Except IngestError Ingestion)}
variable {cache : LookupCache} {shelf : Shelf} {batchSize : Nat} {result : Except IngestError Ingestion}

/-- **Every ingestion adds what it finds to what was found before.** -/
theorem Remembers.run (h : Remembers labels pasts cache) (hlabels : shelf.labels = labels)
    (hruns : Runs shelf.source.index shelf.source.replies batchSize cache result) :
    Remembers labels ((shelf, result) :: pasts) (cacheAfter cache result) where
  idle := hruns.idle h.idle
  default_eq := (hruns.default_eq h.idle).trans h.default_eq
  get?_iff {url v} := by
    have hvalue : ∀ {w}, shelf.source.classification url = .ok w → w = Species.labelled labels url :=
      fun hok => hlabels ▸ (Shelf.classification_eq_ok_iff.1 hok).2.2
    rw [hruns.get?_iff h.idle, h.get?_iff]
    constructor
    · rintro (⟨⟨p, hp, hfound⟩, hv⟩ | ⟨hasks, hok⟩)
      · exact ⟨⟨p, .tail _ hp, hfound⟩, hv⟩
      · exact ⟨⟨_, .head _, hasks, v, hok⟩, hvalue hok⟩
    · rintro ⟨⟨p, hp, hasks, w, hok⟩, rfl⟩
      rcases List.mem_cons.1 hp with rfl | hp
      · exact .inr ⟨hasks, hvalue hok ▸ hok⟩
      · exact .inl ⟨⟨p, hp, hasks, w, hok⟩, rfl⟩

theorem History.remembers (h : History labels pasts cache) : Remembers labels pasts cache := by
  induction h with
  | fresh => exact ⟨LookupCache.idle_of_inFlight_eq_nil rfl, rfl, by simp [LookupCache.get?, Found]⟩
  | run _ hlabels hruns ih => exact ih.run hlabels hruns

theorem Remembers.get?_eq_none (h : Remembers labels pasts cache) {url : String}
    (hfound : ¬ Found pasts url) : cache.get? url = none :=
  Option.eq_none_iff_forall_ne_some.2 fun _ hget => hfound (h.get?_iff.1 hget).1

/-- A species that can be had, or that was found before, is classified by its label. -/
theorem Remembers.classificationFrom_eq (h : Remembers labels pasts cache)
    (hlabels : shelf.labels = labels) {url : String}
    (hhad : url ∉ shelf.failingSpecies ∨ Found pasts url) :
    shelf.source.classificationFrom cache url = Species.labelled labels url := by
  rw [Source.classificationFrom]
  by_cases hfound : Found pasts url
  · rw [h.get?_iff.2 ⟨hfound, rfl⟩, Option.getD_some]
  · rw [h.get?_eq_none hfound, h.default_eq, Option.getD_none,
      Shelf.toOption_getD_classification (hhad.resolve_right hfound), hlabels]

/-- Any other species has the default. -/
theorem Remembers.classificationFrom_eq_default (h : Remembers labels pasts cache) {url : String}
    (hfails : url ∈ shelf.failingSpecies) (hfound : ¬ Found pasts url) :
    shelf.source.classificationFrom cache url = Species.defaultClassification := by
  have hnone : shelf.source.classification url = .error (.status url 500) := by
    simp [Shelf.source, hfails]
  rw [Source.classificationFrom, h.get?_eq_none hfound, hnone, h.default_eq]
  rfl

theorem emitted_eq_map {source : Source} (hidle : cache.Idle)
    (hruns : Runs source.index source.replies batchSize cache result) :
    emitted result = (retrieved source).map fun record =>
      record.toRow (source.classificationFrom cache record.species.url) := by
  rw [emitted_eq hidle hruns, retrieved, List.map_filterMap]
  rfl

/-- When no species fails every record is classified by the label of its species. -/
theorem Remembers.emitted_eq (h : Remembers labels pasts cache) (hlabels : shelf.labels = labels)
    (hruns : Runs shelf.source.index shelf.source.replies batchSize cache result)
    (hhad : ∀ record ∈ retrieved shelf.source, record.species.url ∉ shelf.failingSpecies) :
    emitted result = (retrieved shelf.source).map fun record =>
      record.toRow (Species.labelled labels record.species.url) := by
  rw [emitted_eq_map h.idle hruns]
  refine List.map_congr_left fun record hrecord => ?_
  rw [h.classificationFrom_eq hlabels (.inl (hhad record hrecord))]

/-- **Failed lookups heal.** After any ingestions that share a cache, a record is classified by the label
of its species if the species can be had now or was found before, and by default otherwise. So when no
species fails any more, every record is classified as it should be: the rows are those of an ingestion
with a fresh cache, and so is what they leave in any working set. -/
theorem History.heals (h : History labels pasts cache) (hlabels : shelf.labels = labels)
    (hruns : Runs shelf.source.index shelf.source.replies batchSize cache result) :
    List.Forall₂ (fun record row =>
        (record.species.url ∉ shelf.failingSpecies ∨ Found pasts record.species.url →
          row = record.toRow (Species.labelled labels record.species.url)) ∧
        (record.species.url ∈ shelf.failingSpecies → ¬ Found pasts record.species.url →
          row = record.toRow Species.defaultClassification))
      (retrieved shelf.source) (emitted result) ∧
    ((∀ record ∈ retrieved shelf.source, record.species.url ∉ shelf.failingSpecies) →
      (emitted result = (retrieved shelf.source).map fun record =>
        record.toRow (Species.labelled labels record.species.url)) ∧
      ∀ set : WorkingSet, set.Reachable →
        (∀ id record, (retrieved shelf.source).reverse.find? (·.id == id) = some record →
          (set.operateAll (deliveries result)).1.get? (CatalogRecord.rowId id) =
            some (WorkingSet.conform set.columns
              (record.toRow (Species.labelled labels record.species.url)))) ∧
        ∀ batchSize' fresh,
          Runs shelf.source.index shelf.source.replies batchSize' {} fresh →
          emitted fresh = emitted result ∧
          (set.operateAll (deliveries fresh)).1.rows = (set.operateAll (deliveries result)).1.rows ∧
          (set.operateAll (deliveries fresh)).1.columns =
            (set.operateAll (deliveries result)).1.columns) := by
  have hremembers := h.remembers
  refine ⟨?_, fun hhad => ?_⟩
  · rw [emitted_eq_map hremembers.idle hruns, List.forall₂_map_right_iff]
    refine List.forall₂_same.2 fun record _ => ⟨fun hhad => ?_, fun hfails hfound => ?_⟩
    · rw [hremembers.classificationFrom_eq hlabels hhad]
    · rw [hremembers.classificationFrom_eq_default hfails hfound]
  · have hrows := hremembers.emitted_eq hlabels hruns hhad
    refine ⟨hrows, fun set hset => ⟨fun id record hlast => ?_, fun batchSize' fresh hfresh => ?_⟩⟩
    · have hindexed := hset.sound.indexed
      rw [(WorkingSet.follows_operateAll hindexed _).indexed.get?_eq,
        get?_deliveries hindexed hrows (fun _ => rfl), hlast]
      rfl
    · have hfreshRows := History.fresh.remembers.emitted_eq hlabels hfresh hhad
      have hsame : emitted fresh = emitted result := hfreshRows.trans hrows.symm
      have hledger : (set.operateAll (deliveries fresh)).1.ledger =
          (set.operateAll (deliveries result)).1.ledger := by
        rw [ledger_deliveries hset.sound.indexed, ledger_deliveries hset.sound.indexed, hsame]
      exact ⟨hsame, Array.toList_inj.1 (congrArg Ledger.rows hledger), congrArg Ledger.columns hledger⟩

/-- A species fails, which leaves a record with the default, and is found when it has recovered. -/
theorem History.heals_gapped :
    let healed := gapped.heal "y"
    let first := Ingestion.run gapped.source .inStep 2 {}
    let second := Ingestion.run healed.source .oneByOne 3 (cacheAfter {} first)
    (emitted first).map Row.classification = [2, 1] ∧
      (emitted second).map Row.classification = [2, 2] := by
  intro healed first second
  have hfirst : Runs gapped.source.index gapped.source.replies 2 {} first :=
    runs_run gapped.source .inStep 2 (LookupCache.idle_of_inFlight_eq_nil rfl)
  have hpast : History gapped.labels [(gapped, first)] (cacheAfter {} first) := .run .fresh rfl hfirst
  have hsecond := runs_run healed.source .oneByOne 3 hpast.remembers.idle
  have hlabels : healed.labels = gapped.labels := rfl
  have hnone : healed.failingSpecies = [] := by decide
  obtain ⟨hrows, -⟩ := (hpast.heals hlabels hsecond).2 fun record _ => hnone ▸ List.not_mem_nil
  refine ⟨by cbv, ?_⟩
  rw [hrows]
  rfl

end Ingestion

end Fieldbook
