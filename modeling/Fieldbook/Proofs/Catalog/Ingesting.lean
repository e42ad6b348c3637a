import Fieldbook.Proofs.Catalog.Answers
import Fieldbook.Proofs.Catalog.Pace

/-!
# A whole index

The index is walked in portions. `Passes` is what may come of them, whatever the source answers and in
whatever order the entries of a batch come on, and `Runs` what may come of an ingestion; `runs_run` says
that `Ingestion.run` is one of these at either pace.

`Passes.emits` says by induction along the portions which events there are, and what the counters come
to.
-/

namespace Fieldbook

/-! ## Portions -/

section Portions

variable {α : Type} {size : Nat} {items : List α}

/-- A portion is as long as the size says, and the others are made of the rest. -/
theorem portions_eq_cons (size : Nat) (h : items ≠ []) :
    portions size items =
      items.take (max size 1) :: portions size (items.drop (max size 1)) := by
  obtain ⟨a, rest, rfl⟩ := List.exists_cons_of_ne_nil h
  have hsize : max size 1 = size - 1 + 1 := by omega
  rw [portions, hsize, List.take_succ_cons, List.drop_succ_cons]

@[simp]
theorem portions_nil (size : Nat) : portions size ([] : List α) = [] := by rw [portions]

/-- The portions are the whole list. -/
theorem flatten_portions (size : Nat) (items : List α) : (portions size items).flatten = items := by
  fun_induction portions size items with
  | case1 => rfl
  | case2 a rest ih => rw [List.flatten_cons, ih, List.cons_append, List.take_append_drop]

theorem portions_eq_nil_iff : portions size items = [] ↔ items = [] := by
  refine ⟨fun h => ?_, fun h => h ▸ portions_nil size⟩
  by_contra hne
  rw [portions_eq_cons size hne] at h
  cases h

/-- How many portions there are. -/
theorem length_portions (size : Nat) (items : List α) :
    (portions size items).length = (items.length + max size 1 - 1) / max size 1 := by
  have hpos : 0 < max size 1 := by omega
  induction hn : items.length using Nat.strong_induction_on generalizing items with
  | _ n ih =>
    subst hn
    by_cases h : items = []
    · subst h
      rw [portions_nil, List.length_nil, List.length_nil, Nat.zero_add, Nat.div_eq_of_lt (by omega)]
    · have hitems := List.length_pos_iff.2 h
      have hrest : (items.drop (max size 1)).length = items.length - max size 1 := List.length_drop
      -- With one portion less there is one size less to be divided.
      have hsplit : items.length + max size 1 - 1 = items.length - 1 + max size 1 := by omega
      rw [portions_eq_cons size h, List.length_cons, ih _ (by omega) _ rfl, hrest, hsplit,
        Nat.add_div_right _ hpos]
      by_cases hlong : max size 1 ≤ items.length
      · congr 2
        omega
      · rw [Nat.div_eq_of_lt (by omega), Nat.div_eq_of_lt (by omega)]

/-- A portion by its number. -/
theorem getElem_portions (size k : Nat) (items : List α) (hk : k < (portions size items).length) :
    (portions size items)[k] = (items.drop (k * max size 1)).take (max size 1) := by
  induction k generalizing items with
  | zero =>
    have h : items ≠ [] := fun h => by simp [h] at hk
    simp only [portions_eq_cons size h, List.getElem_cons_zero, Nat.zero_mul, List.drop_zero]
  | succ k ih =>
    have h : items ≠ [] := fun h => by simp [h] at hk
    simp only [portions_eq_cons size h, List.getElem_cons_succ]
    rw [ih, List.drop_drop, Nat.succ_mul, Nat.add_comm]

end Portions

namespace Ingestion

variable {replies : Replies} {total : Nat} {run after : Ingestion}

/-! ## Any order -/

/-- What may come of the portions of an index after this. -/
inductive Passes (replies : Replies) (total : Nat) : Ingestion → List (List IndexEntry) → Ingestion →
    Prop where
  | done (run : Ingestion) : Passes replies total run [] run
  | batch {run after : Ingestion} {entries : List IndexEntry} {rest : List (List IndexEntry)}
      {batch : Batch} (hbatch : batch.ComesOf replies run.cache entries)
      (hrest : Passes replies total (run.add total entries batch) rest after) :
      Passes replies total run (entries :: rest) after

/-- The index is there and nothing else. -/
def begun (page : IndexPage) (cache : LookupCache) : Ingestion :=
  { summary := { total := page.results.length }, requests := [.index], cache }

/-- What may come of an ingestion. -/
inductive Runs (index : Except SourceError IndexPage) (replies : Replies) (batchSize : Nat)
    (cache : LookupCache) : Except IngestError Ingestion → Prop where
  | failed {reason : SourceError} (hindex : index = .error reason) :
      Runs index replies batchSize cache (.error (.index reason))
  | ended {page : IndexPage} {after : Ingestion} (hindex : index = .ok page)
      (hpasses : Passes replies page.results.length (begun page cache)
        (portions batchSize page.results) after) :
      Runs index replies batchSize cache (.ok after)

theorem passes_foldl (source : Source) (pace : Pace) (total : Nat) (ps : List (List IndexEntry))
    (hidle : run.cache.Idle) :
    Passes source.replies total run ps (ps.foldl (step source pace total) run) := by
  induction ps generalizing run with
  | nil => exact .done run
  | cons entries ps ih =>
    have hbatch := Batch.comesOf_run source pace hidle entries
    exact .batch hbatch (ih (hbatch.idle hidle))

/-- **An ingestion at either pace is one of the many that there may be**, of a source that does not
change. -/
theorem runs_run (source : Source) (pace : Pace) (batchSize : Nat) {cache : LookupCache}
    (hidle : cache.Idle) :
    Runs source.index source.replies batchSize cache (Ingestion.run source pace batchSize cache) := by
  rw [Ingestion.run]
  cases hindex : source.index with
  | error reason => exact .failed rfl
  | ok page => exact .ended rfl (passes_foldl source pace _ _ hidle)

/-! ## Events and counters -/

/-- What is handed on with the batch of this number, the first one being number zero. -/
def report (batchSize total : Nat) (rows : List Row) (k : Nat) : List IngestEvent :=
  [.batch rows, .progress (min ((k + 1) * max batchSize 1) total) total]

/-- What is handed on with a batch, when so many entries are done before it that all portions but the
last one have been whole. -/
theorem add_events {batchSize k : Nat} {items : List IndexEntry} (batch : Batch) (hitems : items ≠ [])
    (hdone : run.summary.fetched + run.summary.dropped + items.length = total)
    (hk : items ≠ [] → run.summary.fetched + run.summary.dropped = k * max batchSize 1) :
    (run.add total (items.take (max batchSize 1)) batch).events =
      run.events ++ report batchSize total batch.rows k := by
  have hbefore := hk hitems
  have hsucc : (k + 1) * max batchSize 1 = k * max batchSize 1 + max batchSize 1 := Nat.succ_mul ..
  have htake : (items.take (max batchSize 1)).length = min (max batchSize 1) items.length :=
    List.length_take
  have hsame : min (run.summary.fetched + run.summary.dropped +
      (items.take (max batchSize 1)).length) total = min ((k + 1) * max batchSize 1) total := by omega
  simp only [add, report, hsame]

/-- **Batches come with their reports**, and the counters say how many entries have a row. -/
theorem Passes.emits {batchSize : Nat} (k : Nat) (items : List IndexEntry)
    (h : Passes replies total run (portions batchSize items) after) (hidle : run.cache.Idle)
    (hdone : run.summary.fetched + run.summary.dropped + items.length = total)
    (hk : items ≠ [] → run.summary.fetched + run.summary.dropped = k * max batchSize 1) :
    ∃ batches, List.Forall₂ (Batch.RowsOf replies run.cache) (portions batchSize items) batches ∧
      after.events = run.events ++
        (batches.zipIdx k).flatMap (fun p => report batchSize total p.1 p.2) ∧
      after.summary.total = run.summary.total ∧
      after.summary.batches = run.summary.batches + batches.length ∧
      after.summary.fetched = run.summary.fetched + (batches.map List.length).sum ∧
      after.summary.fetched + after.summary.dropped = total := by
  generalize hps : portions batchSize items = ps at h
  induction h generalizing items k with
  | done run =>
    obtain rfl := portions_eq_nil_iff.1 hps
    exact ⟨[], .nil, by simp, rfl, rfl, rfl, hdone⟩
  | @batch run after entries rest batch hbatch _ ih =>
    have hitems : items ≠ [] := by
      rintro rfl
      rw [portions_nil] at hps
      cases hps
    rw [portions_eq_cons batchSize hitems] at hps
    cases hps
    have hrows := hbatch.rowsOf hidle
    have hle := hrows.length_le
    have htake : (items.take (max batchSize 1)).length = min (max batchSize 1) items.length :=
      List.length_take
    have hdrop : (items.drop (max batchSize 1)).length = items.length - max batchSize 1 :=
      List.length_drop
    have hevents := add_events batch hitems hdone hk
    obtain ⟨batches, hbatches, hemitted, htotal, hcount, hfetched, hsum⟩ :=
      ih (k + 1) (items.drop (max batchSize 1)) (hbatch.idle hidle)
        (by simp only [add]; omega)
        (fun hne => by
          have hbefore := hk hitems
          have hpos := List.length_pos_iff.2 hne
          have hsucc : (k + 1) * max batchSize 1 = k * max batchSize 1 + max batchSize 1 :=
            Nat.succ_mul ..
          simp only [add]
          omega)
        rfl
    refine ⟨batch.rows :: batches, .cons hrows (hbatches.imp fun entries rows hrows =>
      hrows.mono fun key v => hbatch.mayAnswer hidle), ?_, htotal, ?_, ?_, hsum⟩
    · rw [hemitted, hevents, List.zipIdx_cons, List.flatMap_cons, List.append_assoc]
    · rw [hcount, List.length_cons]
      simp only [add]
      omega
    · rw [hfetched, List.map_cons, List.sum_cons]
      simp only [add]
      omega

theorem Passes.idle {ps : List (List IndexEntry)} (h : Passes replies total run ps after)
    (hidle : run.cache.Idle) : after.cache.Idle := by
  induction h with
  | done => exact hidle
  | batch hbatch _ ih => exact ih (hbatch.idle hidle)

/-- If every request is answered all portions can be had. -/
theorem exists_passes (hanswering : replies.Answering) (total : Nat) (ps : List (List IndexEntry))
    (run : Ingestion) (hidle : run.cache.Idle) :
    ∃ after, Passes replies total run ps after := by
  induction ps generalizing run with
  | nil => exact ⟨run, .done run⟩
  | cons entries ps ih =>
    have hstart : (Fetching.start run.cache).Sound replies entries := Fetching.sound_start hidle
    obtain ⟨s, batch, hsteps, hyields⟩ := hstart.exists_yields hanswering
    have hbatch : batch.ComesOf replies run.cache entries := ⟨s, hsteps, hyields⟩
    obtain ⟨after, hpasses⟩ := ih (run.add total entries batch) (hbatch.idle hidle)
    exact ⟨after, .batch hbatch hpasses⟩

/-- As many batches as it takes, whatever is left for the last one. -/
theorem le_portions_mul {size : Nat} (m : Nat) (hsize : 0 < size) :
    m ≤ (m + size - 1) / size * size := by
  have hmod := Nat.mod_lt (m + size - 1) hsize
  have hdiv := Nat.div_add_mod' (m + size - 1) size
  omega

/-- The report on the last batch says that the whole index is done. -/
theorem isComplete_getLast {batchSize : Nat} {batches : List (List Row)} {event : IngestEvent}
    (hlength : batches.length = (total + max batchSize 1 - 1) / max batchSize 1)
    (h : (batches.zipIdx.flatMap fun p => report batchSize total p.1 p.2).getLast? = some event) :
    event.isComplete = true := by
  rcases List.eq_nil_or_concat' batches with rfl | ⟨before, rows, rfl⟩
  · cases h
  · have hwhole := le_portions_mul total (show 0 < max batchSize 1 by omega)
    rw [← hlength, List.length_append, List.length_singleton] at hwhole
    rw [List.zipIdx_append, List.flatMap_append] at h
    simp only [Nat.zero_add, List.zipIdx_cons, List.zipIdx_nil, List.flatMap_cons, List.flatMap_nil,
      report, List.append_nil, List.getLast?_append, List.getLast?_cons_cons, List.getLast?_singleton,
      Option.some_or, Option.some.injEq] at h
    subst h
    simpa [IngestEvent.isComplete] using hwhole

/-- **What an ingestion hands on**, whatever the source answers to which request and in whatever order
the entries of a batch come on. Without an index it fails and hands on nothing. With one it succeeds:
no order gets stuck or goes on for ever. Each batch comes with a report and has a row for each of its
entries that are answered with a record, the last report says that all is done, and the counters agree
with the rows. `Ingestion.run` is such an ingestion at either pace. -/
theorem runs_emit (index : Except SourceError IndexPage) (replies : Replies) (batchSize : Nat)
    {cache : LookupCache} (hidle : cache.Idle) :
    (∀ source pace,
      Runs source.index source.replies batchSize cache (Ingestion.run source pace batchSize cache)) ∧
    (∀ reason, index = .error reason →
      ∀ result, Runs index replies batchSize cache result ↔ result = .error (.index reason)) ∧
    ∀ page, index = .ok page →
      (∀ result, Runs index replies batchSize cache result →
        ∃ (after : Ingestion) (batches : List (List Row)), result = .ok after ∧
        batches.length = (page.results.length + max batchSize 1 - 1) / max batchSize 1 ∧
        after.events =
          batches.zipIdx.flatMap (fun p => report batchSize page.results.length p.1 p.2) ∧
        (∀ k rows, batches[k]? = some rows → Batch.RowsOf replies cache
          ((page.results.drop (k * max batchSize 1)).take (max batchSize 1)) rows) ∧
        (∀ event, after.events.getLast? = some event → event.isComplete = true) ∧
        after.summary.total = page.results.length ∧
        after.summary.batches = (page.results.length + max batchSize 1 - 1) / max batchSize 1 ∧
        after.summary.fetched = (batches.map List.length).sum ∧
        after.summary.fetched + after.summary.dropped = page.results.length) ∧
      (replies.Answering → ∃ after, Runs index replies batchSize cache (.ok after)) ∧
      ∀ done entries rest run s, portions batchSize page.results = done ++ entries :: rest →
        Passes replies page.results.length (begun page cache) done run →
        Fetching.Steps replies entries (.start run.cache) s →
        Acc (fun after before => Fetching.Step replies entries before after) s ∧
          (replies.Answering →
            (∃ batch, s.Yields entries batch) ∨ ∃ s', Fetching.Step replies entries s s') := by
  refine ⟨fun source pace => runs_run source pace batchSize hidle, ?_, ?_⟩
  · rintro reason rfl result
    constructor
    · intro hruns
      cases hruns with
      | failed hindex => cases hindex; rfl
      | ended hindex => cases hindex
    · rintro rfl
      exact .failed rfl
  · rintro page rfl
    refine ⟨fun result hruns => ?_, fun hanswering => ?_, ?_⟩
    · cases hruns with
      | failed hindex => cases hindex
      | @ended page' after hindex hpasses =>
        cases hindex
        obtain ⟨batches, hbatches, hevents, htotal, hcount, hfetched, hsum⟩ :=
          hpasses.emits 0 page.results hidle (Nat.zero_add _) fun _ => (Nat.zero_mul _).symm
        have hlength := hbatches.length_eq.symm.trans (length_portions batchSize page.results)
        refine ⟨after, batches, rfl, hlength, hevents, fun k rows hrows => ?_, fun event hlast => ?_,
          htotal, ?_, ?_, hsum⟩
        · obtain ⟨hk, rfl⟩ := List.getElem?_eq_some_iff.1 hrows
          obtain ⟨hsame, hportions⟩ := List.forall₂_iff_get.1 hbatches
          rw [← getElem_portions batchSize k page.results (hsame ▸ hk)]
          exact hportions k (hsame ▸ hk) hk
        · rw [hevents] at hlast
          exact isComplete_getLast hlength hlast
        · rw [hcount, hlength]
          exact Nat.zero_add _
        · rw [hfetched]
          exact Nat.zero_add _
    · obtain ⟨after, hpasses⟩ := exists_passes hanswering page.results.length
        (portions batchSize page.results) (begun page cache) hidle
      exact ⟨after, .ended rfl hpasses⟩
    · intro done entries rest run s _ hpasses hsteps
      have hs : s.Sound replies entries :=
        (Fetching.sound_start (hpasses.idle hidle)).steps hsteps
      exact ⟨hs.acc, hs.progress⟩

/-- Three entries, of which the second has no record and the third no species. -/
def gapped : Shelf :=
  let shelf := [("a", "x"), ("b", "x"), ("c", "y")].foldl (fun (shelf : Shelf) (p : String × String) =>
    shelf.add p.1 { id := 1, name := p.1, species := ⟨p.2, p.2⟩ } "generation-ii") {}
  { shelf with failingRecords := ["b"], failingSpecies := ["y"], reportedCount := some 9 }

/-- Two batches, of two rows in all: the entry without a record is left out, and the one without a
species is not. Every request is answered, so some ingestion ends in whatever order they are. -/
theorem runs_emit_gapped : ({} : LookupCache).Idle ∧ (gapped.source.replies.Answering ∧
    ∃ ended, Runs gapped.source.index gapped.source.replies 2 {} (.ok ended)) ∧ ∃ after,
    Ingestion.run gapped.source .inStep 2 {} = .ok after ∧ after.summary = ⟨3, 2, 1, 2, 2⟩ ∧
      ∃ batches : List (List Row), batches.length = 2 ∧
        after.events = batches.zipIdx.flatMap fun p => report 2 3 p.1 p.2 := by
  have hidle : ({} : LookupCache).Idle := LookupCache.idle_of_inFlight_eq_nil rfl
  obtain ⟨hrun, -, hok⟩ := runs_emit gapped.source.index gapped.source.replies 2 hidle
  obtain ⟨after, batches, hafter, hlength, hevents, -⟩ := (hok _ rfl).1 _ (hrun gapped.source .inStep)
  have hsummary : (Ingestion.run gapped.source .inStep 2 {}).map (·.summary) = .ok ⟨3, 2, 1, 2, 2⟩ := by
    cbv
  rw [hafter] at hsummary
  have hanswering : gapped.source.replies.Answering := gapped.source.answering_replies
  exact ⟨hidle, ⟨hanswering, (hok _ rfl).2.1 hanswering⟩, after, hafter, Except.ok.inj hsummary, batches,
    hlength, hevents⟩

end Ingestion

end Fieldbook
