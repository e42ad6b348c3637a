import Fieldbook.Proofs.Catalog.Together

/-!
# Both paces are orders of the steps

`Batch.run` lets the entries of a batch go one by one or in step. Either is one of the many orders in which
their steps can come: what `Batch.run` makes of a source that does not change is a batch that may come of
the entries (`Batch.comesOf_run`).
-/

namespace Fieldbook

namespace Fetching

open LookupCache

variable {source : Source} {entries : List IndexEntry} {s s' : Fetching}

/-! ## Records -/

/-- The entry and its record, if that is known. -/
def recorded? (s : Fetching) (i : Nat) : Option (Nat × CatalogRecord) :=
  match s.records i with
  | some (.ok record) => some (i, record)
  | _ => none

theorem recorded?_eq_some_iff {i : Nat} {p : Nat × CatalogRecord} :
    s.recorded? i = some p ↔ i = p.1 ∧ s.records i = some (.ok p.2) := by
  rw [recorded?]
  split
  · next record hrecord => simp [hrecord, Prod.ext_iff]
  · next hnone =>
    simp only [reduceCtorEq, false_iff, not_and]
    exact fun _ hrecord => hnone _ hrecord

/-- The entries with a record. -/
def recorded (s : Fetching) (n : Nat) : List (Nat × CatalogRecord) :=
  (List.range n).filterMap s.recorded?

/-- Every entry is listed once with its record. -/
theorem nodup_recorded (s : Fetching) (n : Nat) : ((s.recorded n).map Prod.fst).Nodup := by
  rw [recorded, List.map_filterMap]
  refine List.nodup_range.filterMap fun i j k hi hj => ?_
  simp only [Option.mem_def, Option.map_eq_some_iff, recorded?_eq_some_iff] at hi hj
  obtain ⟨p, ⟨rfl, -⟩, rfl⟩ := hi
  obtain ⟨q, ⟨rfl, -⟩, hq⟩ := hj
  exact hq.symm

theorem records_of_mem_recorded {n : Nat} {p : Nat × CatalogRecord} (h : p ∈ s.recorded n) :
    s.records p.1 = some (.ok p.2) := by
  obtain ⟨i, -, hi⟩ := List.mem_filterMap.1 h
  obtain ⟨rfl, hrecord⟩ := recorded?_eq_some_iff.1 hi
  exact hrecord

theorem outcome?_of_returned {i : Nat} {record : CatalogRecord} {key : String} {v : UInt32}
    (hrecord : s.records i = some (.ok record))
    (hcaller : s.traffic.callers i = some ⟨key, .returned v⟩) :
    s.outcome? i = some (some (record.toRow v)) := by
  rw [outcome?, hrecord, hcaller]

/-- An entry without a record comes to nothing. -/
theorem outcome?_of_error {i : Nat} {reason : SourceError} (h : s.records i = some (.error reason)) :
    s.outcome? i = some none := by
  rw [outcome?, h]

/-- All entries are done when all of them are answered and those with a record have returned. -/
theorem yields_of_returned {answers : List (UInt32 × Bool)}
    (hanswered : ∀ i < entries.length, s.records i ≠ none)
    (hreturned : List.Forall₂ (fun p answer =>
      s.traffic.callers p.1 = some ⟨p.2.species.url, .returned answer.1⟩)
      (s.recorded entries.length) answers) :
    s.Yields entries
      { rows := List.zipWith (fun p answer => p.2.toRow answer.1) (s.recorded entries.length) answers
        requests := s.requests
        cache := s.traffic.cache } := by
  refine ⟨(List.range entries.length).map fun i => (s.outcome? i).join, ?_, ?_⟩
  · rw [List.map_map]
    refine List.map_congr_left fun i hi => ?_
    obtain ⟨reply, hreply⟩ := Option.ne_none_iff_exists'.1 (hanswered i (List.mem_range.1 hi))
    cases reply with
    | error reason => simp [outcome?_of_error hreply]
    | ok record =>
      have hmem : (i, record) ∈ s.recorded entries.length :=
        List.mem_filterMap.2 ⟨i, hi, recorded?_eq_some_iff.2 ⟨rfl, hreply⟩⟩
      obtain ⟨answer, -, hcaller⟩ := exists_mem_of_forall₂ hreturned.flip hmem
      simp [outcome?_of_returned hreply hcaller]
  · -- An entry without a record has no row, so that those with one are all.
    have hjoin : ∀ i, (s.outcome? i).join = (s.recorded? i).bind fun p => (s.outcome? p.1).join := by
      intro i
      cases hrecorded : s.recorded? i with
      | some p => rw [(recorded?_eq_some_iff.1 hrecorded).1]; rfl
      | none =>
        cases hrecord : s.records i with
        | none => simp [outcome?, hrecord]
        | some reply =>
          cases reply with
          | error reason => simp [outcome?_of_error hrecord]
          | ok record => rw [recorded?, hrecord] at hrecorded; cases hrecorded
    have hrows : List.Forall₂ (fun (p : Nat × CatalogRecord) (answer : UInt32 × Bool) =>
        (s.outcome? p.1).join = some (p.2.toRow answer.1)) (s.recorded entries.length) answers := by
      refine ((List.forall₂_and_left _ _).2
        ⟨fun p hp => records_of_mem_recorded hp, hreturned⟩).imp ?_
      rintro p answer ⟨hrecord, hcaller⟩
      rw [outcome?_of_returned hrecord hcaller]
      rfl
    rw [← filterMap_eq_zipWith hrows, recorded, List.filterMap_filterMap, List.reduceOption,
      List.filterMap_map]
    congr 1
    exact List.filterMap_congr fun i _ => (hjoin i).symm

/-! ## More entries -/

/-- What some entries can do they can do among more. -/
theorem Step.append (h : Step source.replies entries s s') (more : List IndexEntry) :
    Step source.replies (entries ++ more) s s' := by
  cases h with
  | answer hentry hnew hreply =>
    refine .answer ?_ hnew hreply
    rw [List.getElem?_append_left (List.getElem?_eq_some_iff.1 hentry).1, hentry]
  | look hstep hevent => exact .look hstep hevent

theorem steps_append (h : Steps source.replies entries s s') (more : List IndexEntry) :
    Steps source.replies (entries ++ more) s s' := by
  induction h with
  | refl => exact .refl
  | tail _ hstep ih => exact ih.tail (hstep.append more)

/-- One more entry asks for its record and is answered. -/
theorem answer_last (source : Source) (entry : IndexEntry) (h : s.Sound source.replies entries) :
    Step source.replies (entries ++ [entry]) s
      (s.answer entries.length entry.url (source.record entry.url)) :=
  .answer (by simp) (h.records_eq_none le_rfl) rfl

/-- The entry that is answered last is the last one with a record, if it has one. -/
theorem recorded_answer (s : Fetching) (n : Nat) (url : String)
    (reply : Except SourceError CatalogRecord) :
    (s.answer n url reply).recorded (n + 1) =
      s.recorded n ++ reply.toOption.toList.map (n, ·) := by
  have hbefore : ∀ i ∈ List.range n, (s.answer n url reply).recorded? i = s.recorded? i := by
    intro i hi
    rw [recorded?, recorded?, records_answer_of_ne (List.mem_range.1 hi).ne]
  rw [recorded, List.range_succ, List.filterMap_append, List.filterMap_congr hbefore, recorded]
  congr 1
  cases reply <;> simp [recorded?, Except.toOption]

/-! ## One after another -/

/-- One more entry is done, and nothing has become of those before it that had not before. -/
theorem Yields.append {batch : Batch} {outcome : Option Row} (h : s.Yields entries batch)
    (entry : IndexEntry) (hbefore : ∀ i < entries.length, s'.outcome? i = s.outcome? i)
    (hlast : s'.outcome? entries.length = some outcome) :
    s'.Yields (entries ++ [entry]) { rows := batch.rows ++ outcome.toList
                                     requests := s'.requests
                                     cache := s'.traffic.cache } := by
  obtain ⟨outcomes, houtcomes, rfl⟩ := h
  refine ⟨outcomes ++ [outcome], ?_, ?_⟩
  · rw [List.length_append, List.length_singleton, List.range_succ, List.map_append, List.map_append,
      ← houtcomes, List.map_singleton, List.map_singleton, hlast]
    congr 1
    exact List.map_congr_left fun i hi => hbefore i (List.mem_range.1 hi)
  · rw [List.reduceOption_append, List.reduceOption_singleton]

/-- **One entry after the other is an order in which they can come on.** -/
theorem exists_oneByOne (source : Source) {cache : LookupCache} (hidle : cache.Idle)
    (entries : List IndexEntry) : ∃ s, Steps source.replies entries (.start cache) s ∧
      s.Yields entries (entries.foldl (Batch.step source) { cache }) := by
  induction entries using List.reverseRecOn with
  | nil => exact ⟨_, .refl, [], rfl, rfl⟩
  | append_singleton entries entry ih =>
    obtain ⟨s, hsteps, hyields⟩ := ih
    have hs : s.Sound source.replies entries := (sound_start hidle).steps hsteps
    have hsteps₁ := (steps_append hsteps [entry]).tail (answer_last source entry hs)
    have hs₁ := (sound_start hidle).steps hsteps₁
    have hnew : s.traffic.callers entries.length = none :=
      hs.callers_eq_none (hs.records_eq_none le_rfl)
    obtain ⟨hrequests, hcache⟩ : (entries.foldl (Batch.step source) { cache }).requests = s.requests ∧
        (entries.foldl (Batch.step source) { cache }).cache = s.traffic.cache := by
      obtain ⟨outcomes, -, hbatch⟩ := hyields
      rw [hbatch]
      exact ⟨rfl, rfl⟩
    rw [List.foldl_append, List.foldl_cons, List.foldl_nil, Batch.step, hrequests, hcache]
    -- The answer that comes in makes no difference to the entries before.
    have hanswered : ∀ i < entries.length,
        (s.answer entries.length entry.url (source.record entry.url)).outcome? i = s.outcome? i := by
      intro i hi
      rw [outcome?, outcome?, records_answer_of_ne hi.ne]
      rfl
    cases hreply : source.record entry.url with
    | error reason =>
      rw [hreply] at hsteps₁ hanswered
      have hlast := hyields.append entry hanswered
        (outcome?_of_error records_answer_self)
      rw [Option.toList_none, List.append_nil] at hlast
      exact ⟨_, hsteps₁, hlast⟩
    | ok record =>
      rw [hreply] at hsteps₁ hs₁ hanswered
      obtain ⟨s₂, hadvance, hcache₂, hreturned, hrequests₂⟩ :=
        hs₁.exists_together (hs.quiet hyields) [(entries.length, record)] (by simp)
          (fun p hp => List.mem_singleton.1 hp ▸ records_answer_self)
          (fun p hp => List.mem_singleton.1 hp ▸ hnew)
      rw [List.map_singleton, together_singleton] at hcache₂ hreturned hrequests₂
      obtain ⟨hcaller, -⟩ := List.forall₂_cons.1 hreturned
      have hbefore : ∀ i < entries.length, s₂.outcome? i = s.outcome? i := by
        intro i hi
        rw [← hanswered i hi, outcome?, outcome?, hadvance.records_eq, hadvance.callers_eq i]
        simpa using hi.ne
      have hlast := hyields.append entry hbefore
        (outcome?_of_returned (hadvance.records_eq ▸ records_answer_self) hcaller)
      rw [hcache₂, hrequests₂] at hlast
      refine ⟨_, hsteps₁.trans hadvance.steps, ?_⟩
      simpa [answer] using hlast

/-! ## In step -/

theorem exists_answered (source : Source) {cache : LookupCache} (hidle : cache.Idle)
    (entries : List IndexEntry) : ∃ s, Steps source.replies entries (.start cache) s ∧
      s.traffic = .atRest cache ∧ (∀ i < entries.length, s.records i ≠ none) ∧
      (s.recorded entries.length).map Prod.snd =
        entries.filterMap (fun entry => (source.record entry.url).toOption) ∧
      s.requests = entries.map (.record ·.url) := by
  induction entries using List.reverseRecOn with
  | nil => exact ⟨_, .refl, rfl, nofun, rfl, rfl⟩
  | append_singleton entries entry ih =>
    obtain ⟨s, hsteps, htraffic, hanswered, hrecorded, hrequests⟩ := ih
    have hs : s.Sound source.replies entries := (sound_start hidle).steps hsteps
    refine ⟨_, (steps_append hsteps [entry]).tail (answer_last source entry hs), htraffic, ?_, ?_, ?_⟩
    · intro i hi
      rw [List.length_append, List.length_singleton, Nat.lt_succ_iff_lt_or_eq] at hi
      rcases hi with hi | rfl
      · rw [records_answer_of_ne hi.ne]
        exact hanswered i hi
      · rw [records_answer_self]
        nofun
    · rw [List.length_append, List.length_singleton, recorded_answer, List.map_append, hrecorded,
        List.filterMap_append]
      congr 1
      cases hreply : source.record entry.url <;> simp [hreply, Except.toOption]
    · rw [List.map_append, ← hrequests]
      rfl

/-- **All entries side by side is an order in which they can come on**: first every record, then every
lookup. -/
theorem exists_inStep (source : Source) {cache : LookupCache} (hidle : cache.Idle)
    (entries : List IndexEntry) : ∃ s, Steps source.replies entries (.start cache) s ∧
      s.Yields entries (Batch.inStep source cache entries) := by
  obtain ⟨s, hsteps, htraffic, hanswered, hrecorded, hrequests⟩ := exists_answered source hidle entries
  have hs : s.Sound source.replies entries := (sound_start hidle).steps hsteps
  obtain ⟨s', hadvance, hcache, hreturned, hrequests'⟩ :=
    hs.exists_together (by rw [htraffic]; nofun) _ (nodup_recorded ..)
      (fun p hp => records_of_mem_recorded hp) (fun p _ => by rw [htraffic]; rfl)
  have hsame : s'.recorded entries.length = s.recorded entries.length := by
    rw [recorded, recorded]
    exact List.filterMap_congr fun i _ => by rw [recorded?, recorded?, hadvance.records_eq]
  refine ⟨s', hsteps.trans hadvance.steps, ?_⟩
  have hyields := yields_of_returned (fun i hi => hadvance.records_eq ▸ hanswered i hi)
    (hsame ▸ hreturned)
  rw [htraffic] at hcache hyields hrequests'
  rw [hcache, hrequests', hsame, hrequests] at hyields
  simp only [Batch.inStep, ← hrecorded, List.map_map, List.zipWith_map_left]
  exact hyields

end Fetching

/-- **What a batch makes at either pace may come of its entries**, of a source that does not change. -/
theorem Batch.comesOf_run (source : Source) (pace : Pace) {cache : LookupCache}
    (hidle : cache.Idle) (entries : List IndexEntry) :
    (Batch.run source pace cache entries).ComesOf source.replies cache entries := by
  cases pace with
  | oneByOne => exact Fetching.exists_oneByOne source hidle entries
  | inStep => exact Fetching.exists_inStep source hidle entries

end Fieldbook
