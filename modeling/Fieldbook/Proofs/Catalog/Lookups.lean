import Fieldbook.Proofs.Catalog.Ingesting

/-!
# What the lookups of an ingestion leave in the cache

The cache holds a value after an ingestion when it held it before, or when the value was asked for and the
source gave it; a lookup that fails leaves nothing. `Fetching.Asked` carries this through the steps of a
batch, from the start of a resolver to the table of finished values, and `Runs.get?_iff` says what
it comes to.
-/

namespace Fieldbook

theorem LookupCache.Event.mem_requests_iff {event : LookupCache.Event} {key : String} :
    .classification key ∈ event.requests ↔ ∃ c n, event = .started c key n := by
  cases event <;> simp [LookupCache.Event.requests, eq_comm]

namespace Fetching

open LookupCache

variable {replies : Replies} {entries : List IndexEntry} {s s' : Fetching} {start : LookupCache}

/-- What was asked about species, and what has come of it. -/
structure Asked (replies : Replies) (start : LookupCache) (s : Fetching) : Prop where
  /-- Every start of a resolver is a request, and there are no others. -/
  started_iff : ∀ {key}, .classification key ∈ s.requests ↔ ∃ c n, .started c key n ∈ s.history
  /-- Who starts a resolver has joined its attempt. -/
  joined : ∀ {c key n}, .started c key n ∈ s.history → .joined c key n ∈ s.history
  /-- An attempt whose resolver was started was asked for. -/
  requested : ∀ {c key n stage}, .joined c key n ∈ s.history →
    s.traffic.cache.attempts[n]? = some stage → stage ≠ .opened → .classification key ∈ s.requests
  /-- An attempt is settled by an answer of the source. -/
  settled : ∀ {c key n v found}, .joined c key n ∈ s.history →
    s.traffic.cache.attempts[n]? = some (.settled v found) →
    ∃ reply, replies.classification key reply ∧ v = reply.toOption.getD start.default ∧
      found = reply.toOption.isSome
  /-- A value was there at the start, or it was asked for and given. -/
  held : ∀ {key v}, s.traffic.cache.get? key = some v →
    start.get? key = some v ∨ .classification key ∈ s.requests ∧ replies.classification key (.ok v)

theorem asked_start (replies : Replies) (start : LookupCache) : Asked replies start (.start start) where
  started_iff := by simp [Fetching.start]
  joined := nofun
  requested := nofun
  settled := nofun
  held := .inl

/-- An answer with a value that is not the default for a failure is that value. -/
theorem reply_eq_ok {reply : Except SourceError UInt32} {v d : UInt32}
    (hv : v = reply.toOption.getD d) (hfound : true = reply.toOption.isSome) : reply = .ok v := by
  cases reply with
  | error reason => cases hfound
  | ok w => exact congrArg Except.ok hv.symm

theorem mem_requests_look {event : Event} {traffic : Traffic} {key : String} :
    .classification key ∈ (s.look event traffic).requests ↔
      .classification key ∈ s.requests ∨ ∃ c n, event = .started c key n := by
  rw [look, List.mem_append, Event.mem_requests_iff]

/-- A step of a caller, by what it does to the attempts and the finished values. -/
theorem Asked.look (h : Asked replies start s) {event : Event} {traffic : Traffic}
    (hjoined : ∀ {c key n}, event = .started c key n → .joined c key n ∈ s.history)
    (hrequested : ∀ {c key n stage}, .joined c key n ∈ event :: s.history →
      traffic.cache.attempts[n]? = some stage → stage ≠ .opened →
      .classification key ∈ (s.look event traffic).requests)
    (hsettled : ∀ {c key n v found}, .joined c key n ∈ event :: s.history →
      traffic.cache.attempts[n]? = some (.settled v found) →
      ∃ reply, replies.classification key reply ∧ v = reply.toOption.getD start.default ∧
        found = reply.toOption.isSome)
    (hheld : ∀ {key v}, traffic.cache.get? key = some v → s.traffic.cache.get? key = some v ∨
      .classification key ∈ s.requests ∧ replies.classification key (.ok v)) :
    Asked replies start (s.look event traffic) := by
  refine ⟨?_, ?_, hrequested, hsettled, ?_⟩
  · intro key
    rw [mem_requests_look, h.started_iff]
    simp only [Fetching.look, List.mem_cons]
    constructor
    · rintro (⟨c, n, hmem⟩ | ⟨c, n, rfl⟩)
      · exact ⟨c, n, .inr hmem⟩
      · exact ⟨c, n, .inl rfl⟩
    · rintro ⟨c, n, rfl | hmem⟩
      · exact .inr ⟨c, n, rfl⟩
      · exact .inl ⟨c, n, hmem⟩
  · intro c key n hmem
    rcases List.mem_cons.1 hmem with rfl | hmem
    · exact .tail _ (hjoined rfl)
    · exact .tail _ (h.joined hmem)
  · intro key v hget
    rcases hheld hget with hget | ⟨hmem, hreply⟩
    · exact (h.held hget).imp_right fun hasked => ⟨mem_requests_look.2 (.inl hasked.1), hasked.2⟩
    · exact .inr ⟨mem_requests_look.2 (.inl hmem), hreply⟩

/-- **Every step of a caller keeps account of what was asked.** -/
theorem Asked.step_look (h : Asked replies start s) (hs : s.Sound replies entries)
    (hdefault : s.traffic.cache.default = start.default) {event : Event} {traffic : Traffic}
    (hstep : LookupCache.Step s.traffic event traffic) (hevent : s.Allows replies event) :
    Asked replies start (s.look event traffic) := by
  -- An attempt that is as it was, and that was joined before.
  have hasked : ∀ {event traffic c key n stage}, .joined c key n ∈ s.history →
      s.traffic.cache.attempts[n]? = some stage → stage ≠ .opened →
      .classification key ∈ (s.look event traffic).requests :=
    fun hmem hattempt hopened => mem_requests_look.2 (.inl (h.requested hmem hattempt hopened))
  cases hstep.effect with
  | aside hbefore hreturned hstage haside =>
    have hold : ∀ {c key n}, .joined c key n ∈ event :: s.history → .joined c key n ∈ s.history :=
      fun hmem => (List.mem_cons.1 hmem).resolve_left (by rintro rfl; cases haside)
    exact h.look (by rintro _ _ _ rfl; cases haside) (fun hmem => hasked (hold hmem))
      (fun hmem => h.settled (hold hmem)) .inl
  | @follow c number key hc hopen =>
    -- Who waits for the open attempt has joined it; one that was given up is only opened.
    have hold : ∀ {c' k n stage}, .joined c' k n ∈ Event.joined c key number :: s.history →
        s.traffic.cache.attempts[n]? = some stage → stage ≠ .opened →
        ∃ c'', .joined c'' k n ∈ s.history := by
      intro c' k n stage hmem hattempt hopened
      rcases List.mem_cons.1 hmem with heq | hmem
      · cases heq
        rcases hs.tabled.waited hopen with ⟨c'', hwaits⟩ | ⟨-, huntouched⟩
        · exact ⟨c'', hs.held.joined hwaits⟩
        · cases huntouched.opened.symm.trans hattempt
          exact absurd rfl hopened
      · exact ⟨c', hmem⟩
    refine h.look nofun (fun hmem hattempt hopened => ?_) (fun hmem hattempt => ?_) .inl
    · obtain ⟨c'', hmem⟩ := hold hmem hattempt hopened
      exact hasked hmem hattempt hopened
    · obtain ⟨c'', hmem⟩ := hold hmem hattempt nofun
      exact h.settled hmem hattempt
  | @«open» c key hc hget hnew =>
    have hold : ∀ {c' k n stage},
        .joined c' k n ∈ Event.joined c key s.traffic.cache.attempts.size :: s.history →
        (s.traffic.cache.attempts.push .opened)[n]? = some stage → stage ≠ .opened →
        .joined c' k n ∈ s.history ∧ s.traffic.cache.attempts[n]? = some stage := by
      intro c' k n stage hmem hattempt hopened
      rcases List.mem_cons.1 hmem with heq | hmem
      · cases heq
        rw [Array.getElem?_push_size] at hattempt
        cases hattempt
        exact absurd rfl hopened
      · rw [Array.getElem?_push_lt (hs.held.number_lt hmem), ← Array.getElem?_eq_getElem] at hattempt
        exact ⟨hmem, hattempt⟩
    refine h.look nofun (fun hmem hattempt hopened => ?_) (fun hmem hattempt => ?_) .inl
    · obtain ⟨hmem, hattempt⟩ := hold hmem hattempt hopened
      exact hasked hmem hattempt hopened
    · obtain ⟨hmem, hattempt⟩ := hold hmem hattempt nofun
      exact h.settled hmem hattempt
  | @start c number key hc hopened =>
    have hcaller := hs.held.joined (.inl hc)
    have hold : ∀ {c' k n}, .joined c' k n ∈ Event.started c key number :: s.history →
        .joined c' k n ∈ s.history := fun hmem => (List.mem_cons.1 hmem).resolve_left nofun
    refine h.look (fun heq => by cases heq; exact hcaller) (fun {c' k n stage} hmem hattempt hne => ?_)
      (fun {c' k n v found} hmem hattempt => ?_) .inl
    · by_cases hn : number = n
      · subst hn
        obtain rfl := hs.held.key_eq (hold hmem) hcaller
        exact mem_requests_look.2 (.inr ⟨c, number, rfl⟩)
      · exact hasked (hold hmem) ((Array.getElem?_setIfInBounds_ne hn).symm.trans hattempt) hne
    · by_cases hn : number = n
      · subst hn
        cases (getElem?_setIfInBounds_of_some hopened).symm.trans hattempt
      · exact h.settled (hold hmem) ((Array.getElem?_setIfInBounds_ne hn).symm.trans hattempt)
  | @finish c number key hc found =>
    have hcaller := hs.held.joined (.inr hc)
    have hold : ∀ {c' k n}, .joined c' k n ∈ Event.finished c key number found :: s.history →
        .joined c' k n ∈ s.history := fun hmem => (List.mem_cons.1 hmem).resolve_left nofun
    refine h.look nofun (fun {c' k n stage} hmem hattempt hne => ?_)
      (fun {c' k n v found'} hmem hattempt => ?_) .inl
    · by_cases hn : number = n
      · subst hn
        exact hasked (hold hmem) (hs.held.running hc) nofun
      · exact hasked (hold hmem) ((Array.getElem?_setIfInBounds_ne hn).symm.trans hattempt) hne
    · by_cases hn : number = n
      · subst hn
        obtain ⟨reply, hreply, rfl⟩ := hevent
        obtain rfl := hs.held.key_eq (hold hmem) hcaller
        cases (getElem?_setIfInBounds_of_some (hs.held.running hc)).symm.trans hattempt
        exact ⟨reply, hreply, by rw [hdefault], rfl⟩
      · exact h.settled (hold hmem) ((Array.getElem?_setIfInBounds_ne hn).symm.trans hattempt)
  | @leave c number key v found hc hsettled =>
    have hcaller := hs.held.joined (.inl hc)
    have hold : ∀ {c' k n}, .joined c' k n ∈ Event.left c key number v :: s.history →
        .joined c' k n ∈ s.history := fun hmem => (List.mem_cons.1 hmem).resolve_left nofun
    refine h.look nofun (fun hmem => hasked (hold hmem)) (fun hmem => h.settled (hold hmem))
      fun {k w} hget => ?_
    rw [move_cache, get?, lookup_finished] at hget
    split at hget
    · next hkey =>
      obtain ⟨rfl, rfl⟩ := hkey
      cases hget
      obtain ⟨reply, hreply, hv, hfound⟩ := h.settled hcaller hsettled
      exact .inr ⟨h.requested hcaller hsettled (by rintro ⟨⟩), reply_eq_ok hv hfound ▸ hreply⟩
    · exact .inl hget

/-- A step asks for no species but those that a caller comes to look up. -/
theorem Asked.step (h : Asked replies start s) (hs : s.Sound replies entries)
    (hdefault : s.traffic.cache.default = start.default) (hstep : Step replies entries s s') :
    Asked replies start s' := by
  cases hstep with
  | @answer i entry reply hentry hnew hreply =>
    -- It is a request for a record and not for a species.
    have hsame : ∀ {key}, .classification key ∈ (s.answer i entry.url reply).requests ↔
        .classification key ∈ s.requests := by
      intro key
      simp [answer]
    exact ⟨hsame.trans h.started_iff, h.joined, fun hmem hattempt hopened =>
      hsame.2 (h.requested hmem hattempt hopened), h.settled, fun hget =>
      (h.held hget).imp_right fun hasked => ⟨hsame.2 hasked.1, hasked.2⟩⟩
  | look hstep hevent => exact h.step_look hs hdefault hstep hevent

/-- **What was asked for along any order of the steps**, by induction on the steps. -/
theorem asked_of_steps (hidle : start.Idle) (hsteps : Steps replies entries (.start start) s) :
    Asked replies start s := by
  induction hsteps with
  | refl => exact asked_start replies start
  | tail hbefore hstep ih =>
    have hs : Sound replies entries _ := (sound_start hidle).steps hbefore
    exact ih.step hs (truthful_of_steps hidle hbefore).default_eq hstep

/-- **When nobody is in the middle of a call, what was asked for has been answered**, and a value that the
answer gives is there. -/
theorem Asked.answered (h : Asked replies start s) (hs : s.Sound replies entries)
    (hquiet : s.traffic.Quiet) {key : String} (hmem : .classification key ∈ s.requests) :
    ∃ reply, replies.classification key reply ∧
      ∀ v, reply = .ok v → s.traffic.cache.get? key = some v := by
  obtain ⟨c, n, hstarted⟩ := h.started_iff.1 hmem
  have hjoined := h.joined hstarted
  rcases hs.held.waits_or_returned hjoined with hwaits | ⟨v, found, -, hattempt⟩
  · rcases hwaits with hcaller | hcaller <;> obtain ⟨v, hstage⟩ := hquiet c _ hcaller <;> cases hstage
  · obtain ⟨reply, hreply, hv, hfound⟩ := h.settled hjoined hattempt
    refine ⟨reply, hreply, ?_⟩
    rintro w rfl
    cases hv
    cases hfound
    -- The attempt is not open any more, for it was joined.
    refine (hs.tabled.kept hjoined hattempt).resolve_left fun hopen => ?_
    exact (hs.tabled.untouched hquiet hopen).2.not_joined hjoined

end Fetching

variable {replies : Replies} {source : Source} {cache : LookupCache} {key : String} {v : UInt32}

theorem Batch.ComesOf.default_eq {batch : Batch} {entries : List IndexEntry}
    (h : batch.ComesOf replies cache entries) (hidle : cache.Idle) :
    batch.cache.default = cache.default := by
  obtain ⟨s, hsteps, outcomes, -, rfl⟩ := h
  exact (Fetching.truthful_of_steps hidle hsteps).default_eq

/-- **The values after a batch** are those before it and those that were asked for and given. -/
theorem Batch.ComesOf.get?_iff {batch : Batch} {entries : List IndexEntry}
    (h : batch.ComesOf source.replies cache entries) (hidle : cache.Idle) :
    batch.cache.get? key = some v ↔ cache.get? key = some v ∨
      .classification key ∈ batch.requests ∧ source.classification key = .ok v := by
  obtain ⟨s, hsteps, hyields⟩ := h
  have hs : s.Sound source.replies entries := (Fetching.sound_start hidle).steps hsteps
  have hasked := Fetching.asked_of_steps hidle hsteps
  have hquiet := hs.quiet hyields
  obtain ⟨outcomes, -, rfl⟩ := hyields
  constructor
  · intro hget
    exact (hasked.held hget).imp_right fun hgiven => ⟨hgiven.1, hgiven.2.symm⟩
  · rintro (hget | ⟨hmem, hreply⟩)
    · exact (Fetching.truthful_of_steps hidle hsteps).kept hget
    · obtain ⟨reply, hanswer, hfound⟩ := hasked.answered hs hquiet hmem
      exact hfound v (hanswer.trans hreply)

namespace Ingestion

variable {index : Except SourceError IndexPage} {batchSize total : Nat} {run after : Ingestion}
variable {ps : List (List IndexEntry)} {result : Except IngestError Ingestion}

/-- The cache after an ingestion. -/
def cacheAfter (cache : LookupCache) : Except IngestError Ingestion → LookupCache
  | .ok run => run.cache
  | .error _ => cache

/-- The species at an address was asked for. -/
def Asks (result : Except IngestError Ingestion) (url : String) : Prop :=
  ∃ run, result = .ok run ∧ .classification url ∈ run.requests

theorem Passes.mayAnswer
    (h : Passes replies total run ps after) (hidle : run.cache.Idle)
    (hanswer : after.cache.MayAnswer replies key v) : run.cache.MayAnswer replies key v := by
  induction h with
  | done => exact hanswer
  | batch hbatch _ ih => exact hbatch.mayAnswer hidle (ih (hbatch.idle hidle) hanswer)

/-- What may be answered after an ingestion could be answered before it. -/
theorem Runs.mayAnswer (h : Runs index replies batchSize cache result) (hidle : cache.Idle)
    {key : String} {v : UInt32} (hanswer : (cacheAfter cache result).MayAnswer replies key v) :
    cache.MayAnswer replies key v := by
  cases h with
  | failed => exact hanswer
  | ended hindex hpasses => exact hpasses.mayAnswer hidle hanswer

theorem Runs.idle (h : Runs index replies batchSize cache result) (hidle : cache.Idle) :
    (cacheAfter cache result).Idle := by
  cases h with
  | failed => exact hidle
  | ended hindex hpasses => exact hpasses.idle hidle

theorem Passes.default_eq (h : Passes replies total run ps after) (hidle : run.cache.Idle) :
    after.cache.default = run.cache.default := by
  induction h with
  | done => rfl
  | batch hbatch _ ih => exact (ih (hbatch.idle hidle)).trans (hbatch.default_eq hidle)

/-- An ingestion leaves the value for a failed lookup as it is. -/
theorem Runs.default_eq (h : Runs index replies batchSize cache result) (hidle : cache.Idle) :
    (cacheAfter cache result).default = cache.default := by
  cases h with
  | failed => rfl
  | ended hindex hpasses => exact hpasses.default_eq hidle

/-- What is known after the batches was known before or answered to one of their requests. -/
theorem Passes.get?_iff (h : Passes source.replies total run ps after) (hidle : run.cache.Idle) :
    ∃ later, after.requests = run.requests ++ later ∧ ∀ key v,
      after.cache.get? key = some v ↔ run.cache.get? key = some v ∨
        .classification key ∈ later ∧ source.classification key = .ok v := by
  induction h with
  | done => exact ⟨[], (List.append_nil _).symm, by simp⟩
  | @batch run after entries rest batch hbatch _ ih =>
    obtain ⟨later, hrequests, hget⟩ := ih (hbatch.idle hidle)
    refine ⟨batch.requests ++ later, ?_, fun key v => ?_⟩
    · rw [hrequests, add, List.append_assoc]
    · rw [hget, add, hbatch.get?_iff hidle, List.mem_append, or_assoc, or_and_right]

/-- **The values after an ingestion** of a source that does not change are those before it and those that
were asked for and given. -/
theorem Runs.get?_iff (h : Runs source.index source.replies batchSize cache result)
    (hidle : cache.Idle) :
    (cacheAfter cache result).get? key = some v ↔ cache.get? key = some v ∨
      Asks result key ∧ source.classification key = .ok v := by
  cases h with
  | failed => simp [cacheAfter, Asks]
  | @ended page after hindex hpasses =>
    obtain ⟨later, hrequests, hget⟩ := hpasses.get?_iff hidle
    have hasks : Asks (.ok after) key ↔ .classification key ∈ later := by
      simp [Asks, hrequests, begun]
    rw [hasks]
    exact hget key v

end Ingestion

end Fieldbook
