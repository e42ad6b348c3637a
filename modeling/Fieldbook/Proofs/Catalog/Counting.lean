import Fieldbook.Proofs.Catalog.Healing

/-!
# How often a species is asked for

The lookups of an ingestion are as few as can be. A species whose value the cache holds is not asked for,
one that is found is asked for once, and one that fails is asked for again by the next record that names
it, if at all. None of this depends on the order in which the entries of a batch come on.

* `Fetching.Tallied` is what every step keeps: the requests for species are the starts of resolvers, no
  entry starts two, and no resolver starts for a key with one that has found its value;
* `Sparing` says what this comes to between two states of a cache, and `Sparing.append` that it may be
  said of one batch after another;
* `Ingestion.lookups_minimal` is the result for a whole index, and for a second time through it.
-/

namespace Fieldbook

/-! ## Requests and starts -/

/-- The species that is asked for. -/
def Request.species? : Request → Option String
  | classification url => some url
  | _ => none

/-- The species that were asked for, each as often as it was. -/
def Request.lookups (requests : List Request) : List String := requests.filterMap Request.species?

theorem Request.mem_lookups {requests : List Request} {url : String} :
    url ∈ lookups requests ↔ classification url ∈ requests := by
  rw [lookups, List.mem_filterMap]
  constructor
  · rintro ⟨request, hmem, hurl⟩
    cases request <;> cases hurl
    exact hmem
  · intro hmem
    exact ⟨_, hmem, rfl⟩

@[simp]
theorem Request.lookups_append (requests later : List Request) :
    lookups (requests ++ later) = lookups requests ++ lookups later :=
  List.filterMap_append

/-- Who starts a resolver, and for which key. -/
def LookupCache.Event.starter? : LookupCache.Event → Option (Nat × String)
  | started c key _ => some (c, key)
  | _ => none

/-- Who returns a value had returned it before, finds it finished, or leaves a settled attempt. -/
theorem LookupCache.Step.of_returned {s s' : Traffic} {event : Event} (hstep : Step s event s') {c : Nat}
    {key : String} {v : UInt32} (hc : s'.callers c = some ⟨key, .returned v⟩) :
    s.callers c = some ⟨key, .returned v⟩ ∨ s.cache.get? key = some v ∨
      ∃ n w found, s.callers c = some ⟨key, .holding n⟩ ∧
        s.cache.attempts[n]? = some (.settled w found) := by
  cases hstep with
  | hit h hget =>
    rcases move_callers_eq_some_iff.1 hc with ⟨-, heq⟩ | ⟨-, hc⟩
    · cases heq
      exact .inr (.inl hget)
    · exact .inl hc
  | recheck h hjoin =>
    rcases move_callers_eq_some_iff.1 hc with ⟨-, heq⟩ | ⟨-, hc⟩
    · cases heq
      exact .inr (.inl (join_eq_value_iff.1 hjoin).1)
    · exact .inl hc
  | leave h hsettled hleave =>
    rcases move_callers_eq_some_iff.1 hc with ⟨rfl, heq⟩ | ⟨-, hc⟩
    · cases heq
      exact .inr (.inr ⟨_, _, _, h, hsettled⟩)
    · exact .inl hc
  | call _ _ | miss _ _ | join _ _ | start _ _ | finish _ _ =>
    rcases move_callers_eq_some_iff.1 hc with ⟨-, heq⟩ | ⟨-, hc⟩
    · cases heq
    · exact .inl hc

namespace Fetching

open LookupCache

variable {source : Source} {entries : List IndexEntry} {s s' : Fetching} {start : LookupCache}

/-- Who has started a resolver, and for which key, the latest first. -/
def starts (s : Fetching) : List (Nat × String) := s.history.filterMap Event.starter?

theorem mem_starts {c : Nat} {key : String} : (c, key) ∈ s.starts ↔ ∃ n, .started c key n ∈ s.history := by
  rw [starts, List.mem_filterMap]
  constructor
  · rintro ⟨event, hmem, hstarter⟩
    cases event <;> cases hstarter
    exact ⟨_, hmem⟩
  · rintro ⟨n, hmem⟩
    exact ⟨_, hmem, rfl⟩

/-! ## What every step keeps -/

/-- The requests for species in the course of a batch, counted by the starts of resolvers. -/
structure Tallied (source : Source) (start : LookupCache) (s : Fetching) : Prop where
  lookups_eq : Request.lookups s.requests = (s.starts.map Prod.snd).reverse
  resolutions_eq : s.traffic.cache.resolutions = start.resolutions + s.starts.length
  /-- An attempt whose resolver was started does not wait for the start any more. -/
  started : ∀ {c key n}, .started c key n ∈ s.history → s.traffic.cache.attempts[n]? ≠ some .opened
  /-- No entry starts two resolvers. -/
  starters : (s.starts.map Prod.fst).Nodup
  /-- A resolver that finds a value is the only one for its key. -/
  once : ∀ {key v}, source.classification key = .ok v → (s.starts.map Prod.snd).count key ≤ 1
  /-- Who has returned without a value at the start had it asked for. -/
  returned : ∀ {c key v}, s.traffic.callers c = some ⟨key, .returned v⟩ → start.get? key = none →
    .classification key ∈ s.requests

theorem tallied_start (source : Source) (start : LookupCache) :
    Tallied source start (.start start) where
  lookups_eq := rfl
  resolutions_eq := rfl
  started := nofun
  starters := List.nodup_nil
  once _ := Nat.zero_le 1
  returned := nofun

/-- An attempt that waits for the start of its resolver has no predecessor that was successful: of two
attempts for one key one is open, and a value that was found is finished before its attempt closes. -/
theorem Tallied.not_ok_of_started (h : Tallied source start s) (hs : s.Sound source.replies entries)
    (hasked : Asked source.replies start s) {c c' n n' : Nat} {key : String} {v : UInt32}
    (hc : s.traffic.callers c = some ⟨key, .holding n⟩)
    (hopened : s.traffic.cache.attempts[n]? = some .opened) (hstarted : .started c' key n' ∈ s.history) :
    source.classification key ≠ .ok v := by
  intro hok
  have hjoined := hasked.joined hstarted
  have hopen : (key, n) ∈ s.traffic.cache.inFlight :=
    hs.tabled.mem_of_unsettled (hs.held.joined (.inl hc)) hopened nofun
  have hother : (key, n') ∉ s.traffic.cache.inFlight := by
    intro hopen'
    obtain rfl := hs.tabled.number_eq hopen hopen'
    exact h.started hstarted hopened
  obtain ⟨w, found, hsettled⟩ := (hs.tabled.pending hjoined).resolve_left hother
  obtain ⟨reply, hreply, -, rfl⟩ := hasked.settled hjoined hsettled
  obtain rfl : reply = .ok v := hreply.trans hok
  have hget := (hs.tabled.kept hjoined hsettled).resolve_left hother
  exact hs.tabled.closed hget hopen

/-- A step in which no resolver starts. -/
theorem Tallied.keep (h : Tallied source start s) {event : Event} {traffic : Traffic}
    (hevent : event.starter? = none)
    (hresolutions : traffic.cache.resolutions = s.traffic.cache.resolutions)
    (hopened : ∀ {c key n}, .started c key n ∈ s.history →
      traffic.cache.attempts[n]? = some .opened → s.traffic.cache.attempts[n]? = some .opened)
    (hreturned : ∀ {c key v}, traffic.callers c = some ⟨key, .returned v⟩ → start.get? key = none →
      .classification key ∈ (s.look event traffic).requests) :
    Tallied source start (s.look event traffic) := by
  have hstarts : (s.look event traffic).starts = s.starts := List.filterMap_cons_none hevent
  have hlookups : Request.lookups event.requests = [] := by
    cases event <;> first | rfl | cases hevent
  refine ⟨?_, ?_, ?_, ?_, ?_, hreturned⟩
  · rw [look, Request.lookups_append, hlookups, List.append_nil, h.lookups_eq, ← hstarts]
    rfl
  · rw [hstarts]
    exact hresolutions.trans h.resolutions_eq
  · intro c key n hmem hattempt
    have hmem' : .started c key n ∈ s.history := by
      refine (List.mem_cons.1 hmem).resolve_left ?_
      rintro rfl
      cases hevent
    exact h.started hmem' (hopened hmem' hattempt)
  · rw [hstarts]
    exact h.starters
  · rw [hstarts]
    exact h.once

/-- A step in which a resolver starts. -/
theorem Tallied.begin (h : Tallied source start s) (hs : s.Sound source.replies entries)
    (hasked : Asked source.replies start s) {c n : Nat} {key : String} {traffic : Traffic}
    (hc : s.traffic.callers c = some ⟨key, .holding n⟩)
    (hopened : s.traffic.cache.attempts[n]? = some .opened)
    (hattempts : traffic.cache.attempts = s.traffic.cache.attempts.setIfInBounds n .running)
    (hresolutions : traffic.cache.resolutions = s.traffic.cache.resolutions + 1)
    (hreturned : ∀ {c' key' v}, traffic.callers c' = some ⟨key', .returned v⟩ →
      start.get? key' = none → .classification key' ∈ (s.look (.started c key n) traffic).requests) :
    Tallied source start (s.look (.started c key n) traffic) := by
  have hstarts : (s.look (.started c key n) traffic).starts = (c, key) :: s.starts :=
    List.filterMap_cons_some rfl
  refine ⟨?_, ?_, ?_, ?_, ?_, hreturned⟩
  · rw [hstarts, List.map_cons, List.reverse_cons, ← h.lookups_eq, look, Request.lookups_append]
    rfl
  · rw [hstarts, List.length_cons, ← Nat.add_assoc, ← h.resolutions_eq]
    exact hresolutions
  · intro c' key' n' hmem hattempt
    change traffic.cache.attempts[n']? = some .opened at hattempt
    rw [hattempts] at hattempt
    by_cases hn : n = n'
    · subst hn
      cases (getElem?_setIfInBounds_of_some hopened).symm.trans hattempt
    · rcases List.mem_cons.1 hmem with heq | hmem
      · cases heq
        exact hn rfl
      · exact h.started hmem ((Array.getElem?_setIfInBounds_ne hn).symm.trans hattempt)
  · rw [hstarts, List.map_cons, List.nodup_cons]
    refine ⟨fun hmem => ?_, h.starters⟩
    obtain ⟨⟨c', key'⟩, hstart, rfl⟩ := List.mem_map.1 hmem
    obtain ⟨n', hstarted⟩ := mem_starts.1 hstart
    -- Who waits for an attempt has joined no other, and this one was not started.
    obtain ⟨-, rfl⟩ := hs.held.eq_of_joined (.inl hc) (hasked.joined hstarted)
    exact h.started hstarted hopened
  · intro key' v hok
    rw [hstarts, List.map_cons, List.count_cons]
    split
    · next hkey =>
      obtain rfl := eq_of_beq hkey
      have hnone : key ∉ s.starts.map Prod.snd := by
        intro hmem
        obtain ⟨⟨c', _⟩, hstart, rfl⟩ := List.mem_map.1 hmem
        obtain ⟨n', hstarted⟩ := mem_starts.1 hstart
        exact h.not_ok_of_started hs hasked hc hopened hstarted hok
      rw [List.count_eq_zero.2 hnone]
    · exact h.once hok

/-- **Every step of a caller keeps the tally.** -/
theorem Tallied.step_look (h : Tallied source start s) (hs : s.Sound source.replies entries)
    (hasked : Asked source.replies start s) {event : Event} {traffic : Traffic}
    (hstep : LookupCache.Step s.traffic event traffic) :
    Tallied source start (s.look event traffic) := by
  have hreturned : ∀ {c key v}, traffic.callers c = some ⟨key, .returned v⟩ → start.get? key = none →
      .classification key ∈ (s.look event traffic).requests := by
    intro c key v hc hnone
    refine mem_requests_look.2 (.inl ?_)
    rcases hstep.of_returned hc with hc | hget | ⟨n, w, found, hc, hsettled⟩
    · exact h.returned hc hnone
    · rcases hasked.held hget with hget | ⟨hmem, -⟩
      · cases hnone.symm.trans hget
      · exact hmem
    · exact hasked.requested (hs.held.joined (.inl hc)) hsettled nofun
  cases hstep.effect with
  | aside _ _ _ haside =>
    refine h.keep ?_ rfl (fun _ hattempt => hattempt) hreturned
    cases event <;> first | rfl | cases haside
  | follow _ _ => exact h.keep rfl rfl (fun _ hattempt => hattempt) hreturned
  | «open» _ _ _ =>
    refine h.keep rfl rfl (fun hstarted hattempt => ?_) hreturned
    have hlt := hs.held.number_lt (hasked.joined hstarted)
    rwa [move_cache, Array.getElem?_push_lt hlt, ← Array.getElem?_eq_getElem] at hattempt
  | start hc hopened => exact h.begin hs hasked hc hopened rfl rfl hreturned
  | @finish c number key hc found =>
    refine h.keep rfl rfl (fun {_ _ n} _ hattempt => ?_) hreturned
    by_cases hn : number = n
    · subst hn
      cases (getElem?_setIfInBounds_of_some (hs.held.running hc)).symm.trans hattempt
    · exact (Array.getElem?_setIfInBounds_ne hn).symm.trans hattempt
  | leave _ _ => exact h.keep rfl rfl (fun _ hattempt => hattempt) hreturned

theorem Tallied.step (h : Tallied source start s) (hs : s.Sound source.replies entries)
    (hasked : Asked source.replies start s) (hstep : Step source.replies entries s s') :
    Tallied source start s' := by
  cases hstep with
  | @answer i entry reply hentry hnew hreply =>
    -- It is a request for a record and not for a species.
    have hlookups : Request.lookups (s.answer i entry.url reply).requests = Request.lookups s.requests :=
      (Request.lookups_append s.requests [.record entry.url]).trans (List.append_nil _)
    refine ⟨hlookups.trans h.lookups_eq, h.resolutions_eq, h.started, h.starters, h.once, ?_⟩
    intro c key v hc hnone
    exact List.mem_append_left _ (h.returned hc hnone)
  | look hstep _ => exact h.step_look hs hasked hstep

theorem tallied_of_steps (hidle : start.Idle)
    (hsteps : Steps source.replies entries (.start start) s) : Tallied source start s := by
  induction hsteps with
  | refl => exact tallied_start source start
  | tail hbefore hstep ih =>
    exact ih.step ((sound_start hidle).steps hbefore) (asked_of_steps hidle hbefore) hstep

end Fetching

/-! ## One batch -/

/-- The species that the records of these entries name, each as often as it is named. -/
def Source.namedBy (source : Source) (entries : List IndexEntry) : List String :=
  (entries.filterMap fun entry => (source.record entry.url).toOption).map fun record =>
    record.species.url

/-- The record of the entry can be had and names the species. -/
def Source.names (source : Source) (url : String) (entry : IndexEntry) : Bool :=
  (source.record entry.url).toOption.any (·.species.url == url)

theorem Source.count_namedBy (source : Source) (entries : List IndexEntry) (url : String) :
    (source.namedBy entries).count url = entries.countP (source.names url) := by
  rw [namedBy, List.count, List.countP_map, List.countP_filterMap]
  refine List.countP_congr fun entry _ => ?_
  rw [names]
  cases (source.record entry.url).toOption <;> rfl

/-- What is asked about species while a cache goes from one state to another and these species are
named. -/
structure Sparing (source : Source) (before after : LookupCache) (named asked : List String) : Prop where
  /-- What is known is not asked for. -/
  held : ∀ {url v}, before.get? url = some v → url ∉ asked
  /-- What can be found is not asked for again. -/
  once : ∀ {url v}, source.classification url = .ok v → asked.count url ≤ 1
  /-- Nothing is asked for more often than it is named. -/
  count_le : ∀ url, asked.count url ≤ named.count url
  /-- What is named and not known is asked for. -/
  mem : ∀ {url}, url ∈ named → before.get? url = none → url ∈ asked
  resolutions_eq : after.resolutions = before.resolutions + asked.length
  get?_iff : ∀ {url v}, after.get? url = some v ↔
    before.get? url = some v ∨ url ∈ asked ∧ source.classification url = .ok v

namespace Fetching

open LookupCache

variable {source : Source} {entries : List IndexEntry} {s : Fetching} {start : LookupCache}

/-- What is known of a record is what the source says of it. -/
theorem Sound.reply_eq (hs : s.Sound source.replies entries) {i : Nat} (hi : i < entries.length)
    {reply : Except SourceError CatalogRecord} (hrecord : s.records i = some reply) :
    reply = source.record entries[i].url := by
  obtain ⟨entry, hentry, hreply⟩ := hs.answered hrecord
  obtain ⟨_, rfl⟩ := List.getElem?_eq_some_iff.1 hentry
  exact hreply

/-- Who has joined an attempt is an entry whose record names the key. -/
theorem Sound.names_of_joined (hs : s.Sound source.replies entries) {c n : Nat} {key : String}
    (hjoined : .joined c key n ∈ s.history) :
    ∃ entry, entries[c]? = some entry ∧ source.names key entry = true := by
  obtain ⟨stage, hcaller⟩ : ∃ stage, s.traffic.callers c = some ⟨key, stage⟩ := by
    rcases hs.held.waits_or_returned hjoined with (hc | hc) | ⟨v, _, hc, -⟩ <;> exact ⟨_, hc⟩
  obtain ⟨record, hrecord, hkey⟩ := hs.calling hcaller
  obtain ⟨entry, hentry, hreply⟩ := hs.answered hrecord
  refine ⟨entry, hentry, ?_⟩
  have hok : source.record entry.url = .ok record := hreply.symm
  rw [Source.names, hok]
  exact beq_iff_eq.2 hkey.symm

/-- The starts for a key are starts of different entries that name it. -/
theorem Tallied.count_le (h : Tallied source start s) (hs : s.Sound source.replies entries)
    (hasked : Asked source.replies start s) (url : String) :
    (Request.lookups s.requests).count url ≤ (source.namedBy entries).count url := by
  obtain ⟨starters, hstarters⟩ : ∃ starters, starters =
      (s.starts.filter (·.2 == url)).map Prod.fst := ⟨_, rfl⟩
  have hlength : (Request.lookups s.requests).count url = starters.length := by
    rw [h.lookups_eq, List.count_reverse, List.count, List.countP_map, hstarters, List.length_map,
      List.countP_eq_length_filter]
    rfl
  have hnodup : starters.Nodup := hstarters ▸ h.starters.sublist (List.filter_sublist.map Prod.fst)
  rw [hlength, source.count_namedBy]
  refine length_le_countP hnodup fun c hmem => ?_
  rw [hstarters] at hmem
  obtain ⟨⟨c, key⟩, hstart, rfl⟩ := List.mem_map.1 hmem
  obtain ⟨hstart, hkey⟩ := List.mem_filter.1 hstart
  obtain ⟨n, hstarted⟩ := mem_starts.1 hstart
  exact eq_of_beq hkey ▸ hs.names_of_joined (hasked.joined hstarted)

/-- When all entries are done, every species that is named was known or asked for. -/
theorem Tallied.mem_of_named (h : Tallied source start s) (hs : s.Sound source.replies entries)
    {batch : Batch} (hyields : s.Yields entries batch) {url : String} (hnamed : url ∈ source.namedBy entries)
    (hnone : start.get? url = none) : .classification url ∈ s.requests := by
  obtain ⟨record, hrecord, rfl⟩ := List.mem_map.1 hnamed
  obtain ⟨entry, hentry, hfound⟩ := List.mem_filterMap.1 hrecord
  obtain ⟨i, hi, rfl⟩ := List.getElem_of_mem hentry
  have hok : source.record entries[i].url = .ok record := by
    cases hreply : source.record entries[i].url with
    | error reason => rw [hreply] at hfound; cases hfound
    | ok record' => rw [hreply] at hfound; cases hfound; rfl
  obtain ⟨outcome, houtcome⟩ := outcome?_of_yields hyields hi
  rw [outcome?] at houtcome
  split at houtcome
  · next reason hreply => cases (hs.reply_eq hi hreply).trans hok
  · next record' key v hreply hcaller =>
    cases (hs.reply_eq hi hreply).trans hok
    obtain ⟨record', hreply', rfl⟩ := hs.calling hcaller
    cases hreply.symm.trans hreply'
    exact h.returned hcaller hnone
  · cases houtcome

end Fetching

/-- **A batch asks for as few species as can be.** -/
theorem Batch.ComesOf.sparing {source : Source} {cache : LookupCache} {entries : List IndexEntry}
    {batch : Batch} (h : batch.ComesOf source.replies cache entries) (hidle : cache.Idle) :
    Sparing source cache batch.cache (source.namedBy entries) (Request.lookups batch.requests) := by
  have hget : ∀ url v, batch.cache.get? url = some v ↔ cache.get? url = some v ∨
      .classification url ∈ batch.requests ∧ source.classification url = .ok v :=
    fun _ _ => h.get?_iff hidle
  obtain ⟨s, hsteps, hyields⟩ := h
  have hs : s.Sound source.replies entries := (Fetching.sound_start hidle).steps hsteps
  have hasked := Fetching.asked_of_steps hidle hsteps
  have htallied := Fetching.tallied_of_steps hidle hsteps
  have hnamed : ∀ url ∈ source.namedBy entries, cache.get? url = none →
      .classification url ∈ s.requests := fun _ => htallied.mem_of_named hs hyields
  obtain ⟨outcomes, -, rfl⟩ := hyields
  refine ⟨?_, ?_, htallied.count_le hs hasked, ?_, ?_, ?_⟩
  · intro url v hvalue hmem
    obtain ⟨c, n, hstarted⟩ := hasked.started_iff.1 (Request.mem_lookups.1 hmem)
    have hnone := (Fetching.truthful_of_steps hidle hsteps).joined (hasked.joined hstarted)
    cases hnone.symm.trans hvalue
  · intro url v hok
    rw [htallied.lookups_eq, List.count_reverse]
    exact htallied.once hok
  · intro url hmem hnone
    exact Request.mem_lookups.2 (hnamed url hmem hnone)
  · rw [htallied.lookups_eq, List.length_reverse, List.length_map]
    exact htallied.resolutions_eq
  · intro url v
    rw [Request.mem_lookups]
    exact hget url v

/-! ## One batch after another -/

theorem Source.namedBy_append (source : Source) (entries later : List IndexEntry) :
    source.namedBy (entries ++ later) = source.namedBy entries ++ source.namedBy later := by
  rw [namedBy, List.filterMap_append, List.map_append]
  rfl

namespace Sparing

variable {source : Source} {before between after : LookupCache}
variable {named asked laterNamed laterAsked : List String}

theorem nil (source : Source) (cache : LookupCache) : Sparing source cache cache [] [] where
  held _ := List.not_mem_nil
  once _ := Nat.zero_le 1
  count_le _ := Nat.le_refl 0
  mem hmem := absurd hmem List.not_mem_nil
  resolutions_eq := rfl
  get?_iff := by simp

/-- What was found is known from then on. -/
theorem get?_of_mem (h : Sparing source before between named asked) {url : String} {v : UInt32}
    (hmem : url ∈ asked) (hok : source.classification url = .ok v) : between.get? url = some v :=
  h.get?_iff.2 (.inr ⟨hmem, hok⟩)

/-- **What is sparing twice in a row is sparing as a whole.** -/
theorem append (h : Sparing source before between named asked)
    (h' : Sparing source between after laterNamed laterAsked) :
    Sparing source before after (named ++ laterNamed) (asked ++ laterAsked) where
  held {url v} hget hmem := by
    rcases List.mem_append.1 hmem with hmem | hmem
    · exact h.held hget hmem
    · exact h'.held (h.get?_iff.2 (.inl hget)) hmem
  once {url v} hok := by
    rw [List.count_append]
    by_cases hmem : url ∈ asked
    · rw [List.count_eq_zero.2 (h'.held (h.get?_of_mem hmem hok))]
      exact h.once hok
    · rw [List.count_eq_zero.2 hmem, Nat.zero_add]
      exact h'.once hok
  count_le url := by
    rw [List.count_append, List.count_append]
    exact Nat.add_le_add (h.count_le url) (h'.count_le url)
  mem {url} hmem hnone := by
    rw [List.mem_append]
    rcases List.mem_append.1 hmem with hmem | hmem
    · exact .inl (h.mem hmem hnone)
    · cases hget : between.get? url with
      | none => exact .inr (h'.mem hmem hget)
      | some v =>
        rcases h.get?_iff.1 hget with hheld | ⟨hasked, -⟩
        · cases hnone.symm.trans hheld
        · exact .inl hasked
  resolutions_eq := by
    rw [h'.resolutions_eq, h.resolutions_eq, List.length_append, Nat.add_assoc]
  get?_iff {url v} := by rw [h'.get?_iff, h.get?_iff, List.mem_append, or_assoc, or_and_right]

/-- Only what is named is asked for. -/
theorem mem_named (h : Sparing source before after named asked) {url : String} (hmem : url ∈ asked) :
    url ∈ named :=
  List.count_pos_iff.1 (Nat.lt_of_lt_of_le (List.count_pos_iff.2 hmem) (h.count_le url))

/-- **How often a species is asked for.** -/
theorem count_eq (h : Sparing source before after named asked) {url : String} (hmem : url ∈ named) :
    (∀ v, before.get? url = some v → asked.count url = 0) ∧
    (before.get? url = none → ∀ v, source.classification url = .ok v → asked.count url = 1) ∧
    (before.get? url = none → ∀ reason, source.classification url = .error reason →
      1 ≤ asked.count url ∧ asked.count url ≤ named.count url) := by
  have hasked : before.get? url = none → 1 ≤ asked.count url := fun hnone =>
    List.count_pos_iff.2 (h.mem hmem hnone)
  refine ⟨fun v hget => ?_, fun hnone v hok => ?_, fun hnone reason hfails => ?_⟩
  · exact List.count_eq_zero.2 (h.held hget)
  · exact Nat.le_antisymm (h.once hok) (hasked hnone)
  · exact ⟨hasked hnone, h.count_le url⟩

/-- What is asked for another time had been asked for before, and had failed. -/
theorem fails_of_asked_again (h : Sparing source before between named asked)
    (h' : Sparing source between after named laterAsked) {url : String} (hmem : url ∈ laterAsked) :
    url ∈ asked ∧ ∃ reason, source.classification url = .error reason := by
  have hnot : ∀ v, between.get? url ≠ some v := fun v hget => h'.held hget hmem
  have hasked : url ∈ asked := by
    refine h.mem (h'.mem_named hmem) (Option.eq_none_iff_forall_ne_some.2 fun v hget => ?_)
    exact hnot v (h.get?_iff.2 (.inl hget))
  refine ⟨hasked, ?_⟩
  cases hreply : source.classification url with
  | error reason => exact ⟨reason, rfl⟩
  | ok v => exact absurd (h.get?_of_mem hasked hreply) (hnot v)

end Sparing

/-! ## A whole index -/

namespace Ingestion

variable {source : Source} {cache : LookupCache} {batchSize total : Nat} {run after : Ingestion}

/-- The species that the records name which a source has for its index, each as often as it is
named. -/
def speciesNamed (source : Source) : List String :=
  (retrieved source).map fun record => record.species.url

/-- Batch by batch, the requests for species are as few as can be, and the summary counts them. -/
theorem Passes.sparing {ps : List (List IndexEntry)} (h : Passes source.replies total run ps after)
    (hidle : run.cache.Idle) : ∃ later, after.requests = run.requests ++ later ∧
      Sparing source run.cache after.cache (source.namedBy ps.flatten) (Request.lookups later) ∧
      after.summary.classificationLookups =
        run.summary.classificationLookups + (Request.lookups later).length := by
  induction h with
  | done run => exact ⟨[], (List.append_nil _).symm, .nil source run.cache, rfl⟩
  | @batch run after entries rest batch hbatch _ ih =>
    obtain ⟨later, hrequests, hsparing, hlookups⟩ := ih (hbatch.idle hidle)
    have hfirst := hbatch.sparing hidle
    refine ⟨batch.requests ++ later, ?_, ?_, ?_⟩
    · rw [hrequests, add, List.append_assoc]
    · rw [List.flatten_cons, Source.namedBy_append, Request.lookups_append]
      exact hfirst.append hsparing
    · have hresolutions := hfirst.resolutions_eq
      rw [hlookups, Request.lookups_append, List.length_append]
      simp only [add]
      omega

theorem Runs.sparing (h : Runs source.index source.replies batchSize cache (.ok after))
    (hidle : cache.Idle) :
    Sparing source cache after.cache (speciesNamed source) (Request.lookups after.requests) ∧
      after.summary.classificationLookups = (Request.lookups after.requests).length := by
  cases h with
  | @ended page after hindex hpasses =>
    obtain ⟨later, hrequests, hsparing, hlookups⟩ := hpasses.sparing hidle
    have hall : Request.lookups after.requests = Request.lookups later := by
      rw [hrequests, Request.lookups_append]
      rfl
    have hnamed : speciesNamed source = source.namedBy (portions batchSize page.results).flatten := by
      rw [flatten_portions, speciesNamed, retrieved, hindex]
      rfl
    rw [hall, hnamed]
    exact ⟨hsparing, hlookups.trans (Nat.zero_add _)⟩

/-- **Lookups are as few as can be**, for a source that does not change and any cache that nobody is
calling, in batches of any size and with their entries in any order. Of the species that the records
name:

* one that the cache holds is not asked for; one that it does not hold is asked for once if the source
  has it, and otherwise at least once and at most as often as it is named; and no other species is asked
  for;
* the summary counts these requests;
* another time through the same index asks again only for species that were asked for and failed.

`Ingestion.run` is such an ingestion at either pace. -/
theorem lookups_minimal (source : Source) {cache : LookupCache} (hidle : cache.Idle) :
    (∀ pace batchSize,
      Runs source.index source.replies batchSize cache (Ingestion.run source pace batchSize cache)) ∧
    ∀ batchSize after, Runs source.index source.replies batchSize cache (.ok after) →
      (∀ url ∈ speciesNamed source,
        (∀ v, cache.get? url = some v → (Request.lookups after.requests).count url = 0) ∧
        (cache.get? url = none → ∀ v, source.classification url = .ok v →
          (Request.lookups after.requests).count url = 1) ∧
        (cache.get? url = none → ∀ reason, source.classification url = .error reason →
          1 ≤ (Request.lookups after.requests).count url ∧
            (Request.lookups after.requests).count url ≤ (speciesNamed source).count url)) ∧
      (∀ url ∈ Request.lookups after.requests, url ∈ speciesNamed source) ∧
      after.summary.classificationLookups = (Request.lookups after.requests).length ∧
      ∀ batchSize' again, Runs source.index source.replies batchSize' after.cache (.ok again) →
        ∀ url ∈ Request.lookups again.requests, url ∈ Request.lookups after.requests ∧
          ∃ reason, source.classification url = .error reason := by
  refine ⟨fun pace batchSize => runs_run source pace batchSize hidle, fun batchSize after hruns => ?_⟩
  obtain ⟨hsparing, hsummary⟩ := hruns.sparing hidle
  refine ⟨fun url hmem => hsparing.count_eq hmem, fun url hmem => hsparing.mem_named hmem, hsummary,
    fun batchSize' again hagain url hmem => ?_⟩
  obtain ⟨hsparing', -⟩ := hagain.sparing (hruns.idle hidle)
  exact hsparing.fails_of_asked_again hsparing' hmem

/-- Two species are asked for, each once, and the one that was found is not asked for again. -/
theorem lookups_minimal_gapped : ({} : LookupCache).Idle ∧ ∃ after again,
    Ingestion.run gapped.source .inStep 2 {} = .ok after ∧
      Ingestion.run gapped.source .oneByOne 1 after.cache = .ok again ∧
      (Request.lookups after.requests).count "x" = 1 ∧ after.summary.classificationLookups = 2 ∧
      "x" ∉ Request.lookups again.requests := by
  have hidle : ({} : LookupCache).Idle := LookupCache.idle_of_inFlight_eq_nil rfl
  obtain ⟨hrun, hall⟩ := lookups_minimal gapped.source hidle
  obtain ⟨after, hafter⟩ : ∃ after, Ingestion.run gapped.source .inStep 2 {} = .ok after := ⟨_, rfl⟩
  obtain ⟨again, hagain⟩ : ∃ again, Ingestion.run gapped.source .oneByOne 1 after.cache = .ok again :=
    ⟨_, rfl⟩
  have hruns : Runs gapped.source.index gapped.source.replies 2 {} (.ok after) := hafter ▸ hrun .inStep 2
  have hlabel : gapped.source.classification "x" = .ok 2 := by cbv
  have hlookups : (Ingestion.run gapped.source .inStep 2 {}).map (Request.lookups ·.requests) =
      .ok ["x", "y"] := by
    cbv
  rw [hafter] at hlookups
  obtain ⟨hcount, -, hsummary, hlater⟩ := hall 2 after hruns
  refine ⟨hidle, after, again, hafter, hagain, ?_, ?_, fun hmem => ?_⟩
  · exact (hcount "x" (by decide)).2.1 rfl 2 hlabel
  · exact hsummary.trans (congrArg List.length (Except.ok.inj hlookups))
  · have hruns' := runs_run gapped.source .oneByOne 1 (hruns.idle hidle)
    obtain ⟨-, reason, hfails⟩ := hlater 1 again (hagain ▸ hruns') "x" hmem
    cases hlabel.symm.trans hfails

end Ingestion

end Fieldbook
