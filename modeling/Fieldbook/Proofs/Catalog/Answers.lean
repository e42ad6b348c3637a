import Fieldbook.Proofs.Catalog.Fetching
import Fieldbook.Proofs.Lists

/-!
# What the entries of a batch come to

A cache may answer a call for a key by the value it holds, or, if it holds none, by what the source says of
the key, which is the default when the source fails (`MayAnswer`). While a batch runs this only becomes
less: a value that a resolver has found is the only answer from then on. `Fetching.Truthful` carries this
through the steps, and `Batch.ComesOf.rowsOf` says what it means for the rows: one for each entry that has
its record, in the order of the entries, whatever becomes of its species.
-/

namespace Fieldbook

/-- What a call may be answered that finds the cache like this. -/
def LookupCache.MayAnswer (replies : Replies) (cache : LookupCache) (key : String) (v : UInt32) : Prop :=
  cache.get? key = some v ∨
    cache.get? key = none ∧ ∃ reply, replies.classification key reply ∧ v = reply.toOption.getD cache.default

/-- A row for each of the entries that are answered with a record, in their order. -/
def Batch.RowsOf (replies : Replies) (cache : LookupCache) (entries : List IndexEntry)
    (rows : List Row) : Prop :=
  ∃ answers : List (Except SourceError CatalogRecord),
    List.Forall₂ (fun entry answer => replies.record entry.url answer) entries answers ∧
    List.Forall₂ (fun record row => ∃ v, cache.MayAnswer replies record.species.url v ∧
      row = record.toRow v) (answers.filterMap Except.toOption) rows

namespace Fetching

open LookupCache

variable {replies : Replies} {entries : List IndexEntry} {s s' : Fetching} {start : LookupCache}

/-- What is known in the course of a batch is what could be answered at its start. -/
structure Truthful (replies : Replies) (start : LookupCache) (s : Fetching) : Prop where
  default_eq : s.traffic.cache.default = start.default
  /-- A value that the cache held it holds still. -/
  kept : ∀ {key v}, start.get? key = some v → s.traffic.cache.get? key = some v
  held : ∀ {key v}, s.traffic.cache.get? key = some v → start.MayAnswer replies key v
  /-- There are attempts only for keys without a value. -/
  joined : ∀ {c key n}, .joined c key n ∈ s.history → start.get? key = none
  settled : ∀ {c key n v found}, .joined c key n ∈ s.history →
    s.traffic.cache.attempts[n]? = some (.settled v found) → start.MayAnswer replies key v
  returned : ∀ {c key v}, s.traffic.callers c = some ⟨key, .returned v⟩ → start.MayAnswer replies key v

theorem truthful_start (replies : Replies) (start : LookupCache) :
    Truthful replies start (.start start) where
  default_eq := rfl
  kept hget := hget
  held := .inl
  joined := nofun
  settled := nofun
  returned := nofun

/-- A step of a caller, by what it does to the tables. -/
theorem Truthful.look (h : Truthful replies start s) (hs : s.Sound replies entries) {event : Event}
    {c : Nat} {key : String} {stage : Stage} {cache : LookupCache}
    (hstep : LookupCache.Step s.traffic event (s.traffic.move c key stage cache))
    (hdefault : cache.default = s.traffic.cache.default)
    (hheld : ∀ {k v}, cache.get? k = some v →
      s.traffic.cache.get? k = some v ∨ start.MayAnswer replies k v)
    (hjoined : ∀ {c' k n}, event = .joined c' k n → s.traffic.cache.get? k = none)
    (hsettled : ∀ {c' k n v found}, .joined c' k n ∈ event :: s.history →
      cache.attempts[n]? = some (.settled v found) →
      (∃ c', .joined c' k n ∈ s.history ∧ s.traffic.cache.attempts[n]? = some (.settled v found)) ∨
        start.MayAnswer replies k v)
    (hstage : ∀ {v}, stage = .returned v → start.MayAnswer replies key v) :
    Truthful replies start (s.look event (s.traffic.move c key stage cache)) := by
  refine ⟨hdefault.trans h.default_eq, ?_, ?_, ?_, ?_, ?_⟩
  · intro k v hget
    exact hs.tabled.get?_step hs.held hstep.effect (h.kept hget)
  · intro k v hget
    exact (hheld hget).elim h.held id
  · intro c' k n hmem
    rcases List.mem_cons.1 hmem with heq | hmem
    · cases hstart : start.get? k with
      | none => rfl
      | some v => exact absurd ((hjoined heq.symm).symm.trans (h.kept hstart)) nofun
    · exact h.joined hmem
  · intro c' k n v found hmem hattempt
    rcases hsettled hmem hattempt with ⟨c', hmem, hattempt⟩ | hanswer
    · exact h.settled hmem hattempt
    · exact hanswer
  · intro c' k v hcaller
    rcases move_callers_eq_some_iff.1 hcaller with ⟨-, heq⟩ | ⟨-, hcaller⟩
    · cases heq
      exact hstage rfl
    · exact h.returned hcaller

/-- **Every step of a caller tells what could be answered at the start.** -/
theorem Truthful.step_look (h : Truthful replies start s) (hs : s.Sound replies entries) {event : Event}
    {traffic : Traffic} (hstep : LookupCache.Step s.traffic event traffic)
    (hevent : s.Allows replies event) : Truthful replies start (s.look event traffic) := by
  -- A step that joins no attempt and settles none.
  have hsame : ∀ {c' k n v found}, (∀ c' k n, event ≠ .joined c' k n) →
      .joined c' k n ∈ event :: s.history →
      s.traffic.cache.attempts[n]? = some (.settled v found) →
      (∃ c', .joined c' k n ∈ s.history ∧ s.traffic.cache.attempts[n]? = some (.settled v found)) ∨
        start.MayAnswer replies k v := by
    intro c' k n v found hne hmem hattempt
    exact .inl ⟨c', (List.mem_cons.1 hmem).resolve_left (hne _ _ _).symm, hattempt⟩
  have hfull := hstep
  cases hstep with
  | call key hc => exact h.look hs hfull rfl .inl nofun (hsame nofun) nofun
  | hit hc hget =>
    refine h.look hs hfull rfl .inl nofun (hsame nofun) fun hstage => ?_
    cases hstage
    exact h.held hget
  | miss hc hget => exact h.look hs hfull rfl .inl nofun (hsame nofun) nofun
  | recheck hc hjoin =>
    obtain ⟨hget, rfl⟩ := join_eq_value_iff.1 hjoin
    refine h.look hs hfull rfl .inl nofun (hsame nofun) fun hstage => ?_
    cases hstage
    exact h.held hget
  | @join c number key cache hc hjoin =>
    obtain ⟨hget, ⟨hopen, rfl⟩ | ⟨-, rfl, rfl⟩⟩ := join_eq_attempt_iff.1 hjoin
    · refine h.look hs hfull rfl .inl (fun heq => by cases heq; exact hget) ?_ nofun
      intro c' k n v found hmem hattempt
      rcases List.mem_cons.1 hmem with heq | hmem
      · -- Whoever waits for the open attempt has joined it; one that was given up is not settled.
        cases heq
        rcases hs.tabled.waited (mem_of_lookup hopen) with ⟨c'', hwaits⟩ | ⟨-, huntouched⟩
        · exact .inl ⟨c'', hs.held.joined hwaits, hattempt⟩
        · cases huntouched.opened.symm.trans hattempt
      · exact .inl ⟨c', hmem, hattempt⟩
    · refine h.look hs hfull rfl .inl (fun heq => by cases heq; exact hget) ?_ nofun
      intro c' k n v found hmem hattempt
      rcases List.mem_cons.1 hmem with heq | hmem
      · cases heq
        simp at hattempt
      · rw [Array.getElem?_push_lt (hs.held.number_lt hmem), ← Array.getElem?_eq_getElem] at hattempt
        exact .inl ⟨c', hmem, hattempt⟩
  | @start c number key cache hc hbegin =>
    obtain ⟨hopened, rfl⟩ := begin_eq_true_iff.1 hbegin
    refine h.look hs hfull rfl .inl nofun (fun {c' k n v found} hmem hattempt => ?_) nofun
    by_cases hn : number = n
    · subst hn
      cases (getElem?_setIfInBounds_of_some hopened).symm.trans hattempt
    · exact hsame nofun hmem ((Array.getElem?_setIfInBounds_ne hn).symm.trans hattempt)
  | @finish c number key hc found =>
    refine h.look hs hfull rfl .inl nofun (fun {c' k n v found'} hmem hattempt => ?_) nofun
    have hmem' := (List.mem_cons.1 hmem).resolve_left nofun
    by_cases hn : number = n
    · subst hn
      obtain ⟨reply, hreply, rfl⟩ := hevent
      have hjoined := hs.held.joined (.inr hc)
      obtain rfl := hs.held.key_eq hmem' hjoined
      cases (getElem?_setIfInBounds_of_some (hs.held.running hc)).symm.trans hattempt
      exact .inr (.inr ⟨h.joined hjoined, reply, hreply, h.default_eq ▸ rfl⟩)
    · exact hsame nofun hmem ((Array.getElem?_setIfInBounds_ne hn).symm.trans hattempt)
  | @leave c number key v w found cache hc hsettled hleave =>
    rw [leave_of_settled hsettled] at hleave
    cases hleave
    have hanswer := h.settled (hs.held.joined (.inl hc)) hsettled
    refine h.look hs hfull rfl (fun {k v'} hget => ?_) nofun (hsame nofun) fun hstage => ?_
    · rw [get?, lookup_finished] at hget
      split at hget
      · next hkey =>
        cases hget
        exact .inr (hkey.2 ▸ hanswer)
      · exact .inl hget
    · cases hstage
      exact hanswer

theorem Truthful.step (h : Truthful replies start s) (hs : s.Sound replies entries)
    (hstep : Step replies entries s s') : Truthful replies start s' := by
  cases hstep with
  | answer hentry hnew hreply => exact ⟨h.default_eq, h.kept, h.held, h.joined, h.settled, h.returned⟩
  | look hstep hevent => exact h.step_look hs hstep hevent

theorem truthful_of_steps (hidle : start.Idle) (hsteps : Steps replies entries (.start start) s) :
    Truthful replies start s := by
  induction hsteps with
  | refl => exact truthful_start replies start
  | tail hbefore hstep ih => exact ih.step ((sound_start hidle).steps hbefore) hstep

/-- When all entries are done, each of them has been answered, and those with a record have a row. -/
theorem exists_answer (h : Truthful replies start s) (hs : s.Sound replies entries) {i : Nat}
    (hi : i < entries.length) {outcome : Option Row} (houtcome : s.outcome? i = some outcome) :
    ∃ answer, replies.record entries[i].url answer ∧
      Option.Rel (fun record row => ∃ v, start.MayAnswer replies record.species.url v ∧
        row = record.toRow v) answer.toOption outcome := by
  have hanswered : ∀ {answer}, s.records i = some answer → replies.record entries[i].url answer := by
    intro answer hrecord
    obtain ⟨entry, hentry, hreply⟩ := hs.answered hrecord
    rw [List.getElem?_eq_getElem hi] at hentry
    cases hentry
    exact hreply
  rw [outcome?] at houtcome
  split at houtcome
  · next reason hrecord =>
    cases houtcome
    exact ⟨_, hanswered hrecord, .none⟩
  · next record key v hrecord hcaller =>
    cases houtcome
    obtain ⟨record', hrecord', hkey⟩ := hs.calling hcaller
    cases hrecord.symm.trans hrecord'
    exact ⟨_, hanswered hrecord, .some ⟨v, hkey ▸ h.returned hcaller, rfl⟩⟩
  · cases houtcome

end Fetching

namespace Batch

variable {replies : Replies} {cache : LookupCache} {entries : List IndexEntry} {batch : Batch}

/-- **A batch has a row for each entry that is answered with a record**, in whatever order the entries
come on, and whatever becomes of their species. -/
theorem ComesOf.rowsOf (h : batch.ComesOf replies cache entries) (hidle : cache.Idle) :
    RowsOf replies cache entries batch.rows := by
  obtain ⟨s, hsteps, outcomes, houtcomes, rfl⟩ := h
  have htruthful := Fetching.truthful_of_steps hidle hsteps
  have hs : s.Sound replies entries := (Fetching.sound_start hidle).steps hsteps
  have hlength : entries.length = outcomes.length := by simpa using congrArg List.length houtcomes
  have hboth : List.Forall₂ (fun entry outcome => ∃ answer, replies.record entry.url answer ∧
      Option.Rel (fun record row => ∃ v, cache.MayAnswer replies record.species.url v ∧
        row = record.toRow v) answer.toOption outcome) entries outcomes := by
    refine List.forall₂_iff_get.2 ⟨hlength, fun i hi hi' => ?_⟩
    have houtcome := congrArg (·[i]?) houtcomes
    simp only [List.getElem?_map, List.getElem?_range hi, List.getElem?_eq_getElem hi',
      Option.map_some, Option.some.injEq] at houtcome
    exact Fetching.exists_answer htruthful hs hi houtcome
  obtain ⟨answers, hanswers, hrows⟩ := exists_between hboth
  exact ⟨answers, hanswers, List.rel_filterMap (fun _ _ h => h) hrows⟩

/-- After a batch nobody is calling the cache. -/
theorem ComesOf.idle (h : batch.ComesOf replies cache entries) (hidle : cache.Idle) :
    batch.cache.Idle := by
  obtain ⟨s, hsteps, hyields⟩ := h
  have hs : s.Sound replies entries := (Fetching.sound_start hidle).steps hsteps
  have hquiet := hs.quiet hyields
  obtain ⟨outcomes, -, rfl⟩ := hyields
  exact hs.tabled.idle hquiet

/-- What may be answered after a batch could be answered before it. -/
theorem ComesOf.mayAnswer (h : batch.ComesOf replies cache entries) (hidle : cache.Idle)
    {key : String} {v : UInt32} (hanswer : batch.cache.MayAnswer replies key v) :
    cache.MayAnswer replies key v := by
  obtain ⟨s, hsteps, outcomes, -, rfl⟩ := h
  have htruthful := Fetching.truthful_of_steps hidle hsteps
  rcases hanswer with hget | ⟨hnone, reply, hreply, rfl⟩
  · exact htruthful.held hget
  · cases hget : cache.get? key with
    | some v => cases hnone.symm.trans (htruthful.kept hget)
    | none => exact .inr ⟨hget, reply, hreply, htruthful.default_eq ▸ rfl⟩

/-- What is a row for the entries after some batches was one before them. -/
theorem RowsOf.mono {before : LookupCache} {rows : List Row} (h : RowsOf replies cache entries rows)
    (hanswer : ∀ key v, cache.MayAnswer replies key v → before.MayAnswer replies key v) :
    RowsOf replies before entries rows := by
  obtain ⟨answers, hanswers, hrows⟩ := h
  refine ⟨answers, hanswers, hrows.imp ?_⟩
  rintro record row ⟨v, hv, rfl⟩
  exact ⟨v, hanswer _ _ hv, rfl⟩

theorem RowsOf.nil : RowsOf replies cache [] [] := ⟨[], .nil, .nil⟩

/-- The rows of several batches are rows for all their entries. -/
theorem RowsOf.flatten {ps : List (List IndexEntry)} {batches : List (List Row)}
    (h : List.Forall₂ (RowsOf replies cache) ps batches) :
    RowsOf replies cache ps.flatten batches.flatten := by
  induction h with
  | nil => exact .nil
  | cons hfirst _ ih =>
    obtain ⟨answers, hanswers, hrows⟩ := hfirst
    obtain ⟨answers', hanswers', hrows'⟩ := ih
    refine ⟨answers ++ answers', List.rel_append hanswers hanswers', ?_⟩
    rw [List.filterMap_append]
    exact List.rel_append hrows hrows'

/-- There are no more rows than entries. -/
theorem RowsOf.length_le {rows : List Row} (h : RowsOf replies cache entries rows) :
    rows.length ≤ entries.length := by
  obtain ⟨answers, hanswers, hrows⟩ := h
  rw [← hrows.length_eq, hanswers.length_eq]
  exact List.length_filterMap_le ..

end Batch

end Fieldbook
