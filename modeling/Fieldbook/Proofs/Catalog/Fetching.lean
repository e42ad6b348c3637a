import Fieldbook.Catalog.Ingest
import Fieldbook.Proofs.Catalog.Coalescing
import Mathlib

/-!
# The entries of a batch in any order

The entries of a batch are fetched at the same time. Each of them asks for its record and, when it has
the record, calls the lookup cache for its species; the calls go through the steps of
`LookupCache.Step`. Whose step comes next is open, and so is what the source answers: it may answer one
request like this and the same request later otherwise (`Replies`).

* `Fetching.Sound` is what every step keeps: callers, attempts and tables of the cache belong together,
  every running attempt has somebody who runs it, and every caller has its record;
* `Fetching.Sound.progress` says that something can happen as long as not all entries are done, and
  `Fetching.Sound.acc` that this cannot go on for ever, so that no order of the steps gets stuck.
-/

namespace Fieldbook

/-! ## Answers -/

/-- What a source may answer to a request. -/
structure Replies where
  record : String → Except SourceError CatalogRecord → Prop
  classification : String → Except SourceError UInt32 → Prop

/-- Every request is answered sooner or later, be it by a failure. -/
structure Replies.Answering (replies : Replies) : Prop where
  record : ∀ url, ∃ reply, replies.record url reply
  classification : ∀ url, ∃ reply, replies.classification url reply

/-- A source that does not change. -/
def Source.replies (source : Source) : Replies where
  record url reply := reply = source.record url
  classification url reply := reply = source.classification url

/-- A source that does not change answers every request. -/
theorem Source.answering_replies (source : Source) : source.replies.Answering :=
  ⟨fun _ => ⟨_, rfl⟩, fun _ => ⟨_, rfl⟩⟩

/-! ## Steps -/

/-- A cache that nobody is calling. -/
def LookupCache.Traffic.atRest (cache : LookupCache) : LookupCache.Traffic := ⟨cache, fun _ => none⟩

/-- The request that is made in a step of a caller. -/
def LookupCache.Event.requests : LookupCache.Event → List Request
  | started _ key _ => [.classification key]
  | _ => []

/-- How far the entries of a batch have come. An entry calls the cache under its own number. -/
structure Fetching where
  /-- What the source has answered to the request for the record of an entry. -/
  records : Nat → Option (Except SourceError CatalogRecord) := fun _ => none
  traffic : LookupCache.Traffic
  /-- What has happened at the cache, the latest first. -/
  history : List LookupCache.Event := []
  requests : List Request := []

namespace Fetching

/-- No entry has asked for anything. -/
def start (cache : LookupCache) : Fetching := { traffic := .atRest cache }

/-- The request for the record of an entry is answered. -/
def answer (s : Fetching) (i : Nat) (url : String) (reply : Except SourceError CatalogRecord) :
    Fetching :=
  { s with
    records := Function.update s.records i (some reply)
    requests := s.requests ++ [.record url] }

@[simp]
theorem records_answer_self {s : Fetching} {i : Nat} {url : String}
    {reply : Except SourceError CatalogRecord} : (s.answer i url reply).records i = some reply :=
  Function.update_self ..

theorem records_answer_of_ne {s : Fetching} {i j : Nat} {url : String}
    {reply : Except SourceError CatalogRecord} (h : j ≠ i) :
    (s.answer i url reply).records j = s.records j :=
  Function.update_of_ne h ..

/-- Something happens at the cache. -/
def look (s : Fetching) (event : LookupCache.Event) (traffic : LookupCache.Traffic) : Fetching :=
  { s with traffic, history := event :: s.history, requests := s.requests ++ event.requests }

/-- An entry calls for the species of its record once it has it, and a resolver finds what the source
answers. -/
def Allows (replies : Replies) (s : Fetching) : LookupCache.Event → Prop
  | .called c key => ∃ record, s.records c = some (.ok record) ∧ key = record.species.url
  | .finished _ key _ found => ∃ reply, replies.classification key reply ∧ found = reply.toOption
  | _ => True

/-- One step of one entry. -/
inductive Step (replies : Replies) (entries : List IndexEntry) (s : Fetching) : Fetching → Prop where
  | answer {i : Nat} {entry : IndexEntry} {reply : Except SourceError CatalogRecord}
      (hentry : entries[i]? = some entry) (hnew : s.records i = none)
      (hreply : replies.record entry.url reply) :
      Step replies entries s (s.answer i entry.url reply)
  | look {event : LookupCache.Event} {traffic : LookupCache.Traffic}
      (hstep : LookupCache.Step s.traffic event traffic) (hevent : s.Allows replies event) :
      Step replies entries s (s.look event traffic)

/-- Any number of steps. -/
abbrev Steps (replies : Replies) (entries : List IndexEntry) : Fetching → Fetching → Prop :=
  Relation.ReflTransGen (Step replies entries)

/-- What has become of an entry, once it is done: its row, or nothing. -/
def outcome? (s : Fetching) (i : Nat) : Option (Option Row) :=
  match s.records i, s.traffic.callers i with
  | some (.error _), _ => some none
  | some (.ok record), some ⟨_, .returned v⟩ => some (some (record.toRow v))
  | _, _ => none

/-- All entries are done, and this is the batch that they make. -/
def Yields (s : Fetching) (entries : List IndexEntry) (batch : Batch) : Prop :=
  ∃ outcomes : List (Option Row), (List.range entries.length).map s.outcome? = outcomes.map some ∧
    batch = { rows := outcomes.reduceOption, requests := s.requests, cache := s.traffic.cache }

end Fetching

/-- The batch may come of the entries, in some order of their steps. -/
def Batch.ComesOf (replies : Replies) (cache : LookupCache) (entries : List IndexEntry)
    (batch : Batch) : Prop :=
  ∃ s, Fetching.Steps replies entries (.start cache) s ∧ s.Yields entries batch

/-! ## What every step keeps -/

/-- How much an attempt has still before it. -/
def AttemptStage.weight : AttemptStage → Nat
  | opened => 2
  | running => 1
  | settled _ _ => 0

namespace LookupCache

variable {history : List Event} {event : Event} {s s' : Traffic} {cache : LookupCache}
variable {earlier : Set Nat}

theorem held_atRest (cache : LookupCache) : Held [] (.atRest cache) where
  joined hwaits := by rcases hwaits with hwaits | hwaits <;> cases hwaits
  waits_or_returned := nofun
  key_eq := nofun
  number_lt := nofun
  running := nofun
  runner_eq := nofun

/-- Any attempt that is open in a cache that nobody is calling was given up. -/
theorem tabled_atRest (hidle : cache.Idle) : Tabled Set.univ [] (.atRest cache) where
  waited hmem := .inr ⟨Set.mem_univ _, hidle.opened hmem, List.not_mem_nil⟩
  key_eq := hidle.key_eq
  number_eq := hidle.number_eq
  pending := nofun
  kept := nofun
  closed := hidle.closed

/-- The resolver of a running attempt is run by somebody. -/
def Served (history : List Event) (s : Traffic) : Prop :=
  ∀ c key n, .joined c key n ∈ history → s.cache.attempts[n]? = some .running →
    ∃ c' key', s.callers c' = some ⟨key', .running n⟩

/-- Who runs a resolver goes on running it while somebody else moves. -/
theorem runner_move {c n : Nat} {key : String} {stage : Stage}
    (h : ∃ c' key', s.callers c' = some ⟨key', .running n⟩)
    (hmover : ∀ k, s.callers c ≠ some ⟨k, .running n⟩) :
    ∃ c' key', (s.move c key stage cache).callers c' = some ⟨key', .running n⟩ := by
  obtain ⟨c', key', hcaller⟩ := h
  have hne : c' ≠ c := by
    rintro rfl
    exact hmover key' hcaller
  exact ⟨c', key', (move_callers_of_ne hne).trans hcaller⟩

theorem Served.step (h : Served history s) (hheld : Held history s)
    (ht : Tabled earlier history s) (heffect : Effect s event s') : Served (event :: history) s' := by
  intro c' k n hjoined hrunning
  have hold : (∀ c key n, event ≠ .joined c key n) → .joined c' k n ∈ history :=
    fun hevent => (List.mem_cons.1 hjoined).resolve_left (hevent _ _ _).symm
  cases heffect with
  | aside hbefore hreturned hstage hevent =>
    refine runner_move (h _ _ _ (hold ?_) hrunning) fun k hcaller => hbefore k n (.inr hcaller)
    rintro c key n rfl
    cases hevent
  | follow hc hmem =>
    refine runner_move ?_ fun k hcaller => by cases hc.symm.trans hcaller
    rcases List.mem_cons.1 hjoined with heq | hjoined
    · cases heq
      rcases ht.waited hmem with ⟨c, hwaits⟩ | ⟨-, huntouched⟩
      · exact h _ _ _ (hheld.joined hwaits) hrunning
      · cases huntouched.opened.symm.trans hrunning
    · exact h _ _ _ hjoined hrunning
  | «open» hc hget hnew =>
    refine runner_move ?_ fun k hcaller => by cases hc.symm.trans hcaller
    rcases List.mem_cons.1 hjoined with heq | hjoined
    · cases heq
      simp at hrunning
    · refine h _ _ _ hjoined ?_
      rwa [move_cache, Array.getElem?_push_lt (hheld.number_lt hjoined),
        ← Array.getElem?_eq_getElem] at hrunning
  | @start c number key hc hopened =>
    by_cases hn : number = n
    · exact ⟨c, key, hn ▸ move_callers_self⟩
    · rw [move_cache, Array.getElem?_setIfInBounds_ne hn] at hrunning
      exact runner_move (h _ _ _ (hold nofun) hrunning) fun k hcaller => by cases hc.symm.trans hcaller
  | @finish c number key hc found =>
    by_cases hn : number = n
    · subst hn
      cases hrunning.symm.trans (getElem?_setIfInBounds_of_some (hheld.running hc))
    · rw [move_cache, Array.getElem?_setIfInBounds_ne hn] at hrunning
      refine runner_move (h _ _ _ (hold nofun) hrunning) fun k hcaller => ?_
      cases hc.symm.trans hcaller
      exact hn rfl
  | leave hc hsettled =>
    exact runner_move (h _ _ _ (hold nofun) hrunning) fun k hcaller => by cases hc.symm.trans hcaller

/-! ### How much is left to do -/

/-- How much a caller has still to do, at most. Who has not joined yet may open an attempt. -/
def Stage.weight : Stage → Nat
  | called => 7
  | missed => 6
  | holding _ | running _ => 2
  | returned _ => 0

/-- How much all attempts have before them. -/
def attemptsWeight (cache : LookupCache) : Nat := (cache.attempts.toList.map AttemptStage.weight).sum

/-- How much a caller has still to do that may not even have called. -/
def callerWeight : Option Caller → Nat
  | none => 8
  | some caller => caller.stage.weight

/-- What is before the attempts when one of them comes further. -/
theorem attemptsWeight_set {attempts : Array AttemptStage} {n : Nat} {before : AttemptStage}
    (h : attempts[n]? = some before) (after : AttemptStage) :
    ((attempts.setIfInBounds n after).toList.map AttemptStage.weight).sum + before.weight =
      (attempts.toList.map AttemptStage.weight).sum + after.weight := by
  obtain ⟨hn, hbefore⟩ := Array.getElem?_eq_some_iff.1 h
  -- Both sums are the sum of the others with one summand put in its place.
  have hself : attempts.toList.set n before = attempts.toList := by
    rw [← hbefore, ← Array.getElem_toList, List.set_getElem_self]
  have hsum := List.sum_set (attempts.toList.map AttemptStage.weight) n before.weight
  rw [← List.map_set, hself] at hsum
  rw [Array.toList_setIfInBounds, List.map_set, List.sum_set, hsum]
  simp only [List.length_map, Array.length_toList, hn, if_true]
  omega

/-- Every step is made by one caller, under one key, and leaves less to do. -/
theorem Step.moves (h : Step s event s')
    (hrunning : ∀ {c key n}, s.callers c = some ⟨key, .running n⟩ →
      s.cache.attempts[n]? = some .running) : ∃ c key stage cache, s' = s.move c key stage cache ∧
    (event = .called c key ∧ s.callers c = none ∨ ∃ before, s.callers c = some ⟨key, before⟩) ∧
    stage.weight + cache.attemptsWeight < callerWeight (s.callers c) + s.cache.attemptsWeight := by
  cases h with
  | call key h =>
    refine ⟨_, _, _, _, rfl, .inl ⟨rfl, h⟩, ?_⟩
    rw [h]
    simp [callerWeight, Stage.weight]
  | hit h hget =>
    refine ⟨_, _, _, _, rfl, .inr ⟨_, h⟩, ?_⟩
    rw [h]
    simp [callerWeight, Stage.weight]
  | miss h hget =>
    refine ⟨_, _, _, _, rfl, .inr ⟨_, h⟩, ?_⟩
    rw [h]
    simp [callerWeight, Stage.weight]
  | recheck h hjoin =>
    obtain ⟨-, rfl⟩ := join_eq_value_iff.1 hjoin
    refine ⟨_, _, _, _, rfl, .inr ⟨_, h⟩, ?_⟩
    rw [h]
    simp [callerWeight, Stage.weight]
  | join h hjoin =>
    refine ⟨_, _, _, _, rfl, .inr ⟨_, h⟩, ?_⟩
    rw [h]
    obtain ⟨-, ⟨-, rfl⟩ | ⟨-, rfl, rfl⟩⟩ := join_eq_attempt_iff.1 hjoin
    · simp [callerWeight, Stage.weight]
    · -- The attempt that is opened weighs less than what the caller is done with.
      simp [callerWeight, Stage.weight, attemptsWeight, AttemptStage.weight]
      omega
  | start h hbegin =>
    obtain ⟨hopened, rfl⟩ := begin_eq_true_iff.1 hbegin
    refine ⟨_, _, _, _, rfl, .inr ⟨_, h⟩, ?_⟩
    have hset := attemptsWeight_set hopened .running
    rw [h]
    simp only [callerWeight, Stage.weight, attemptsWeight, AttemptStage.weight] at hset ⊢
    omega
  | @finish c number key h found =>
    refine ⟨_, _, _, _, rfl, .inr ⟨_, h⟩, ?_⟩
    have hset := attemptsWeight_set (hrunning h)
      (.settled (found.getD s.cache.default) found.isSome)
    rw [h]
    simp only [callerWeight, Stage.weight, attemptsWeight, AttemptStage.weight, LookupCache.finish] at hset ⊢
    omega
  | leave h hsettled hleave =>
    rw [leave_of_settled hsettled] at hleave
    cases hleave
    refine ⟨_, _, _, _, rfl, .inr ⟨_, h⟩, ?_⟩
    rw [h]
    simp [callerWeight, Stage.weight, attemptsWeight]

end LookupCache

namespace Fetching

variable {replies : Replies} {entries : List IndexEntry} {s s' : Fetching} {cache : LookupCache}

/-- What every step keeps. -/
structure Sound (replies : Replies) (entries : List IndexEntry) (s : Fetching) : Prop where
  held : LookupCache.Held s.history s.traffic
  tabled : LookupCache.Tabled Set.univ s.history s.traffic
  served : LookupCache.Served s.history s.traffic
  /-- What is known of a record is what the source has answered for that entry. -/
  answered : ∀ {i reply}, s.records i = some reply →
    ∃ entry, entries[i]? = some entry ∧ replies.record entry.url reply
  /-- Who calls has a record, and calls for its species. -/
  calling : ∀ {c caller}, s.traffic.callers c = some caller →
    ∃ record, s.records c = some (.ok record) ∧ caller.key = record.species.url

theorem sound_start (hidle : cache.Idle) : (start cache).Sound replies entries where
  held := LookupCache.held_atRest cache
  tabled := LookupCache.tabled_atRest hidle
  served := nofun
  answered := nofun
  calling := nofun

/-- An answer that comes in is an answer to its entry. -/
theorem Sound.answer (h : s.Sound replies entries) {i : Nat} {entry : IndexEntry}
    {reply : Except SourceError CatalogRecord} (hentry : entries[i]? = some entry)
    (hnew : s.records i = none) (hreply : replies.record entry.url reply) :
    (s.answer i entry.url reply).Sound replies entries := by
  refine ⟨h.held, h.tabled, h.served, ?_, ?_⟩
  · intro j reply' hanswer
    by_cases hj : j = i
    · subst hj
      rw [records_answer_self] at hanswer
      cases hanswer
      exact ⟨entry, hentry, hreply⟩
    · rw [records_answer_of_ne hj] at hanswer
      exact h.answered hanswer
  · intro c caller hcaller
    obtain ⟨record, hrecord, hkey⟩ := h.calling hcaller
    refine ⟨record, (records_answer_of_ne ?_).trans hrecord, hkey⟩
    rintro rfl
    cases hnew.symm.trans hrecord

/-- Who moves at the cache has a record and calls for its species. -/
theorem Sound.mover (h : s.Sound replies entries) {event : LookupCache.Event} {c : Nat} {key : String}
    (hevent : s.Allows replies event)
    (hmover : event = .called c key ∧ s.traffic.callers c = none ∨
      ∃ before, s.traffic.callers c = some ⟨key, before⟩) :
    ∃ record, s.records c = some (.ok record) ∧ key = record.species.url := by
  rcases hmover with ⟨rfl, -⟩ | ⟨before, hcaller⟩
  · exact hevent
  · exact h.calling hcaller

theorem Sound.look (h : s.Sound replies entries) {event : LookupCache.Event}
    {traffic : LookupCache.Traffic} (hstep : LookupCache.Step s.traffic event traffic)
    (hevent : s.Allows replies event) : (s.look event traffic).Sound replies entries := by
  have hmoves := hstep.moves h.held.running
  refine ⟨h.held.step (h.tabled.known h.held) hstep.effect, h.tabled.step h.held hstep.effect,
    h.served.step h.held h.tabled hstep.effect, h.answered, ?_⟩
  obtain ⟨c, key, stage, cache, rfl, hmover, -⟩ := hmoves
  intro c' caller hcaller
  rcases LookupCache.move_callers_eq_some_iff.1 hcaller with ⟨rfl, rfl⟩ | ⟨-, hcaller⟩
  · exact h.mover hevent hmover
  · exact h.calling hcaller

/-- **Every step keeps the entries sound.** -/
theorem Sound.step (h : s.Sound replies entries) (hstep : Step replies entries s s') :
    s'.Sound replies entries := by
  cases hstep with
  | answer hentry hnew hreply => exact h.answer hentry hnew hreply
  | look hstep hevent => exact h.look hstep hevent

theorem Sound.steps (h : s.Sound replies entries) (hsteps : Steps replies entries s s') :
    s'.Sound replies entries := by
  induction hsteps with
  | refl => exact h
  | tail _ hstep ih => exact ih.step hstep

/-- Behind the last entry there are no answers. -/
theorem Sound.records_eq_none (h : s.Sound replies entries) {i : Nat} (hi : entries.length ≤ i) :
    s.records i = none := by
  cases hrecord : s.records i with
  | none => rfl
  | some reply =>
    obtain ⟨entry, hentry, -⟩ := h.answered hrecord
    rw [List.getElem?_eq_none hi] at hentry
    cases hentry

/-- Who has not been answered has not called. -/
theorem Sound.callers_eq_none (h : s.Sound replies entries) {i : Nat} (hi : s.records i = none) :
    s.traffic.callers i = none := by
  cases hcaller : s.traffic.callers i with
  | none => rfl
  | some caller =>
    obtain ⟨record, hrecord, -⟩ := h.calling hcaller
    cases hi.symm.trans hrecord

/-- When all entries are done, every one of them has its outcome. -/
theorem outcome?_of_yields {batch : Batch} (h : s.Yields entries batch) {i : Nat}
    (hi : i < entries.length) : ∃ outcome, s.outcome? i = some outcome := by
  obtain ⟨outcomes, houtcomes, -⟩ := h
  have hmem : s.outcome? i ∈ outcomes.map some :=
    houtcomes ▸ List.mem_map_of_mem (List.mem_range.2 hi)
  obtain ⟨outcome, -, heq⟩ := List.mem_map.1 hmem
  exact ⟨outcome, heq.symm⟩

/-- When all entries are done, nobody is in the middle of a call. -/
theorem Sound.quiet (h : s.Sound replies entries) {batch : Batch} (hyields : s.Yields entries batch) :
    s.traffic.Quiet := by
  intro c caller hcaller
  obtain ⟨record, hrecord, -⟩ := h.calling hcaller
  obtain ⟨entry, hentry, -⟩ := h.answered hrecord
  obtain ⟨outcome, houtcome⟩ := outcome?_of_yields hyields (List.getElem?_eq_some_iff.1 hentry).1
  rw [outcome?, hrecord, hcaller] at houtcome
  obtain ⟨key, stage⟩ := caller
  cases stage with
  | returned v => exact ⟨v, rfl⟩
  | _ => cases houtcome

/-! ## No order of the steps gets stuck -/

/-- How much an entry has still to do, at most. -/
def entryWeight (s : Fetching) (i : Nat) : Nat :=
  match s.records i with
  | none => 9
  | some (.error _) => 0
  | some (.ok _) => LookupCache.callerWeight (s.traffic.callers i)

/-- How much is left to do. -/
def weight (s : Fetching) (entries : List IndexEntry) : Nat :=
  ∑ i ∈ Finset.range entries.length, s.entryWeight i + s.traffic.cache.attemptsWeight

/-- A sum in which one summand changes. -/
theorem sum_range_of_ne {f g : Nat → Nat} {c n : Nat} (hc : c < n) (h : ∀ i, i ≠ c → f i = g i) :
    ∑ i ∈ Finset.range n, f i + g c = ∑ i ∈ Finset.range n, g i + f c := by
  have hmem : c ∈ Finset.range n := Finset.mem_range.2 hc
  have hothers : ∑ i ∈ (Finset.range n).erase c, f i = ∑ i ∈ (Finset.range n).erase c, g i :=
    Finset.sum_congr rfl fun i hi => h i (Finset.ne_of_mem_erase hi)
  rw [← Finset.add_sum_erase _ f hmem, ← Finset.add_sum_erase _ g hmem, hothers]
  omega

/-- What is left to do when one entry moves, and the cache with it. -/
theorem weight_lt_of_ne {c : Nat} (hc : c < entries.length)
    (hother : ∀ i, i ≠ c → s'.entryWeight i = s.entryWeight i)
    (hmover : s'.entryWeight c + s'.traffic.cache.attemptsWeight <
      s.entryWeight c + s.traffic.cache.attemptsWeight) :
    s'.weight entries < s.weight entries := by
  have hsum := sum_range_of_ne hc hother
  rw [weight, weight]
  omega

/-- **Every step leaves less to do.** -/
theorem Sound.weight_lt (h : s.Sound replies entries) (hstep : Step replies entries s s') :
    s'.weight entries < s.weight entries := by
  cases hstep with
  | @answer i entry reply hentry hnew hreply =>
    have hi : i < entries.length := (List.getElem?_eq_some_iff.1 hentry).1
    refine weight_lt_of_ne hi (fun j hj => ?_) (Nat.add_lt_add_right ?_ _)
    · rw [entryWeight, entryWeight, records_answer_of_ne hj]
      rfl
    · have htraffic : (s.answer i entry.url reply).traffic.callers i = none :=
        h.callers_eq_none hnew
      simp only [entryWeight, records_answer_self, hnew, htraffic]
      cases reply <;> simp [LookupCache.callerWeight]
  | look hstep hevent =>
    obtain ⟨c, key, stage, cache, rfl, hmover, hless⟩ := hstep.moves h.held.running
    obtain ⟨record, hrecord, -⟩ := h.mover hevent hmover
    obtain ⟨entry, hentry, -⟩ := h.answered hrecord
    refine weight_lt_of_ne (List.getElem?_eq_some_iff.1 hentry).1 (fun j hj => ?_) ?_
    · simp only [entryWeight, Fetching.look, LookupCache.move_callers_of_ne hj]
    · simpa only [entryWeight, Fetching.look, hrecord, LookupCache.move_callers_self,
        LookupCache.move_cache, LookupCache.callerWeight] using hless

/-- **The steps come to an end**, whatever their order. -/
theorem Sound.acc (h : s.Sound replies entries) :
    Acc (fun after before => Step replies entries before after) s := by
  induction hweight : s.weight entries using Nat.strong_induction_on generalizing s with
  | _ weight ih =>
    subst hweight
    exact .intro s fun s' hstep => ih _ (h.weight_lt hstep) (h.step hstep) rfl

/-- An entry that is not done has no record yet, or is in the middle of its call. -/
theorem outcome?_eq_none {i : Nat} (h : s.outcome? i = none) :
    s.records i = none ∨ ∃ record, s.records i = some (.ok record) ∧
      ∀ key v, s.traffic.callers i ≠ some ⟨key, .returned v⟩ := by
  rw [outcome?] at h
  split at h
  · cases h
  · cases h
  · next hnone hok =>
    cases hrecord : s.records i with
    | none => exact .inl rfl
    | some reply =>
      cases reply with
      | error reason => exact absurd hrecord (hnone reason)
      | ok record => exact .inr ⟨record, rfl, fun key v hcaller => hok record key v hrecord hcaller⟩

/-- A caller in the middle of its call can go on, or it waits for one that can. -/
theorem Sound.exists_look (h : s.Sound replies entries) (hanswering : replies.Answering) {c : Nat}
    {caller : LookupCache.Caller} (hcaller : s.traffic.callers c = some caller)
    (hreturned : ∀ v, caller.stage ≠ .returned v) :
    ∃ event traffic, LookupCache.Step s.traffic event traffic ∧ s.Allows replies event := by
  -- Whoever runs a resolver gets an answer.
  have hruns : ∀ {c key n}, s.traffic.callers c = some ⟨key, .running n⟩ →
      ∃ event traffic, LookupCache.Step s.traffic event traffic ∧ s.Allows replies event := by
    intro c key n hrunning
    obtain ⟨reply, hreply⟩ := hanswering.classification key
    exact ⟨_, _, .finish hrunning reply.toOption, reply, hreply, rfl⟩
  obtain ⟨key, stage⟩ := caller
  cases stage with
  | called =>
    cases hget : s.traffic.cache.get? key with
    | some v => exact ⟨_, _, .hit hcaller hget, trivial⟩
    | none => exact ⟨_, _, .miss hcaller hget, trivial⟩
  | missed =>
    cases hjoin : s.traffic.cache.join key with
    | mk cache joined =>
      cases joined with
      | value v => exact ⟨_, _, .recheck hcaller hjoin, trivial⟩
      | attempt number => exact ⟨_, _, .join hcaller hjoin, trivial⟩
  | holding n =>
    have hjoined := h.held.joined (.inl hcaller)
    have hlt := h.held.number_lt hjoined
    cases hattempt : s.traffic.cache.attempts[n] with
    | opened =>
      have hopened := (Array.getElem?_eq_getElem hlt).trans (congrArg some hattempt)
      exact ⟨_, _, .start hcaller (LookupCache.begin_eq_true_iff.2 ⟨hopened, rfl⟩), trivial⟩
    | running =>
      have hrunning := (Array.getElem?_eq_getElem hlt).trans (congrArg some hattempt)
      obtain ⟨c', key', hcaller'⟩ := h.served _ _ _ hjoined hrunning
      exact hruns hcaller'
    | settled v found =>
      have hsettled := (Array.getElem?_eq_getElem hlt).trans (congrArg some hattempt)
      exact ⟨_, _, .leave hcaller hsettled (LookupCache.leave_of_settled hsettled), trivial⟩
  | running n => exact hruns hcaller
  | returned v => exact absurd rfl (hreturned v)

/-- **Something can happen as long as not all entries are done.** -/
theorem Sound.progress (h : s.Sound replies entries) (hanswering : replies.Answering) :
    (∃ batch, s.Yields entries batch) ∨ ∃ s', Step replies entries s s' := by
  by_cases hdone : ∀ i < entries.length, s.outcome? i ≠ none
  · left
    refine ⟨_, (List.range entries.length).map fun i => (s.outcome? i).join, ?_, rfl⟩
    rw [List.map_map]
    refine List.map_congr_left fun i hi => ?_
    obtain ⟨outcome, houtcome⟩ := Option.ne_none_iff_exists'.1 (hdone i (List.mem_range.1 hi))
    simp [houtcome]
  · right
    push Not at hdone
    obtain ⟨i, hi, hnone⟩ := hdone
    rcases outcome?_eq_none hnone with hnew | ⟨record, hrecord, hreturned⟩
    · obtain ⟨reply, hreply⟩ := hanswering.record entries[i].url
      exact ⟨_, .answer (List.getElem?_eq_getElem hi) hnew hreply⟩
    · cases hcaller : s.traffic.callers i with
      | none => exact ⟨_, .look (.call record.species.url hcaller) ⟨record, hrecord, rfl⟩⟩
      | some caller =>
        obtain ⟨event, traffic, hstep, hevent⟩ := h.exists_look hanswering hcaller
          fun v hstage => hreturned caller.key v (hstage ▸ hcaller)
        exact ⟨_, .look hstep hevent⟩

/-- **No order of the steps gets stuck:** however far the entries have come, they can all be done. -/
theorem Sound.exists_yields (h : s.Sound replies entries) (hanswering : replies.Answering) :
    ∃ s' batch, Steps replies entries s s' ∧ s'.Yields entries batch := by
  induction h.acc with
  | intro s _ ih =>
    rcases h.progress hanswering with ⟨batch, hyields⟩ | ⟨s', hstep⟩
    · exact ⟨s, batch, .refl, hyields⟩
    · obtain ⟨s'', batch, hsteps, hyields⟩ := ih s' hstep (h.step hstep)
      exact ⟨s'', batch, hsteps.head hstep, hyields⟩

end Fetching

end Fieldbook
