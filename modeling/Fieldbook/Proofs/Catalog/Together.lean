import Fieldbook.Proofs.Catalog.Fetching
import Fieldbook.Proofs.Lists
import Mathlib.Data.List.Nodup

/-!
# Calls that are made together

Calls that are made together go through three phases, `enter`, `settle` and `depart`. For each of them
one lemma says what a single entry does and the next one what several do one after another, so that
`together` is one of the many orders in which the steps of the entries can come
(`Fetching.Sound.exists_together`). A call on its own is the case of one entry.
-/

namespace Fieldbook

namespace LookupCache

variable {cache after : LookupCache} {number : Nat}

theorem begin_eq_false_iff :
    cache.begin number = (after, false) ↔
      cache.attempts[number]? ≠ some .opened ∧ after = cache := by
  rw [begin]
  split
  · next hopened => simp [hopened]
  · next hopened =>
    constructor
    · rintro ⟨⟩
      exact ⟨hopened, rfl⟩
    · rintro ⟨-, rfl⟩
      rfl

/-- The attempt is there and nobody has started its resolver. -/
def Unstarted (cache : LookupCache) (n : Nat) : Prop := cache.attempts[n]? = some .opened

/-- An attempt that was to be begun is started, whoever has started it, and none is taken back. -/
theorem not_unstarted_of_begin {started : Bool} (hbegin : cache.begin number = (after, started)) :
    ¬ after.Unstarted number ∧ ∀ n, after.Unstarted n → cache.Unstarted n := by
  cases started with
  | true =>
    obtain ⟨hopened, rfl⟩ := begin_eq_true_iff.1 hbegin
    refine ⟨?_, fun n hn => ?_⟩
    · rw [Unstarted, getElem?_setIfInBounds_of_some hopened]
      nofun
    · by_cases heq : number = n
      · exact heq ▸ hopened
      · rwa [Unstarted, Array.getElem?_setIfInBounds_ne heq] at hn
  | false =>
    obtain ⟨hopened, rfl⟩ := begin_eq_false_iff.1 hbegin
    exact ⟨hopened, fun _ hn => hn⟩

/-- The attempt that is joined is the only one that may have been opened for it. -/
theorem unstarted_of_join {key : String} {n : Nat} (hjoin : cache.join key = (after, .attempt number))
    (hn : n ≠ number) (h : after.Unstarted n) : cache.Unstarted n := by
  obtain ⟨-, ⟨-, rfl⟩ | ⟨-, rfl, rfl⟩⟩ := join_eq_attempt_iff.1 hjoin
  · exact h
  · rwa [Unstarted, Array.getElem?_push, if_neg hn] at h

/-- All that a call can come to before the resolver: it is answered, or it has joined an attempt. -/
theorem enter_cases (cache : LookupCache) (call : Call) :
    (∃ v, cache.get? call.key = some v ∧ cache.enter call = (cache, .answered v)) ∨
      ∃ joined begun number started, cache.get? call.key = none ∧
        cache.join call.key = (joined, .attempt number) ∧ joined.begin number = (begun, started) ∧
        cache.enter call = (begun, .waiting call number started) := by
  rw [enter]
  cases hget : cache.get? call.key with
  | some v => exact .inl ⟨v, rfl, rfl⟩
  | none =>
    right
    cases hjoin : cache.join call.key with
    | mk joined attempt =>
      cases attempt with
      | value v =>
        rw [(join_eq_value_iff.1 hjoin).1] at hget
        cases hget
      | attempt number => exact ⟨joined, _, number, _, rfl, rfl, rfl, rfl⟩

theorem length_through {α β : Type} (step : LookupCache → α → LookupCache × β) (cache : LookupCache)
    (as : List α) : (cache.through step as).2.length = as.length := by
  induction as generalizing cache with
  | nil => rfl
  | cons a as ih => exact congrArg Nat.succ (ih _)

/-- The values that calls leave with. -/
theorem map_fst_together (cache : LookupCache) (calls : List Call) :
    (cache.together calls).2.map Prod.fst =
      (((cache.through enter calls).2.foldl settle (cache.through enter calls).1).through depart
        (cache.through enter calls).2).2 :=
  List.map_fst_zip (by rw [length_through, List.length_map])

/-- Whether calls run the resolver is known when they have entered. -/
theorem map_snd_together (cache : LookupCache) (calls : List Call) :
    (cache.together calls).2.map Prod.snd = (cache.through enter calls).2.map Pending.isRunning :=
  List.map_snd_zip (by rw [length_through, List.length_map])

/-- A call on its own is a call together with no other. -/
theorem together_singleton (cache : LookupCache) (call : Call) :
    cache.together [call] = ((cache.resolve call).1, [(cache.resolve call).2]) := rfl

namespace Pending

/-- The stage of the caller. -/
def stage : Pending → Stage
  | answered v => .returned v
  | waiting _ number true => .running number
  | waiting _ number false => .holding number

/-- The call that waits. -/
def call? : Pending → Option Call
  | answered _ => none
  | waiting call _ _ => some call

/-- The resolver that the call runs is finished. -/
def rested : Pending → Pending
  | answered v => answered v
  | waiting call number _ => waiting call number false

theorem stage_rested_ne (pending : Pending) (n : Nat) : pending.rested.stage ≠ .running n := by
  cases pending <;> nofun

end Pending

/-- Whatever somebody waits for has been started. -/
def Traffic.Begun (s : Traffic) : Prop := ∀ c key n, s.Waits c key n → ¬ s.cache.Unstarted n

variable {s : Traffic} {c : Nat}

theorem begun_of_quiet (h : s.Quiet) : s.Begun := by
  intro c key n hwaits
  rcases hwaits with hwaits | hwaits <;> obtain ⟨v, hstage⟩ := h _ _ hwaits <;> cases hstage

theorem Traffic.Begun.move {key : String} {stage : Stage} {cache : LookupCache} (h : s.Begun)
    (hkept : ∀ n, cache.Unstarted n → s.cache.Unstarted n)
    (hmover : ∀ n, stage = .holding n ∨ stage = .running n → ¬ cache.Unstarted n) :
    Traffic.Begun (s.move c key stage cache) := by
  intro c' key' n hwaits
  rcases waits_move_iff.1 hwaits with ⟨-, -, hstage⟩ | ⟨-, hwaits⟩
  · exact hmover n hstage
  · exact fun hopened => h c' key' n hwaits (hkept n hopened)

/-- A call that enters has started what it waits for. -/
theorem Traffic.Begun.enter (h : s.Begun) (c : Nat) (call : Call) :
    Traffic.Begun (s.move c call.key (s.cache.enter call).2.stage (s.cache.enter call).1) := by
  rcases enter_cases s.cache call with
    ⟨v, -, henter⟩ | ⟨joined, begun, number, started, -, hjoin, hbegin, henter⟩
  · rw [henter]
    exact Traffic.Begun.move h (fun _ hopened => hopened)
      (by rintro n (hstage | hstage) <;> cases hstage)
  · rw [henter]
    obtain ⟨hnumber, hkept⟩ := not_unstarted_of_begin hbegin
    refine Traffic.Begun.move h (fun n hopened => ?_) fun n hstage => ?_
    · refine unstarted_of_join hjoin ?_ (hkept n hopened)
      rintro rfl
      exact hnumber hopened
    · have hn : n = number := by
        cases started <;> rcases hstage with hstage | hstage <;> cases hstage <;> rfl
      exact hn ▸ hnumber

end LookupCache

namespace Fetching

open LookupCache

variable {source : Source} {entries : List IndexEntry} {s s' s'' : Fetching}

/-! ## Some callers move -/

/-- Steps of a source that does not change in which no caller moves but these, and no answer comes in. -/
structure Advance (source : Source) (entries : List IndexEntry) (moved : List Nat)
    (s s' : Fetching) : Prop where
  steps : Steps source.replies entries s s'
  records_eq : s'.records = s.records
  callers_eq : ∀ c ∉ moved, s'.traffic.callers c = s.traffic.callers c

theorem advance_refl (source : Source) (entries : List IndexEntry) (moved : List Nat) (s : Fetching) :
    Advance source entries moved s s := ⟨.refl, rfl, fun _ _ => rfl⟩

theorem Advance.trans {moved : List Nat} (h : Advance source entries moved s s')
    (h' : Advance source entries moved s' s'') : Advance source entries moved s s'' :=
  ⟨h.steps.trans h'.steps, h'.records_eq.trans h.records_eq,
    fun c hc => (h'.callers_eq c hc).trans (h.callers_eq c hc)⟩

theorem Advance.mono {moved moved' : List Nat} (h : Advance source entries moved s s')
    (hmoved : moved ⊆ moved') : Advance source entries moved' s s' :=
  ⟨h.steps, h.records_eq, fun c hc => h.callers_eq c fun hmem => hc (hmoved hmem)⟩

/-- First one caller moves and then others. -/
theorem Advance.cons {c : Nat} {moved : List Nat} (h : Advance source entries [c] s s')
    (h' : Advance source entries moved s' s'') : Advance source entries (c :: moved) s s'' :=
  (h.mono (by simp)).trans (h'.mono (List.subset_cons_self ..))

theorem advance_look {event : Event} {c : Nat} {key : String} {stage : Stage} {cache : LookupCache}
    (hstep : LookupCache.Step s.traffic event (s.traffic.move c key stage cache))
    (hevent : s.Allows source.replies event) :
    Advance source entries [c] s (s.look event (s.traffic.move c key stage cache)) :=
  ⟨.single (.look hstep hevent), rfl, fun _ hc => move_callers_of_ne (by simpa using hc)⟩

/-! ## One caller -/

/-- The entry calls for the species of its record and has come as far as the call says. -/
structure Stands (source : Source) (s : Fetching) (p : Nat × CatalogRecord) (pending : Pending) :
    Prop where
  caller : s.traffic.callers p.1 = some ⟨p.2.species.url, pending.stage⟩
  call_eq : ∀ call ∈ pending.call?, call = Batch.call source p.2

variable {p : Nat × CatalogRecord} {pending : Pending}

theorem Stands.congr (h : Stands source s p pending)
    (hcallers : s'.traffic.callers p.1 = s.traffic.callers p.1) : Stands source s' p pending :=
  ⟨hcallers.trans h.caller, h.call_eq⟩

/-- A caller that moves several times in a row is where it comes last. -/
theorem move_move {s : Traffic} {c : Nat} {key : String} {stage stage' : Stage}
    {cache cache' : LookupCache} :
    (s.move c key stage cache).move c key stage' cache' = s.move c key stage' cache' := by
  simp [Traffic.move]

/-- A caller goes as far as the start of the resolver. -/
theorem exists_enter (source : Source) (entries : List IndexEntry)
    (hrecord : s.records p.1 = some (.ok p.2))
    (hnew : s.traffic.callers p.1 = none) (hbegun : s.traffic.Begun) :
    ∃ s', Advance source entries [p.1] s s' ∧
      s'.traffic.cache = (s.traffic.cache.enter (Batch.call source p.2)).1 ∧
      Stands source s' p (s.traffic.cache.enter (Batch.call source p.2)).2 ∧
      s'.requests = s.requests ++ Batch.speciesRequest p.2
        (s.traffic.cache.enter (Batch.call source p.2)).2.isRunning ∧
      s'.traffic.Begun := by
  have hcalled : Advance source entries [p.1] s _ :=
    advance_look (.call p.2.species.url hnew) ⟨p.2, hrecord, rfl⟩
  -- Where the caller comes last is where `enter` says, whatever steps it takes.
  have hbegun := Traffic.Begun.enter hbegun p.1 (Batch.call source p.2)
  rcases enter_cases s.traffic.cache (Batch.call source p.2) with
    ⟨v, hget, henter⟩ | ⟨joined, begun, number, started, hget, hjoin, hbegin, henter⟩
  · rw [henter] at hbegun ⊢
    have hhit := hcalled.trans (advance_look (.hit move_callers_self hget) trivial)
    refine ⟨_, hhit, rfl, ⟨move_callers_self, nofun⟩, ?_, ?_⟩
    · simp [look, Event.requests, Batch.speciesRequest, Pending.isRunning]
    · simp only [look, move_move]
      exact hbegun
  · rw [henter] at hbegun ⊢
    have hmissed := hcalled.trans (advance_look (.miss move_callers_self hget) trivial)
    have hjoined := hmissed.trans (advance_look (.join move_callers_self hjoin) trivial)
    cases started with
    | true =>
      have hstarted := hjoined.trans (advance_look (.start move_callers_self hbegin) trivial)
      refine ⟨_, hstarted, rfl, ⟨move_callers_self, ?_⟩, ?_, ?_⟩
      · simp [Pending.call?]
      · simp [look, Event.requests, Batch.speciesRequest, Pending.isRunning]
      · simp only [look, move_move]
        exact hbegun
    | false =>
      obtain ⟨-, rfl⟩ := begin_eq_false_iff.1 hbegin
      refine ⟨_, hjoined, rfl, ⟨move_callers_self, ?_⟩, ?_, ?_⟩
      · simp [Pending.call?]
      · simp [look, Event.requests, Batch.speciesRequest, Pending.isRunning]
      · simp only [look, move_move]
        exact hbegun

/-- The resolver finishes if it is this caller that runs it. -/
theorem exists_settle (entries : List IndexEntry) (hstands : Stands source s p pending)
    (hbegun : s.traffic.Begun) :
    ∃ s', Advance source entries [p.1] s s' ∧ s'.traffic.cache = s.traffic.cache.settle pending ∧
      Stands source s' p pending.rested ∧ s'.requests = s.requests ∧ s'.traffic.Begun := by
  obtain ⟨hcaller, hcall⟩ := hstands
  cases pending with
  | answered v => exact ⟨s, advance_refl .., rfl, ⟨hcaller, hcall⟩, rfl, hbegun⟩
  | waiting call number running =>
    cases running with
    | false => exact ⟨s, advance_refl .., rfl, ⟨hcaller, hcall⟩, rfl, hbegun⟩
    | true =>
      obtain rfl := hcall call rfl
      have hkept : ∀ n, (s.traffic.cache.finish number (Batch.call source p.2).found).Unstarted n →
          n ≠ number ∧ s.traffic.cache.Unstarted n := by
        intro n hn
        by_cases heq : n = number
        · subst heq
          rw [Unstarted, LookupCache.finish, Array.getElem?_setIfInBounds_self] at hn
          split at hn <;> cases hn
        · exact ⟨heq, by rwa [Unstarted, LookupCache.finish,
            Array.getElem?_setIfInBounds_ne (Ne.symm heq)] at hn⟩
      refine ⟨_, advance_look (.finish hcaller _) ⟨_, rfl, rfl⟩, rfl, ⟨move_callers_self, hcall⟩, ?_, ?_⟩
      · simp [look, Event.requests]
      · refine Traffic.Begun.move hbegun (fun n hn => (hkept n hn).2) ?_
        rintro n (hstage | hstage) hn <;> cases hstage
        exact (hkept number hn).1 rfl

/-- The caller leaves with its value, given that its attempt is settled. -/
theorem exists_depart (entries : List IndexEntry) (hstands : Stands source s p pending.rested)
    (hsettled : ∀ n, pending.rested.stage = .holding n →
      ∃ v found, s.traffic.cache.attempts[n]? = some (.settled v found)) :
    ∃ s', Advance source entries [p.1] s s' ∧
      s'.traffic.cache = (s.traffic.cache.depart pending).1 ∧
      s'.traffic.callers p.1 =
        some ⟨p.2.species.url, .returned (s.traffic.cache.depart pending).2⟩ ∧
      s'.requests = s.requests ∧ s'.traffic.cache.attempts = s.traffic.cache.attempts := by
  obtain ⟨hcaller, hcall⟩ := hstands
  cases pending with
  | answered v => exact ⟨s, advance_refl .., rfl, hcaller, rfl, rfl⟩
  | waiting call number running =>
    obtain rfl := hcall call rfl
    obtain ⟨v, found, hattempt⟩ := hsettled number rfl
    refine ⟨_, advance_look (.leave hcaller hattempt rfl) trivial, rfl, move_callers_self, ?_, ?_⟩
    · simp [look, Event.requests]
    · change (s.traffic.cache.leave p.2.species.url number).1.attempts = _
      rw [leave_of_settled hattempt]

/-! ## Several callers, one after another -/

variable {ps : List (Nat × CatalogRecord)} {pending : List Pending}

theorem forall₂_stands_congr (h : List.Forall₂ (Stands source s) ps pending)
    (hcallers : ∀ p ∈ ps, s'.traffic.callers p.1 = s.traffic.callers p.1) :
    List.Forall₂ (Stands source s') ps pending := by
  induction h with
  | nil => exact .nil
  | cons hp _ ih =>
    exact .cons (hp.congr (hcallers _ (.head _))) (ih fun q hq => hcallers q (.tail _ hq))

/-- The callers after the first one are others. -/
theorem callers_tail_eq {p : Nat × CatalogRecord} (hnodup : ((p :: ps).map Prod.fst).Nodup)
    (h : Advance source entries [p.1] s s') :
    ∀ q ∈ ps, s'.traffic.callers q.1 = s.traffic.callers q.1 := by
  intro q hq
  refine h.callers_eq q.1 fun hmem => ?_
  rw [List.mem_singleton] at hmem
  exact (List.nodup_cons.1 hnodup).1 (hmem ▸ List.mem_map_of_mem hq)

theorem callers_head_eq {p : Nat × CatalogRecord} (hnodup : ((p :: ps).map Prod.fst).Nodup)
    (h : Advance source entries (ps.map Prod.fst) s s') :
    s'.traffic.callers p.1 = s.traffic.callers p.1 :=
  h.callers_eq p.1 (List.nodup_cons.1 hnodup).1

theorem exists_enter_all (source : Source) (entries : List IndexEntry)
    (hnodup : (ps.map Prod.fst).Nodup)
    (hrecord : ∀ p ∈ ps, s.records p.1 = some (.ok p.2))
    (hnew : ∀ p ∈ ps, s.traffic.callers p.1 = none) (hbegun : s.traffic.Begun) :
    ∃ s', Advance source entries (ps.map Prod.fst) s s' ∧
      s'.traffic.cache = (s.traffic.cache.through enter (ps.map (Batch.call source ·.2))).1 ∧
      List.Forall₂ (Stands source s') ps
        (s.traffic.cache.through enter (ps.map (Batch.call source ·.2))).2 ∧
      s'.requests = s.requests ++ (List.zipWith (fun p q => Batch.speciesRequest p.2 q.isRunning) ps
        (s.traffic.cache.through enter (ps.map (Batch.call source ·.2))).2).flatten ∧
      s'.traffic.Begun := by
  induction ps generalizing s with
  | nil => exact ⟨s, advance_refl .., rfl, .nil, (List.append_nil _).symm, hbegun⟩
  | cons p ps ih =>
    obtain ⟨s₁, hadvance₁, hcache₁, hstands, hrequests₁, hbegun₁⟩ :=
      exists_enter source entries (hrecord p (.head _)) (hnew p (.head _)) hbegun
    obtain ⟨s₂, hadvance₂, hcache₂, hstands₂, hrequests₂, hbegun₂⟩ :=
      ih (s := s₁) (List.nodup_cons.1 hnodup).2
        (fun q hq => hadvance₁.records_eq ▸ hrecord q (.tail _ hq))
        (fun q hq => (callers_tail_eq hnodup hadvance₁ q hq).trans (hnew q (.tail _ hq))) hbegun₁
    rw [hcache₁] at hcache₂ hstands₂ hrequests₂
    refine ⟨s₂, hadvance₁.cons hadvance₂, hcache₂,
      .cons (hstands.congr (callers_head_eq hnodup hadvance₂)) hstands₂, ?_, hbegun₂⟩
    rw [hrequests₂, hrequests₁, List.append_assoc]
    rfl

theorem exists_settle_all (entries : List IndexEntry) (hnodup : (ps.map Prod.fst).Nodup)
    (hstands : List.Forall₂ (Stands source s) ps pending) (hbegun : s.traffic.Begun) :
    ∃ s', Advance source entries (ps.map Prod.fst) s s' ∧
      s'.traffic.cache = pending.foldl settle s.traffic.cache ∧
      List.Forall₂ (Stands source s') ps (pending.map Pending.rested) ∧
      s'.requests = s.requests ∧ s'.traffic.Begun := by
  induction ps generalizing s pending with
  | nil =>
    cases hstands
    exact ⟨s, advance_refl .., rfl, .nil, rfl, hbegun⟩
  | cons p ps ih =>
    obtain _ | ⟨hp, hps⟩ := hstands
    obtain ⟨s₁, hadvance₁, hcache₁, hstands₁, hrequests₁, hbegun₁⟩ := exists_settle entries hp hbegun
    obtain ⟨s₂, hadvance₂, hcache₂, hstands₂, hrequests₂, hbegun₂⟩ :=
      ih (s := s₁) (List.nodup_cons.1 hnodup).2
        (forall₂_stands_congr hps (callers_tail_eq hnodup hadvance₁)) hbegun₁
    rw [hcache₁] at hcache₂
    exact ⟨s₂, hadvance₁.cons hadvance₂, hcache₂,
      .cons (hstands₁.congr (callers_head_eq hnodup hadvance₂)) hstands₂,
      hrequests₂.trans hrequests₁, hbegun₂⟩

theorem exists_depart_all (entries : List IndexEntry) (hnodup : (ps.map Prod.fst).Nodup)
    (hstands : List.Forall₂ (Stands source s) ps (pending.map Pending.rested))
    (hsettled : ∀ q ∈ pending, ∀ n, q.rested.stage = .holding n →
      ∃ v found, s.traffic.cache.attempts[n]? = some (.settled v found)) :
    ∃ s', Advance source entries (ps.map Prod.fst) s s' ∧
      s'.traffic.cache = (s.traffic.cache.through depart pending).1 ∧
      List.Forall₂ (fun p v => s'.traffic.callers p.1 = some ⟨p.2.species.url, .returned v⟩) ps
        (s.traffic.cache.through depart pending).2 ∧
      s'.requests = s.requests := by
  induction ps generalizing s pending with
  | nil =>
    cases pending with
    | nil => exact ⟨s, advance_refl .., rfl, .nil, rfl⟩
    | cons q pending => cases hstands
  | cons p ps ih =>
    cases pending with
    | nil => cases hstands
    | cons q pending =>
      obtain _ | ⟨hp, hps⟩ := hstands
      obtain ⟨s₁, hadvance₁, hcache₁, hcaller, hrequests₁, hattempts⟩ :=
        exists_depart entries hp (hsettled q (.head _))
      obtain ⟨s₂, hadvance₂, hcache₂, hreturned, hrequests₂⟩ :=
        ih (s := s₁) (List.nodup_cons.1 hnodup).2
          (forall₂_stands_congr hps (callers_tail_eq hnodup hadvance₁))
          (hattempts ▸ fun q hq => hsettled q (.tail _ hq))
      rw [hcache₁] at hcache₂ hreturned
      exact ⟨s₂, hadvance₁.cons hadvance₂, hcache₂,
        .cons ((callers_head_eq hnodup hadvance₂).trans hcaller) hreturned,
        hrequests₂.trans hrequests₁⟩

/-- Whatever a caller waits for is settled as soon as it has been started and nobody is running it. -/
theorem Sound.settled (h : s.Sound source.replies entries) (hbegun : s.traffic.Begun)
    (hidle : ∀ c key n, s.traffic.callers c ≠ some ⟨key, .running n⟩) {c n : Nat} {key : String}
    (hwaits : s.traffic.Waits c key n) :
    ∃ v found, s.traffic.cache.attempts[n]? = some (.settled v found) := by
  have hjoined := h.held.joined hwaits
  have hlt := h.held.number_lt hjoined
  have hsome := Array.getElem?_eq_getElem hlt
  cases hattempt : s.traffic.cache.attempts[n] with
  | opened => exact absurd (hsome.trans (congrArg some hattempt)) (hbegun c key n hwaits)
  | running =>
    obtain ⟨c', key', hrunning⟩ := h.served _ _ _ hjoined (hsome.trans (congrArg some hattempt))
    exact absurd hrunning (hidle c' key' n)
  | settled v found => exact ⟨v, found, hsome.trans (congrArg some hattempt)⟩

/-- Callers of whom none has called before: when they have rested nobody runs a resolver. -/
theorem Advance.idle (h : Advance source entries (ps.map Prod.fst) s s') (hquiet : s.traffic.Quiet)
    (hstands : List.Forall₂ (Stands source s') ps (pending.map Pending.rested)) (c : Nat) (key : String)
    (n : Nat) : s'.traffic.callers c ≠ some ⟨key, .running n⟩ := by
  intro hcaller
  by_cases hmem : c ∈ ps.map Prod.fst
  · obtain ⟨p, hp, rfl⟩ := List.mem_map.1 hmem
    obtain ⟨q, hq, hstands⟩ := exists_mem_of_forall₂ hstands.flip hp
    obtain ⟨q, -, rfl⟩ := List.mem_map.1 hq
    have hstage := congrArg Caller.stage (Option.some.inj (hstands.caller.symm.trans hcaller))
    exact q.stage_rested_ne n hstage
  · obtain ⟨v, hstage⟩ := hquiet c _ ((h.callers_eq c hmem).symm.trans hcaller)
    cases hstage

/-- Entries that have their records and have not called yet call **together**: they come to return what
`LookupCache.together` answers them, and leave the cache as it says. -/
theorem Sound.exists_together (h : s.Sound source.replies entries) (hquiet : s.traffic.Quiet)
    (ps : List (Nat × CatalogRecord)) (hnodup : (ps.map Prod.fst).Nodup)
    (hrecord : ∀ p ∈ ps, s.records p.1 = some (.ok p.2))
    (hnew : ∀ p ∈ ps, s.traffic.callers p.1 = none) :
    ∃ s', Advance source entries (ps.map Prod.fst) s s' ∧
      s'.traffic.cache = (s.traffic.cache.together (ps.map (Batch.call source ·.2))).1 ∧
      List.Forall₂ (fun p answer => s'.traffic.callers p.1 = some ⟨p.2.species.url, .returned answer.1⟩)
        ps (s.traffic.cache.together (ps.map (Batch.call source ·.2))).2 ∧
      s'.requests = s.requests ++ (List.zipWith (fun p answer => Batch.speciesRequest p.2 answer.2) ps
        (s.traffic.cache.together (ps.map (Batch.call source ·.2))).2).flatten := by
  obtain ⟨s₁, hadvance₁, hcache₁, hstands₁, hrequests₁, hbegun₁⟩ :=
    exists_enter_all source entries hnodup hrecord hnew (begun_of_quiet hquiet)
  obtain ⟨s₂, hadvance₂, hcache₂, hstands₂, hrequests₂, hbegun₂⟩ :=
    exists_settle_all entries hnodup hstands₁ hbegun₁
  have hadvance := hadvance₁.trans hadvance₂
  have hsettled : ∀ q ∈ (s.traffic.cache.through enter (ps.map (Batch.call source ·.2))).2, ∀ n,
      q.rested.stage = .holding n →
        ∃ v found, s₂.traffic.cache.attempts[n]? = some (.settled v found) := by
    intro q hq n hstage
    obtain ⟨p, hp, hstands⟩ := exists_mem_of_forall₂ hstands₂ (List.mem_map_of_mem hq)
    exact (h.steps hadvance.steps).settled hbegun₂ (hadvance.idle hquiet hstands₂)
      (.inl (hstage ▸ hstands.caller))
  obtain ⟨s₃, hadvance₃, hcache₃, hreturned, hrequests₃⟩ :=
    exists_depart_all entries hnodup hstands₂ hsettled
  rw [hcache₂, hcache₁] at hcache₃ hreturned
  refine ⟨s₃, hadvance.trans hadvance₃, hcache₃, ?_, ?_⟩
  · rw [← map_fst_together] at hreturned
    exact List.forall₂_map_right_iff.1 hreturned
  · rw [hrequests₃, hrequests₂, hrequests₁, ← List.zipWith_map_right, ← map_snd_together,
      List.zipWith_map_right]

end Fetching

end Fieldbook
