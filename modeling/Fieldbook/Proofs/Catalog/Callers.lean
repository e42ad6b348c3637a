import Fieldbook.Catalog.Lookup
import Mathlib.Logic.Function.Basic

/-!
# Callers of a lookup cache

Any number of callers, each with a key, share one cache. A caller looks for a finished value; if there is
none it joins the attempt for its key, starts the resolver unless somebody has, waits until the attempt
is settled, and leaves with its value. Each of these is one step (`Step`) and the steps of different
callers come in any order (`Steps`). A resolver may find whatever it finds.

* `Step.effect` says once what a step can do, in terms of the tables of the cache and not of `join`,
  `begin`, `finish` and `leave`;
* `steps_resolve` says that a call which has its key to itself, as `resolve` makes it, is a run of these
  steps.
-/

namespace Fieldbook

namespace LookupCache

/-! ## Steps -/

/-- How far a caller has come. -/
inductive Stage where
  /-- It has a key and nothing else. -/
  | called
  /-- It has looked and found no value. -/
  | missed
  /-- It has joined an attempt. -/
  | holding (number : Nat)
  /-- It runs the resolver of the attempt it has joined. -/
  | running (number : Nat)
  | returned (v : UInt32)
  deriving DecidableEq

structure Caller where
  key : String
  stage : Stage
  deriving DecidableEq

/-- A cache and those who use it. -/
structure Traffic where
  cache : LookupCache
  callers : Nat → Option Caller

/-- What happens in a step, and to whom. -/
inductive Event where
  | called (c : Nat) (key : String)
  | missed (c : Nat) (key : String)
  /-- The caller finds a finished value. -/
  | answered (c : Nat) (key : String) (v : UInt32)
  | joined (c : Nat) (key : String) (number : Nat)
  /-- The resolver starts. -/
  | started (c : Nat) (key : String) (number : Nat)
  /-- The resolver ends, and has found a value or failed. -/
  | finished (c : Nat) (key : String) (number : Nat) (found : Option UInt32)
  | left (c : Nat) (key : String) (number : Nat) (v : UInt32)
  deriving DecidableEq

namespace Event

/-- A resolver starts. -/
def isStart : Event → Bool
  | started .. => true
  | _ => false

/-- Neither an attempt nor a resolver has to do with it. -/
def isAside : Event → Bool
  | called .. | missed .. | answered .. => true
  | _ => false

/-- A resolver for this key ends and has found a value. -/
def succeedsFor (key : String) : Event → Bool
  | finished _ k _ found => k == key && found.isSome
  | _ => false

end Event

namespace Traffic

/-- A cache that nobody has used yet. -/
def start (default : UInt32) : Traffic := ⟨{ default }, fun _ => none⟩

/-- The caller comes to a stage and leaves the cache like this. -/
def move (s : Traffic) (c : Nat) (key : String) (stage : Stage) (cache : LookupCache) : Traffic :=
  ⟨cache, Function.update s.callers c (some ⟨key, stage⟩)⟩

/-- Nobody is in the middle of a call. -/
def Quiet (s : Traffic) : Prop :=
  ∀ c caller, s.callers c = some caller → ∃ v, caller.stage = .returned v

/-- The caller has joined the attempt and has not left yet. -/
def Waits (s : Traffic) (c : Nat) (key : String) (number : Nat) : Prop :=
  s.callers c = some ⟨key, .holding number⟩ ∨ s.callers c = some ⟨key, .running number⟩

end Traffic

/-- One step of one caller. A caller that has joined an attempt can go on only when nobody has started
the resolver or when the attempt is settled. -/
inductive Step (s : Traffic) : Event → Traffic → Prop where
  | call {c : Nat} (key : String) (h : s.callers c = none) :
      Step s (.called c key) (s.move c key .called s.cache)
  | hit {c : Nat} {key : String} {v : UInt32} (h : s.callers c = some ⟨key, .called⟩)
      (hget : s.cache.get? key = some v) :
      Step s (.answered c key v) (s.move c key (.returned v) s.cache)
  | miss {c : Nat} {key : String} (h : s.callers c = some ⟨key, .called⟩)
      (hget : s.cache.get? key = none) :
      Step s (.missed c key) (s.move c key .missed s.cache)
  | recheck {c : Nat} {key : String} {v : UInt32} {cache : LookupCache}
      (h : s.callers c = some ⟨key, .missed⟩) (hjoin : s.cache.join key = (cache, .value v)) :
      Step s (.answered c key v) (s.move c key (.returned v) cache)
  | join {c number : Nat} {key : String} {cache : LookupCache}
      (h : s.callers c = some ⟨key, .missed⟩) (hjoin : s.cache.join key = (cache, .attempt number)) :
      Step s (.joined c key number) (s.move c key (.holding number) cache)
  | start {c number : Nat} {key : String} {cache : LookupCache}
      (h : s.callers c = some ⟨key, .holding number⟩) (hbegin : s.cache.begin number = (cache, true)) :
      Step s (.started c key number) (s.move c key (.running number) cache)
  | finish {c number : Nat} {key : String} (h : s.callers c = some ⟨key, .running number⟩)
      (found : Option UInt32) :
      Step s (.finished c key number found)
        (s.move c key (.holding number) (s.cache.finish number found))
  | leave {c number : Nat} {key : String} {v w : UInt32} {found : Bool} {cache : LookupCache}
      (h : s.callers c = some ⟨key, .holding number⟩)
      (hsettled : s.cache.attempts[number]? = some (.settled w found))
      (hleave : s.cache.leave key number = (cache, v)) :
      Step s (.left c key number v) (s.move c key (.returned v) cache)

/-- Any number of steps, and what has happened in them, the latest first. -/
inductive Steps (s : Traffic) : List Event → Traffic → Prop where
  | refl : Steps s [] s
  | step {history : List Event} {event : Event} {s' s'' : Traffic} (h : Steps s history s')
      (hstep : Step s' event s'') : Steps s (event :: history) s''

/-! ## What a step does to the callers -/

section Move

variable {s : Traffic} {c c' : Nat} {key k : String} {stage : Stage} {cache : LookupCache} {n : Nat}

@[simp]
theorem move_cache : (s.move c key stage cache).cache = cache := rfl

@[simp]
theorem move_callers_self : (s.move c key stage cache).callers c = some ⟨key, stage⟩ :=
  Function.update_self ..

theorem move_callers_of_ne (h : c' ≠ c) :
    (s.move c key stage cache).callers c' = s.callers c' :=
  Function.update_of_ne h ..

/-- A caller is where it was, or it is the one that has come to the stage. -/
theorem move_callers_eq_some_iff {caller : Caller} :
    (s.move c key stage cache).callers c' = some caller ↔
      c' = c ∧ caller = ⟨key, stage⟩ ∨ c' ≠ c ∧ s.callers c' = some caller := by
  by_cases h : c' = c
  · subst h
    simp [eq_comm]
  · simp [move_callers_of_ne h, h]

/-- Only the caller who moves may come to wait for another attempt or for none. -/
theorem waits_move_iff :
    (s.move c key stage cache).Waits c' k n ↔
      c' = c ∧ k = key ∧ (stage = .holding n ∨ stage = .running n) ∨
        c' ≠ c ∧ s.Waits c' k n := by
  simp only [Traffic.Waits, move_callers_eq_some_iff, Caller.mk.injEq]
  constructor
  · rintro ((⟨hc, hk, hs⟩ | ⟨hc, h⟩) | (⟨hc, hk, hs⟩ | ⟨hc, h⟩))
    · exact .inl ⟨hc, hk, .inl hs.symm⟩
    · exact .inr ⟨hc, .inl h⟩
    · exact .inl ⟨hc, hk, .inr hs.symm⟩
    · exact .inr ⟨hc, .inr h⟩
  · rintro (⟨hc, hk, hs | hs⟩ | ⟨hc, h | h⟩)
    · exact .inl (.inl ⟨hc, hk, hs.symm⟩)
    · exact .inr (.inl ⟨hc, hk, hs.symm⟩)
    · exact .inl (.inr ⟨hc, h⟩)
    · exact .inr (.inr ⟨hc, h⟩)

end Move

/-! ## What a step does to the cache -/

section Cache

variable {cache after : LookupCache} {key k : String} {number n : Nat} {v : UInt32}

/-- A key that has been looked up is answered at once, and the cache stays as it is. -/
theorem join_eq_value_iff :
    cache.join key = (after, .value v) ↔ cache.get? key = some v ∧ after = cache := by
  rw [join]
  cases cache.get? key with
  | some w => simp [eq_comm, and_comm]
  | none => cases cache.inFlight.lookup key <;> simp

/-- A caller joins the open attempt of its key, or opens one when there is none. -/
theorem join_eq_attempt_iff :
    cache.join key = (after, .attempt number) ↔
      cache.get? key = none ∧
        (cache.inFlight.lookup key = some number ∧ after = cache ∨
          cache.inFlight.lookup key = none ∧ number = cache.attempts.size ∧
            after = { cache with
              inFlight := (key, number) :: cache.inFlight
              attempts := cache.attempts.push .opened }) := by
  rw [join]
  cases cache.get? key with
  | some w => simp
  | none =>
    cases cache.inFlight.lookup key with
    | some m => simp [eq_comm, and_comm]
    | none =>
      simp only [Prod.mk.injEq, Joined.attempt.injEq, true_and, reduceCtorEq, false_and, false_or]
      constructor
      · rintro ⟨rfl, rfl⟩
        exact ⟨rfl, rfl⟩
      · rintro ⟨rfl, rfl⟩
        exact ⟨rfl, rfl⟩

/-- Who begins an attempt finds it opened and leaves it running. -/
theorem begin_eq_true_iff :
    cache.begin number = (after, true) ↔
      cache.attempts[number]? = some .opened ∧
        after = { cache with
          attempts := cache.attempts.setIfInBounds number .running
          resolutions := cache.resolutions + 1 } := by
  rw [begin]
  cases cache.attempts[number]? with
  | none => simp
  | some stage => cases stage <;> simp [eq_comm]

/-- Leaving a settled attempt keeps what it found and forgets the attempt. -/
theorem leave_of_settled {found : Bool}
    (h : cache.attempts[number]? = some (.settled v found)) :
    cache.leave key number =
      ({ cache with
          completed := if found then record cache.completed key v else cache.completed
          inFlight := cache.inFlight.filter (· != (key, number)) }, v) := by
  rw [leave, h]

/-- The table as before, but for the key. -/
theorem lookup_record (table : List (String × UInt32)) (key k : String) (v : UInt32) :
    (record table key v).lookup k = if k = key then some v else table.lookup k := by
  rw [record, List.lookup_cons]
  by_cases hk : k = key
  · simp [hk]
  · rw [beq_eq_false_iff_ne.2 hk, if_neg hk]
    change (table.filter (·.1 != key)).lookup k = table.lookup k
    induction table with
    | nil => rfl
    | cons entry rest ih =>
      obtain ⟨other, w⟩ := entry
      by_cases hother : other = key
      · subst hother
        rw [List.filter_cons_of_neg (by simp), ih, List.lookup_cons, beq_eq_false_iff_ne.2 hk]
      · rw [List.filter_cons_of_pos (by simpa using hother), List.lookup_cons, List.lookup_cons, ih]

/-- What a caller that leaves makes of the finished values. -/
theorem lookup_finished (cache : LookupCache) (key k : String) (v : UInt32) (found : Bool) :
    (if found then record cache.completed key v else cache.completed).lookup k =
      if found = true ∧ k = key then some v else cache.get? k := by
  cases found with
  | false => simp [get?]
  | true => simp [lookup_record, get?]

theorem mem_of_lookup {number : Nat} (h : cache.inFlight.lookup key = some number) :
    (key, number) ∈ cache.inFlight := by
  obtain ⟨before, rest, heq, -⟩ := List.lookup_eq_some_iff.1 h
  simp [heq]

theorem not_mem_of_lookup (h : cache.inFlight.lookup key = none) (number : Nat) :
    (key, number) ∉ cache.inFlight := by
  intro hmem
  simpa using List.lookup_eq_none_iff.1 h _ hmem

end Cache

/-! ## All that a step can do -/

/-- What comes of a step, in terms of the tables and not of the functions on them. The steps that have
nothing to do with an attempt are one case. -/
inductive Effect (s : Traffic) : Event → Traffic → Prop where
  | aside {c : Nat} {key : String} {stage : Stage} {event : Event}
      (hbefore : ∀ k n, ¬ s.Waits c k n) (hreturned : ∀ k v, s.callers c ≠ some ⟨k, .returned v⟩)
      (hstage : ∀ n, stage ≠ .holding n ∧ stage ≠ .running n) (hevent : event.isAside = true) :
      Effect s event (s.move c key stage s.cache)
  | follow {c number : Nat} {key : String} (h : s.callers c = some ⟨key, .missed⟩)
      (hopen : (key, number) ∈ s.cache.inFlight) :
      Effect s (.joined c key number) (s.move c key (.holding number) s.cache)
  | open {c : Nat} {key : String} (h : s.callers c = some ⟨key, .missed⟩)
      (hget : s.cache.get? key = none) (hnew : ∀ n, (key, n) ∉ s.cache.inFlight) :
      Effect s (.joined c key s.cache.attempts.size)
        (s.move c key (.holding s.cache.attempts.size) { s.cache with
          inFlight := (key, s.cache.attempts.size) :: s.cache.inFlight
          attempts := s.cache.attempts.push .opened })
  | start {c number : Nat} {key : String} (h : s.callers c = some ⟨key, .holding number⟩)
      (hopened : s.cache.attempts[number]? = some .opened) :
      Effect s (.started c key number) (s.move c key (.running number) { s.cache with
        attempts := s.cache.attempts.setIfInBounds number .running
        resolutions := s.cache.resolutions + 1 })
  | finish {c number : Nat} {key : String} (h : s.callers c = some ⟨key, .running number⟩)
      (found : Option UInt32) :
      Effect s (.finished c key number found) (s.move c key (.holding number) { s.cache with
        attempts := s.cache.attempts.setIfInBounds number
          (.settled (found.getD s.cache.default) found.isSome) })
  | leave {c number : Nat} {key : String} {v : UInt32} {found : Bool}
      (h : s.callers c = some ⟨key, .holding number⟩)
      (hsettled : s.cache.attempts[number]? = some (.settled v found)) :
      Effect s (.left c key number v) (s.move c key (.returned v) { s.cache with
        completed := if found then record s.cache.completed key v else s.cache.completed
        inFlight := s.cache.inFlight.filter (· != (key, number)) })

/-- Every step has one of the effects. -/
theorem Step.effect {s s' : Traffic} {event : Event} (h : Step s event s') : Effect s event s' := by
  cases h with
  | call key h => exact .aside (by simp [Traffic.Waits, h]) (by simp [h]) (by simp) rfl
  | hit h hget => exact .aside (by simp [Traffic.Waits, h]) (by simp [h]) (by simp) rfl
  | miss h hget => exact .aside (by simp [Traffic.Waits, h]) (by simp [h]) (by simp) rfl
  | recheck h hjoin =>
    obtain ⟨-, rfl⟩ := join_eq_value_iff.1 hjoin
    exact .aside (by simp [Traffic.Waits, h]) (by simp [h]) (by simp) rfl
  | join h hjoin =>
    obtain ⟨hget, ⟨hlookup, rfl⟩ | ⟨hlookup, rfl, rfl⟩⟩ := join_eq_attempt_iff.1 hjoin
    · exact .follow h (mem_of_lookup hlookup)
    · exact .open h hget (not_mem_of_lookup hlookup)
  | start h hbegin =>
    obtain ⟨hopened, rfl⟩ := begin_eq_true_iff.1 hbegin
    exact .start h hopened
  | finish h found => exact .finish h found
  | leave h hsettled hleave =>
    rw [leave_of_settled hsettled] at hleave
    cases hleave
    exact .leave h hsettled

/-! ## A call on its own -/

/-- A call that finds neither a value nor an open attempt goes through all the steps. -/
theorem resolve_of_closed {cache : LookupCache} {call : Call} (hget : cache.get? call.key = none)
    (hclosed : cache.inFlight.lookup call.key = none) :
    ∃ opened begun after number v, cache.join call.key = (opened, .attempt number) ∧
      opened.begin number = (begun, true) ∧
      (begun.finish number call.found).attempts[number]? = some (.settled v call.found.isSome) ∧
      (begun.finish number call.found).leave call.key number = (after, v) ∧
      cache.resolve call = (after, v, true) := by
  obtain ⟨opened, hjoin, hattempts⟩ : ∃ opened, cache.join call.key =
      (opened, .attempt cache.attempts.size) ∧ opened.attempts = cache.attempts.push .opened :=
    ⟨_, join_eq_attempt_iff.2 ⟨hget, .inr ⟨hclosed, rfl, rfl⟩⟩, rfl⟩
  obtain ⟨begun, hbegin, hrunning⟩ : ∃ begun, opened.begin cache.attempts.size = (begun, true) ∧
      begun.attempts = opened.attempts.setIfInBounds cache.attempts.size .running :=
    ⟨_, begin_eq_true_iff.2 ⟨by simp [hattempts], rfl⟩, rfl⟩
  have hsettled : (begun.finish cache.attempts.size call.found).attempts[cache.attempts.size]? =
      some (.settled (call.found.getD begun.default) call.found.isSome) := by
    simp [finish, hrunning, hattempts]
  refine ⟨opened, begun, _, _, _, hjoin, hbegin, hsettled, leave_of_settled hsettled, ?_⟩
  rw [resolve, enter, hget, hjoin]
  simp only [hbegin, settle, depart, leave_of_settled hsettled, Pending.isRunning]

/-- **A call that has its key to itself is a run of steps** of one caller, which comes to return the
value that the call answers and leaves the cache as the call leaves it. -/
theorem steps_resolve {s : Traffic} {c : Nat} (call : Call) (hc : s.callers c = none)
    (hclosed : s.cache.inFlight.lookup call.key = none) :
    ∃ history s', Steps s history s' ∧ s'.cache = (s.cache.resolve call).1 ∧
      s'.callers c = some ⟨call.key, .returned (s.cache.resolve call).2.1⟩ ∧
      history.countP Event.isStart = if (s.cache.resolve call).2.2 then 1 else 0 := by
  have hcalled : Steps s [.called c call.key] _ := .step .refl (.call call.key hc)
  cases hget : s.cache.get? call.key with
  | some v =>
    rw [resolve, enter, hget]
    exact ⟨_, _, hcalled.step (.hit move_callers_self hget), rfl, move_callers_self, rfl⟩
  | none =>
    obtain ⟨opened, begun, after, number, v, hjoin, hbegin, hsettled, hleave, hresolve⟩ :=
      resolve_of_closed hget hclosed
    have hjoined := (hcalled.step (.miss move_callers_self hget)).step (.join move_callers_self hjoin)
    have hfinished := (hjoined.step (.start move_callers_self hbegin)).step
      (.finish move_callers_self call.found)
    have hleft := hfinished.step (.leave move_callers_self hsettled hleave)
    rw [hresolve]
    exact ⟨_, _, hleft, rfl, move_callers_self, rfl⟩

end LookupCache

end Fieldbook
