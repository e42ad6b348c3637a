import Fieldbook.Proofs.Catalog.Callers
import Mathlib.Data.Set.Basic

/-!
# Callers, attempts and tables

What every step keeps between the callers of a cache, its attempts and its tables:

* `Held` ties callers to attempts: who waits for which, and who runs its resolver;
* `Tabled` ties the tables to attempts: an attempt is open as long as it is not settled, and a
  successful one until its value is finished. This is what keeps a caller that comes late from a failed
  attempt from closing the next one, and a second attempt from opening beside a success.

A step falls in one of a few kinds for each of them (`Held.join`, `Held.advance` and `Held.aside`;
`Tabled.open`, `Tabled.leave` and `Tabled.keep`), which `Held.step` and `Tabled.step` put together.

Callers may have come and gone before, and some may have been given up in the middle of a call. That leaves
an open attempt behind for which nobody waits, and no more than that: `Idle` is a cache that nobody is
calling, and it is idle again when all calls have come to their ends (`Tabled.idle`).
-/

namespace Fieldbook

namespace LookupCache

variable {s s' : Traffic} {history : List Event} {event : Event} {d : UInt32}

/-! ## Callers and attempts -/

/-- Callers and attempts belong together. -/
structure Held (history : List Event) (s : Traffic) : Prop where
  /-- Who waits for an attempt has joined it. -/
  joined : ∀ {c key n}, s.Waits c key n → .joined c key n ∈ history
  /-- Who has joined an attempt waits for it or has returned, and then it is settled. -/
  waits_or_returned : ∀ {c key n}, .joined c key n ∈ history → s.Waits c key n ∨
    ∃ v found, s.callers c = some ⟨key, .returned v⟩ ∧
      s.cache.attempts[n]? = some (.settled v found)
  /-- An attempt is for one key. -/
  key_eq : ∀ {c c' key key' n}, .joined c key n ∈ history → .joined c' key' n ∈ history → key = key'
  /-- Only an attempt that was opened is joined. -/
  number_lt : ∀ {c key n}, .joined c key n ∈ history → n < s.cache.attempts.size
  /-- Who runs a resolver runs it for an attempt that is not settled. -/
  running : ∀ {c key n}, s.callers c = some ⟨key, .running n⟩ → s.cache.attempts[n]? = some .running
  /-- Nobody else runs it. -/
  runner_eq : ∀ {c c' key key' n}, s.callers c = some ⟨key, .running n⟩ →
    s.callers c' = some ⟨key', .running n⟩ → c = c'

theorem held_start : Held [] (.start d) where
  joined hwaits := by rcases hwaits with hwaits | hwaits <;> cases hwaits
  waits_or_returned := nofun
  key_eq := nofun
  number_lt := nofun
  running := nofun
  runner_eq := nofun

variable {c c' number n : Nat} {key k : String} {cache : LookupCache} {stage : Stage}
variable {earlier : Set Nat}

/-- Who waits for an attempt has joined no other. -/
theorem Held.eq_of_joined (h : Held history s) (hwaits : s.Waits c key number)
    (hjoined : .joined c k n ∈ history) : k = key ∧ n = number := by
  rcases h.waits_or_returned hjoined with hwaits' | ⟨v, _, hcaller, -⟩
  · rcases hwaits with hc | hc <;> rcases hwaits' with hc' | hc' <;> rw [hc] at hc' <;> cases hc' <;>
      exact ⟨rfl, rfl⟩
  · rcases hwaits with hc | hc <;> rw [hc] at hcaller <;> cases hcaller

/-- The others go on waiting, or have returned, as long as what is settled stays as it is. -/
theorem Held.waits_or_returned_of_ne (h : Held history s) (hjoined : .joined c' k n ∈ history)
    (hne : c' ≠ c)
    (hsettled : ∀ v found, s.cache.attempts[n]? = some (.settled v found) →
      cache.attempts[n]? = some (.settled v found)) :
    (s.move c key stage cache).Waits c' k n ∨
      ∃ v found, (s.move c key stage cache).callers c' = some ⟨k, .returned v⟩ ∧
        cache.attempts[n]? = some (.settled v found) := by
  rcases h.waits_or_returned hjoined with hwaits | ⟨v, found, hcaller, hattempt⟩
  · exact .inl (waits_move_iff.2 (.inr ⟨hne, hwaits⟩))
  · exact .inr ⟨v, found, move_callers_eq_some_iff.2 (.inr ⟨hne, hcaller⟩), hsettled v found hattempt⟩

/-- A step that starts no resolver leaves the runners that there were. -/
theorem running_of_move (hstage : ∀ m, stage ≠ .running m)
    (hcaller : (s.move c key stage cache).callers c' = some ⟨k, .running n⟩) :
    c' ≠ c ∧ s.callers c' = some ⟨k, .running n⟩ := by
  rcases move_callers_eq_some_iff.1 hcaller with ⟨-, heq⟩ | hother
  · cases heq
    exact absurd rfl (hstage n)
  · exact hother

/-- A caller that has not joined an attempt so far joins the one that was opened for its key. -/
theorem Held.join (h : Held history s) (hc : s.callers c = some ⟨key, .missed⟩)
    (hkey : ∀ {c' k}, .joined c' k number ∈ history → k = key)
    (hlt : number < cache.attempts.size)
    (hattempts : ∀ m < s.cache.attempts.size, cache.attempts[m]? = s.cache.attempts[m]?) :
    Held (.joined c key number :: history) (s.move c key (.holding number) cache) := by
  -- Nobody joins twice: who has joined waits or has returned.
  have hne : ∀ {c' k n}, .joined c' k n ∈ history → c' ≠ c := by
    rintro c' k n hjoined rfl
    rcases h.waits_or_returned hjoined with (hwaits | hwaits) | ⟨v, _, hcaller, -⟩
    · rw [hc] at hwaits; cases hwaits
    · rw [hc] at hwaits; cases hwaits
    · rw [hc] at hcaller; cases hcaller
  have hrunning : ∀ {c' k n}, (s.move c key (.holding number) cache).callers c' =
      some ⟨k, .running n⟩ → s.callers c' = some ⟨k, .running n⟩ :=
    fun hcaller => (running_of_move (by simp) hcaller).2
  refine ⟨?_, ?_, ?_, ?_, ?_, ?_⟩
  · intro c' k n hwaits
    rcases waits_move_iff.1 hwaits with ⟨rfl, rfl, hstage⟩ | ⟨-, hwaits⟩
    · rcases hstage with hstage | hstage <;> cases hstage
      exact .head _
    · exact .tail _ (h.joined hwaits)
  · intro c' k n hjoined
    rcases List.mem_cons.1 hjoined with heq | hjoined
    · cases heq
      exact .inl (waits_move_iff.2 (.inl ⟨rfl, rfl, .inl rfl⟩))
    · refine h.waits_or_returned_of_ne hjoined (hne hjoined) fun v found hattempt => ?_
      exact (hattempts n (h.number_lt hjoined)).trans hattempt
  · intro c₁ c₂ k₁ k₂ n h₁ h₂
    rcases List.mem_cons.1 h₁ with heq₁ | h₁ <;> rcases List.mem_cons.1 h₂ with heq₂ | h₂
    · cases heq₁; cases heq₂; rfl
    · cases heq₁; exact (hkey h₂).symm
    · cases heq₂; exact hkey h₁
    · exact h.key_eq h₁ h₂
  · intro c' k n hjoined
    rcases List.mem_cons.1 hjoined with heq | hjoined
    · cases heq
      exact hlt
    · have hsome := (hattempts n (h.number_lt hjoined)).trans
        (Array.getElem?_eq_getElem (h.number_lt hjoined))
      exact (Array.getElem?_eq_some_iff.1 hsome).1
  · intro c' k n hcaller
    have hattempt := h.running (hrunning hcaller)
    exact (hattempts n (Array.getElem?_eq_some_iff.1 hattempt).1).trans hattempt
  · intro c₁ c₂ k₁ k₂ n h₁ h₂
    exact h.runner_eq (hrunning h₁) (hrunning h₂)

/-- A caller that waits for an attempt goes on, and nothing but this attempt changes. -/
theorem Held.advance (h : Held history s) (hwaits : s.Waits c key number)
    (hother : ∀ {c' k}, c' ≠ c → s.callers c' ≠ some ⟨k, .running number⟩)
    (hevent : ∀ c' k n, event ≠ .joined c' k n)
    (hsize : cache.attempts.size = s.cache.attempts.size)
    (hattempts : ∀ m, m ≠ number → cache.attempts[m]? = s.cache.attempts[m]?)
    (hsettled : ∀ v found, s.cache.attempts[number]? = some (.settled v found) →
      cache.attempts[number]? = some (.settled v found))
    (hstage : stage = .holding number ∨
      (stage = .running number ∧ cache.attempts[number]? = some .running) ∨
      ∃ v found, stage = .returned v ∧ cache.attempts[number]? = some (.settled v found)) :
    Held (event :: history) (s.move c key stage cache) := by
  have hold : ∀ {c' k n}, .joined c' k n ∈ event :: history → .joined c' k n ∈ history :=
    fun hjoined => List.mem_of_ne_of_mem (hevent _ _ _).symm hjoined
  -- Somebody runs a resolver now: it is the caller that has gone on, or the attempt is another one.
  have hrunning : ∀ {c' k n}, (s.move c key stage cache).callers c' = some ⟨k, .running n⟩ →
      (c' = c ∧ n = number ∧ cache.attempts[n]? = some .running) ∨
        (n ≠ number ∧ s.callers c' = some ⟨k, .running n⟩) := by
    intro c' k n hcaller
    rcases move_callers_eq_some_iff.1 hcaller with ⟨rfl, heq⟩ | ⟨hne, hcaller⟩
    · cases heq
      rcases hstage with hstage | ⟨hstage, hattempt⟩ | ⟨v, _, hstage, -⟩ <;> cases hstage
      exact .inl ⟨rfl, rfl, hattempt⟩
    · refine .inr ⟨?_, hcaller⟩
      rintro rfl
      exact hother hne hcaller
  refine ⟨?_, ?_, ?_, ?_, ?_, ?_⟩
  · intro c' k n hwaits'
    rcases waits_move_iff.1 hwaits' with ⟨rfl, rfl, hstage'⟩ | ⟨-, hwaits'⟩
    · have hn : n = number := by
        rcases hstage with rfl | ⟨rfl, -⟩ | ⟨v, _, rfl, -⟩ <;> rcases hstage' with heq | heq <;>
          cases heq <;> rfl
      exact .tail _ (hn ▸ h.joined hwaits)
    · exact .tail _ (h.joined hwaits')
  · intro c' k n hjoined
    by_cases hc' : c' = c
    · subst hc'
      obtain ⟨rfl, rfl⟩ := h.eq_of_joined hwaits (hold hjoined)
      rcases hstage with rfl | ⟨rfl, -⟩ | ⟨v, found, rfl, hattempt⟩
      · exact .inl (waits_move_iff.2 (.inl ⟨rfl, rfl, .inl rfl⟩))
      · exact .inl (waits_move_iff.2 (.inl ⟨rfl, rfl, .inr rfl⟩))
      · exact .inr ⟨v, found, move_callers_self, hattempt⟩
    · refine h.waits_or_returned_of_ne (hold hjoined) hc' fun v found hattempt => ?_
      by_cases hn : n = number
      · subst hn
        exact hsettled v found hattempt
      · exact (hattempts n hn).trans hattempt
  · intro c₁ c₂ k₁ k₂ n h₁ h₂
    exact h.key_eq (hold h₁) (hold h₂)
  · intro c' k n hjoined
    exact hsize ▸ h.number_lt (hold hjoined)
  · intro c' k n hcaller
    rcases hrunning hcaller with ⟨-, -, hattempt⟩ | ⟨hn, hcaller⟩
    · exact hattempt
    · exact (hattempts n hn).trans (h.running hcaller)
  · intro c₁ c₂ k₁ k₂ n h₁ h₂
    rcases hrunning h₁ with ⟨rfl, rfl, -⟩ | ⟨hn₁, h₁⟩ <;>
      rcases hrunning h₂ with ⟨rfl, hn, -⟩ | ⟨hn₂, h₂⟩
    · rfl
    · exact absurd rfl hn₂
    · exact absurd hn hn₁
    · exact h.runner_eq h₁ h₂

/-- A caller that has to do with no attempt, before or after, changes nothing. -/
theorem Held.aside (h : Held history s) (hbefore : ∀ k n, ¬ s.Waits c k n)
    (hreturned : ∀ k v, s.callers c ≠ some ⟨k, .returned v⟩)
    (hstage : ∀ n, stage ≠ .holding n ∧ stage ≠ .running n) (hevent : event.isAside = true) :
    Held (event :: history) (s.move c key stage s.cache) := by
  have hold : ∀ {c' k n}, .joined c' k n ∈ event :: history → .joined c' k n ∈ history :=
    fun hjoined => List.mem_of_ne_of_mem (by rintro rfl; cases hevent) hjoined
  have hrunning : ∀ {c' k n}, (s.move c key stage s.cache).callers c' = some ⟨k, .running n⟩ →
      s.callers c' = some ⟨k, .running n⟩ :=
    fun hcaller => (running_of_move (fun m => (hstage m).2) hcaller).2
  refine ⟨?_, ?_, ?_, ?_, ?_, ?_⟩
  · intro c' k n hwaits
    rcases waits_move_iff.1 hwaits with ⟨-, -, hstage' | hstage'⟩ | ⟨-, hwaits⟩
    · exact absurd hstage' (hstage n).1
    · exact absurd hstage' (hstage n).2
    · exact .tail _ (h.joined hwaits)
  · intro c' k n hjoined
    refine h.waits_or_returned_of_ne (hold hjoined) ?_ fun _ _ hattempt => hattempt
    rintro rfl
    rcases h.waits_or_returned (hold hjoined) with hwaits | ⟨v, _, hcaller, -⟩
    · exact hbefore k n hwaits
    · exact hreturned k v hcaller
  · intro c₁ c₂ k₁ k₂ n h₁ h₂
    exact h.key_eq (hold h₁) (hold h₂)
  · intro c' k n hjoined
    exact h.number_lt (hold hjoined)
  · intro c' k n hcaller
    exact h.running (hrunning hcaller)
  · intro c₁ c₂ k₁ k₂ n h₁ h₂
    exact h.runner_eq (hrunning h₁) (hrunning h₂)

theorem getElem?_setIfInBounds_of_some {attempts : Array AttemptStage} {before after : AttemptStage}
    (h : attempts[n]? = some before) : (attempts.setIfInBounds n after)[n]? = some after :=
  Array.getElem?_setIfInBounds_self_of_lt (Array.getElem?_eq_some_iff.1 h).1

/-- **Every step keeps callers and attempts together**, given that the open attempts are known. -/
theorem Held.step (h : Held history s)
    (hopen : ∀ {key n}, (key, n) ∈ s.cache.inFlight →
      n < s.cache.attempts.size ∧ ∀ {c k}, .joined c k n ∈ history → k = key)
    (heffect : Effect s event s') : Held (event :: history) s' := by
  cases heffect with
  | aside hbefore hreturned hstage hevent => exact h.aside hbefore hreturned hstage hevent
  | follow hc hmem =>
    obtain ⟨hlt, hkey⟩ := hopen hmem
    exact h.join hc hkey hlt fun _ _ => rfl
  | «open» hc hget hnew =>
    refine h.join hc (fun hjoined => absurd (h.number_lt hjoined) (Nat.lt_irrefl _)) ?_ fun m hm => ?_
    · simp
    · exact Array.getElem?_push_lt hm ▸ (Array.getElem?_eq_getElem hm).symm
  | @start c number key hc hopened =>
    refine h.advance (.inl hc) (fun _ hcaller => ?_) nofun (Array.size_setIfInBounds ..)
      (fun m hm => Array.getElem?_setIfInBounds_ne hm.symm) (fun v found hattempt => ?_)
      (.inr (.inl ⟨rfl, getElem?_setIfInBounds_of_some hopened⟩))
    · have hrunning := h.running hcaller
      rw [hopened] at hrunning
      cases hrunning
    · rw [hopened] at hattempt
      cases hattempt
  | @finish c number key hc found =>
    refine h.advance (.inr hc) (fun hne hcaller => hne (h.runner_eq hcaller hc)) nofun
      (Array.size_setIfInBounds ..) (fun m hm => Array.getElem?_setIfInBounds_ne hm.symm)
      (fun v found' hattempt => ?_) (.inl rfl)
    rw [h.running hc] at hattempt
    cases hattempt
  | leave hc hsettled =>
    refine h.advance (.inl hc) (fun _ hcaller => ?_) nofun rfl (fun _ _ => rfl) (fun _ _ h => h)
      (.inr (.inr ⟨_, _, rfl, hsettled⟩))
    have hrunning := h.running hcaller
    rw [hsettled] at hrunning
    cases hrunning

/-! ## The tables -/

/-- Nobody has joined the attempt and nobody has started its resolver. -/
structure Untouched (history : List Event) (s : Traffic) (n : Nat) : Prop where
  opened : s.cache.attempts[n]? = some .opened
  not_joined : ∀ {c key}, .joined c key n ∉ history

/-- What is in the tables belongs to attempts that callers wait for or have waited for. An attempt that
was given up **earlier** may be there as well, until a caller joins it. -/
structure Tabled (earlier : Set Nat) (history : List Event) (s : Traffic) : Prop where
  /-- Somebody waits for an open attempt, unless it was given up. -/
  waited : ∀ {key n}, (key, n) ∈ s.cache.inFlight →
    (∃ c, s.Waits c key n) ∨ n ∈ earlier ∧ Untouched history s n
  /-- An open attempt is for one key. -/
  key_eq : ∀ {key key' n}, (key, n) ∈ s.cache.inFlight → (key', n) ∈ s.cache.inFlight → key = key'
  /-- A key has one open attempt. -/
  number_eq : ∀ {key n n'}, (key, n) ∈ s.cache.inFlight → (key, n') ∈ s.cache.inFlight → n = n'
  /-- An attempt is open until it is settled. -/
  pending : ∀ {c key n}, .joined c key n ∈ history →
    (key, n) ∈ s.cache.inFlight ∨ ∃ v found, s.cache.attempts[n]? = some (.settled v found)
  /-- A successful attempt is open until its value is finished. -/
  kept : ∀ {c key n v}, .joined c key n ∈ history → s.cache.attempts[n]? = some (.settled v true) →
    (key, n) ∈ s.cache.inFlight ∨ s.cache.get? key = some v
  /-- A key with a finished value has no open attempt. -/
  closed : ∀ {key n v}, s.cache.get? key = some v → (key, n) ∉ s.cache.inFlight

theorem tabled_start : Tabled ∅ [] (.start d) where
  waited := nofun
  key_eq := nofun
  number_eq := nofun
  pending := nofun
  kept := nofun
  closed := nofun

/-- A caller that goes on waiting for what it waits for leaves no attempt without one. -/
theorem waited_move (h : ∃ c', s.Waits c' k n)
    (hmover : s.Waits c k n → k = key ∧ (stage = .holding n ∨ stage = .running n)) :
    ∃ c', (s.move c key stage cache).Waits c' k n := by
  obtain ⟨c', hwaits⟩ := h
  by_cases hc : c' = c
  · subst hc
    exact ⟨c', waits_move_iff.2 (.inl ⟨rfl, hmover hwaits⟩)⟩
  · exact ⟨c', waits_move_iff.2 (.inr ⟨hc, hwaits⟩)⟩

/-- What nobody has joined is not what somebody has joined. -/
theorem Untouched.ne (hnew : Untouched history s n) (hjoined : .joined c k number ∈ history) :
    n ≠ number := by
  rintro rfl
  exact hnew.not_joined hjoined

/-- A step that has to do with another attempt leaves an untouched one as it is. -/
theorem Untouched.keep (hnew : Untouched history s n) (hevent : ∀ c k, event ≠ .joined c k n)
    (hattempt : cache.attempts[n]? = s.cache.attempts[n]?) :
    Untouched (event :: history) (s.move c key stage cache) n where
  opened := hattempt.trans hnew.opened
  not_joined hjoined := hnew.not_joined ((List.mem_cons.1 hjoined).resolve_left (hevent _ _).symm)

/-- An open attempt was opened, and is joined under its key only. -/
theorem Tabled.known (ht : Tabled earlier history s) (h : Held history s)
    (hmem : (key, n) ∈ s.cache.inFlight) :
    n < s.cache.attempts.size ∧ ∀ {c k}, .joined c k n ∈ history → k = key := by
  rcases ht.waited hmem with ⟨c, hwaits⟩ | ⟨-, hnew⟩
  · have hjoined := h.joined hwaits
    exact ⟨h.number_lt hjoined, fun hother => h.key_eq hother hjoined⟩
  · exact ⟨(Array.getElem?_eq_some_iff.1 hnew.opened).1, fun hother => absurd hother hnew.not_joined⟩

/-- An attempt that is not settled is open. -/
theorem Tabled.mem_of_unsettled {stage : AttemptStage} (ht : Tabled earlier history s)
    (hjoined : .joined c key n ∈ history) (hattempt : s.cache.attempts[n]? = some stage)
    (hunsettled : ∀ v found, stage ≠ .settled v found) : (key, n) ∈ s.cache.inFlight := by
  refine (ht.pending hjoined).resolve_right ?_
  rintro ⟨v, found, hsettled⟩
  exact hunsettled v found (Option.some.inj (hattempt.symm.trans hsettled))

/-- A step that neither opens nor closes an attempt, and changes none but an open one. -/
theorem Tabled.keep (ht : Tabled earlier history s)
    (hmover : ∀ {k n}, s.Waits c k n → k = key ∧ (stage = .holding n ∨ stage = .running n))
    (hnew : ∀ {k n}, (k, n) ∈ s.cache.inFlight → Untouched history s n →
      (∃ c', (s.move c key stage cache).Waits c' k n) ∨
        Untouched (event :: history) (s.move c key stage cache) n)
    (hjoined : ∀ {c' k n}, .joined c' k n ∈ event :: history →
      .joined c' k n ∈ history ∨ (k, n) ∈ s.cache.inFlight)
    (hinFlight : cache.inFlight = s.cache.inFlight) (hcompleted : cache.completed = s.cache.completed)
    (hsettled : ∀ {c' k n}, .joined c' k n ∈ history → (k, n) ∈ s.cache.inFlight ∨
      cache.attempts[n]? = s.cache.attempts[n]?) :
    Tabled earlier (event :: history) (s.move c key stage cache) := by
  refine ⟨?_, ?_, ?_, ?_, ?_, ?_⟩
  · intro k n hmem
    have hmem' : (k, n) ∈ s.cache.inFlight := hinFlight ▸ hmem
    rcases ht.waited hmem' with hwaits | ⟨hn, huntouched⟩
    · exact .inl (waited_move hwaits hmover)
    · exact (hnew hmem' huntouched).imp_right fun huntouched => ⟨hn, huntouched⟩
  · intro k k' n hmem hmem'
    exact ht.key_eq (hinFlight ▸ hmem) (hinFlight ▸ hmem')
  · intro k n n' hmem hmem'
    exact ht.number_eq (hinFlight ▸ hmem) (hinFlight ▸ hmem')
  · intro c' k n hmem
    rw [move_cache, hinFlight]
    rcases hjoined hmem with hmem | hin
    · rcases hsettled hmem with hin | hattempt
      · exact .inl hin
      · exact hattempt ▸ ht.pending hmem
    · exact .inl hin
  · intro c' k n v hmem hattempt
    rw [move_cache, hinFlight, get?, hcompleted]
    rcases hjoined hmem with hmem | hin
    · rcases hsettled hmem with hin | hsame
      · exact .inl hin
      · exact ht.kept hmem (hsame ▸ hattempt)
    · exact .inl hin
  · intro k n v hget
    rw [move_cache, get?, hcompleted] at hget
    rw [move_cache, hinFlight]
    exact ht.closed hget

/-- The first caller of a key opens an attempt. -/
theorem Tabled.open (ht : Tabled earlier history s) (h : Held history s)
    (hc : s.callers c = some ⟨key, .missed⟩) (hget : s.cache.get? key = none)
    (hnew : ∀ n, (key, n) ∉ s.cache.inFlight) :
    Tabled earlier (.joined c key s.cache.attempts.size :: history)
      (s.move c key (.holding s.cache.attempts.size) { s.cache with
        inFlight := (key, s.cache.attempts.size) :: s.cache.inFlight
        attempts := s.cache.attempts.push .opened }) := by
  have hattempts : ∀ {c' k n}, .joined c' k n ∈ history →
      (s.cache.attempts.push .opened)[n]? = s.cache.attempts[n]? := by
    intro c' k n hjoined
    rw [Array.getElem?_push_lt (h.number_lt hjoined), Array.getElem?_eq_getElem]
  refine ⟨?_, ?_, ?_, ?_, ?_, ?_⟩
  · intro k n hmem
    rcases List.mem_cons.1 hmem with heq | hmem
    · cases heq
      exact .inl ⟨c, waits_move_iff.2 (.inl ⟨rfl, rfl, .inl rfl⟩)⟩
    · rcases ht.waited hmem with hwaits | ⟨hn, huntouched⟩
      · refine .inl (waited_move hwaits fun hwaits => ?_)
        rcases hwaits with hwaits | hwaits <;> rw [hc] at hwaits <;> cases hwaits
      · have hlt := (ht.known h hmem).1
        refine .inr ⟨hn, huntouched.keep (fun c' k' heq => ?_) ?_⟩
        · cases heq
          exact Nat.lt_irrefl _ hlt
        · rw [Array.getElem?_push_lt hlt, Array.getElem?_eq_getElem]
  · intro k k' n hmem hmem'
    rcases List.mem_cons.1 hmem with heq | hmem <;> rcases List.mem_cons.1 hmem' with heq' | hmem'
    · cases heq; cases heq'; rfl
    · cases heq; exact absurd (ht.known h hmem').1 (Nat.lt_irrefl _)
    · cases heq'; exact absurd (ht.known h hmem).1 (Nat.lt_irrefl _)
    · exact ht.key_eq hmem hmem'
  · intro k n n' hmem hmem'
    rcases List.mem_cons.1 hmem with heq | hmem <;> rcases List.mem_cons.1 hmem' with heq' | hmem'
    · cases heq; cases heq'; rfl
    · cases heq; exact absurd hmem' (hnew n')
    · cases heq'; exact absurd hmem (hnew n)
    · exact ht.number_eq hmem hmem'
  · intro c' k n hjoined
    rcases List.mem_cons.1 hjoined with heq | hjoined
    · cases heq
      exact .inl List.mem_cons_self
    · rcases ht.pending hjoined with hmem | hsettled
      · exact .inl (.tail _ hmem)
      · exact .inr ((hattempts hjoined).symm ▸ hsettled)
  · intro c' k n v hjoined hsettled
    rcases List.mem_cons.1 hjoined with heq | hjoined
    · cases heq
      exact .inl List.mem_cons_self
    · exact (ht.kept hjoined ((hattempts hjoined).symm.trans hsettled)).imp_left (.tail _)
  · intro k n v hfinished hmem
    rcases List.mem_cons.1 hmem with heq | hmem
    · cases heq
      cases hget.symm.trans hfinished
    · exact ht.closed hfinished hmem

/-- A caller that leaves closes its attempt if it is still open, and finishes the value if there is
one. Of a key with a finished value or another open attempt that cannot be a successful one. -/
theorem Tabled.leave {v : UInt32} {found : Bool} (ht : Tabled earlier history s) (h : Held history s)
    (hc : s.callers c = some ⟨key, .holding number⟩)
    (hsettled : s.cache.attempts[number]? = some (.settled v found)) :
    Tabled earlier (.left c key number v :: history) (s.move c key (.returned v) { s.cache with
      completed := if found then record s.cache.completed key v else s.cache.completed
      inFlight := s.cache.inFlight.filter (· != (key, number)) }) := by
  have hcaller := h.joined (.inl hc)
  have hold : ∀ {c' k n}, .joined c' k n ∈ Event.left c key number v :: history →
      .joined c' k n ∈ history :=
    fun hjoined => (List.mem_cons.1 hjoined).resolve_left nofun
  have hfilter : ∀ {k n}, (k, n) ∈ s.cache.inFlight.filter (· != (key, number)) ↔
      (k, n) ∈ s.cache.inFlight ∧ ¬ (k = key ∧ n = number) := by
    intro k n
    simp [List.mem_filter]
  refine ⟨?_, ?_, ?_, ?_, ?_, ?_⟩
  · intro k n hmem
    obtain ⟨hmem, hne⟩ := hfilter.1 hmem
    rcases ht.waited hmem with hwaits | ⟨hn, huntouched⟩
    · refine .inl (waited_move hwaits fun hwaits => absurd ?_ hne)
      obtain ⟨rfl, rfl⟩ := h.eq_of_joined hwaits hcaller
      exact ⟨rfl, rfl⟩
    · exact .inr ⟨hn, huntouched.keep nofun rfl⟩
  · intro k k' n hmem hmem'
    exact ht.key_eq (hfilter.1 hmem).1 (hfilter.1 hmem').1
  · intro k n n' hmem hmem'
    exact ht.number_eq (hfilter.1 hmem).1 (hfilter.1 hmem').1
  · intro c' k n hjoined
    by_cases hn : n = number
    · exact .inr ⟨v, found, hn ▸ hsettled⟩
    · exact (ht.pending (hold hjoined)).imp_left fun hmem => hfilter.2 ⟨hmem, fun heq => hn heq.2⟩
  · intro c' k n w hjoined hattempt
    rw [move_cache, get?, lookup_finished]
    by_cases hn : n = number
    · -- The attempt that is left: its value is the one that is finished.
      subst hn
      cases hsettled.symm.trans hattempt
      exact .inr (if_pos ⟨rfl, h.key_eq (hold hjoined) hcaller⟩)
    · rcases ht.kept (hold hjoined) hattempt with hmem | hget
      · exact .inl (hfilter.2 ⟨hmem, fun heq => hn heq.2⟩)
      · right
        split
        · next hsame =>
          -- The key had a value already, so it is the one that it has now.
          obtain ⟨rfl, rfl⟩ := hsame
          rcases ht.kept hcaller hsettled with hmem | hvalue
          · exact absurd hmem (ht.closed hget)
          · exact hvalue.symm.trans hget
        · exact hget
  · intro k n w hget hmem
    rw [move_cache, get?, lookup_finished] at hget
    obtain ⟨hleft, hne⟩ := hfilter.1 hmem
    split at hget
    · next hsame =>
      -- A success that is left was the open attempt of its key, or its value was there before.
      obtain ⟨rfl, rfl⟩ := hsame
      rcases ht.kept hcaller hsettled with hopen | hvalue
      · exact hne ⟨rfl, ht.number_eq hleft hopen⟩
      · exact ht.closed hvalue hleft
    · exact ht.closed hget hleft

/-- An attempt that is not settled is open, so it may change; the others stay as they are. -/
theorem Tabled.open_or_same {before after : AttemptStage} (ht : Tabled earlier history s)
    (hjoined : .joined c' k n ∈ history) (hbefore : s.cache.attempts[number]? = some before)
    (hunsettled : ∀ v found, before ≠ .settled v found) :
    (k, n) ∈ s.cache.inFlight ∨
      (s.cache.attempts.setIfInBounds number after)[n]? = s.cache.attempts[n]? := by
  by_cases hn : n = number
  · subst hn
    exact .inl (ht.mem_of_unsettled hjoined hbefore hunsettled)
  · exact .inr (Array.getElem?_setIfInBounds_ne (Ne.symm hn))

/-- **Every step keeps the tables in order.** -/
theorem Tabled.step (ht : Tabled earlier history s) (h : Held history s)
    (heffect : Effect s event s') : Tabled earlier (event :: history) s' := by
  cases heffect with
  | aside hbefore hreturned hstage hevent =>
    have hother : ∀ c' k n, event ≠ .joined c' k n := by
      rintro c' k n rfl
      cases hevent
    refine ht.keep (fun hwaits => absurd hwaits (hbefore _ _))
      (fun _ huntouched => .inr (huntouched.keep (fun _ _ => hother _ _ _) rfl))
      (fun hjoined => .inl ?_) rfl rfl fun _ => .inr rfl
    exact (List.mem_cons.1 hjoined).resolve_left (hother _ _ _).symm
  | @follow c number key hc hmem =>
    refine ht.keep (fun hwaits => ?_) (fun {k n} hmem' huntouched => ?_) (fun hjoined => ?_) rfl rfl
      fun _ => .inr rfl
    · rcases hwaits with hwaits | hwaits <;> rw [hc] at hwaits <;> cases hwaits
    · -- The attempt that was given up has somebody now who waits for it.
      by_cases hn : n = number
      · subst hn
        obtain rfl := ht.key_eq hmem hmem'
        exact .inl ⟨c, waits_move_iff.2 (.inl ⟨rfl, rfl, .inl rfl⟩)⟩
      · exact .inr (huntouched.keep (fun c' k' heq => hn (by cases heq; rfl)) rfl)
    · rcases List.mem_cons.1 hjoined with heq | hjoined
      · cases heq
        exact .inr hmem
      · exact .inl hjoined
  | «open» hc hget hnew => exact ht.open h hc hget hnew
  | start hc hopened =>
    refine ht.keep (fun hwaits => ?_) (fun _ huntouched => .inr (huntouched.keep nofun ?_))
      (fun hjoined => .inl ?_) rfl rfl fun hjoined => ht.open_or_same hjoined hopened nofun
    · obtain ⟨rfl, rfl⟩ := h.eq_of_joined hwaits (h.joined (.inl hc))
      exact ⟨rfl, .inr rfl⟩
    · exact Array.getElem?_setIfInBounds_ne (huntouched.ne (h.joined (.inl hc))).symm
    · exact (List.mem_cons.1 hjoined).resolve_left nofun
  | finish hc found =>
    refine ht.keep (fun hwaits => ?_) (fun _ huntouched => .inr (huntouched.keep nofun ?_))
      (fun hjoined => .inl ?_) rfl rfl fun hjoined => ht.open_or_same hjoined (h.running hc) nofun
    · obtain ⟨rfl, rfl⟩ := h.eq_of_joined hwaits (h.joined (.inr hc))
      exact ⟨rfl, .inl rfl⟩
    · exact Array.getElem?_setIfInBounds_ne (huntouched.ne (h.joined (.inr hc))).symm
    · exact (List.mem_cons.1 hjoined).resolve_left nofun
  | leave hc hsettled => exact ht.leave h hc hsettled

/-- Nobody takes a finished value away or puts another in its place. -/
theorem Tabled.get?_step {v : UInt32} (ht : Tabled earlier history s) (h : Held history s)
    (heffect : Effect s event s') (hget : s.cache.get? key = some v) :
    s'.cache.get? key = some v := by
  cases heffect with
  | leave hc hsettled =>
    rw [move_cache, get?, lookup_finished]
    split
    · next hsame =>
      -- The attempt that is left has put its value there already.
      obtain ⟨rfl, rfl⟩ := hsame
      rcases ht.kept (h.joined (.inl hc)) hsettled with hmem | hvalue
      · exact absurd hmem (ht.closed hget)
      · exact hvalue.symm.trans hget
    · exact hget
  | _ => exact hget

/-- When nobody is in the middle of a call, no attempt is open but those that were given up earlier and
that nobody has joined. -/
theorem Tabled.untouched (ht : Tabled earlier history s) (hquiet : s.Quiet)
    (hmem : (key, n) ∈ s.cache.inFlight) : n ∈ earlier ∧ Untouched history s n := by
  refine (ht.waited hmem).resolve_left ?_
  rintro ⟨c, hwaits | hwaits⟩
  · obtain ⟨v, hstage⟩ := hquiet c _ hwaits
    cases hstage
  · obtain ⟨v, hstage⟩ := hquiet c _ hwaits
    cases hstage

theorem Tabled.inFlight_eq_nil (ht : Tabled ∅ history s) (hquiet : s.Quiet) :
    s.cache.inFlight = [] := by
  refine List.eq_nil_iff_forall_not_mem.2 fun (key, n) hmem => ?_
  exact Set.notMem_empty n (ht.untouched hquiet hmem).1

/-! ## A cache that nobody is calling -/

/-- Nobody is calling the cache. An attempt that is open nevertheless was given up by its callers, so its
resolver waits to be started. -/
structure Idle (cache : LookupCache) : Prop where
  opened : ∀ {key n}, (key, n) ∈ cache.inFlight → cache.attempts[n]? = some .opened
  key_eq : ∀ {key key' n}, (key, n) ∈ cache.inFlight → (key', n) ∈ cache.inFlight → key = key'
  number_eq : ∀ {key n n'}, (key, n) ∈ cache.inFlight → (key, n') ∈ cache.inFlight → n = n'
  closed : ∀ {key n v}, cache.get? key = some v → (key, n) ∉ cache.inFlight

theorem idle_of_inFlight_eq_nil (h : cache.inFlight = []) : cache.Idle where
  opened hmem := absurd (h ▸ hmem) List.not_mem_nil
  key_eq hmem := absurd (h ▸ hmem) List.not_mem_nil
  number_eq hmem := absurd (h ▸ hmem) List.not_mem_nil
  closed _ hmem := absurd (h ▸ hmem) List.not_mem_nil

/-- When all calls have come to their ends nobody is calling. -/
theorem Tabled.idle (ht : Tabled earlier history s) (hquiet : s.Quiet) : s.cache.Idle where
  opened hmem := (ht.untouched hquiet hmem).2.opened
  key_eq := ht.key_eq
  number_eq := ht.number_eq
  closed := ht.closed

end LookupCache

end Fieldbook
