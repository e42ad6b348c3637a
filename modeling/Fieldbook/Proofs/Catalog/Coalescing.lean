import Fieldbook.Proofs.Catalog.Attempts

/-!
# Callers of one key share one attempt

What has happened tells what the attempts and the finished values are: attempts are settled by the
resolvers that have ended, and what is finished was found (`Told`). With the ties between callers,
attempts and tables that makes up the invariant of all runs (`Coalesced`), from which `calls_coalesce`
gathers what callers can rely on.
-/

namespace Fieldbook

namespace LookupCache

variable {s s' : Traffic} {history : List Event} {event : Event} {d : UInt32}
variable {c c' number n : Nat} {key k : String} {cache : LookupCache} {stage : Stage}
variable {earlier : Set Nat}

/-! ## What has happened -/

/-- What has happened tells what the attempts and the finished values are. -/
structure Told (d : UInt32) (history : List Event) (s : Traffic) : Prop where
  default_eq : s.cache.default = d
  /-- A resolver that has ended settled the attempt that its caller had joined. -/
  settled : ∀ {c key n found}, .finished c key n found ∈ history → .joined c key n ∈ history ∧
    s.cache.attempts[n]? = some (.settled (found.getD d) found.isSome)
  /-- Nothing else settles an attempt. -/
  finished : ∀ {n v found}, s.cache.attempts[n]? = some (.settled v found) →
    ∃ c key found', .finished c key n found' ∈ history
  /-- A finished value is one that a resolver has found for the key. -/
  found : ∀ {key v}, s.cache.get? key = some v → ∃ c n, .finished c key n (some v) ∈ history
  resolutions_eq : s.cache.resolutions = history.countP Event.isStart
  /-- Of the resolvers for a key one at most has found a value. -/
  once : ∀ key, history.countP (Event.succeedsFor key) ≤ 1

theorem told_start : Told d [] (.start d) where
  default_eq := rfl
  settled := nofun
  finished hsettled := by cases hsettled
  found := nofun
  resolutions_eq := rfl
  once _ := Nat.zero_le 1

/-- The value of a successful attempt is one that its resolver has found. -/
theorem Told.found_of_settled {v : UInt32} (hd : Told d history s) (h : Held history s)
    (hjoined : .joined c key n ∈ history) (hsettled : s.cache.attempts[n]? = some (.settled v true)) :
    ∃ c n, .finished c key n (some v) ∈ history := by
  obtain ⟨c', k, found, hfinished⟩ := hd.finished hsettled
  obtain ⟨hjoined', hattempt⟩ := hd.settled hfinished
  obtain rfl := h.key_eq hjoined' hjoined
  cases found with
  | none => cases hsettled.symm.trans hattempt
  | some w =>
    cases hsettled.symm.trans hattempt
    exact ⟨c', n, hfinished⟩

/-- A step in which no resolver ends settles no attempt, and finishes no value but one that a resolver
has found before. -/
theorem Told.keep (hd : Told d history s)
    (hevent : ∀ c k n found, event ≠ .finished c k n found)
    (hdefault : cache.default = s.cache.default)
    (hsettled : ∀ (n : Nat) (v : UInt32) (found : Bool),
      cache.attempts[n]? = some (.settled v found) ↔ s.cache.attempts[n]? = some (.settled v found))
    (hget : ∀ {k v}, cache.get? k = some v → ∃ c n, .finished c k n (some v) ∈ history)
    (hresolutions : cache.resolutions = s.cache.resolutions + if event.isStart then 1 else 0) :
    Told d (event :: history) (s.move c key stage cache) := by
  have hold : ∀ {c' k n found}, .finished c' k n found ∈ event :: history →
      .finished c' k n found ∈ history :=
    fun hfinished => (List.mem_cons.1 hfinished).resolve_left (hevent _ _ _ _).symm
  refine ⟨hdefault.trans hd.default_eq, ?_, ?_, ?_, ?_, ?_⟩
  · intro c' k n found hfinished
    obtain ⟨hjoined, hattempt⟩ := hd.settled (hold hfinished)
    exact ⟨.tail _ hjoined, (hsettled _ _ _).2 hattempt⟩
  · intro n v found hattempt
    obtain ⟨c', k, found', hfinished⟩ := hd.finished ((hsettled _ _ _).1 hattempt)
    exact ⟨c', k, found', .tail _ hfinished⟩
  · intro k v hvalue
    obtain ⟨c', n, hfinished⟩ := hget hvalue
    exact ⟨c', n, .tail _ hfinished⟩
  · rw [move_cache, hresolutions, hd.resolutions_eq, List.countP_cons]
  · intro k
    have hfails : event.succeedsFor k = false := by
      cases event <;> first | rfl | exact absurd rfl (hevent _ _ _ _)
    rw [List.countP_cons_of_neg (by rw [hfails]; nofun)]
    exact hd.once k

theorem Event.eq_finished_of_succeedsFor (h : event.succeedsFor key = true) :
    ∃ c n v, event = .finished c key n (some v) := by
  cases event with
  | finished c k n found =>
    obtain ⟨hkey, hfound⟩ := Bool.and_eq_true_iff.1 h
    obtain ⟨v, rfl⟩ := Option.isSome_iff_exists.1 hfound
    exact ⟨c, n, v, beq_iff_eq.1 hkey ▸ rfl⟩
  | _ => cases h

/-- As long as a resolver runs for a key, none has found a value for it. -/
theorem Told.no_success (hd : Told d history s) (h : Held history s) (ht : Tabled earlier history s)
    (hc : s.callers c = some ⟨key, .running number⟩) :
    history.countP (Event.succeedsFor key) = 0 := by
  have hrunning := h.running hc
  have hopen := ht.mem_of_unsettled (h.joined (.inr hc)) hrunning nofun
  refine List.countP_eq_zero.2 fun event hmem hsucceeds => ?_
  obtain ⟨c', n, v, rfl⟩ := Event.eq_finished_of_succeedsFor hsucceeds
  obtain ⟨hjoined, hattempt⟩ := hd.settled hmem
  rcases ht.kept hjoined hattempt with hstill | hget
  · -- It would be the attempt that is running.
    obtain rfl := ht.number_eq hstill hopen
    cases hrunning.symm.trans hattempt
  · exact ht.closed hget hopen

/-- The end of a resolver is the first success for its key, if it is one. -/
theorem Told.finish (hd : Told d history s) (h : Held history s) (ht : Tabled earlier history s)
    (hc : s.callers c = some ⟨key, .running number⟩) (found : Option UInt32) :
    Told d (.finished c key number found :: history) (s.move c key (.holding number) { s.cache with
      attempts := s.cache.attempts.setIfInBounds number
        (.settled (found.getD s.cache.default) found.isSome) }) := by
  have hrunning := h.running hc
  refine ⟨hd.default_eq, ?_, ?_, ?_, ?_, ?_⟩
  · intro c' k n found' hfinished
    rcases List.mem_cons.1 hfinished with heq | hfinished
    · cases heq
      exact ⟨.tail _ (h.joined (.inr hc)), hd.default_eq ▸ getElem?_setIfInBounds_of_some hrunning⟩
    · obtain ⟨hjoined, hattempt⟩ := hd.settled hfinished
      refine ⟨.tail _ hjoined, (Array.getElem?_setIfInBounds_ne ?_).trans hattempt⟩
      rintro rfl
      cases hrunning.symm.trans hattempt
  · intro n v found' hattempt
    -- The attempt that is settled now, or one that was settled before.
    by_cases hn : number = n
    · subst hn
      exact ⟨c, key, found, .head _⟩
    · obtain ⟨c', k, found'', hfinished⟩ :=
        hd.finished ((Array.getElem?_setIfInBounds_ne hn).symm.trans hattempt)
      exact ⟨c', k, found'', .tail _ hfinished⟩
  · intro k v hget
    obtain ⟨c', n, hfinished⟩ := hd.found hget
    exact ⟨c', n, .tail _ hfinished⟩
  · rw [List.countP_cons_of_neg (Bool.false_ne_true)]
    exact hd.resolutions_eq
  · intro k
    rw [List.countP_cons]
    split
    · next hsucceeds =>
      -- It was running until now, so there was no success before.
      have hkey : key = k := beq_iff_eq.1 (Bool.and_eq_true_iff.1 hsucceeds).1
      have hnone := hd.no_success h ht hc
      rw [hkey] at hnone
      omega
    · exact hd.once k

/-- **Every step tells the truth.** -/
theorem Told.step (hd : Told d history s) (h : Held history s) (ht : Tabled earlier history s)
    (heffect : Effect s event s') : Told d (event :: history) s' := by
  cases heffect with
  | aside hbefore hreturned hstage hevent =>
    refine hd.keep ?_ rfl (fun _ _ _ => .rfl) hd.found ?_
    · rintro _ _ _ _ rfl
      cases hevent
    · cases event <;> first | rfl | cases hevent
  | follow hc hmem => exact hd.keep nofun rfl (fun _ _ _ => .rfl) hd.found rfl
  | «open» hc hget hnew =>
    refine hd.keep nofun rfl (fun n v found => ?_) hd.found rfl
    rw [Array.getElem?_push]
    split
    · next hn =>
      subst hn
      simp
    · rfl
  | @start c number key hc hopened =>
    refine hd.keep nofun rfl (fun n v found => ?_) hd.found rfl
    by_cases hn : number = n
    · subst hn
      rw [getElem?_setIfInBounds_of_some hopened, hopened]
      simp
    · rw [Array.getElem?_setIfInBounds_ne hn]
  | finish hc found => exact hd.finish h ht hc found
  | @leave c number key v found hc hsettled =>
    refine hd.keep nofun rfl (fun _ _ _ => .rfl) (fun hget => ?_) rfl
    rw [get?, lookup_finished] at hget
    split at hget
    · next hsame =>
      obtain ⟨rfl, rfl⟩ := hsame
      cases hget
      exact hd.found_of_settled h (h.joined (.inl hc)) hsettled
    · exact hd.found hget

/-! ## Whole runs -/

/-- What holds after any steps of any callers. -/
structure Coalesced (d : UInt32) (history : List Event) (s : Traffic) : Prop where
  held : Held history s
  tabled : Tabled ∅ history s
  told : Told d history s

theorem Coalesced.step (h : Coalesced d history s) (hstep : Step s event s') :
    Coalesced d (event :: history) s' where
  held := h.held.step (h.tabled.known h.held) hstep.effect
  tabled := h.tabled.step h.held hstep.effect
  told := h.told.step h.held h.tabled hstep.effect

theorem Coalesced.steps {later : List Event} (h : Coalesced d history s) (hsteps : Steps s later s') :
    Coalesced d (later ++ history) s' := by
  induction hsteps with
  | refl => exact h
  | step _ hstep ih => exact ih.step hstep

theorem coalesced_of_steps (h : Steps (.start d) history s) : Coalesced d history s :=
  List.append_nil history ▸ Coalesced.steps ⟨held_start, tabled_start, told_start⟩ h

theorem Coalesced.get?_steps {later : List Event} {v : UInt32} (h : Coalesced d history s)
    (hsteps : Steps s later s') (hget : s.cache.get? key = some v) : s'.cache.get? key = some v := by
  induction hsteps with
  | refl => exact hget
  | step hbefore hstep ih =>
    have hs := h.steps hbefore
    exact hs.tabled.get?_step hs.held hstep.effect ih

/-- A resolver starts only for a key without a finished value. -/
theorem Coalesced.get?_of_started (h : Coalesced d history s) (hstep : Step s (.started c key n) s') :
    s.cache.get? key = none := by
  cases hstep with
  | start hc hbegin =>
    have hopened := (begin_eq_true_iff.1 hbegin).1
    have hmem := h.tabled.mem_of_unsettled (h.held.joined (.inl hc)) hopened nofun
    rw [Option.eq_none_iff_forall_ne_some]
    exact fun v hget => h.tabled.closed hget hmem

/-- Once a value is finished, no resolver for its key starts. -/
theorem Coalesced.not_started {later : List Event} {v : UInt32} (h : Coalesced d history s)
    (hget : s.cache.get? key = some v) (hsteps : Steps s later s') :
    .started c key n ∉ later := by
  induction hsteps with
  | refl => exact List.not_mem_nil
  | step hbefore hstep ih =>
    intro hmem
    rcases List.mem_cons.1 hmem with rfl | hmem
    · have hnone := (h.steps hbefore).get?_of_started hstep
      rw [h.get?_steps hbefore hget] at hnone
      cases hnone
    · exact ih hmem

/-- A caller that has only just begun finds the finished value in its next step, and keeps it. -/
theorem Step.called_or_returned {v : UInt32} (hstep : Step s event s')
    (hget : s.cache.get? key = some v)
    (hc : s.callers c = some ⟨key, .called⟩ ∨ s.callers c = some ⟨key, .returned v⟩) :
    s'.callers c = some ⟨key, .called⟩ ∨ s'.callers c = some ⟨key, .returned v⟩ := by
  have hstays : ∀ {c' k stage cache}, c ≠ c' →
      (s.move c' k stage cache).callers c = some ⟨key, .called⟩ ∨
        (s.move c' k stage cache).callers c = some ⟨key, .returned v⟩ := by
    intro c' k stage cache hne
    rwa [move_callers_of_ne hne]
  cases hstep with
  | @hit c' k w h hvalue =>
    by_cases hne : c = c'
    · subst hne
      rw [h] at hc
      rcases hc with hc | hc <;> cases hc
      cases hvalue.symm.trans hget
      exact .inr move_callers_self
    · exact hstays hne
  | @miss c' k h hnone =>
    refine hstays ?_
    rintro rfl
    rw [h] at hc
    rcases hc with hc | hc <;> cases hc
    cases hnone.symm.trans hget
  | call _ h | recheck h _ | join h _ | start h _ | finish h _ | leave h _ _ =>
    -- The caller that moves is somewhere else.
    refine hstays ?_
    rintro rfl
    rw [h] at hc
    rcases hc with hc | hc <;> cases hc

/-- Once a value is finished, every call that begins gets it. -/
theorem Coalesced.called_or_returned {later : List Event} {v : UInt32} (h : Coalesced d history s)
    (hget : s.cache.get? key = some v) (hsteps : Steps s later s')
    (hcalled : .called c key ∈ later) :
    s'.callers c = some ⟨key, .called⟩ ∨ s'.callers c = some ⟨key, .returned v⟩ := by
  induction hsteps with
  | refl => cases hcalled
  | step hbefore hstep ih =>
    rcases List.mem_cons.1 hcalled with rfl | hcalled
    · cases hstep with
      | call _ h => exact .inl move_callers_self
    · exact hstep.called_or_returned (h.get?_steps hbefore hget) (ih hcalled)

/-- Two runners for one key are one. -/
theorem Coalesced.runner_eq (h : Coalesced d history s) {n' : Nat}
    (hc : s.callers c = some ⟨key, .running n⟩) (hc' : s.callers c' = some ⟨key, .running n'⟩) :
    c = c' := by
  have hopen : ∀ {c n}, s.callers c = some ⟨key, .running n⟩ → (key, n) ∈ s.cache.inFlight :=
    fun hc => h.tabled.mem_of_unsettled (h.held.joined (.inr hc)) (h.held.running hc) nofun
  obtain rfl := h.tabled.number_eq (hopen hc) (hopen hc')
  exact h.held.runner_eq hc hc'

/-- Who has joined an attempt returns what its resolver found, or the default. -/
theorem Coalesced.value_eq {v : UInt32} (h : Coalesced d history s)
    (hjoined : .joined c key n ∈ history) (hc : s.callers c = some ⟨key, .returned v⟩) :
    (∃ c' found, .finished c' key n found ∈ history) ∧
      ∀ c' found, .finished c' key n found ∈ history → v = found.getD d := by
  rcases h.held.waits_or_returned hjoined with (hwaits | hwaits) | ⟨w, found, hcaller, hattempt⟩
  · cases hc.symm.trans hwaits
  · cases hc.symm.trans hwaits
  · cases hc.symm.trans hcaller
    constructor
    · obtain ⟨c', k, found', hfinished⟩ := h.told.finished hattempt
      obtain rfl := h.held.key_eq (h.told.settled hfinished).1 hjoined
      exact ⟨c', found', hfinished⟩
    · intro c' found' hfinished
      cases hattempt.symm.trans (h.told.settled hfinished).2
      rfl

/-- **What any number of callers can rely on**, whatever they ask for, whatever the resolvers find and
in whatever order they come to it: one resolver runs for a key at a time; one at most succeeds, and once
its value is finished no other starts and every call that begins gets the value; those who join one
attempt return one value, which is what its resolver found or else the default; a finished value was
found and stays; every start of a resolver is counted; and when all have returned nothing is open. -/
theorem calls_coalesce (h : Steps (.start d) history s) :
    (∀ c c' key n n', s.callers c = some ⟨key, .running n⟩ → s.callers c' = some ⟨key, .running n'⟩ →
      c = c') ∧
    ((∀ key, history.countP (Event.succeedsFor key) ≤ 1) ∧
      ∀ key v, s.cache.get? key = some v → ∀ later s', Steps s later s' →
        (∀ c n, .started c key n ∉ later) ∧
        ∀ c, .called c key ∈ later →
          s'.callers c = some ⟨key, .returned v⟩ ∨
            s'.callers c = some ⟨key, .called⟩ ∧
              Step s' (.answered c key v) (s'.move c key (.returned v) s'.cache)) ∧
    (∀ n, (∀ c c' key key' v v', .joined c key n ∈ history → .joined c' key' n ∈ history →
        s.callers c = some ⟨key, .returned v⟩ → s.callers c' = some ⟨key', .returned v'⟩ → v = v') ∧
      ∀ c key v, .joined c key n ∈ history → s.callers c = some ⟨key, .returned v⟩ →
        (∃ c' found, .finished c' key n found ∈ history) ∧
          ∀ c' found, .finished c' key n found ∈ history → v = found.getD d) ∧
    (∀ key v, s.cache.get? key = some v →
      (∃ c n, .finished c key n (some v) ∈ history) ∧
        ∀ later s', Steps s later s' → s'.cache.get? key = some v) ∧
    s.cache.resolutions = history.countP Event.isStart ∧
    (s.Quiet → s.cache.inFlight = []) := by
  have hs := coalesced_of_steps h
  refine ⟨?_, ⟨hs.told.once, ?_⟩, ?_, ?_, hs.told.resolutions_eq, hs.tabled.inFlight_eq_nil⟩
  · intro c c' key n n' hc hc'
    exact hs.runner_eq hc hc'
  · intro key v hget later s' hsteps
    refine ⟨fun c n => hs.not_started hget hsteps, fun c hcalled => ?_⟩
    rcases hs.called_or_returned hget hsteps hcalled with hc | hc
    · exact .inr ⟨hc, .hit hc (hs.get?_steps hsteps hget)⟩
    · exact .inl hc
  · intro n
    refine ⟨?_, fun c key v hjoined hc => hs.value_eq hjoined hc⟩
    intro c c' key key' v v' hjoined hjoined' hc hc'
    obtain rfl := hs.held.key_eq hjoined hjoined'
    obtain ⟨⟨_, _, hfinished⟩, hvalue⟩ := hs.value_eq hjoined hc
    exact (hvalue _ _ hfinished).trans ((hs.value_eq hjoined' hc').2 _ _ hfinished).symm
  · intro key v hget
    exact ⟨hs.told.found hget, fun later s' hsteps => hs.get?_steps hsteps hget⟩

/-- A caller joins an attempt that fails, and leaves it only when the next attempt for the key runs. It
returns the default, and the next attempt is left alone and finishes its value for good. -/
theorem calls_coalesce_late : ∃ s,
    Steps (.start 1)
      [.left 2 "k" 1 7, .finished 2 "k" 1 (some 7), .left 1 "k" 0 1, .started 2 "k" 1,
        .joined 2 "k" 1, .missed 2 "k", .called 2 "k", .left 0 "k" 0 1, .finished 0 "k" 0 none,
        .joined 1 "k" 0, .started 0 "k" 0, .joined 0 "k" 0, .missed 1 "k", .called 1 "k",
        .missed 0 "k", .called 0 "k"] s ∧
      s.callers 1 = some ⟨"k", .returned 1⟩ ∧ s.cache.resolutions = 2 ∧
      ∀ later s', Steps s later s' → s'.cache.get? "k" = some 7 := by
  have hlooked : Steps (.start 1)
      [.missed 1 "k", .called 1 "k", .missed 0 "k", .called 0 "k"] _ :=
    .step (.step (.step (.step .refl (.call "k" rfl)) (.miss rfl rfl)) (.call "k" rfl))
      (.miss rfl rfl)
  have hfailed : Steps (.start 1) (.left 0 "k" 0 1 :: .finished 0 "k" 0 none :: .joined 1 "k" 0 ::
      .started 0 "k" 0 :: .joined 0 "k" 0 :: _) _ :=
    .step (.step (.step (.step (.step hlooked (.join rfl rfl)) (.start rfl rfl)) (.join rfl rfl))
      (.finish rfl none)) (.leave rfl rfl rfl)
  have hagain : Steps (.start 1) (.started 2 "k" 1 :: .joined 2 "k" 1 :: .missed 2 "k" ::
      .called 2 "k" :: _) _ :=
    .step (.step (.step (.step hfailed (.call "k" rfl)) (.miss rfl rfl)) (.join rfl rfl))
      (.start rfl rfl)
  have hsteps : Steps (.start 1) (.left 2 "k" 1 7 :: .finished 2 "k" 1 (some 7) ::
      .left 1 "k" 0 1 :: _) _ :=
    .step (.step (.step hagain (.leave rfl rfl rfl)) (.finish rfl (some 7))) (.leave rfl rfl rfl)
  obtain ⟨-, -, -, hfinished, hresolutions, -⟩ := calls_coalesce hsteps
  exact ⟨_, hsteps, rfl, hresolutions, (hfinished "k" 7 rfl).2⟩
end LookupCache

end Fieldbook
