import Mathlib.Data.List.Forall2
import Mathlib.Data.List.Nodup
import Mathlib.Data.List.Perm.Basic

/-!
# Lists that go side by side, positions, and lists without repetitions

`List.Forall₂` puts two lists beside each other, entry by entry. Going through a list to its end puts the
results beside what they come from (`mapM_eq_ok_iff`), unless there is an element that does not pass
(`exists_of_mapM_eq_error`). What stands beside an entry may be all there is to know about it
(`eq_map_of_forall₂`, `filterMap_eq_zipWith`).

The positions of the elements that pass a test are as many as these elements (`length_positionsOf`), so
that counting elements may be counting positions (`length_le_countP`).

In a list without repeated keys every element is found by its own (`find?_key`, and
`lookup_eq_some_iff_mem` for a list of pairs).

`List.eraseDups` leaves of every element the first: then no element is there twice (`nodup_eraseDups`),
and nothing is left out where none was (`eraseDups_of_nodup`).
-/

namespace Fieldbook

variable {α β γ ε : Type} {as : List α} {bs : List β} {cs : List γ}

/-- A list is gone through to its end exactly when every element passes, and then each has given its
own result. -/
theorem mapM_eq_ok_iff {f : α → Except ε β} :
    as.mapM f = .ok bs ↔ List.Forall₂ (fun a b => f a = .ok b) as bs := by
  induction as generalizing bs with
  | nil =>
    rw [List.mapM_nil, List.forall₂_nil_left_iff]
    exact ⟨fun h => (Except.ok.inj h).symm, fun h => h ▸ rfl⟩
  | cons a as ih =>
    rw [List.mapM_cons, List.forall₂_cons_left_iff]
    cases hf : f a with
    | error e => exact ⟨nofun, fun ⟨_, _, h, _⟩ => nomatch h⟩
    | ok b =>
      cases hrest : as.mapM f with
      | error e =>
        refine ⟨nofun, fun ⟨b', bs', _, h, _⟩ => ?_⟩
        rw [ih.2 h] at hrest
        cases hrest
      | ok bs' =>
        constructor
        · intro h
          exact ⟨b, bs', rfl, ih.1 hrest, (Except.ok.inj h).symm⟩
        · rintro ⟨b', bs'', hb, h, rfl⟩
          rw [ih.2 h] at hrest
          cases hb
          cases hrest
          rfl

/-- A list that is not gone through to its end has an element that does not pass. -/
theorem exists_of_mapM_eq_error {f : α → Except ε β} {e : ε} (h : as.mapM f = .error e) :
    ∃ a ∈ as, f a = .error e := by
  induction as with
  | nil => cases h
  | cons a as ih =>
    rw [List.mapM_cons] at h
    cases hf : f a with
    | error e' =>
      rw [hf] at h
      cases h
      exact ⟨a, List.mem_cons_self, hf⟩
    | ok b =>
      rw [hf] at h
      cases hrest : as.mapM f with
      | error e' =>
        rw [hrest] at h
        cases h
        obtain ⟨a', ha', he⟩ := ih hrest
        exact ⟨a', List.mem_cons_of_mem a ha', he⟩
      | ok bs =>
        rw [hrest] at h
        cases h

/-- Every entry has one beside it; for an entry of the first list, turn the lists round. -/
theorem exists_mem_of_forall₂ {R : α → β → Prop} (h : List.Forall₂ R as bs) {b : β} (hb : b ∈ bs) :
    ∃ a ∈ as, R a b := by
  induction h with
  | nil => cases hb
  | cons hab _ ih =>
    rcases List.mem_cons.1 hb with rfl | hb
    · exact ⟨_, List.mem_cons_self, hab⟩
    · obtain ⟨a, ha, hR⟩ := ih hb
      exact ⟨a, List.mem_cons_of_mem _ ha, hR⟩

/-- What two lists have to do with each other by way of a third one. -/
theorem exists_between {R : α → β → Prop} {S : β → γ → Prop}
    (h : List.Forall₂ (fun a c => ∃ b, R a b ∧ S b c) as cs) :
    ∃ bs, List.Forall₂ R as bs ∧ List.Forall₂ S bs cs := by
  induction h with
  | nil => exact ⟨[], .nil, .nil⟩
  | cons hac _ ih =>
    obtain ⟨b, hab, hbc⟩ := hac
    obtain ⟨bs, hR, hS⟩ := ih
    exact ⟨b :: bs, .cons hab hR, .cons hbc hS⟩

/-- What each entry of a list leaves no choice for is a function of it. -/
theorem eq_map_of_forall₂ {f : α → β} (h : List.Forall₂ (fun a b => b = f a) as bs) :
    bs = as.map f := by
  induction h with
  | nil => rfl
  | cons hab _ ih => rw [List.map_cons, ← hab, ← ih]

theorem filterMap_eq_zipWith {k : α → Option γ} {g : α → β → γ}
    (h : List.Forall₂ (fun a b => k a = some (g a b)) as bs) :
    as.filterMap k = List.zipWith g as bs := by
  induction h with
  | nil => rfl
  | cons hab _ ih => rw [List.filterMap_cons_some hab, List.zipWith_cons_cons, ih]

/-! ## Positions -/

section Positions

variable {test : α → Bool} {pos : Nat}

/-- The positions of the elements that pass a test, ascending. -/
def positionsOf (test : α → Bool) (as : List α) : List Nat :=
  (as.zipIdx.filter (test ·.1)).map Prod.snd

theorem mem_positionsOf : pos ∈ positionsOf test as ↔ ∃ a, as[pos]? = some a ∧ test a = true := by
  simp [positionsOf, List.mem_zipIdx_iff_getElem?, and_comm]

theorem nodup_positionsOf (test : α → Bool) (as : List α) : (positionsOf test as).Nodup := by
  refine List.Nodup.sublist (List.filter_sublist.map Prod.snd) ?_
  rw [List.zipIdx_map_snd]
  exact List.nodup_range'

theorem length_positionsOf (test : α → Bool) (as : List α) :
    (positionsOf test as).length = as.countP test := by
  rw [positionsOf, List.length_map, ← List.countP_eq_length_filter]
  conv_rhs => rw [← List.zipIdx_map_fst 0 as, List.countP_map]
  rfl

/-- Different positions of elements that pass a test are no more than these elements. -/
theorem length_le_countP {positions : List Nat} (hnodup : positions.Nodup)
    (hmem : ∀ pos ∈ positions, ∃ a, as[pos]? = some a ∧ test a = true) :
    positions.length ≤ as.countP test := by
  rw [← length_positionsOf]
  exact (List.subperm_of_subset hnodup fun pos hpos => mem_positionsOf.2 (hmem pos hpos)).length_le

end Positions

/-! ## Keys -/

section Keys

variable {key : α → γ}

/-- Of elements with different keys each is found by its own. -/
theorem find?_key [BEq γ] [LawfulBEq γ] (h : (as.map key).Nodup) {a : α} (ha : a ∈ as) :
    as.find? (key · == key a) = some a := by
  have hsome : (as.find? (key · == key a)).isSome = true :=
    List.find?_isSome.2 ⟨a, ha, beq_self_eq_true (key a)⟩
  obtain ⟨found, hfound⟩ := Option.isSome_iff_exists.1 hsome
  have hkey : key found = key a := eq_of_beq (List.find?_some hfound :)
  rw [hfound, List.inj_on_of_nodup_map h (List.mem_of_find?_eq_some hfound) ha hkey]

/-- In a list of pairs with different keys a value is looked up by its own. -/
theorem lookup_eq_some_iff_mem [BEq α] [LawfulBEq α] {entries : List (α × β)}
    (h : (entries.map Prod.fst).Nodup) {a : α} {b : β} :
    entries.lookup a = some b ↔ (a, b) ∈ entries := by
  rw [List.lookup_eq_some_iff]
  constructor
  · rintro ⟨front, rest, rfl, -⟩
    exact List.mem_append_right _ List.mem_cons_self
  · intro hmem
    obtain ⟨front, rest, rfl⟩ := List.append_of_mem hmem
    rw [List.map_append, List.nodup_append] at h
    refine ⟨front, rest, rfl, fun entry hentry => ?_⟩
    rw [bne_iff_ne]
    exact (h.2.2 entry.1 (List.mem_map_of_mem hentry) a List.mem_cons_self).symm

/-- Pairs that are made of elements, each with the key of its own, have different keys if these have. -/
theorem nodup_fst_filterMap (key : α → γ) {f : α → Option (γ × β)}
    (hf : ∀ a p, f a = some p → p.1 = key a) (h : (as.map key).Nodup) :
    ((as.filterMap f).map Prod.fst).Nodup := by
  refine h.sublist ?_
  clear h
  induction as with
  | nil => exact .slnil
  | cons a rest ih =>
    cases hfa : f a with
    | none =>
      rw [List.filterMap_cons_none hfa]
      exact ih.cons (key a)
    | some p =>
      rw [List.filterMap_cons_some hfa, List.map_cons, List.map_cons, hf a p hfa]
      exact ih.cons_cons (key a)

end Keys

/-! ## Repetitions -/

section Repetitions

variable [BEq α] [LawfulBEq α]

-- `eraseDups` goes on with a filtered list, so the recursion is on the length.
theorem nodup_eraseDups (as : List α) : as.eraseDups.Nodup := by
  match as with
  | [] => exact List.nodup_nil
  | a :: rest =>
    rw [List.eraseDups_cons, List.nodup_cons, List.mem_eraseDups]
    exact ⟨by simp, nodup_eraseDups (rest.filter fun other => !other == a)⟩
termination_by as.length
decreasing_by exact Nat.lt_succ_of_le (List.length_filter_le _ _)

theorem eraseDups_of_nodup (h : as.Nodup) : as.eraseDups = as := by
  induction as with
  | nil => rfl
  | cons a rest ih =>
    obtain ⟨hnot, hrest⟩ := List.nodup_cons.1 h
    have hkept : rest.filter (fun other => !other == a) = rest :=
      List.filter_eq_self.2 fun b hb => by
        have hne : b ≠ a := fun heq => hnot (heq ▸ hb)
        simpa using hne
    rw [List.eraseDups_cons, hkept, ih hrest]

/-- Elements with different images are repeated where their images are. -/
theorem eraseDups_map [BEq β] [LawfulBEq β] {f : α → β} (hf : f.Injective) (as : List α) :
    (as.map f).eraseDups = as.eraseDups.map f := by
  match as with
  | [] => rfl
  | a :: rest =>
    have hsame : (fun b => !b == f a) ∘ f = fun b => !b == a := by
      funext b
      rw [Function.comp_apply, Bool.eq_iff_iff]
      simp [hf.eq_iff]
    rw [List.map_cons, List.eraseDups_cons, List.eraseDups_cons, List.map_cons, List.filter_map, hsame,
      eraseDups_map hf (rest.filter fun b => !b == a)]
termination_by as.length
decreasing_by exact Nat.lt_succ_of_le (List.length_filter_le _ _)

end Repetitions

end Fieldbook
