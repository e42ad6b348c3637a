import Fieldbook.Text.Items
import Mathlib.Data.List.Basic

/-!
# Lists in one cell, written and read

On either side of a divider a cell is read for itself (`splitItems_append`). So items that a cell can hold
(`IsItem`) are read from it as they were written (`splitItems_joinItems`), whichever divider stands between
them. Whatever is read from a cell is such items (`isItem_of_mem_splitItems`), and writing them again changes
nothing that is read: they are the normal form of the cell (`splitItems_normal`). A cell written from them is
trimmed, so that nothing is lost when it is trimmed once more (`trim_joinItems`).
-/

namespace Fieldbook.Text

/-- What a list in one cell can hold: not empty, without blanks at the ends and without a divider. -/
structure IsItem (item : String) : Prop where
  ne_empty : item ≠ ""
  trim_eq : trim item = item
  undivided : '|' ∉ item.toList ∧ ',' ∉ item.toList

/-- A text that ends in no blanks is the same when it is trimmed. -/
theorem trim_eq_self {s : String} (h : Trimmed s.toList) : trim s = s := by
  rw [trim, trimChars_eq_self h, String.ofList_toList]

/-- A text without blanks is the same when it is trimmed. -/
theorem trim_of_not_isBlank {s : String} (h : ∀ c ∈ s.toList, isBlank c = false) : trim s = s :=
  trim_eq_self ⟨fun c hc => h c (List.mem_of_head? hc), fun c hc => h c (List.mem_of_getLast? hc)⟩

theorem isBlank_of_isDigit {c : Char} (h : c.isDigit = true) : isBlank c = false := by
  simp only [Char.isDigit, Bool.and_eq_true, decide_eq_true_eq] at h
  have hfirst : 48 ≤ c.toNat := UInt32.le_iff_toNat_le.1 h.1
  have hlast : c.toNat ≤ 57 := UInt32.le_iff_toNat_le.1 h.2
  simp [isBlank]
  omega

theorem trim_trim (s : String) : trim (trim s) = trim s := by
  refine trim_eq_self ?_
  rw [trim, String.toList_ofList]
  exact trimmed_trimChars s.toList

theorem trimmed_toList_of_trim_eq {s : String} (h : trim s = s) : Trimmed s.toList := by
  rw [← h, trim, String.toList_ofList]
  exact trimmed_trimChars s.toList

/-- What is put together from parts holds what they do and what divides them. -/
theorem mem_intercalate {divider : List Char} {parts : List (List Char)} {c : Char}
    (h : c ∈ divider.intercalate parts) : c ∈ divider ∨ ∃ part ∈ parts, c ∈ part := by
  induction parts with
  | nil => simp at h
  | cons part rest ih =>
    cases rest with
    | nil => exact .inr ⟨part, List.mem_cons_self, by simpa using h⟩
    | cons next rest =>
      rw [List.intercalate_cons_cons, List.mem_append, List.mem_append] at h
      rcases h with (h | h) | h
      · exact .inr ⟨part, List.mem_cons_self, h⟩
      · exact .inl h
      · obtain hdivider | ⟨p, hp, hc⟩ := ih h
        · exact .inl hdivider
        · exact .inr ⟨p, List.mem_cons_of_mem part hp, hc⟩

/-- What is put together from trimmed parts, none of them empty, is trimmed. -/
theorem trimmed_intercalate {divider : List Char} {parts : List (List Char)}
    (h : ∀ part ∈ parts, part ≠ [] ∧ Trimmed part) : Trimmed (divider.intercalate parts) := by
  induction parts with
  | nil => exact ⟨nofun, nofun⟩
  | cons part rest ih =>
    obtain ⟨hpart, htrimmed⟩ := h part List.mem_cons_self
    cases rest with
    | nil => simpa using htrimmed
    | cons next rest =>
      have htail := ih fun p hp => h p (List.mem_cons_of_mem part hp)
      have hne : divider.intercalate (next :: rest) ≠ [] := by
        have hnext := (h next (List.mem_cons_of_mem part List.mem_cons_self)).1
        cases rest <;> simp [List.intercalate_cons_cons, hnext]
      rw [List.intercalate_cons_cons, List.append_assoc]
      refine ⟨fun c hc => htrimmed.1 c ?_, fun c hc => htail.2 c ?_⟩
      · rwa [List.head?_append_of_ne_nil part hpart] at hc
      · rwa [List.getLast?_append_of_ne_nil _ (List.append_ne_nil_of_right_ne_nil divider hne),
          List.getLast?_append_of_ne_nil _ hne] at hc

/-- What a piece of a list holds is in the list, and divides no pieces. -/
theorem mem_of_mem_splitOnP {divides : Char → Bool} {text piece : List Char}
    (h : piece ∈ text.splitOnP divides) {c : Char} (hc : c ∈ piece) : c ∈ text ∧ divides c = false := by
  induction text generalizing piece with
  | nil =>
    rw [List.splitOnP_nil, List.mem_singleton] at h
    subst h
    cases hc
  | cons d text ih =>
    rw [List.splitOnP_cons_eq_if_modifyHead] at h
    split at h
    · rcases List.mem_cons.1 h with rfl | h
      · cases hc
      · exact ⟨List.mem_cons_of_mem d (ih h hc).1, (ih h hc).2⟩
    · next hd =>
      obtain ⟨first, pieces, hpieces⟩ := List.exists_cons_of_ne_nil (List.splitOnP_ne_nil divides text)
      rw [hpieces] at h ih
      rcases List.mem_cons.1 h with rfl | h
      · rcases List.mem_cons.1 hc with rfl | hc
        · exact ⟨List.mem_cons_self, eq_false_of_ne_true hd⟩
        · have hin := ih List.mem_cons_self hc
          exact ⟨List.mem_cons_of_mem d hin.1, hin.2⟩
      · have hin := ih (List.mem_cons_of_mem first h) hc
        exact ⟨List.mem_cons_of_mem d hin.1, hin.2⟩

theorem mem_of_mem_trimChars {cs : List Char} {c : Char} (h : c ∈ trimChars cs) : c ∈ cs := by
  rw [trimChars, trimEnd, List.mem_reverse] at h
  have hback := List.mem_reverse.1 ((List.dropWhile_suffix isBlank).subset h)
  exact (List.dropWhile_suffix isBlank).subset hback

/-! ## Items -/

section Item

variable {item : String}

theorem IsItem.ne_nil (h : IsItem item) : item.toList ≠ [] := fun hnil =>
  h.ne_empty (String.toList_eq_nil_iff.1 hnil)

theorem IsItem.trimmed (h : IsItem item) : Trimmed item.toList := trimmed_toList_of_trim_eq h.trim_eq

theorem IsItem.not_isDivider (h : IsItem item) {c : Char} (hc : c ∈ item.toList) :
    isDivider c = false := by
  refine eq_false_of_ne_true fun hdivider => ?_
  rw [isDivider, Bool.or_eq_true, beq_iff_eq, beq_iff_eq] at hdivider
  rcases hdivider with rfl | rfl
  · exact h.undivided.1 hc
  · exact h.undivided.2 hc

/-- **What is read from a cell as an item of a list can stand in a cell as one.** -/
theorem isItem_of_mem_splitItems {s : String} (h : item ∈ splitItems s) : IsItem item := by
  obtain ⟨part, hpart, rfl⟩ := List.mem_map.1 h
  obtain ⟨hpart, hfull⟩ := List.mem_filter.1 hpart
  obtain ⟨piece, hpiece, rfl⟩ := List.mem_map.1 hpart
  have hundivided : ∀ c ∈ trimChars piece, isDivider c = false := fun c hc =>
    (mem_of_mem_splitOnP hpiece (mem_of_mem_trimChars hc)).2
  refine ⟨fun hempty => ?_, ?_, ?_⟩
  · have hnil := congrArg String.toList hempty
    rw [String.toList_ofList] at hnil
    simp [hnil] at hfull
  · rw [trim, String.toList_ofList, trimChars_trimChars]
  · rw [String.toList_ofList]
    exact ⟨fun hbar => Bool.noConfusion (hundivided '|' hbar), fun hcomma =>
      Bool.noConfusion (hundivided ',' hcomma)⟩

end Item

variable {divider : String} {d : Char} {items : List String}

theorem toList_joinItems (hdivider : divider.toList = [d]) (items : List String) :
    (joinItems divider items).toList = [d].intercalate (items.map String.toList) := by
  rw [joinItems, String.toList_intercalate, hdivider]

theorem trim_joinItems (hdivider : divider.toList = [d]) (h : ∀ item ∈ items, IsItem item) :
    trim (joinItems divider items) = joinItems divider items := by
  refine trim_eq_self ?_
  rw [toList_joinItems hdivider]
  refine trimmed_intercalate fun part hpart => ?_
  obtain ⟨item, hitem, rfl⟩ := List.mem_map.1 hpart
  exact ⟨(h item hitem).ne_nil, (h item hitem).trimmed⟩

theorem splitItems_empty : splitItems "" = [] := by decide +kernel

/-- **On either side of a divider a cell is read for itself.** All that is known of reading a cell follows
from this and from what an item is. -/
theorem splitItems_append (hdivider : divider.toList = [d]) (hd : isDivider d = true) (a b : String) :
    splitItems (a ++ divider ++ b) = splitItems a ++ splitItems b := by
  have hsplit : (a ++ divider ++ b).toList.splitOnP isDivider =
      a.toList.splitOnP isDivider ++ b.toList.splitOnP isDivider := by
    rw [String.toList_append, String.toList_append, hdivider, List.append_assoc, List.singleton_append,
      List.splitOnP_append_cons _ _ hd]
  simp only [splitItems, hsplit, List.map_append, List.filter_append]

/-- An item that stands alone is the one item of its cell. -/
theorem splitItems_of_isItem {item : String} (h : IsItem item) : splitItems item = [item] := by
  have hfull : item.toList.isEmpty = false := List.isEmpty_eq_false_iff.2 h.ne_nil
  rw [splitItems, List.splitOnP_eq_singleton fun c hc => h.not_isDivider hc, List.map_singleton,
    trimChars_eq_self h.trimmed]
  simp [hfull]

/-- **The items of a list are read as they were written.** -/
theorem splitItems_joinItems (hdivider : divider.toList = [d]) (hd : isDivider d = true)
    (h : ∀ item ∈ items, IsItem item) : splitItems (joinItems divider items) = items := by
  induction items with
  | nil => exact splitItems_empty
  | cons item rest ih =>
    have hitem : splitItems item = [item] := splitItems_of_isItem (h item List.mem_cons_self)
    cases rest with
    | nil => rw [joinItems, String.intercalate_singleton, hitem]
    | cons next rest =>
      have hrest : splitItems (joinItems divider (next :: rest)) = next :: rest :=
        ih fun i hi => h i (List.mem_cons_of_mem item hi)
      rw [joinItems, String.intercalate_cons_cons, ← joinItems, splitItems_append hdivider hd, hitem, hrest,
        List.singleton_append]

/-! ## The normal form -/

/-- **Its items are the normal form of a cell.** Whatever is read from a cell can stand in one, each side of a
divider is read for itself, and items that can stand in a cell are read as they are written, whichever divider
is put between them. So to write what was read changes nothing that is read. -/
theorem splitItems_normal (hdivider : divider ∈ ["|", ","]) :
    (∀ s, ∀ item ∈ splitItems s, IsItem item) ∧
      (∀ a b, splitItems (a ++ divider ++ b) = splitItems a ++ splitItems b) ∧
      (∀ items, (∀ item ∈ items, IsItem item) → splitItems (joinItems divider items) = items) ∧
      ∀ s, splitItems (joinItems divider (splitItems s)) = splitItems s := by
  obtain ⟨d, hchar, hd⟩ : ∃ d, divider.toList = [d] ∧ isDivider d = true := by
    rcases List.mem_pair.1 hdivider with rfl | rfl
    · exact ⟨'|', rfl, rfl⟩
    · exact ⟨',', rfl, rfl⟩
  refine ⟨fun s item => isItem_of_mem_splitItems, splitItems_append hchar hd,
    fun items => splitItems_joinItems hchar hd, fun s => ?_⟩
  exact splitItems_joinItems hchar hd fun item => isItem_of_mem_splitItems

/-- Blanks of every kind, items without a letter and both dividers in one cell. -/
theorem splitItems_normal_mixed :
    "," ∈ ["|", ","] ∧ (∀ item ∈ ["fire", "mr. mime"], IsItem item) ∧
      splitItems (" fire |\t" ++ "," ++ "\u3000mr. mime\u00a0,|") = ["fire", "mr. mime"] ∧
      splitItems (joinItems "," ["fire", "mr. mime"]) = ["fire", "mr. mime"] := by
  obtain ⟨hitems, happend, hjoin, -⟩ := @splitItems_normal "," (by decide)
  have hread : splitItems (" fire |\t" ++ "," ++ "\u3000mr. mime\u00a0,|") = ["fire", "mr. mime"] := by
    rw [happend]
    decide +kernel
  have hvalid : ∀ item ∈ ["fire", "mr. mime"], IsItem item := fun item hitem =>
    hitems _ item (hread.symm ▸ hitem)
  exact ⟨by decide, hvalid, hread, hjoin _ hvalid⟩

end Fieldbook.Text
