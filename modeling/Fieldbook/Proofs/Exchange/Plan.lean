import Fieldbook.Exchange
import Fieldbook.Proofs.Text.Items
import Fieldbook.Proofs.Text.Lower
import Mathlib.Data.List.Nodup

/-!
# Where a written table is read

The headers of a written table are the keys of its fields. Guessed from them, every fixed field but the id
is read from its own column, whatever columns are declared (`Mapping.plan_append`). A declared one is too,
if it was made from a label: then the plan is the fields of the table with their places, the first one
left out (`plan_keys`).

What could lead astray is a header that stands for another field as well. No fixed field is named by the
key of another one (`names_key`). The id of a column made from a label has neither blanks nor capitals, so
it has the letters of no other column's id (`Column.OfLabel`), and it has the letters of no fixed key
unless it is reserved (`sameLetters_key_id`).
-/

namespace Fieldbook

/-! ## Columns made from labels -/

namespace Column

/-- The column is made from some label. -/
def OfLabel (column : Column) : Prop := ∃ label kind, column = ofLabel label kind

variable {column : Column}

/-- The id that belongs to a label has neither blanks nor capitals. -/
theorem char_idOfLabel {label : String} {c : Char} (hc : c ∈ (idOfLabel label).toList) :
    Text.isBlank c = false ∧ c.toLower = c := by
  rw [idOfLabel, String.toList_intercalate] at hc
  obtain hc | ⟨part, hpart, hc⟩ := Text.mem_intercalate hc
  · have heq : c = '_' := List.mem_singleton.1 hc
    subst heq
    exact ⟨by decide, by decide⟩
  · obtain ⟨word, hword, rfl⟩ := List.mem_map.1 hpart
    obtain ⟨hmem, hblank⟩ := Text.mem_of_mem_words hword hc
    rw [Text.lower, String.toList_ofList] at hmem
    exact ⟨hblank, Text.toLower_of_mem_lowerChars hmem⟩

theorem OfLabel.char_id (h : column.OfLabel) {c : Char} (hc : c ∈ column.id.toList) :
    Text.isBlank c = false ∧ c.toLower = c := by
  obtain ⟨label, kind, rfl⟩ := h
  have hid : (ofLabel label kind).id = idOfLabel label := by simp only [ofLabel]
  rw [hid] at hc
  exact char_idOfLabel hc

theorem OfLabel.trim_id (h : column.OfLabel) : Text.trim column.id = column.id :=
  Text.trim_eq_self ⟨fun _ hc => (h.char_id (List.mem_of_head? hc)).1,
    fun _ hc => (h.char_id (List.mem_of_getLast? hc)).1⟩

theorem OfLabel.eq_of_sameLetters {other : Column} (h : column.OfLabel) (hother : other.OfLabel)
    (hsame : Text.sameLetters column.id other.id = true) : column.id = other.id :=
  Text.eq_of_sameLetters (fun _ hc => (h.char_id hc).2) (fun _ hc => (hother.char_id hc).2) hsame

end Column

/-! ## Fixed fields -/

namespace Field

/-- No fixed field is named by the key of another one. -/
theorem names_key :
    ∀ f ∈ fixed, (fixed.map key).find? (Mapping.names f) = some f.key := by
  decide +kernel

theorem place?_key :
    ∀ f ∈ fixed, Mapping.place? (fixed.map key) f.key = some (fixed.idxOf f) := by
  decide +kernel

/-- No key has blanks at its ends or an underscore. -/
theorem key_plain : ∀ f ∈ fixed, Text.trim f.key = f.key ∧ '_' ∉ f.key.toList.map Char.toLower := by
  decide +kernel

/-- No column with a usable id has the letters of a fixed key. -/
theorem sameLetters_key_id {f : Field} (hf : f ∈ fixed) {column : Column}
    (h : column.isReserved = false) : Text.sameLetters f.key column.id = false := by
  refine eq_false_of_ne_true fun hsame => ?_
  -- The id has no underscore, so it is looked for among the keys as it is.
  have hfolded : column.foldedId = column.id := by
    rw [Column.foldedId, List.filter_eq_self.2, String.ofList_toList]
    intro c hc
    refine bne_iff_ne.2 ?_
    rintro rfl
    refine (key_plain f hf).2 ?_
    rw [Text.sameLetters_iff.1 hsame]
    exact List.mem_map.2 ⟨'_', hc, by decide⟩
  have hfound : (ofKey? column.foldedId).isSome = true := by
    rw [hfolded, ofKey?, List.find?_isSome]
    exact ⟨f, hf, hsame⟩
  rw [Column.isReserved, hfound, Bool.or_true] at h
  cases h

end Field

/-! ## The headers of a table -/

/-- Different columns made from labels, with usable ids. -/
structure Labelled (columns : List Column) : Prop where
  ofLabel : ∀ column ∈ columns, column.OfLabel
  ids : (columns.map Column.id).Nodup
  usable : ∀ column ∈ columns, column.isReserved = false

variable {columns : List Column}

theorem keys_exportFields (columns : List Column) :
    (exportFields columns).map Field.key = Field.fixed.map Field.key ++ columns.map Column.id := by
  rw [exportFields, List.map_append, List.map_map]
  rfl

theorem Labelled.trim_keys (h : Labelled columns) :
    ((exportFields columns).map Field.key).map Text.trim = (exportFields columns).map Field.key := by
  rw [List.map_map]
  refine List.map_congr_left fun f hf => ?_
  rcases List.mem_append.1 hf with hf | hf
  · exact (Field.key_plain f hf).1
  · obtain ⟨column, hcolumn, rfl⟩ := List.mem_map.1 hf
    exact (h.ofLabel column hcolumn).trim_id

namespace Mapping

/-- **Guessed from headers that begin with the fixed keys, every fixed field but the id is read from its
own column**, whatever headers follow. -/
theorem auto_append (ids : List String) :
    auto (Field.fixed.map Field.key ++ ids) = ⟨Field.fixed.tail.map fun f => (f, f.key)⟩ := by
  have hfixed : Field.fixed.filter (· != .id) = Field.fixed.tail := by decide
  rw [auto, hfixed]
  refine congrArg Mapping.mk <| .trans
    (List.filterMap_congr (g := some ∘ fun f => (f, f.key)) fun f hf => ?_)
    (congrFun List.filterMap_eq_map _)
  rw [List.find?_append, Field.names_key f (List.mem_of_mem_tail hf)]
  rfl

theorem place?_append {f : Field} (hf : f ∈ Field.fixed) (ids : List String) :
    place? (Field.fixed.map Field.key ++ ids) f.key = some (Field.fixed.idxOf f) := by
  have hplace := Field.place?_key f hf
  rw [place?] at hplace ⊢
  rw [List.findIdx?_append, hplace]
  rfl

/-- The fixed fields come first in such a plan, each with its own place, and then the declared columns,
for none of them is in the mapping. -/
theorem plan_append (ids : List String) (columns : List Column) :
    (auto (Field.fixed.map Field.key ++ ids)).plan columns (Field.fixed.map Field.key ++ ids) =
      (Field.fixed.tail.map fun f => (f, Field.fixed.idxOf f)) ++
        columns.filterMap fun column =>
          ((place? (Field.fixed.map Field.key ++ ids) column.id).or
            (place? (Field.fixed.map Field.key ++ ids) column.label)).map fun place =>
              (column.field, place) := by
  rw [plan, auto_append, List.filterMap_map]
  refine congrArg₂ _ ?_ rfl
  refine .trans (List.filterMap_congr (g := some ∘ fun f => (f, Field.fixed.idxOf f)) fun f hf => ?_)
    (congrFun List.filterMap_eq_map _)
  have hplace := place?_append (List.mem_of_mem_tail hf) ids
  simp only [Function.comp_apply, hplace, Option.map_some]
  refine if_pos ?_
  -- A fixed field other than the id is read wherever its header is.
  cases f with
  | id => simp [Field.fixed, Stat.all] at hf
  | dynamic key => simp [Field.fixed, Stat.all] at hf
  | _ => rfl

/-- A declared column is where its id is. -/
theorem place?_id {front rest : List Column} {column : Column}
    (h : Labelled (front ++ column :: rest)) :
    place? ((exportFields (front ++ column :: rest)).map Field.key) column.id =
      some (front.length + Field.fixed.length) := by
  have hmem : column ∈ front ++ column :: rest := by simp
  have hfixed : (Field.fixed.map Field.key).findIdx? (Text.sameLetters · column.id) = none := by
    rw [List.findIdx?_eq_none_iff]
    intro key hkey
    obtain ⟨f, hf, rfl⟩ := List.mem_map.1 hkey
    exact Field.sameLetters_key_id hf (h.usable column hmem)
  have hfront : (front.map Column.id).findIdx? (Text.sameLetters · column.id) = none := by
    rw [List.findIdx?_eq_none_iff]
    intro id hid
    obtain ⟨other, hother, rfl⟩ := List.mem_map.1 hid
    refine eq_false_of_ne_true fun hsame => ?_
    have heq := (h.ofLabel other (List.mem_append_left _ hother)).eq_of_sameLetters
      (h.ofLabel column hmem) hsame
    have hids := h.ids
    rw [List.map_append, List.nodup_append] at hids
    exact hids.2.2 other.id hid column.id List.mem_cons_self heq
  rw [place?, keys_exportFields, List.findIdx?_append, hfixed, List.map_append,
    List.findIdx?_append, hfront, List.map_cons, List.findIdx?_cons, Text.sameLetters_self]
  simp

theorem guessed_keys (front : List Column) (h : Labelled (front ++ columns)) :
    (columns.filterMap fun column =>
      ((place? ((exportFields (front ++ columns)).map Field.key) column.id).or
        (place? ((exportFields (front ++ columns)).map Field.key) column.label)).map fun place =>
          (column.field, place)) =
      (columns.map Column.field).zipIdx (front.length + Field.fixed.length) := by
  induction columns generalizing front with
  | nil => rfl
  | cons column rest ih =>
    have hrest := ih (front ++ [column]) (by simpa using h)
    rw [List.append_assoc, List.singleton_append, List.length_append, List.length_singleton,
      Nat.add_right_comm] at hrest
    rw [List.filterMap_cons, place?_id h, List.map_cons, List.zipIdx_cons, ← hrest]
    rfl

/-- **Every field of a written table but the id is read from its own place.** -/
theorem plan_keys (h : Labelled columns) :
    (auto ((exportFields columns).map Field.key)).plan columns ((exportFields columns).map Field.key) =
      (exportFields columns).zipIdx.tail := by
  have hfields : (exportFields columns).zipIdx.tail =
      (Field.fixed.tail.map fun f => (f, Field.fixed.idxOf f)) ++
        (columns.map Column.field).zipIdx (0 + Field.fixed.length) := by
    rw [exportFields, List.zipIdx_append]
    rfl
  have hguessed := guessed_keys [] h
  rw [List.nil_append, List.length_nil, keys_exportFields] at hguessed
  rw [hfields, keys_exportFields, plan_append, hguessed]

end Mapping

end Fieldbook
