import Fieldbook.Proofs.Command.Separators
import Fieldbook.Proofs.Double.Whole

/-!
# What is selected by a text

A condition that asks for a text asks for what the text stands for, and compares what that shows. A text that
stands for itself is found wherever it is held. One that spells a number stands for the number, which is shown
in one way however it was spelled: `007` asks for `7`. So a row is selected by a text that it holds unless the
text spells a number in another way than the number is shown (`Row.selected_by_own_text`).
-/

namespace Fieldbook

/-! ## Numbers as they are shown -/

namespace Double

open Text

theorem isLowAscii_of_isDigit {c : Char} (h : Decimal.isDigit c = true) : isLowAscii c = true := by
  rw [Decimal.isDigit_eq, Char.isDigit_iff_toNat] at h
  obtain ⟨hzero, hnine⟩ := h
  have hzero' : 48 ≤ c.toNat := hzero
  have hnine' : c.toNat ≤ 57 := hnine
  rw [isLowAscii, Bool.or_eq_true, Bool.and_eq_true, decide_eq_true_iff, decide_eq_true_iff]
  exact .inl ⟨by omega, by omega⟩

theorem isLowAscii_of_mem_toString {n : Nat} : ∀ c ∈ (toString n).toList, isLowAscii c = true := by
  intro c hc
  rw [Nat.toString_eq_repr, Nat.repr_eq_ofList_toDigits, String.toList_ofList] at hc
  exact isLowAscii_of_isDigit (Decimal.isDigit_of_mem_toDigits hc)

/-- A finite number is shown by digits, a point and a sign, which are ASCII and no capitals. -/
theorem isLowAscii_of_mem_plain {x : Double} (h : x.isFinite = true) :
    ∀ c ∈ x.plain.toList, isLowAscii c = true := by
  have hzeros (n : Nat) : ∀ c ∈ List.replicate n '0', isLowAscii c = true := fun c hc =>
    isLowAscii_of_isDigit (Numeral.isDigit_of_mem_replicate hc)
  have hpoint : isLowAscii '.' = true := rfl
  have hminus : isLowAscii '-' = true := rfl
  have hzero : isLowAscii '0' = true := rfl
  cases x with
  | notANumber => cases h
  | infinite negative => cases h
  | finite negative m =>
    have hdigits : ∀ c ∈ (m.shortest .up).digits, isLowAscii c = true := fun c hc =>
      isLowAscii_of_isDigit (Decimal.isDigit_of_mem_toDigits hc)
    have htake (n : Nat) : ∀ c ∈ (m.shortest .up).digits.take n, isLowAscii c = true := fun c hc =>
      hdigits c (List.mem_of_mem_take hc)
    have hdrop (n : Nat) : ∀ c ∈ (m.shortest .up).digits.drop n, isLowAscii c = true := fun c hc =>
      hdigits c (List.mem_of_mem_drop hc)
    have hsigned {body : List Char} (hbody : ∀ c ∈ body, isLowAscii c = true) :
        ∀ c ∈ (if negative then '-' :: body else body), isLowAscii c = true := by
      cases negative with
      | false => exact hbody
      | true => exact List.forall_mem_cons.2 ⟨hminus, hbody⟩
    rw [plain]
    split
    · split
      · rw [String.toList_append]
        exact List.forall_mem_cons.2 ⟨hminus, isLowAscii_of_mem_toString⟩
      · exact isLowAscii_of_mem_toString
    · rw [String.toList_ofList]
      refine hsigned ?_
      split
      · exact List.forall_mem_append.2 ⟨hdigits, hzeros _⟩
      · split
        · exact List.forall_mem_append.2 ⟨htake _, List.forall_mem_cons.2 ⟨hpoint, hdrop _⟩⟩
        · refine List.forall_mem_append.2 ⟨?_, hdigits⟩
          exact List.forall_mem_cons.2 ⟨hzero, List.forall_mem_cons.2 ⟨hpoint, hzeros _⟩⟩

theorem lower_plain {x : Double} (h : x.isFinite = true) : lower x.plain = x.plain := by
  rw [lower, lowerChars_eq_self fun c hc => (isLow_of_isLowAscii (isLowAscii_of_mem_plain h c hc)).1,
    String.ofList_toList]

end Double

/-- The texts that a value holds. -/
def Value.texts : Value → List String
  | .text s => [s]
  | .list items => items
  | _ => []

/-- The texts that a row holds in a field. -/
def Row.texts (row : Row) (field : Field) : List String := (row.get? field).elim [] Value.texts

namespace Value

open Text

variable {value needle : Value} {s : String}

/-- A value that holds texts agrees with what one of them is shown as. -/
theorem agrees_iff_of_texts (h : s ∈ value.texts) :
    value.agrees needle = true ↔ ∃ t ∈ value.texts, lower t = lower needle.shown := by
  cases value with
  | text t => simp [agrees, texts, shown]
  | list items => simp [agrees, texts]
  | null => cases h
  | bool b => cases h
  | number x => cases h

/-- What a trimmed text in lower case stands for is shown as the text, unless it is a number. -/
theorem lower_shown_ofPhrase (htrim : trim s = s) (hlower : lower s = s) :
    lower (ofPhrase s).shown =
      (((Double.read? s).filter Double.isFinite).map Double.plain).getD s := by
  rw [ofPhrase, htrim]
  cases hread : (Double.read? s).filter Double.isFinite with
  | some x =>
    exact Double.lower_plain (by simpa using Option.mem_filter_iff.1 hread |>.2)
  | none =>
    dsimp only [Option.map_none, Option.getD_none]
    split
    · next htrue => rw [htrue] at hlower ⊢; exact hlower
    · split
      · next hfalse => rw [hfalse] at hlower ⊢; exact hlower
      · exact hlower

end Value

namespace Row

open Text

variable {row : Row} {field : Field} {s : String}

theorem selects_iff_of_texts {value : Value} (h : s ∈ row.texts field) :
    (⟨field, value⟩ : Condition).selects row = true ↔
      ∃ t ∈ row.texts field, lower t = lower value.shown := by
  rw [texts] at h ⊢
  rw [Condition.selects]
  cases hget : row.get? field with
  | none =>
    rw [hget] at h
    cases h
  | some current =>
    rw [hget] at h
    exact Value.agrees_iff_of_texts h

/-- A condition that asks for a text in lower case selects a row that holds the text, unless the text spells a
finite number; then it selects the row if that holds the text that the number is shown as. -/
theorem selects_ofPhrase_iff (hs : s ∈ row.texts field) (htrim : trim s = s) :
    (⟨field, .ofPhrase (lower s)⟩ : Condition).selects row = true ↔
      ∀ x, Double.read? (lower s) = some x → x.isFinite = true →
        ∃ t ∈ row.texts field, lower t = x.plain := by
  have hlower : trim (lower s) = lower s := trim_eq_self (trimmed_lower htrim)
  rw [selects_iff_of_texts hs, Value.lower_shown_ofPhrase hlower (lower_lower s)]
  cases hread : (Double.read? (lower s)).filter Double.isFinite with
  | some x =>
    obtain ⟨hx, hfinite⟩ := Option.filter_eq_some_iff.1 hread
    simp [hx, hfinite]
  | none =>
    refine iff_of_true ⟨s, hs, rfl⟩ fun x hx hfinite => ?_
    rw [hx, Option.filter_some, if_pos hfinite] at hread
    cases hread

/-- **A row is selected by a text that it holds**, asked for in lower case, unless the text spells a finite
number; then it is selected if it holds the text that the number is shown as. This is so in every field,
whether there is a name for it or not. And by every name of the field it is what a sentence with the text asks
for, unless there is a line break or a separator in the text. -/
theorem selected_by_own_text (hs : s ∈ row.texts field) (htrim : trim s = s) (hne : s ≠ "") :
    ((⟨field, .ofPhrase (lower s)⟩ : Condition).selects row = true ↔
      ∀ x, Double.read? (lower s) = some x → x.isFinite = true →
        ∃ t ∈ row.texts field, lower t = x.plain) ∧
    ∀ name, Condition.IsName name → Field.ofPhrase name = field →
      Condition.read? (Condition.lowerChars name s) =
        (if Condition.Splits (lower s).toList then none else some ⟨field, .ofPhrase (lower s)⟩) ∧
      Command.parse s!"delete where {name} is {s}" =
        (if '\n' ∈ s.toList ∨ Condition.Splits (lower s).toList then .unrecognized
          else .delete ⟨field, .ofPhrase (lower s)⟩) := by
  refine ⟨selects_ofPhrase_iff hs htrim, ?_⟩
  rintro name hname rfl
  exact ⟨Condition.read?_lowerChars hname htrim hne, Command.parse_deleteWhere_is hname htrim hne⟩

/-- One of the items of a list, which is shown as it is spelled though it stands for a number. -/
theorem selected_by_own_text_item :
    let row : Row := { id := "a", categories := ["Fire", "42"] }
    "42" ∈ row.texts .categories ∧ trim "42" = "42" ∧ "42" ≠ "" ∧ Condition.IsName "types" ∧
      Field.ofPhrase "types" = .categories ∧
      (⟨.categories, .ofPhrase (lower "42")⟩ : Condition).selects row = true ∧
      Command.parse "delete where types is 42" = .delete ⟨.categories, .ofPhrase (lower "42")⟩ := by
  intro row
  have hs : "42" ∈ row.texts .categories := List.mem_pair.2 (.inr rfl)
  have htrim : trim "42" = "42" := by decide
  have hword : ∀ word ∈ ["types"], IsLowWord word := isLowWord_of_isLowAscii (by decide)
  have hname : Condition.IsName "types" :=
    Condition.isName_of_isWord (hword _ (List.mem_singleton_self _)).toIsWord
  have hfield : Field.ofPhrase "types" = .categories := by decide +kernel
  obtain ⟨hselects, hnamed⟩ := selected_by_own_text hs htrim (by decide)
  obtain ⟨-, hparse⟩ := hnamed "types" hname hfield
  refine ⟨hs, htrim, by decide, hname, hfield, hselects.2 fun x hx hfinite => ⟨"42", hs, ?_⟩, ?_⟩
  · have hdigits : lower "42" = toString 42 := by decide +kernel
    rw [hdigits, Double.read?_toString (by decide)] at hx
    rw [hdigits, ← Option.some.inj hx, Double.plain_ofNat (by decide)]
  · exact (congrArg Command.parse (by decide)).trans (hparse.trans (if_neg (by decide +kernel)))

/-- A name that spells a number with zeros in front is not found, and one with a separator cannot be asked
for. -/
theorem not_selected_by_own_text :
    let row : Row := { id := "a", name := "007" }
    trim row.name = row.name ∧ row.name ≠ "" ∧
      (⟨.name, .ofPhrase (lower row.name)⟩ : Condition).selects row = false ∧
      Command.parse "delete where name is a is b" = .unrecognized := by
  decide +kernel

end Row

end Fieldbook
