import Fieldbook.Json.Printer
import Fieldbook.Json.Reader
import Fieldbook.Proofs.Json.Numeral

/-!
# Strings and numbers, written and read

A string and a numeral are read back from what is written for them, whatever stands behind:

* `string?_flatMap_escape`, over the three ways of writing a character (`escape_cases`), each of which is
  read as one part (`exists_part`);
* `numeral?_printNumeral`, for a numeral has no end of its own: it stops where no digit, no point and no
  exponent can go on, as before a comma or a line break (`Behind`).
-/

namespace Fieldbook.Json

/-! ## Strings -/

theorem hexDigit?_hexDigit : ∀ n < 16, hexDigit? (.char (hexDigit n)) = some n := by decide

/-- A character is written as a letter behind a backslash, by its number or as itself. -/
theorem escape_cases (c : Char) :
    (∃ e, escape c = ['\\', e] ∧ escaped? e = some c) ∨
    (c.toNat < 0x20 ∧
      escape c = ['\\', 'u', '0', '0', hexDigit (c.toNat / 16), hexDigit (c.toNat % 16)]) ∨
    (escape c = [c] ∧ c ≠ '"' ∧ c ≠ '\\' ∧ 0x20 ≤ c.toNat) := by
  unfold escape
  split_ifs with hquote hback hb hf hn hr ht hcontrol
  · exact .inl ⟨'"', rfl, by rw [hquote]; rfl⟩
  · exact .inl ⟨'\\', rfl, by rw [hback]; rfl⟩
  · exact .inl ⟨'b', rfl, by rw [hb]; rfl⟩
  · exact .inl ⟨'f', rfl, by rw [hf]; rfl⟩
  · exact .inl ⟨'n', rfl, by rw [hn]; rfl⟩
  · exact .inl ⟨'r', rfl, by rw [hr]; rfl⟩
  · exact .inl ⟨'t', rfl, by rw [ht]; rfl⟩
  · exact .inr (.inl ⟨hcontrol, rfl⟩)
  · exact .inr (.inr ⟨rfl, hquote, hback, Nat.not_lt.1 hcontrol⟩)

/-- A letter behind a backslash is read as the character it stands for. -/
theorem parts?_escaped {e c : Char} (h : escaped? e = some c) (rest : List Symbol) :
    parts? (.char '\\' :: .char e :: rest) =
      (parts? rest).map fun (ps, rest) => (.char c :: ps, rest) := by
  have hu : e ≠ 'u' := by rintro rfl; cases h
  rw [parts?, h]
  exact fun _ _ _ _ _ _ => hu

/-- A number of four digits is read as the unit it gives. -/
theorem parts?_unit {n : Nat} (h : n < 0x100) (rest : List Symbol) :
    parts? (['\\', 'u', '0', '0', hexDigit (n / 16), hexDigit (n % 16)].map .char ++ rest) =
      (parts? rest).map fun (ps, rest) => (.unit n :: ps, rest) := by
  have hzero : hexDigit? (.char '0') = some 0 := rfl
  have hvalue : n / 16 * 16 + n % 16 = n := by omega
  simp only [List.map_cons, List.map_nil, List.cons_append, List.nil_append]
  rw [parts?, hzero, hexDigit?_hexDigit (n / 16) (by omega),
    hexDigit?_hexDigit (n % 16) (Nat.mod_lt n (by decide))]
  simp [hvalue]

/-- A character that needs no escape is read as itself. -/
theorem parts?_plain {c : Char} (hquote : c ≠ '"') (hback : c ≠ '\\') (h : 0x20 ≤ c.toNat)
    (rest : List Symbol) :
    parts? (.char c :: rest) = (parts? rest).map fun (ps, rest) => (.char c :: ps, rest) := by
  rw [parts?]
  · have htest : (c.toNat < 0x20 || c == '\\') = false := by simp [hback]; omega
    simp [htest]
  all_goals simp_all

/-- A number below the surrogates spells its character, whatever follows. -/
theorem spell?_unit {n : Nat} (h : n < 0xD800) (ps : List Part) :
    spell? (.unit n :: ps) = (spell? ps).map (Char.ofNat n :: ·) := by
  have hhigh : isHighSurrogate n = false := by simp [isHighSurrogate]; omega
  have hlow : isLowSurrogate n = false := by simp [isLowSurrogate]; omega
  cases ps with
  | nil => simp [spell?, hhigh, hlow]
  | cons p ps => cases p <;> simp [spell?, hhigh, hlow]

/-- A character is written so that it is read as one part, which spells it. -/
theorem exists_part (c : Char) : ∃ p,
    (∀ rest, parts? ((escape c).map .char ++ rest) =
      (parts? rest).map fun (ps, rest) => (p :: ps, rest)) ∧
    ∀ ps, spell? (p :: ps) = (spell? ps).map (c :: ·) := by
  rcases escape_cases c with ⟨e, hwritten, he⟩ | ⟨hcontrol, hwritten⟩ | ⟨hwritten, hquote, hback, hc⟩
  · rw [hwritten]
    exact ⟨.char c, parts?_escaped he, fun ps => by rw [spell?]⟩
  · rw [hwritten]
    refine ⟨.unit c.toNat, parts?_unit (Nat.lt_trans hcontrol (by decide)), fun ps => ?_⟩
    rw [spell?_unit (Nat.lt_trans hcontrol (by decide)), Char.ofNat_toNat]
  · rw [hwritten]
    exact ⟨.char c, parts?_plain hquote hback hc, fun ps => by rw [spell?]⟩

/-- **What is written between quotes is read as it was.** -/
theorem exists_parts (cs : List Char) (rest : List Symbol) : ∃ ps,
    parts? ((cs.flatMap escape ++ ['"']).map .char ++ rest) = some (ps, rest) ∧
      spell? ps = some cs := by
  induction cs with
  | nil => exact ⟨[], by simp [parts?], rfl⟩
  | cons c cs ih =>
    obtain ⟨p, hread, hspell⟩ := exists_part c
    obtain ⟨ps, hparts, hps⟩ := ih
    refine ⟨p :: ps, ?_, by rw [hspell, hps]; rfl⟩
    rw [List.flatMap_cons, List.append_assoc, List.map_append, List.append_assoc, hread, hparts]
    rfl

/-- **A string is read back from what is written between its quotes.** -/
theorem string?_flatMap_escape (s : String) (rest : List Symbol) :
    string? ((s.toList.flatMap escape ++ ['"']).map .char ++ rest) = some (some s, rest) := by
  obtain ⟨ps, hparts, hps⟩ := exists_parts s.toList rest
  rw [string?, hparts]
  simp [hps]

/-! ## Numbers -/

/-- No digit comes first. -/
def NoDigit (symbols : List Symbol) : Prop :=
  ∀ c rest, symbols = .char c :: rest → Decimal.isDigit c = false

/-- The point and the places behind it as they are written. -/
def fractionText (fraction : List Char) : List Char :=
  if fraction.isEmpty then [] else '.' :: fraction

/-- An exponent as it is written. -/
def exponentText : Option Int → List Char
  | none => []
  | some e => 'e' :: (if e < 0 then '-' else '+') :: Nat.toDigits 10 e.natAbs

theorem printNumeral_eq (n : Numeral) :
    printNumeral n =
      (if n.negative then ['-'] else []) ++
        (n.whole ++ (fractionText n.fraction ++ exponentText n.exponent)) := by
  rw [printNumeral, List.append_assoc, List.append_assoc]
  cases n.exponent <;> rfl

/-- What can stand behind a document: nothing, a comma or a line break. -/
def Behind : List Symbol → Prop
  | [] => True
  | s :: _ => s = .char ',' ∨ s = .char '\n'

variable {rest : List Symbol}

theorem Behind.noDigit (h : Behind rest) : NoDigit rest := by
  rintro c more rfl
  rcases h with h | h <;> cases h <;> rfl

theorem digits_of_noDigit (h : NoDigit rest) : digits rest = ([], rest) := by
  match rest with
  | [] => rfl
  | .stray _ :: _ => rfl
  | .char c :: more => simp [digits, h c more rfl]

/-- The digits up to something else are read. -/
theorem digits_append {cs : List Char} (hcs : ∀ c ∈ cs, Decimal.isDigit c = true)
    (hrest : NoDigit rest) : digits (cs.map .char ++ rest) = (cs, rest) := by
  induction cs with
  | nil => exact digits_of_noDigit hrest
  | cons c cs ih =>
    have hmore := ih fun d hd => hcs d (List.mem_cons_of_mem c hd)
    simp [digits, hcs c List.mem_cons_self, hmore]

theorem whole?_append {cs : List Char} (hne : cs ≠ []) (hcs : ∀ c ∈ cs, Decimal.isDigit c = true)
    (hleading : ∀ more, cs = '0' :: more → more = []) (hrest : NoDigit rest) :
    whole? (cs.map .char ++ rest) = some (cs, rest) := by
  rw [whole?, digits_append hcs hrest]
  split
  · next heq => exact absurd (congrArg Prod.fst heq) hne
  · next heq => cases hleading _ (congrArg Prod.fst heq)
  · next heq => rw [← heq]

theorem fraction?_append {cs : List Char} (hcs : ∀ c ∈ cs, Decimal.isDigit c = true)
    (hrest : NoDigit rest) (hpoint : ∀ more, rest ≠ .char '.' :: more) :
    fraction? ((fractionText cs).map .char ++ rest) = some (cs, rest) := by
  cases cs with
  | nil =>
    rw [fractionText]
    simp
    rw [fraction?]
    exact hpoint
  | cons c cs =>
    have hdigits := digits_append hcs hrest
    rw [fractionText]
    simp at hdigits ⊢
    rw [fraction?, hdigits]

theorem exponentDigits?_append (negative : Bool) (n : Nat) (hrest : NoDigit rest) :
    exponentDigits? negative ((Nat.toDigits 10 n).map .char ++ rest) =
      some (some (if negative then -(n : Int) else n), rest) := by
  rw [exponentDigits?, digits_append (fun _ => Decimal.isDigit_of_mem_toDigits) hrest]
  split
  · next heq => exact absurd (congrArg Prod.fst heq) Nat.toDigits_ne_nil
  · next heq =>
    cases heq
    rw [Decimal.ofDigits?_toDigits]
    rfl

/-- An exponent is read back, and where none was written none is read. -/
theorem exponent?_append (e : Option Int) (hrest : Behind rest) :
    exponent? ((exponentText e).map .char ++ rest) = some (e, rest) := by
  cases e with
  | none =>
    match rest, hrest with
    | [], _ => rfl
    | .char c :: more, .inl h => cases h; rfl
    | .char c :: more, .inr h => cases h; rfl
  | some e =>
    by_cases he : e < 0
    · have hvalue : -(e.natAbs : Int) = e := by omega
      rw [exponentText, if_pos he]
      exact (exponentDigits?_append true e.natAbs hrest.noDigit).trans (by simp only [if_true, hvalue])
    · have hvalue : (e.natAbs : Int) = e := by omega
      rw [exponentText, if_neg he]
      exact (exponentDigits?_append false e.natAbs hrest.noDigit).trans
        (by simp only [Bool.false_eq_true, if_false, hvalue])

/-- **A numeral is read as it was**, wherever it ends. -/
theorem numeral?_printNumeral {n : Numeral} (hn : n.WellFormed) (hrest : Behind rest) :
    numeral? ((printNumeral n).map .char ++ rest) = some (n, rest) := by
  have hexponent := exponent?_append n.exponent hrest
  have hnoDigit : NoDigit ((exponentText n.exponent).map .char ++ rest) := by
    cases n.exponent with
    | none => exact hrest.noDigit
    | some e => rintro c more heq; cases heq; rfl
  have hnoPoint : ∀ more, (exponentText n.exponent).map .char ++ rest ≠ .char '.' :: more := by
    cases n.exponent with
    | none => rintro more rfl; rcases hrest with h | h <;> cases h
    | some e => rintro more heq; cases heq
  have hfraction := fraction?_append hn.fraction hnoDigit hnoPoint
  have hnoDigit' : NoDigit ((fractionText n.fraction).map .char ++
      ((exponentText n.exponent).map .char ++ rest)) := by
    cases n.fraction with
    | nil => exact hnoDigit
    | cons d ds => rintro c more heq; cases heq; rfl
  have hwhole := whole?_append hn.whole_ne_nil hn.whole hn.leading hnoDigit'
  obtain ⟨negative, whole, fraction, exponent⟩ := n
  rw [printNumeral_eq]
  simp only [List.map_append, List.append_assoc] at hwhole ⊢
  cases negative with
  | true =>
    simp only [if_true, List.map_cons, List.map_nil, List.cons_append, List.nil_append]
    rw [numeral?]
    simp [hwhole, hfraction, hexponent]
  | false =>
    -- The first character is a digit and so no sign.
    obtain ⟨c, cs, rfl⟩ := List.exists_cons_of_ne_nil hn.whole_ne_nil
    have hc : c ≠ '-' := by
      rintro rfl
      exact absurd (hn.whole '-' List.mem_cons_self) (by decide)
    simp only [Bool.false_eq_true, if_false, List.map_cons, List.map_nil, List.cons_append,
      List.nil_append] at hwhole ⊢
    rw [numeral?]
    · simp [hwhole, hfraction, hexponent]
    · rintro more heq
      cases heq
      exact hc rfl

end Fieldbook.Json
