import Fieldbook.Text.Composition.Table

/-!
# Composed texts

A letter with marks can be written in several ways: composed or letter by mark, the marks in this order or
in that. `composed` is the one way that has every letter composed with as many of its marks as there is a
character for. It takes the text apart, puts the marks behind each letter in the order of their ranks and
composes again; Korean syllables are taken apart and composed by rule.

Characters that stand for another one and are never composed are not known here; they stay as they are.
-/

namespace Fieldbook.Text

namespace Composition

/-- The rank of a mark; every other character has rank zero. -/
def rank (c : Char) : Nat :=
  match rankIntervals.find? fun i => i.1 ≤ c.toNat ∧ c.toNat ≤ i.2.1 with
  | some (_, _, r) => r
  | none => 0

/-- The letters of the Korean syllable, if the character is one. -/
def syllable? (c : Char) : Option (List Char) :=
  if 0xAC00 ≤ c.toNat ∧ c.toNat ≤ 0xD7A3 then
    let n := c.toNat - 0xAC00
    let trailing := if n % 28 = 0 then [] else [Char.ofNat (0x11A7 + n % 28)]
    some (Char.ofNat (0x1100 + n / 588) :: Char.ofNat (0x1161 + n % 588 / 28) :: trailing)
  else none

/-- The parts of a character, taken apart this many times over. -/
def parts : Nat → Char → List Char
  | 0, c => [c]
  | depth + 1, c =>
    match syllable? c with
    | some letters => letters
    | none =>
      match compositions.lookup c.toNat with
      | some (first, second) => parts depth (Char.ofNat first) ++ [Char.ofNat second]
      | none => [c]

/-- The parts of a character; no character has more than three marks. -/
def partsOf (c : Char) : List Char := if c < '\x80' then [c] else parts 3 c

/-- Puts a character with its rank behind others, which are given last one first: marks of a higher rank stay
behind it. -/
def place : List (Char × Nat) → Char × Nat → List (Char × Nat)
  | [], new => [new]
  | last :: front, new =>
    if new.2 ≠ 0 ∧ new.2 < last.2 then last :: place front new else new :: last :: front

/-- The parts of a text with their ranks, in order. -/
def arranged (cs : List Char) : List (Char × Nat) :=
  (((cs.flatMap partsOf).map fun c => (c, rank c)).foldl place []).reverse

/-- The Korean syllable that a letter or a syllable and a letter make. -/
def syllablePair? (a b : Char) : Option Char :=
  if 0x1100 ≤ a.toNat ∧ a.toNat < 0x1113 ∧ 0x1161 ≤ b.toNat ∧ b.toNat < 0x1176 then
    some (Char.ofNat (0xAC00 + (a.toNat - 0x1100) * 588 + (b.toNat - 0x1161) * 28))
  else if 0xAC00 ≤ a.toNat ∧ a.toNat ≤ 0xD7A3 ∧ (a.toNat - 0xAC00) % 28 = 0 ∧
      0x11A7 < b.toNat ∧ b.toNat < 0x11C3 then
    some (Char.ofNat (a.toNat + (b.toNat - 0x11A7)))
  else none

/-- The character that is composed of two. -/
def pair? (a b : Char) : Option Char :=
  match syllablePair? a b with
  | some c => some c
  | none =>
    (compositions.find? fun t => t.2.1 = a.toNat ∧ t.2.2 = b.toNat).map fun t => Char.ofNat t.1

/-- A text while it is composed: what is done, and the last letter with the marks that were not composed with
it, each list last one first. -/
structure Progress where
  done : List Char := []
  letter : Option Char := none
  marks : List (Char × Nat) := []

namespace Progress

/-- All characters, last one first. -/
def all (p : Progress) : List Char := p.marks.map (·.1) ++ (p.letter.toList ++ p.done)

/-- The letter with this character behind it, if nothing is in between that keeps them apart and there is such
a character. -/
def composed? (p : Progress) (new : Char × Nat) : Option Char :=
  match p.letter with
  | some letter =>
    if p.marks.all (·.2 < new.2) then pair? letter new.1 else none
  | none => none

/-- Takes one more character. -/
def take (p : Progress) (new : Char × Nat) : Progress :=
  match p.composed? new with
  | some letter => { p with letter := some letter }
  | none =>
    if new.2 = 0 then { done := p.all, letter := some new.1 } else { p with marks := new :: p.marks }

end Progress

end Composition

/-- The text with its letters composed. -/
def composed (cs : List Char) : List Char :=
  ((Composition.arranged cs).foldl Composition.Progress.take {}).all.reverse

end Fieldbook.Text
