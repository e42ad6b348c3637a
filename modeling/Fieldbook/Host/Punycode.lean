/-!
# Punycode

A label that has characters outside ASCII is written in ASCII as those of its characters that are ASCII,
followed by digits that say where the others go. The digits are numbers in a base of thirty-six in which a
number shows its own end: a digit below the threshold of its place is the last. How the thresholds lie depends
on a bias that adapts to the numbers so far.

* `encode` writes a label, `decode?` reads one.
-/

namespace Fieldbook.Punycode

/-- The character of a digit. -/
def digitChar (n : Nat) : Char :=
  if n < 26 then Char.ofNat ('a'.toNat + n) else Char.ofNat ('0'.toNat + (n - 26))

/-- The value of a digit. -/
def digitValue? (c : Char) : Option Nat :=
  if 'a' ≤ c ∧ c ≤ 'z' then some (c.toNat - 'a'.toNat)
  else if 'A' ≤ c ∧ c ≤ 'Z' then some (c.toNat - 'A'.toNat)
  else if '0' ≤ c ∧ c ≤ '9' then some (c.toNat - '0'.toNat + 26)
  else none

/-- The threshold of a place: no less than one and no more than twenty-six. -/
def threshold (place bias : Nat) : Nat :=
  if place ≤ bias + 1 then 1 else min 26 (place - bias)

theorem threshold_pos (place bias : Nat) : 0 < threshold place bias := by
  unfold threshold; split <;> omega

/-- Takes a number down until the bias can be read off it; `place` grows with every step. -/
def settle (n place : Nat) : Nat :=
  if 455 < n then settle (n / 35) (place + 36) else place + 36 * n / (n + 38)
termination_by n
decreasing_by omega

/-- The bias behind a number. The first number counts for less, and each for less the more characters there
are. -/
def adapt (n count : Nat) (isFirst : Bool) : Nat :=
  let n := if isFirst then n / 700 else n / 2
  settle (n + n / count) 0

/-! ## Writing -/

/-- The digits of a number from a place on. -/
def digits (bias place n : Nat) : List Char :=
  let t := threshold place bias
  if n < t then [digitChar n]
  else digitChar (t + (n - t) % (36 - t)) :: digits bias (place + 36) ((n - t) / (36 - t))
termination_by n
decreasing_by
  have := threshold_pos place bias
  have := Nat.div_le_self (n - threshold place bias) (36 - threshold place bias)
  omega

/-- A label while it is written: the digits so far, how many places were passed since the last number, the bias
and how many characters are placed. -/
structure Writing where
  text : List Char
  passed : Nat := 0
  bias : Nat := 72
  placed : Nat

/-- Passes a character in the round for the code point: one of a lower code point is a place passed, and the
code point itself is placed. -/
def Writing.pass (basic code : Nat) (w : Writing) (c : Char) : Writing :=
  if c.toNat < code then { w with passed := w.passed + 1 }
  else if c.toNat = code then
    { text := w.text ++ digits w.bias 36 w.passed
      bias := adapt w.passed (w.placed + 1) (w.placed = basic)
      placed := w.placed + 1 }
  else w

/-- Goes through the label once for each of the ascending code points; `last` is the code point before them. -/
def rounds (label : List Char) (basic : Nat) : List Nat → Nat → Writing → Writing
  | [], _, w => w
  | code :: codes, last, w =>
    let w := { w with passed := w.passed + (code - last) * (w.placed + 1) }
    let w := label.foldl (Writing.pass basic code) w
    rounds label basic codes (code + 1) { w with passed := w.passed + 1 }

/-- The label in ASCII. -/
def encode (label : List Char) : List Char :=
  let basic := label.filter (· < '\x80')
  let codes := ((label.filter (!· < '\x80')).map Char.toNat).mergeSort.eraseReps
  let front := if basic.isEmpty then [] else basic ++ ['-']
  (rounds label basic.length codes 128 { text := front, placed := basic.length }).text

/-! ## Reading -/

/-- A label while it is read: its characters so far, the code point and the index where the next character
goes, the index where the number being read began, the weight and the place of its next digit, and the bias. -/
structure Reading where
  label : List Char
  code : Nat := 128
  index : Nat := 0
  start : Nat := 0
  weight : Nat := 1
  place : Nat := 36
  bias : Nat := 72

/-- Puts in the character that a number stands for. -/
def Reading.insert? (r : Reading) : Option Reading :=
  let count := r.label.length + 1
  let code := r.code + r.index / count
  let index := r.index % count
  if code.isValidChar then
    some
      { label := r.label.insertIdx index (Char.ofNat code)
        code
        index := index + 1
        start := index + 1
        bias := adapt (r.index - r.start) count (r.start = 0) }
  else none

/-- Takes a digit. -/
def Reading.digit? (r : Reading) (c : Char) : Option Reading := do
  let n ← digitValue? c
  let r := { r with index := r.index + n * r.weight }
  let t := threshold r.place r.bias
  if n < t then r.insert?
  else some { r with weight := r.weight * (36 - t), place := r.place + 36 }

/-- The label that is written so in ASCII: what stands before the last hyphen are its ASCII characters, and
without any there is no hyphen. -/
def decode? (text : List Char) : Option (List Char) := do
  let tail := (text.reverse.takeWhile (· != '-')).reverse
  let front := text.take (text.length - tail.length)
  if front.length = 1 then none
  let r ← tail.foldlM Reading.digit? { label := front.dropLast }
  if r.place = 36 then some r.label else none

end Fieldbook.Punycode
