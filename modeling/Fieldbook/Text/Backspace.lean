import Fieldbook.Text.Cluster

/-!
# Backspaces

A backspace in a text that was typed stands for taking away the cluster before it. `edited` is the text
as it is meant: backspaces are carried out in order, and one with nothing before it does nothing.

How much a backspace takes away is counted in bytes, and the count is kept in a single byte; of a cluster
of 256 bytes or more it takes away only what the count shows. Such a count can end inside a character. The
line reader panics there, and the conversation is over; here the character stays whole (`Draft.dropBytes`).

* a text without backspaces stays as it is (`edited_of_not_mem`).
-/

namespace Fieldbook.Text

/-- A text while it is edited: its characters, the last one first, and the counts of its clusters. -/
structure Draft where
  chars : List Char := []
  counts : List Nat := []

namespace Draft

/-- Takes this many bytes away from characters. A character is taken whole or not at all: where the count of a
cluster of 256 bytes or more, which has wrapped, ends inside a character, the line reader panics, and here the
character is kept. -/
def dropBytes : Nat → List Char → List Char
  | n, c :: cs => if c.utf8Size ≤ n then dropBytes (n - c.utf8Size) cs else c :: cs
  | _, [] => []

/-- How many bytes characters take up. -/
def bytesOf : List Char → Nat
  | [] => 0
  | c :: cs => c.utf8Size + bytesOf cs

/-- The count of a cluster. -/
def countOf (cs : List Char) : Nat := bytesOf cs % 256

/-- Takes a backspace. -/
def erase (draft : Draft) : Draft :=
  match draft.counts with
  | [] => draft
  | n :: counts => ⟨dropBytes n draft.chars, counts⟩

/-- Takes one more cluster. -/
def take (k : Cluster) (draft : Draft) : Draft :=
  if k.chars = ['\x08'] then draft.erase
  else ⟨k.chars ++ draft.chars, countOf k.chars :: draft.counts⟩

end Draft

/-- The text with its backspaces carried out. -/
def editedChars (cs : List Char) : List Char :=
  if cs.contains '\x08' then ((clusters cs).foldr Draft.take {}).chars.reverse
  else cs

/-- The text with its backspaces carried out. -/
def edited (s : String) : String :=
  String.ofList (editedChars s.toList)

/-! ## Laws -/

/-- Without backspaces nothing is carried out, and no clusters are formed. -/
theorem editedChars_of_not_mem {cs : List Char} (h : '\x08' ∉ cs) : editedChars cs = cs := by
  simp [editedChars, h]

/-- A line without backspaces is meant as it stands. -/
theorem edited_of_not_mem {s : String} (h : '\x08' ∉ s.toList) : edited s = s := by
  rw [edited, editedChars_of_not_mem h, String.ofList_toList]

end Fieldbook.Text
