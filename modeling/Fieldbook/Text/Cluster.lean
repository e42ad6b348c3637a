import Fieldbook.Text.Cluster.Table

/-!
# Clusters

A reader takes some runs of characters for one: a letter with its accents, two indicators for a flag, a
family of pictographs. Such a run is a cluster. Where a text falls into clusters follows the rules of the
Unicode standard for extended grapheme clusters: every character has a role (`roleOf`), and whether one
more character belongs to a cluster depends on the role of the character that the cluster ends with and on
what that end leaves open (`Opening`).
-/

namespace Fieldbook.Text

namespace Cluster

/-- What a character is to the characters beside it. -/
inductive Role where
  /-- A control character, which stands alone. -/
  | control
  | carriageReturn
  | lineFeed
  /-- A mark, which belongs to what is before it. -/
  | mark
  /-- A mark that links the consonants around it. -/
  | linker
  /-- The mark that keeps two consonants apart. -/
  | nonJoiner
  /-- The mark that joins two pictographs. -/
  | joiner
  /-- A mark that takes up room. -/
  | spacing
  /-- A mark that belongs to what is behind it. -/
  | prepend
  /-- One half of a flag. -/
  | indicator
  /-- A leading consonant of a Korean syllable. -/
  | leading
  /-- A vowel of a Korean syllable. -/
  | vowel
  /-- A trailing consonant of a Korean syllable. -/
  | trailing
  /-- A Korean syllable that ends in its vowel. -/
  | openSyllable
  /-- A Korean syllable with a trailing consonant. -/
  | closedSyllable
  | picture
  /-- A consonant of a script that writes several as one sign. -/
  | consonant
  | other
  deriving DecidableEq

/-- The role of a Korean syllable; every twenty-eighth ends in its vowel. -/
def syllableRole (c : Char) : Role :=
  if (c.toNat - 0xAC00) % 28 = 0 then .openSyllable else .closedSyllable

/-- The role of a character outside ASCII. -/
def wideRole (c : Char) : Role :=
  if c = '\u200C' then .nonJoiner
  else if c = '\u200D' then .joiner
  else if 0xAC00 ≤ c.toNat ∧ c.toNat ≤ 0xD7A3 then syllableRole c
  else if 0x1F1E6 ≤ c.toNat ∧ c.toNat ≤ 0x1F1FF then .indicator
  else if linkerIntervals.has c then .linker
  else if extendIntervals.has c then .mark
  else if spacingIntervals.has c then .spacing
  else if pictureIntervals.has c then .picture
  else if consonantIntervals.has c then .consonant
  else if controlIntervals.has c then .control
  else if prependIntervals.has c then .prepend
  else if leadingIntervals.has c then .leading
  else if vowelIntervals.has c then .vowel
  else if trailingIntervals.has c then .trailing
  else .other

/-- The role of a character. -/
def roleOf (c : Char) : Role :=
  if c = '\r' then .carriageReturn
  else if c = '\n' then .lineFeed
  else if c < ' ' then .control
  else if c < '\x7f' then .other
  else wideRole c

/-- What the end of a cluster leaves open. -/
inductive Opening where
  | nothing
  /-- A pictograph and marks: a joiner would join a pictograph to it. -/
  | picture
  /-- The same with its joiner: a pictograph would be joined. -/
  | joined
  /-- A consonant and marks: a linker would link a consonant to it. -/
  | consonant
  /-- The same with a linker: a consonant would be linked. -/
  | linked
  /-- Half a flag: the other half would complete it. -/
  | indicator
  deriving DecidableEq

/-- What is open once a character of this role is added. -/
def Opening.after (opening : Opening) : Role → Opening
  | .picture => .picture
  | .consonant => .consonant
  | .indicator => if opening = .indicator then .nothing else .indicator
  | .mark => if opening ∈ [.picture, .consonant, .linked] then opening else .nothing
  | .linker =>
    match opening with
    | .picture => .picture
    | .consonant | .linked => .linked
    | _ => .nothing
  | .nonJoiner => if opening = .picture then .picture else .nothing
  | .joiner =>
    match opening with
    | .picture => .joined
    | .consonant | .linked => opening
    | _ => .nothing
  | _ => .nothing

end Cluster

/-- A cluster: its characters, the last one first, and what the last one is and leaves open. -/
structure Cluster where
  chars : List Char
  last : Cluster.Role
  opening : Cluster.Opening

namespace Cluster

/-- A cluster of one character. -/
def start (c : Char) : Cluster := ⟨[c], roleOf c, Opening.nothing.after (roleOf c)⟩

/-- The cluster with one more character. -/
def add (k : Cluster) (c : Char) : Cluster :=
  ⟨c :: k.chars, roleOf c, k.opening.after (roleOf c)⟩

/-- A character of this role behind the cluster belongs to it. The first of these rules that says anything
decides. -/
def takes (k : Cluster) (role : Role) : Bool :=
  match k.last, role with
  | .carriageReturn, .lineFeed => true
  | .control, _ | .carriageReturn, _ | .lineFeed, _ => false
  | _, .control | _, .carriageReturn | _, .lineFeed => false
  | .leading, .leading | .leading, .vowel | .leading, .openSyllable | .leading, .closedSyllable => true
  | .openSyllable, .vowel | .openSyllable, .trailing | .vowel, .vowel | .vowel, .trailing => true
  | .closedSyllable, .trailing | .trailing, .trailing => true
  | _, .mark | _, .linker | _, .nonJoiner | _, .joiner | _, .spacing => true
  | .prepend, _ => true
  | _, .consonant => k.opening = .linked
  | _, .picture => k.opening = .joined
  | _, .indicator => k.opening = .indicator
  | _, _ => false

/-- Adds a character behind clusters, which are given last one first. -/
def push : List Cluster → Char → List Cluster
  | [], c => [start c]
  | k :: front, c => if k.takes (roleOf c) then k.add c :: front else start c :: k :: front

end Cluster

/-- The clusters of a text, the last one first. -/
def clusters (cs : List Char) : List Cluster :=
  cs.foldl Cluster.push []

end Fieldbook.Text
