import Fieldbook.Host.Name.Classes
import Fieldbook.Host.Name.Forms
import Fieldbook.Host.Punycode
import Fieldbook.Text.Composition

/-!
# Names of hosts

The name of a host is a row of labels with dots between. It may be given in any script, and is written in
ASCII (`Name.ascii?`): every character is replaced by the form it stands for, letters are composed, and a
label that is not ASCII then is written in Punycode behind `xn--`. The rules are those of the Unicode standard
for such names, in the lenient reading that lets hyphens stand anywhere and sets no limit to lengths.

A name is refused if it has a character that no name has, or a label

* that begins with a mark (`beginsWell`),
* with a joiner or a non-joiner where letters do not call for one (`joinsWell`),
* whose letters run in both directions, as far as the rules do not allow it (`runsWell`),
* that is written behind `xn--` in a way it never would be (`Name.said?`).
-/

namespace Fieldbook.Host.Name

/-! ## Forms -/

/-- The form of a character in one of the stretches. -/
def listedForm? (c : Char) : Option (List Char) :=
  (formLists.reverse.find? (·.1 ≤ c.toNat)).bind fun (first, forms) =>
    (forms.toList.splitOn ' ')[c.toNat - first]?

/-- What a character stands for, if names can have it. -/
def form? (c : Char) : Option (List Char) :=
  if c < '\x80' then some [c.toLower]
  else if Text.Intervals.has refusedIntervals c then none
  else if Text.Intervals.has silentIntervals c then some []
  else
    match Text.Run.shifted? formRuns c.toNat with
    | some n => some [Char.ofNat n]
    | none => some ((listedForm? c).getD [c])

/-- The characters that no name has, of those in ASCII. -/
def isForbidden (c : Char) : Bool :=
  c ≤ ' ' || c == '\x7f' || "#%/:<>?@[\\]^|".contains c

/-- The label is ASCII. -/
def isAscii (label : List Char) : Bool := label.all (· < '\x80')

/-! ## Marks and joiners -/

/-- The character is a mark. -/
def isMark (c : Char) : Bool :=
  Text.Intervals.has markIntervals c || Text.Intervals.has spacingIntervals c

/-- The label does not begin with a mark. -/
def beginsWell (label : List Char) : Bool := !label.head?.any isMark

/-- The character is looked past when joining letters are looked for. -/
def isTransparent (c : Char) : Bool := Text.Intervals.has markIntervals c || c.toNat == 0x1E94B

/-- The first character that is not looked past is one of the given. -/
def meets (set : Text.Intervals) (cs : List Char) : Bool :=
  (cs.dropWhile isTransparent).head?.any set.has

/-- The rank of the marks that take a consonant's vowel away. -/
def silencer : Nat := 9

/-- Every joiner and non-joiner of the rest of a label is called for: it follows a mark that takes a vowel
away, or it is a non-joiner between letters that would join. What precedes the rest is given last one first. -/
def joinsWell : List Char → List Char → Bool
  | _, [] => true
  | before, c :: after =>
    let silenced := before.head?.any fun d => Text.Composition.rank d = silencer
    let joined := meets joiningBackIntervals before && meets joiningFrontIntervals after
    (match c with
      | '\u200C' => silenced || joined
      | '\u200D' => silenced
      | _ => true) && joinsWell (c :: before) after

/-! ## Directions -/

/-- What a character is to the direction of its label. -/
inductive Direction where
  | rightward
  | leftward
  | arabicDigit
  | digit
  | neutral
  | mark
  deriving DecidableEq

/-- What a character is to the direction of its label. -/
def directionOf (c : Char) : Direction :=
  if Text.Intervals.has upright c then .rightward
  else if Text.Intervals.has markIntervals c then .mark
  else if Text.Intervals.has leftwardIntervals c then .leftward
  else if Text.Intervals.has arabicDigitIntervals c then .arabicDigit
  else if Text.Intervals.has digitIntervals c then .digit
  else if Text.Intervals.has neutralIntervals c then .neutral
  else .rightward

/-- A label with such a character is written from right to left. -/
def turns (direction : Direction) : Bool :=
  direction = .leftward || direction = .arabicDigit

/-- The directions of a label go together, given that some label of the name is written from right to left. -/
def runsWell (label : List Char) : Bool :=
  let directions := label.map directionOf
  let ending := (directions.reverse.dropWhile (· = .mark)).head?
  match directions.head? with
  | none => true
  | some .leftward =>
    directions.all (· ≠ .rightward) &&
      (ending.any fun d => d = .leftward ∨ d = .digit ∨ d = .arabicDigit) &&
      !(directions.contains .digit && directions.contains .arabicDigit)
  | some .rightward =>
    directions.all (fun d => d ≠ .leftward ∧ d ≠ .arabicDigit) &&
      (ending.any fun d => d = .rightward ∨ d = .digit)
  | some _ => false

/-! ## Labels -/

/-- What a label in ASCII begins with if it is written in Punycode. -/
def punycodeSign : List Char := ['x', 'n', '-', '-']

/-- A label outside ASCII is sound by itself. -/
def isSound (label : List Char) : Bool :=
  beginsWell label && joinsWell [] label

/-- The longest label outside ASCII. -/
def labelLimit : Nat := 1000

/-- The most characters behind `xn--`. -/
def punycodeLimit : Nat := 2000

/-- What a label says: one in ASCII behind `xn--` says what is written there, which must not be ASCII and
must be its own form; any other says itself. -/
def said? (label : List Char) : Option (List Char) :=
  if label.take 4 = punycodeSign then do
    if ¬ isAscii label ∨ punycodeLimit < label.length - 4 then none
    let said ← Punycode.decode? (label.drop 4)
    if isAscii said ∨ Text.composed said ≠ said ∨ said.any (fun c => form? c ≠ some [c]) then none
    if isSound said then some said else none
  else if isAscii label then some label
  else if label.length ≤ labelLimit ∧ isSound label then some label
  else none

/-- A label in ASCII. -/
def fold (label : List Char) : List Char :=
  if isAscii label then label else punycodeSign ++ Punycode.encode label

/-- A name in ASCII, if it is one. -/
def ascii? (name : List Char) : Option (List Char) := do
  let text := Text.composed (← name.mapM form?).flatten
  if text.any isForbidden then none
  let labels := text.splitOn '.'
  let said ← labels.mapM said?
  if said.any (·.any fun c => turns (directionOf c)) ∧ ¬ said.all runsWell then none
  some (['.'].intercalate (labels.map fold))

end Fieldbook.Host.Name
