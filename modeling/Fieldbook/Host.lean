import Fieldbook.Host.Name
import Fieldbook.Text.Escaped

/-!
# Hosts

A host is a name, a number of four bytes or a number of eight pieces. A name is brought into ASCII
(`Host.Name.ascii?`). One whose last part is a number is no name but a number, whose parts may be decimal,
octal behind a zero or hexadecimal behind `0x`, and of which the last fills all bytes that the others leave. A
number of eight pieces stands in brackets; a double colon stands for the zeros that are missing.

Where a scheme knows nothing of names a host is taken as it is (`Host.readPlain?`).
-/

namespace Fieldbook

/-- A host. -/
inductive Host where
  | name (text : String)
  /-- A number of four bytes. -/
  | number (value : Nat)
  /-- A number of eight pieces of two bytes each. -/
  | pieces (values : List Nat)
  deriving DecidableEq

namespace Host

/-! ## Numbers of four bytes -/

/-- The number that digits stand for in a base, if they are digits of it. -/
def digits? (base : Nat) (cs : List Char) : Option Nat :=
  cs.foldlM (fun n c => (Text.hexValue? c).bind fun d =>
    if d < base then some (n * base + d) else none) 0

/-- A part of a number: decimal, octal behind a zero, hexadecimal behind `0x`. -/
def part? : List Char → Option Nat
  | [] => none
  | ['0'] => some 0
  | '0' :: 'x' :: hex => digits? 16 hex
  | '0' :: octal => digits? 8 octal
  | decimal => digits? 10 decimal

/-- The parts of a number, if the last part of the name says that it is one. A dot at the end does not
count. -/
def parts? (name : List Char) : Option (List (List Char)) :=
  let parts := name.splitOn '.'
  let parts := if 1 < parts.length ∧ parts.getLast? = some [] then parts.dropLast else parts
  match parts.getLast? with
  | some last =>
    if !last.isEmpty &&
        (last.all Char.isDigit || (last.take 2 == ['0', 'x'] && (part? last).isSome)) then
      some parts
    else none
  | none => none

/-- The value of parts that fill this many bytes: each fills one, and the last all that are left. -/
def value? : Nat → List Nat → Option Nat
  | _, [] => none
  | bytes, [last] => if last < 1 <<< (8 * bytes) then some last else none
  | 0, _ => none
  | bytes + 1, n :: rest =>
    if n < 256 then (value? bytes rest).map (n * 1 <<< (8 * bytes) + ·) else none

/-- The number that a name in ASCII says, or else the name. -/
def ofName? (name : List Char) : Option Host :=
  match parts? name with
  | none => if name.isEmpty then none else some (.name (String.ofList name))
  | some parts => do
    if 4 < parts.length then none
    return .number (← value? 4 (← parts.mapM part?))

/-! ## Numbers of eight pieces -/

/-- One piece: one to four digits in base sixteen. -/
def piece? (cs : List Char) : Option (List Nat) :=
  if 1 ≤ cs.length ∧ cs.length ≤ 4 then (digits? 16 cs).map ([·]) else none

/-- A byte in decimal, without a zero in front. -/
def byte? (cs : List Char) : Option Nat :=
  if cs.isEmpty ∨ (1 < cs.length ∧ cs.head? = some '0') then none
  else (digits? 10 cs).filter (· < 256)

/-- The last two pieces as four bytes in decimal. -/
def quad? (cs : List Char) : Option (List Nat) := do
  match ← (cs.splitOn '.').mapM byte? with
  | [a, b, c, d] => some [256 * a + b, 256 * c + d]
  | _ => none

/-- Pieces with colons between; nothing has none. -/
def plainPieces? (cs : List Char) : Option (List Nat) :=
  if cs.isEmpty then some [] else ((cs.splitOn ':').mapM piece?).map List.flatten

/-- Pieces with colons between, of which the last two may be four bytes. -/
def lastPieces? (cs : List Char) : Option (List Nat) :=
  if cs.isEmpty then some []
  else
    let groups := cs.splitOn ':'
    match (groups.dropLast).mapM piece?, groups.getLast? with
    | some front, some last => ((piece? last).or (quad? last)).map (front.flatten ++ ·)
    | _, _ => none

/-- What stands before and behind the first double colon. -/
def splitGap? : List Char → Option (List Char × List Char)
  | ':' :: ':' :: rest => some ([], rest)
  | c :: rest => (splitGap? rest).map fun (front, back) => (c :: front, back)
  | [] => none

/-- The eight pieces that are written so; a double colon stands for one piece at least. -/
def pieces? (cs : List Char) : Option (List Nat) :=
  match splitGap? cs with
  | none => (lastPieces? cs).filter (·.length = 8)
  | some (front, back) => do
    let front ← plainPieces? front
    let back ← lastPieces? back
    if 7 < front.length + back.length then none
    return front ++ List.replicate (8 - front.length - back.length) 0 ++ back

/-! ## Reading -/

/-- The number in brackets that is written so. -/
def bracketed? (inner : List Char) : Option Host :=
  if inner.getLast? = some ']' then (pieces? inner.dropLast).map pieces else none

/-- The host that is written so. -/
def read? : List Char → Option Host
  | '[' :: inner => bracketed? inner
  | cs => do ofName? (← Name.ascii? (← Text.unescaped? cs))

/-- The character cannot stand in a host, wherever it is. -/
def isBarred (c : Char) : Bool := c == '\x00' || " #/:<>?@[\\]^|".contains c

/-- The host that is written so, where names are taken as they are. -/
def readPlain? : List Char → Option Host
  | '[' :: inner => bracketed? inner
  | cs => if cs.any isBarred then none else some (.name (String.ofList (Text.escape [] cs)))

/-! ## Writing -/

/-- Where the longest row of zeros begins that has two or more, and how long it is. Of two that are equally
long it is the first; a length of one says that there is none. -/
def gap (values : List Nat) : Nat × Nat :=
  (List.range values.length).foldl (fun best i =>
    let n := ((values.drop i).takeWhile (· = 0)).length
    if best.2 < n then (i, n) else best) (0, 1)

/-- Pieces with colons between. -/
def piecesText (values : List Nat) : String :=
  ":".intercalate (values.map fun n => String.ofList (Nat.toDigits 16 n))

/-- A host in writing. -/
def text : Host → String
  | name text => text
  | number value => ".".intercalate ([24, 16, 8, 0].map fun k => toString ((value >>> k) % 256))
  | pieces values =>
    let (start, length) := gap values
    if length = 1 then s!"[{piecesText values}]"
    else
      s!"[{piecesText (values.take start)}::{piecesText (values.drop (start + length))}]"

end Host

end Fieldbook
