import Fieldbook.Double.Decimal
import Fieldbook.Json.Basic
import Fieldbook.Text.Symbol

/-!
# Reading JSON documents

A reader for the grammar of JSON and nothing more: no comments, no trailing commas, no signs but the
minus, no zeros in front. It goes from left to right, and every function answers what it read and the
symbols behind it.

The document itself is read with a bound on the number of nested calls, which is computed from the
length of the file (`read?`) and never reached.
-/

namespace Fieldbook.Json

/-- Drops the white space of JSON: blanks, tabs and line breaks. -/
def skipSpace (symbols : List Symbol) : List Symbol :=
  symbols.dropWhile fun s =>
    match s with
    | .char c => c == ' ' || c == '\n' || c == '\t' || c == '\r'
    | .stray _ => false

/-! ## Strings -/

/-- A part of a string: a character, sixteen bits given by their digits, or a stray byte. -/
inductive Part where
  | char (c : Char)
  | unit (n : Nat)
  | stray

/-- The value of a hexadecimal digit. -/
def hexDigit? : Symbol → Option Nat
  | .char c =>
    if '0' ≤ c ∧ c ≤ '9' then some (c.toNat - '0'.toNat)
    else if 'a' ≤ c ∧ c ≤ 'f' then some (c.toNat - 'a'.toNat + 10)
    else if 'A' ≤ c ∧ c ≤ 'F' then some (c.toNat - 'A'.toNat + 10)
    else none
  | .stray _ => none

/-- The character that a letter behind a backslash stands for. -/
def escaped? : Char → Option Char
  | '"' => some '"'
  | '\\' => some '\\'
  | '/' => some '/'
  | 'b' => some '\x08'
  | 'f' => some '\x0c'
  | 'n' => some '\n'
  | 'r' => some '\r'
  | 't' => some '\t'
  | _ => none

/-- The parts of a string, read from behind its opening quote to its closing one. -/
def parts? : List Symbol → Option (List Part × List Symbol)
  | [] => none
  | .char '"' :: rest => some ([], rest)
  | .char '\\' :: .char 'u' :: a :: b :: c :: d :: rest =>
    match hexDigit? a, hexDigit? b, hexDigit? c, hexDigit? d with
    | some a, some b, some c, some d =>
      (parts? rest).map fun (ps, rest) => (.unit (((a * 16 + b) * 16 + c) * 16 + d) :: ps, rest)
    | _, _, _, _ => none
  | .char '\\' :: .char e :: rest =>
    match escaped? e with
    | some c => (parts? rest).map fun (ps, rest) => (.char c :: ps, rest)
    | none => none
  | .char c :: rest =>
    if c.toNat < 0x20 || c == '\\' then none
    else (parts? rest).map fun (ps, rest) => (.char c :: ps, rest)
  | .stray _ :: rest => (parts? rest).map fun (ps, rest) => (.stray :: ps, rest)

/-- The first of two units that together make a character. -/
def isHighSurrogate (n : Nat) : Bool := 0xD800 ≤ n && n ≤ 0xDBFF

/-- The second of two units that together make a character. -/
def isLowSurrogate (n : Nat) : Bool := 0xDC00 ≤ n && n ≤ 0xDFFF

/-- The characters of the parts of a string, if every unit has its partner and no byte is stray. -/
def spell? : List Part → Option (List Char)
  | [] => some []
  | .char c :: rest => (spell? rest).map (c :: ·)
  | .stray :: _ => none
  | .unit n :: .unit m :: rest =>
    if isHighSurrogate n then
      if isLowSurrogate m then
        (spell? rest).map (Char.ofNat (0x10000 + (n - 0xD800) * 0x400 + (m - 0xDC00)) :: ·)
      else none
    else if isLowSurrogate n then none
    else (spell? (.unit m :: rest)).map (Char.ofNat n :: ·)
  | .unit n :: rest =>
    if isHighSurrogate n || isLowSurrogate n then none else (spell? rest).map (Char.ofNat n :: ·)

/-- A string, read from behind its opening quote. -/
def string? (symbols : List Symbol) : Option (Option String × List Symbol) :=
  (parts? symbols).map fun (ps, rest) => ((spell? ps).map String.ofList, rest)

/-! ## Numbers -/

/-- The digits in front, and the rest. -/
def digits : List Symbol → List Char × List Symbol
  | .char c :: rest =>
    if Decimal.isDigit c then
      let (cs, rest) := digits rest
      (c :: cs, rest)
    else ([], .char c :: rest)
  | symbols => ([], symbols)

/-- The digits before the point: a single zero, or digits that do not begin with one. -/
def whole? (symbols : List Symbol) : Option (List Char × List Symbol) :=
  match digits symbols with
  | ([], _) => none
  | ('0' :: _ :: _, _) => none
  | (cs, rest) => some (cs, rest)

/-- The point and the digits behind it, if there is one. -/
def fraction? : List Symbol → Option (List Char × List Symbol)
  | .char '.' :: rest =>
    match digits rest with
    | ([], _) => none
    | (cs, rest) => some (cs, rest)
  | symbols => some ([], symbols)

/-- The digits of an exponent. -/
def exponentDigits? (negative : Bool) (symbols : List Symbol) :
    Option (Option Int × List Symbol) :=
  match digits symbols with
  | ([], _) => none
  | (cs, rest) =>
    (Decimal.ofDigits? cs).map fun n => (some (if negative then -(n : Int) else n), rest)

/-- The exponent, if there is one. -/
def exponent? : List Symbol → Option (Option Int × List Symbol)
  | .char c :: rest =>
    if c = 'e' ∨ c = 'E' then
      match rest with
      | .char '-' :: more => exponentDigits? true more
      | .char '+' :: more => exponentDigits? false more
      | _ => exponentDigits? false rest
    else some (none, .char c :: rest)
  | symbols => some (none, symbols)

/-- A number. -/
def numeral? (symbols : List Symbol) : Option (Numeral × List Symbol) := do
  let (negative, symbols) :=
    match symbols with
    | .char '-' :: rest => (true, rest)
    | _ => (false, symbols)
  let (whole, symbols) ← whole? symbols
  let (fraction, symbols) ← fraction? symbols
  let (exponent, symbols) ← exponent? symbols
  return ({ negative, whole, fraction, exponent }, symbols)

/-! ## Documents -/

mutual

/-- A document and the symbols behind it. -/
def value? : Nat → List Symbol → Option (Json × List Symbol)
  | 0, _ => none
  | bound + 1, symbols =>
    match skipSpace symbols with
    | .char 'n' :: .char 'u' :: .char 'l' :: .char 'l' :: rest => some (.null, rest)
    | .char 't' :: .char 'r' :: .char 'u' :: .char 'e' :: rest => some (.bool true, rest)
    | .char 'f' :: .char 'a' :: .char 'l' :: .char 's' :: .char 'e' :: rest =>
      some (.bool false, rest)
    | .char '"' :: rest => (string? rest).map fun (s, rest) => (.string s, rest)
    | .char '[' :: rest =>
      match skipSpace rest with
      | .char ']' :: rest => some (.array [], rest)
      | _ => (items? bound rest).map fun (items, rest) => (.array items, rest)
    | .char '{' :: rest =>
      match skipSpace rest with
      | .char '}' :: rest => some (.object [], rest)
      | _ => (members? bound rest).map fun (members, rest) => (.object members, rest)
    | symbols => (numeral? symbols).map fun (n, rest) => (.number n, rest)

/-- The items of an array, at least one, up to the closing bracket. -/
def items? : Nat → List Symbol → Option (List Json × List Symbol)
  | 0, _ => none
  | bound + 1, symbols =>
    match value? bound symbols with
    | none => none
    | some (item, rest) =>
      match skipSpace rest with
      | .char ']' :: rest => some ([item], rest)
      | .char ',' :: rest => (items? bound rest).map fun (items, rest) => (item :: items, rest)
      | _ => none

/-- The members of an object, at least one, up to the closing brace. -/
def members? : Nat → List Symbol → Option (List (Option String × Json) × List Symbol)
  | 0, _ => none
  | bound + 1, symbols =>
    match skipSpace symbols with
    | .char '"' :: rest =>
      match string? rest with
      | none => none
      | some (name, rest) =>
        match skipSpace rest with
        | .char ':' :: rest =>
          match value? bound rest with
          | none => none
          | some (value, rest) =>
            match skipSpace rest with
            | .char '}' :: rest => some ([(name, value)], rest)
            | .char ',' :: rest =>
              (members? bound rest).map fun (members, rest) => ((name, value) :: members, rest)
            | _ => none
        | _ => none
    | _ => none

end

/-- The document that a file consists of. -/
def read? (symbols : List Symbol) : Option Json :=
  match value? (2 * symbols.length + 2) symbols with
  | some (j, rest) => if (skipSpace rest).isEmpty then some j else none
  | none => none

end Fieldbook.Json
