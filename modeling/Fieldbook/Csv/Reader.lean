import Fieldbook.Text.Blank
import Fieldbook.Text.Symbol

/-!
# Reading comma-separated records

A file is a sequence of records, a record a sequence of cells. Commas divide cells; a carriage return or
a line feed ends a record, and further ones before the next record mean nothing, so there are no empty
records. A cell that begins with a quote runs to the next single quote, whatever is in between; a quote
is written twice there. Behind the closing quote and in any other cell quotes are ordinary.

The reader takes one symbol at a time (`Scan.step`). No file is refused for its commas and quotes; a
cell that is no text refuses its record when the record is wanted.
-/

namespace Fieldbook.Csv

/-- Where the reader stands. -/
inductive Place where
  /-- Before a record. -/
  | beforeRecord
  /-- Before a cell that another one precedes. -/
  | beforeCell
  /-- In a cell, outside quotes. -/
  | plain
  /-- In a cell, inside quotes. -/
  | quoted
  /-- Behind a quote that closes the cell or is the first of two. -/
  | afterQuote
  deriving DecidableEq

/-- What has been read: the finished records, the finished cells of the record at hand and the symbols
of the cell at hand, each latest first. -/
structure Scan where
  place : Place := .beforeRecord
  cell : List Symbol := []
  cells : List (List Symbol) := []
  records : List (List (List Symbol)) := []

namespace Scan

/-- One more symbol belongs to the cell. -/
def push (scan : Scan) (place : Place) (symbol : Symbol) : Scan :=
  { scan with place, cell := symbol :: scan.cell }

/-- The cell is finished. -/
def endCell (scan : Scan) : Scan :=
  { scan with place := .beforeCell, cell := [], cells := scan.cell.reverse :: scan.cells }

/-- The cell and the record are finished. -/
def endRecord (scan : Scan) : Scan :=
  { place := .beforeRecord
    records := (scan.cell.reverse :: scan.cells).reverse :: scan.records }

/-- What an unquoted symbol does in or before a cell. -/
def unquoted (scan : Scan) (symbol : Symbol) : Scan :=
  match symbol with
  | .char ',' => scan.endCell
  | .char '\n' | .char '\r' => scan.endRecord
  | _ => scan.push .plain symbol

/-- What a symbol at the front of a cell does. -/
def first (scan : Scan) (symbol : Symbol) : Scan :=
  match symbol with
  | .char '"' => { scan with place := .quoted }
  | _ => scan.unquoted symbol

/-- Takes the next symbol. -/
def step (scan : Scan) (symbol : Symbol) : Scan :=
  match scan.place with
  | .beforeRecord =>
    match symbol with
    | .char '\n' | .char '\r' => scan
    | _ => scan.first symbol
  | .beforeCell => scan.first symbol
  | .plain => scan.unquoted symbol
  | .quoted =>
    match symbol with
    | .char '"' => { scan with place := .afterQuote }
    | _ => scan.push .quoted symbol
  | .afterQuote =>
    match symbol with
    | .char '"' => scan.push .quoted symbol
    | _ => scan.unquoted symbol

/-- The records when the file ends here; a record that has begun ends with it. -/
def finish (scan : Scan) : List (List (List Symbol)) :=
  match scan.place with
  | .beforeRecord => scan.records.reverse
  | _ => scan.endRecord.records.reverse

end Scan

/-- The records of a file, cell by cell. -/
def rawRecords (symbols : List Symbol) : List (List (List Symbol)) :=
  ((Symbol.withoutMark symbols).foldl Scan.step {}).finish

/-- The texts of a record without the blanks around them, if all its cells are texts. -/
def texts? (record : List (List Symbol)) : Option (List String) :=
  record.mapM fun cell => (Symbol.text? cell).map Text.trim

/-- A table: the headers of its first record and the records below. -/
structure Table where
  headers : List String
  records : List (List String)
  deriving DecidableEq

/-- The headers of a file, none for an empty one. -/
def headers? (symbols : List Symbol) : Option (List String) :=
  match rawRecords symbols with
  | [] => some []
  | first :: _ => texts? first

/-- The table of a file, unless some cell of it is no text. -/
def table? (symbols : List Symbol) : Option Table :=
  match rawRecords symbols with
  | [] => some ⟨[], []⟩
  | first :: rest => do return ⟨← texts? first, ← rest.mapM texts?⟩

end Fieldbook.Csv
