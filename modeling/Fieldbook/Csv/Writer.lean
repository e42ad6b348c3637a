/-!
# Writing comma-separated records

A record is written on a line of its own, its cells divided by commas. A cell is quoted only when it
has to be: when it holds a comma, a quote or a line break, or when it is empty and the only one of its
record, which would otherwise leave no trace. In quotes a quote is written twice.
-/

namespace Fieldbook.Csv

/-- The character cannot stand in a cell without quotes. -/
def needsQuotes (c : Char) : Bool :=
  c == ',' || c == '"' || c == '\n' || c == '\r'

/-- The characters with every quote written twice. -/
def doubleQuotes : List Char → List Char
  | [] => []
  | c :: cs => if c = '"' then '"' :: '"' :: doubleQuotes cs else c :: doubleQuotes cs

/-- A cell in quotes. -/
def quote (cell : List Char) : List Char :=
  '"' :: doubleQuotes cell ++ ['"']

/-- A cell as it is written. -/
def writeCell (cell : List Char) : List Char :=
  if cell.any needsQuotes then quote cell else cell

/-- A record as it is written, its line break included. -/
def writeRecord (cells : List String) : List Char :=
  match cells with
  | [""] => quote [] ++ ['\n']
  | _ => [','].intercalate (cells.map fun cell => writeCell cell.toList) ++ ['\n']

/-- The file of a list of records. -/
def write (records : List (List String)) : String :=
  String.ofList (records.flatMap writeRecord)

end Fieldbook.Csv
