import Fieldbook.Command.Execute

/-!
# Reports

What the program prints: rows and columns as tables of fixed widths, outcomes and failures in words.
A text too long for its place in a table is not cut. Widths count characters.
-/

namespace Fieldbook

/-- A failure as it is told: what was being done or went wrong, and the causes behind it, nearest
first. -/
structure Failure where
  what : String
  causes : List String := []
  deriving DecidableEq

namespace Failure

/-- A cause on lines of its own, the first behind the mark and the others as far in. -/
def causeText (mark indent cause : String) : String :=
  let lines := (cause.toList.splitOnP (· == '\n')).map String.ofList
  "\n" ++ mark ++ ("\n" ++ indent).intercalate lines

/-- The failure in words. Causes are numbered when there are several. -/
def text (failure : Failure) : String :=
  let causes :=
    match failure.causes with
    | [] => []
    | [cause] => ["\n\nCaused by:", causeText "    " "    " cause]
    | causes =>
      "\n\nCaused by:" :: causes.zipIdx.map fun (cause, n) =>
        causeText s!"    {n}: " "       " cause
  s!"Error: {failure.what}" ++ String.join causes ++ "\n"

/-- The failure in words within a conversation, which goes on after it. -/
def remark (failure : Failure) : String := s!"error: {failure.what}\n"

end Failure

namespace Report

/-- So many blanks. -/
def blanks (n : Nat) : String := String.ofList (List.replicate n ' ')

/-- A text at the left of a place of the given width. -/
def left (width : Nat) (s : String) : String := s ++ blanks (width - s.length)

/-- A text at the right of a place of the given width. -/
def right (width : Nat) (s : String) : String := blanks (width - s.length) ++ s

/-- A line of the table of rows, without what follows the statistics. -/
def line (id name categories classification : String) (stats : List String) : String :=
  " ".intercalate
    ([left 14 id, left 14 name, left 18 categories, right 3 classification] ++ stats.map (right 4))

/-- The heading of the table of rows. -/
def heading : String :=
  line "ID" "Name" "Types" "Gen" ["HP", "Atk", "Def", "SpA", "SpD", "Spe"]

/-- The cells of a row in the order of the columns. -/
def cells (columns : List Column) (row : Row) : String :=
  String.join <| columns.filterMap fun column =>
    (row.cells.get? column.id).map fun value => s!"  {column.id}={value.shown}"

/-- A row. -/
def row (columns : List Column) (r : Row) : String :=
  line r.id r.name ("/".intercalate r.categories) (toString r.classification.toNat)
      (Stat.all.map fun s => toString (r.stats.get s).toNat) ++
    cells columns r

/-- The first rows, and how many more there are. -/
def rows (set : WorkingSet) (limit : Nat) : String :=
  let shown := (set.rows.toList.take limit).map fun r => row set.columns r ++ "\n"
  let more := set.size - limit
  heading ++ "\n" ++ String.join shown ++ if more = 0 then "" else s!"... {more} more rows\n"

/-- The declared columns. -/
def columns (set : WorkingSet) : String :=
  if set.columns.isEmpty then "No dynamic columns.\n"
  else String.join <| set.columns.map fun column =>
    s!"  {left 20 column.id} {left 20 column.label} {column.kind.name}\n"

/-- How many rows there are. -/
def count (set : WorkingSet) : String := s!"{set.size} rows\n"

/-- What became of a command. -/
def outcome (o : Outcome) : String :=
  if o.succeeded then s!"ok: {o.message}\n" else s!"no change: {o.message}\n"

/-- The commands of a conversation. -/
def help : String :=
  "Commands:\n" ++
  "  set|update <field> to <value> where <field> is <value>\n" ++
  "  set|update <field> to <value> for all pokemon of type <type>\n" ++
  "  delete [rows] where <field> is <value>\n" ++
  "  show [n]      print the first n rows (default 20)\n" ++
  "  columns       list dynamic columns\n" ++
  "  count         number of rows\n" ++
  "  exit | quit\n" ++
  "\n" ++
  "Fields: hp, attack, defense, sp. atk, sp. def, speed, gen, name, type, ability, image, id,\n" ++
  "        or any declared column label\n"

end Report

end Fieldbook
