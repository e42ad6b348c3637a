import Fieldbook.Catalog.Ingest
import Fieldbook.Console.Arguments
import Fieldbook.Console.Session
import Fieldbook.Exchange

/-!
# The program

One invocation of the program. It loads the working set from its file, if there is one, and does one
task on it. Only a task that changed the working set ends with keeping it.

* `Plan.ofInvocation` decides, from what the program finds, all that it is going to do; it is a list of
  actions, or a conversation over the working set that was loaded;
* `Program.run` looks at a tree of files, plans, and carries the plan out there.
-/

namespace Fieldbook

/-- What the program finds. -/
structure Circumstances where
  /-- The file that the working set is kept in, if there is one. -/
  snapshot : Except FileError (Option ByteArray)
  /-- The table to be read. -/
  table : Except FileError ByteArray := .error .missing
  environment : Environment := fun _ => none
  server : Server := .unreachable
  /-- Ids that are not in use, all different. -/
  freshId : Nat → String

/-- What the program is going to do. -/
inductive Plan where
  | act (actions : List Action)
  | converse (set : WorkingSet)

namespace Task

/-- The table that a task reads. -/
def table? : Task → Option String
  | importTable input _ _ => some input
  | _ => none

/-- Keeps the working set at the end of a task. -/
def keep (snapshot : String) (set : WorkingSet) : Action :=
  .keep snapshot set (some s!"saving working set to {snapshot}")

/-- The settings of an ingestion: the environment's, overridden by the flags. -/
def settings (environment : Environment) (flags : SettingsFlags) : Except Failure Settings :=
  match Settings.ofEnvironment environment with
  | .error e => .error ⟨"reading DEXLAB_* settings", [e.message]⟩
  | .ok settings =>
    match (settings.withFlags flags).validate with
    | .error e => .error ⟨e.message, []⟩
    | .ok settings => .ok settings

/-- What is printed while an ingestion runs. -/
def progress : IngestEvent → List Action
  | .batch _ => []
  | .progress done total =>
    let percent := if total = 0 then 100 else done * 100 / total
    [.complain s!"\r  {Report.right 3 (toString percent)}% ({done}/{total})"]

/-- The rows of an ingestion are put into a working set batch by batch. -/
def absorb (set : WorkingSet) : IngestEvent → WorkingSet
  | .batch rows => (set.appendBatch rows).1
  | .progress _ _ => set

/-- Replaces the rows by those of the catalog. -/
def fetchActions (found : Circumstances) (snapshot : String) (set : WorkingSet) (flags : SettingsFlags) :
    List Action :=
  match settings found.environment flags with
  | .error failure => [.fail failure]
  | .ok settings =>
    let start := Action.say s!"Fetching catalog from {settings.baseUrl}\n"
    let set := set.replaceAll []
    match Ingestion.run (.http settings found.server) .inStep settings.batchSize {} with
    | .error e => [start, .complain "\n", .fail ⟨e.message, [e.reason.message]⟩]
    | .ok ingestion =>
      let s := ingestion.summary
      [start] ++ ingestion.events.flatMap progress ++
        [.complain "\n",
          .say <| s!"Fetched {s.fetched} rows ({s.dropped} dropped, {s.batches} batches, " ++
            s!"{s.classificationLookups} classification lookups)\n",
          keep snapshot (ingestion.events.foldl absorb set)]

/-- Carries out one command. -/
def runActions (snapshot : String) (set : WorkingSet) (words : List String) : List Action :=
  let (set, outcome) := Command.run (" ".intercalate words) set
  Action.afterCommand snapshot set outcome (some s!"saving working set to {snapshot}")

/-- Why a table cannot be read. -/
def tableFailure (input : String) (e : FileError) : Failure :=
  match e with
  | .isDirectory => ⟨s!"CSV error: {e.message}", [e.message]⟩
  | e => ⟨s!"opening {input}", [e.message]⟩

/-- The rows of a table, read by the headers it has and by the given pairs. -/
def importedRows (freshId : Nat → String) (columns : List Column) (pairs : List String)
    (file : ByteArray) : Except ExchangeError (List Row) := do
  let file := Symbol.ofBytes file
  let mapping := Mapping.auto (← readHeaders file)
  let mapping ← pairs.foldlM (fun (mapping : Mapping) pair => do
    let (field, header) ← Mapping.readPair pair
    return mapping.insert field header) mapping
  importRows freshId mapping columns file

/-- Replaces the rows by those of a table, or adds those to them. -/
def importActions (found : Circumstances) (snapshot : String) (set : WorkingSet) (input : String)
    (pairs : List String) (append : Bool) : List Action :=
  match found.table with
  | .error e => [.fail (tableFailure input e)]
  | .ok file =>
    match importedRows found.freshId set.columns pairs file with
    | .error e => [.fail ⟨e.message, []⟩]
    | .ok rows =>
      let set := if append then (set.appendBatch rows).1 else set.replaceAll rows
      [.say s!"Imported {rows.length} rows\n", keep snapshot set]

/-- Declares a column unless commands would take its label for a fixed field. -/
def declare (set : WorkingSet) (label : String) (kind : ColumnKind) :
    Except Failure (WorkingSet × Bool) :=
  let shown := Text.trim label
  if Text.isBlankText label then .error ⟨"column label must not be empty", []⟩
  else
    match Field.ofPhrase label with
    | .dynamic _ =>
      (set.declareColumn (.ofLabel label kind)).mapError fun e =>
        ⟨s!"declaring column `{shown}`", [e.message]⟩
    | field => .error ⟨s!"`{shown}` already refers to the built-in field `{field.key}`", []⟩

/-- Adds a column. -/
def columnActions (snapshot : String) (set : WorkingSet) (label : String) (kind : ColumnKind) :
    List Action :=
  let id := (Column.ofLabel label kind).id
  match declare set label kind with
  | .error failure => [.fail failure]
  | .ok (set, true) => [.say s!"Added column `{id}`\n", keep snapshot set]
  | .ok (_, false) => [.say s!"Unchanged: column `{id}` already exists\n"]

/-- What a task does with the working set that was loaded. -/
def plan (found : Circumstances) (snapshot : String) (set : WorkingSet) : Task → Plan
  | fetch flags => .act (fetchActions found snapshot set flags)
  | run words => .act (runActions snapshot set words)
  | converse => .converse set
  | importTable input pairs append => .act (importActions found snapshot set input pairs append)
  | exportTable output =>
    .act [.create output (exportRows set.rows.toList set.columns),
      .say s!"Exported {set.size} rows to {output}\n"]
  | addColumn label kind => .act (columnActions snapshot set label kind)
  | listColumns => .act [.say (Report.columns set)]
  | listRows limit => .act [.say (Report.rows set limit)]

end Task

namespace Plan

/-- The working set in the file, or one without anything if there is no file. -/
def load (found : Circumstances) (snapshot : String) : Except Failure WorkingSet :=
  let doing := s!"loading working set from {snapshot}"
  match found.snapshot with
  | .error e => .error (.ofFile (some doing) e)
  | .ok none => .ok .empty
  | .ok (some file) => (WorkingSet.load file).mapError fun e => ⟨doing, [e.message]⟩

/-- What an invocation is going to do. -/
def ofInvocation (found : Circumstances) (invocation : Invocation) : Plan :=
  match load found invocation.snapshot with
  | .error failure => .act [.fail failure]
  | .ok set => invocation.task.plan found invocation.snapshot set

end Plan

/-! ## An invocation from beginning to end -/

/-- The surroundings of the program. -/
structure Surroundings where
  files : Files
  environment : Environment := fun _ => none
  server : Server := .unreachable
  freshId : Nat → String
  /-- The standard input. -/
  input : String := ""

/-- How an invocation ended. -/
structure Ending where
  code : Nat
  desk : Desk

namespace Program

/-- What the program says of itself. -/
def version : String := "dexlab 0.1.0\n"

/-- How to call the program. -/
def usage : String :=
  "Usage: dexlab [--snapshot <SNAPSHOT>] [-v] <COMMAND>\n" ++
  "\n" ++
  "Commands:\n" ++
  "  fetch [--base-url <URL>] [--batch-size <N>] [--limit <N>]\n" ++
  "  run <WORDS>...\n" ++
  "  repl\n" ++
  "  import <INPUT> [--map <FIELD=HEADER>]... [--append]\n" ++
  "  export <OUTPUT>\n" ++
  "  columns add <LABEL> [--kind text|number|boolean]\n" ++
  "  columns list\n" ++
  "  show [--limit <N>]\n"

/-- The code and the printed words of a call without a task. -/
def refuse : Refusal → Nat × String × String
  | .help => (0, usage, "")
  | .version => (0, version, "")
  | .misuse => (2, "", usage)

/-- What the program finds in its surroundings. -/
def look (here : Surroundings) (invocation : Invocation) : Circumstances where
  snapshot := here.files.readIfPresent (.ofText invocation.snapshot)
  table :=
    match invocation.task.table? with
    | some input => here.files.read (.ofText input)
    | none => .error .missing
  environment := here.environment
  server := here.server
  freshId := here.freshId

/-- Carries out actions and tells what failed, if anything did. -/
def finish (desk : Desk) (actions : List Action) : Ending :=
  match Action.performAll desk actions with
  | (desk, none) => ⟨0, desk⟩
  | (desk, some failure) => ⟨1, { desk with err := desk.err ++ failure.text }⟩

/-- Does what was asked for. -/
def invoke (here : Surroundings) (invocation : Invocation) : Ending :=
  let desk : Desk := { files := here.files }
  match Plan.ofInvocation (look here invocation) invocation with
  | .act actions => finish desk actions
  | .converse set =>
    let desk := Session.settle desk [Session.greeting set]
    ⟨0, Session.converse invocation.snapshot set desk (Session.lines here.input)⟩

/-- Runs the program on the words of a command line. -/
def run (here : Surroundings) (words : List String) : Ending :=
  match Invocation.ofArguments words with
  | .ok invocation => invoke here invocation
  | .error refusal =>
    let (code, out, err) := refuse refusal
    ⟨code, { files := here.files, out, err }⟩

end Program

end Fieldbook
