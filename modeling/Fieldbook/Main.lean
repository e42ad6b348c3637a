import Fieldbook.Console.Program
import Fieldbook.Identifier

/-!
# The executable

The program on a real machine: it looks at the files that an invocation needs, plans, and carries the
plan out. Nothing is decided here. There is no network, so no request reaches its server.
-/

namespace Fieldbook.Executable

/-- Why the machine did not meet a request. -/
def reason : IO.Error → FileError
  | .noFileOrDirectory .. => .missing
  | .alreadyExists .. => .occupied
  | .inappropriateType _ _ details =>
    if Text.sameLetters details "is a directory" then .isDirectory else .notDirectory
  | .resourceBusy .. => .busy
  | e@(.invalidArgument _ _ details) =>
    if ["file name too long", "name too long"].any (Text.sameLetters details) then .nameTooLong
    else .other (toString e)
  | e => .other (toString e)

/-- A request to the machine, which may not be met. -/
abbrev Attempt := ExceptT FileError IO

/-- Makes a request. -/
def request {α : Type} (action : IO α) : Attempt α := do
  match ← action.toBaseIO with
  | .ok a => return a
  | .error e => throw (reason e)

/-- The content of a file. -/
def read (path : String) : Attempt ByteArray := request (IO.FS.readBinFile path)

/-- The content of a file, if there is one. -/
def readIfPresent (path : String) : Attempt (Option ByteArray) := do
  try return some (← read path)
  catch
    | .missing | .notDirectory | .nameTooLong => return none
    | e => throw e

/-- A path leads to a directory. -/
def isDirectory (path : Path) : Attempt Bool := do
  try
    let _ ← read path.toText
    return false
  catch e => return e = .isDirectory

/-- Makes a directory unless there is one. -/
def ensureDirectory (path : Path) : Attempt Unit := do
  try request (IO.FS.createDir path.toText)
  catch e => unless ← isDirectory path do throw e

/-- Makes directories in the steps of `Files.makeParts`. -/
def makeParts (fromRoot : Bool) : List String → Attempt Unit
  | [] => return
  | part :: before => do
    if Path.isIdle part then makeParts fromRoot before
    else
      let path : Path := ⟨fromRoot, (part :: before).reverse⟩
      try ensureDirectory path
      catch
        | .missing =>
          makeParts fromRoot before
          ensureDirectory path
        | e => throw e

/-- Keeps a content in a file, in the steps of `Files.save`. -/
def save (path : Path) (content : ByteArray) : Attempt Unit := do
  makeParts path.folder.fromRoot path.folder.parts.reverse
  request (IO.FS.writeBinFile path.draft.toText content)
  request (IO.FS.rename path.draft.toText path.toText)

/-- Carries out an action; the failure, if it fails. -/
def perform : Action → IO (Option Failure)
  | .say text => do
    IO.print text
    (← IO.getStdout).flush
    return none
  | .complain text => do
    IO.eprint text
    return none
  | .create path content => do
    match ← (request (IO.FS.writeBinFile path content.toUTF8)).run with
    | .ok _ => return none
    | .error e => return some (.ofCreate path e)
  | .save path content doing => do
    match ← (save (.ofText path) content.toUTF8).run with
    | .ok _ => return none
    | .error e => return some (.ofFile doing e)
  | .fail failure => return some failure

/-- Carries out actions up to the first that fails. -/
def performAll : List Action → IO (Option Failure)
  | [] => return none
  | action :: rest => do
    match ← perform action with
    | none => performAll rest
    | some failure => return some failure

/-- Converses until the lines end or one of them says so. -/
partial def converse (snapshot : String) (set : WorkingSet) : IO Unit := do
  let _ ← perform Session.prompt
  let line ← (← IO.getStdin).getLine
  if line.isEmpty then return
  match Session.turn snapshot set line with
  | .leave => return
  | .stay set actions =>
    if let some failure ← performAll actions then IO.eprint failure.remark
    converse snapshot set

/-- Ids made of random bytes, as many as a table can have records. -/
def freshIds (table : ByteArray) : IO (Nat → String) := do
  let count := table.foldl (fun n byte => if byte = 10 ∨ byte = 13 then n + 1 else n) 1
  let bytes ← IO.getRandomBytes (USize.ofNat (16 * count))
  return fun k => Identifier.ofBytes fun place => bytes[16 * k + place]?.getD 0

/-- The variables that settings are read from, as far as they are set. -/
def environment : IO Environment := do
  let values ← Settings.variableNames.filterMapM fun name => do
    return (← IO.getEnv name).map fun value => (name, value)
  return fun name => values.lookup name

/-- What there is to be found on the machine. -/
def look (invocation : Invocation) : IO Circumstances := do
  let snapshot ← (readIfPresent invocation.snapshot).run
  let table ←
    match invocation.task.table? with
    | some input => (read input).run
    | none => pure (.error .missing)
  let freshId ←
    match table with
    | .ok content => freshIds content
    | .error _ => pure fun _ => ""
  return { snapshot, table, environment := ← environment, freshId }

/-- Does what was asked for; the exit code. -/
def invoke (invocation : Invocation) : IO UInt32 := do
  match Plan.ofInvocation (← look invocation) invocation with
  | .act actions =>
    match ← performAll actions with
    | none => return 0
    | some failure =>
      IO.eprint failure.text
      return 1
  | .converse set =>
    let _ ← perform (Session.greeting set)
    converse invocation.snapshot set
    return 0

end Fieldbook.Executable

/-- Runs the program on the words of the command line. -/
def main (words : List String) : IO UInt32 := do
  match Fieldbook.Invocation.ofArguments words with
  | .ok invocation => Fieldbook.Executable.invoke invocation
  | .error refusal =>
    let (code, out, err) := Fieldbook.Program.refuse refusal
    IO.print out
    IO.eprint err
    return UInt32.ofNat code
