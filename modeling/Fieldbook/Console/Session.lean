import Fieldbook.Console.Action
import Fieldbook.Snapshot
import Fieldbook.Text.Backspace

/-!
# Conversations

The program reads sentences line by line and answers each before it reads the next. A line is a word of
the conversation itself, such as `show` or `exit`, or a command; the backspaces in it are carried out
first. The working set stays in memory and is kept after each command that was carried out. That it cannot
be kept is told, and the conversation goes on.
-/

namespace Fieldbook

namespace Action

/-- Keeps a working set. -/
def keep (snapshot : String) (set : WorkingSet) (doing : Option String) : Action :=
  .save snapshot set.save doing

/-- Says what became of a command and keeps the working set if the command was carried out. -/
def afterCommand (snapshot : String) (set : WorkingSet) (outcome : Outcome)
    (doing : Option String) : List Action :=
  .say (Report.outcome outcome) :: if outcome.succeeded then [keep snapshot set doing] else []

end Action

namespace Session

/-- What a line comes to. -/
inductive Turn where
  | leave
  | stay (set : WorkingSet) (actions : List Action)

/-- What is said before the first line. -/
def greeting (set : WorkingSet) : Action :=
  .say <| "Dexlab REPL\n" ++
    s!"{set.size} rows loaded. Type `help` for commands. Type `exit` to quit.\n\n"

/-- What is said before every line, and before the end of the lines. -/
def prompt : Action := .say "dexlab> "

/-- How many rows `show` shows, by the word behind it. -/
def limitOf (word : Option String) : Nat :=
  (word.bind fun w => Decimal.readNat? (UInt64.size - 1) w.toList).getD 20

/-- What a line comes to. -/
def turn (snapshot : String) (set : WorkingSet) (line : String) : Turn :=
  let line := Text.trim (Text.edited line)
  match Text.words line with
  | [] => .stay set []
  | ["exit"] | ["quit"] => .leave
  | ["help"] => .stay set [.say Report.help]
  | ["count"] => .stay set [.say (Report.count set)]
  | ["columns"] => .stay set [.say (Report.columns set)]
  | "show" :: rest => .stay set [.say (Report.rows set (limitOf rest.head?))]
  | _ =>
    let (set, outcome) := Command.run line set
    .stay set (Action.afterCommand snapshot set outcome none)

/-- Carries out the actions of a line; a failure is told and is not the end. -/
def settle (desk : Desk) (actions : List Action) : Desk :=
  match Action.performAll desk actions with
  | (desk, none) => desk
  | (desk, some failure) => { desk with err := desk.err ++ failure.remark }

/-- The conversation over these lines. -/
def converse (snapshot : String) (set : WorkingSet) (desk : Desk) : List String → Desk
  | [] => settle desk [prompt]
  | line :: rest =>
    let desk := settle desk [prompt]
    match turn snapshot set line with
    | .leave => desk
    | .stay set actions => converse snapshot set (settle desk actions) rest

/-- The lines of a text; behind the last line break there is a line only if there is something. -/
def lines (text : String) : List String :=
  let pieces := (text.toList.splitOnP (· == '\n')).map String.ofList
  if pieces.getLast? = some "" then pieces.dropLast else pieces

end Session

end Fieldbook
