import Fieldbook.Catalog.Settings
import Fieldbook.Column

/-!
# Arguments

What the words of a command line ask for. A word names a verb, or begins with hyphens and names a flag,
or is the value of the flag before it, or is an operand of the verb. The rules that need saying:

* a flag's value follows it or, behind an equals sign, is part of its word; a flag that takes a value
  cannot go without, and none but `--map` may be given twice behind one verb;
* `--snapshot` and `--verbose` may stand behind any verb, and of several the last counts;
* a value in a word of its own that makes no sense is refused when the next flag or operand of the same
  verb is met, or else at the end, so that `help` in between is answered;
* behind the verb `help` there are only verbs, each one that may follow those before it;
* behind `--` every word is an operand;
* the verb `run` takes any words: once the first is there all that follow are operands, and before it a
  hyphened word that names no flag is one as well.

`Arguments.read` goes through the words one by one; `Invocation.ofArguments` says what they ask for.
-/

namespace Fieldbook

/-! ## What can be asked for -/

/-- A piece of work. -/
inductive Task where
  | fetch (flags : SettingsFlags)
  | run (words : List String)
  /-- Read sentences line by line. -/
  | converse
  | importTable (input : String) (pairs : List String) (append : Bool)
  | exportTable (output : String)
  | addColumn (label : String) (kind : ColumnKind)
  | listColumns
  | listRows (limit : Nat)
  deriving DecidableEq

/-- A piece of work on the working set that is kept in a file. -/
structure Invocation where
  snapshot : String := "./dexlab.json"
  task : Task
  deriving DecidableEq

/-- Why there is nothing to do. -/
inductive Refusal where
  | help
  | version
  /-- The words make no sense. -/
  | misuse
  deriving DecidableEq

/-! ## Verbs and flags -/

/-- How often a flag may be given, and whether it takes a value. -/
inductive Arity where
  | plain
  | valued
  /-- Valued, and may be given any number of times. -/
  | repeated
  deriving DecidableEq

/-- A flag. -/
inductive Flag where
  | snapshot
  | verbose
  | help
  | version
  | baseUrl
  | batchSize
  | limit
  | map
  | append
  | kind
  deriving DecidableEq

namespace Flag

/-- The name of a flag, which follows two hyphens. -/
def name : Flag → String
  | snapshot => "snapshot"
  | verbose => "verbose"
  | help => "help"
  | version => "version"
  | baseUrl => "base-url"
  | batchSize => "batch-size"
  | limit => "limit"
  | map => "map"
  | append => "append"
  | kind => "kind"

/-- The letter of a flag, which follows one hyphen. -/
def letter? : Flag → Option Char
  | verbose => some 'v'
  | help => some 'h'
  | version => some 'V'
  | _ => none

/-- The arity of a flag. -/
def arity : Flag → Arity
  | verbose | help | version | append => .plain
  | snapshot | baseUrl | batchSize | limit | kind => .valued
  | map => .repeated

/-- A number as a flag takes it. -/
def number? (value : String) : Option Nat := Decimal.readNat? (UInt64.size - 1) value.toList

/-- The flag takes the value. -/
def accepts (flag : Flag) (value : String) : Bool :=
  match flag with
  | snapshot => !value.isEmpty
  | batchSize | limit => (number? value).isSome
  | kind => (ColumnKind.ofName? value).isSome
  | _ => true

end Flag

/-- What follows a verb besides flags. -/
inductive Operands where
  | nothing
  /-- One word, not empty. -/
  | path
  /-- One word. -/
  | word
  /-- One word or more, whatever they look like. -/
  | words
  deriving DecidableEq

/-- A verb, together with those before it. -/
inductive Verb where
  /-- No verb yet. -/
  | top
  | fetch
  | run
  | repl
  | importTable
  | exportTable
  | columns
  | addColumn
  | listColumns
  | listRows
  | help
  deriving DecidableEq

namespace Verb

/-- The verbs that may follow. -/
def next : Verb → List (String × Verb)
  | top =>
    [("fetch", fetch), ("run", run), ("repl", repl), ("import", importTable),
      ("export", exportTable), ("columns", columns), ("show", listRows), ("help", help)]
  | columns => [("add", addColumn), ("list", listColumns), ("help", help)]
  | _ => []

/-- The flags that may follow. -/
def flags (verb : Verb) : List Flag :=
  [.snapshot, .verbose, .help] ++
    match verb with
    | top => [.version]
    | fetch => [.baseUrl, .batchSize, .limit]
    | importTable => [.map, .append]
    | addColumn => [.kind]
    | listRows => [.limit]
    | _ => []

/-- The operands that may follow. -/
def operands : Verb → Operands
  | run => .words
  | importTable | exportTable => .path
  | addColumn => .word
  | _ => .nothing

end Verb

/-! ## Reading -/

/-- What the words so far have said. -/
structure Arguments where
  verb : Verb := .top
  /-- The flags with the verbs that they stand behind, and their values. -/
  given : List (Verb × Flag × String) := []
  operands : List String := []
  /-- The flag that the next word is to be the value of. -/
  waiting : Option Flag := none
  /-- The words to come are operands. -/
  literal : Bool := false
  /-- The verb behind which a value in a word of its own was given that makes no sense. -/
  faulty : Option Verb := none
  /-- The verb that help is asked for, if `help` is. -/
  subject : Option Verb := none
  deriving DecidableEq

namespace Arguments

/-- The flag may be given here with this value: it takes the value and is not there yet. -/
def mayGive (args : Arguments) (flag : Flag) (value : String) : Bool :=
  flag.accepts value &&
    (flag.arity = .repeated || !args.given.any fun g => g.1 = args.verb ∧ g.2.1 = flag)

/-- Puts a flag with its value behind those that were given. -/
def push (args : Arguments) (flag : Flag) (value : String) : Arguments :=
  { args with given := args.given ++ [(args.verb, flag, value)], waiting := none }

/-- Takes a flag with its value. -/
def give (args : Arguments) (flag : Flag) (value : String) : Except Refusal Arguments :=
  if args.mayGive flag value then .ok (args.push flag value) else .error .misuse

/-- Takes the flag that was waited for with its value. -/
def fulfil (args : Arguments) (flag : Flag) (value : String) : Arguments :=
  if args.mayGive flag value then args.push flag value
  else { args.push flag value with faulty := some args.verb }

/-- The words behind the verb so far can be left as they are: no value is missing or makes no sense. -/
def isSettled (args : Arguments) : Bool :=
  args.waiting.isNone && args.faulty != some args.verb

/-- Takes a flag with the value that is part of its word, if there is one. -/
def mention (args : Arguments) (flag : Flag) (attached : Option String) :
    Except Refusal Arguments :=
  if !args.isSettled then .error .misuse
  else
    match flag.arity, attached with
    | .plain, some _ => .error .misuse
    | .plain, none =>
      match flag with
      | .help => .error .help
      | .version => .error .version
      | flag => args.give flag ""
    | _, some value => args.give flag value
    | _, none => .ok { args with waiting := some flag }

/-- Takes an operand. -/
def operand (args : Arguments) (word : String) : Except Refusal Arguments :=
  let taken : Arguments := { args with operands := args.operands ++ [word] }
  let fits :=
    match args.verb.operands with
    | .nothing => false
    | .path => args.operands.isEmpty && !word.isEmpty
    | .word => args.operands.isEmpty
    | .words => true
  if args.isSettled && fits then .ok taken else .error .misuse

/-- Takes a word that is no flag: the value waited for, or else an operand. -/
def plain (args : Arguments) (word : String) : Except Refusal Arguments :=
  match args.waiting with
  | some flag => .ok (args.fulfil flag word)
  | none => args.operand word

/-- Takes a word of two hyphens and these characters. -/
def long (args : Arguments) (word : String) (body : List Char) : Except Refusal Arguments :=
  let name := String.ofList (body.takeWhile (· != '='))
  let attached :=
    match body.dropWhile (· != '=') with
    | [] => none
    | _ :: value => some (String.ofList value)
  match args.verb.flags.find? (·.name == name) with
  | some flag => args.mention flag attached
  | none => if args.verb.operands = .words then args.plain word else .error .misuse

/-- Takes a word of one hyphen and these letters. -/
def short (args : Arguments) (word : String) (letters : List Char) : Except Refusal Arguments :=
  let flag? := fun (c : Char) => args.verb.flags.find? (·.letter? == some c)
  if args.verb.operands = .words ∧ letters.any (fun c => (flag? c).isNone) then args.plain word
  else
    letters.foldlM (fun args c =>
      match flag? c with
      | some flag => args.mention flag none
      | none => .error .misuse) args

/-- Takes a word behind the verb `help`, which stands behind the verb `subject`. -/
def consult (args : Arguments) (subject : Verb) (word : String) : Except Refusal Arguments :=
  match subject.next.lookup word with
  | some verb => .ok { args with subject := some verb }
  | none => .error .misuse

/-- Takes a verb. -/
def enter (args : Arguments) : Verb → Arguments
  | .help => { args with subject := some args.verb }
  | verb => { args with verb }

/-- Takes one more word that is neither a verb nor, for sure, an operand. -/
def take (args : Arguments) (word : String) : Except Refusal Arguments :=
  match word.toList with
  | ['-', '-'] => if args.waiting.isSome then .error .misuse else .ok { args with literal := true }
  | '-' :: '-' :: body => args.long word body
  | '-' :: c :: letters => args.short word (c :: letters)
  | _ => args.plain word

/-- Takes one more word. -/
def step (args : Arguments) (word : String) : Except Refusal Arguments :=
  match args.subject with
  | some subject => args.consult subject word
  | none =>
    if args.literal || (args.verb.operands = .words && !args.operands.isEmpty) then
      args.operand word
    else
      match if args.waiting.isNone then args.verb.next.lookup word else none with
      | some verb => .ok (args.enter verb)
      | none => args.take word

/-- Takes the words of a command line. -/
def read (words : List String) : Except Refusal Arguments :=
  words.foldlM step {}

/-- The value of a flag; of several the last. -/
def value? (args : Arguments) (flag : Flag) : Option String :=
  (args.given.reverse.find? (·.2.1 = flag)).map (·.2.2)

/-- All values of a flag. -/
def values (args : Arguments) (flag : Flag) : List String :=
  (args.given.filter (·.2.1 = flag)).map (·.2.2)

/-- The task that the words ask for, if they are complete. -/
def task? (args : Arguments) : Option Task :=
  let number? := fun flag => (args.value? flag).bind Flag.number?
  match args.verb, args.operands with
  | .fetch, [] =>
    some (.fetch ⟨args.value? .baseUrl, number? .batchSize, number? .limit⟩)
  | .run, w :: words => some (.run (w :: words))
  | .repl, [] => some .converse
  | .importTable, [input] =>
    some (.importTable input (args.values .map) (args.value? .append).isSome)
  | .exportTable, [output] => some (.exportTable output)
  | .addColumn, [label] =>
    some (.addColumn label (((args.value? .kind).bind ColumnKind.ofName?).getD .text))
  | .listColumns, [] => some .listColumns
  | .listRows, [] => some (.listRows ((number? .limit).getD 20))
  | _, _ => none

end Arguments

namespace Invocation

/-- What the words of a command line ask for. -/
def ofArguments (words : List String) : Except Refusal Invocation := do
  let args ← Arguments.read words
  if args.subject.isSome then throw .help
  match args.waiting, args.faulty, args.task? with
  | none, none, some task =>
    return { snapshot := (args.value? .snapshot).getD "./dexlab.json", task }
  | _, _, _ => throw .misuse

end Invocation

end Fieldbook
