import Fieldbook.Double.Decimal
import Fieldbook.Text.Blank

/-!
# Settings of an ingestion

Where the catalog is and in what portions it is asked for. Each setting has a default, a variable of the
environment that overrides the default and, for three of them, a flag that overrides the variable
(`Settings.withFlags`).
-/

namespace Fieldbook

/-- The settings of an ingestion. -/
structure Settings where
  /-- The root of the catalog. -/
  baseUrl : String := "https://pokeapi.co/api/v2"
  /-- How many entries the index is asked for. -/
  indexLimit : Nat := 2000
  /-- How many records are asked for at a time. -/
  batchSize : Nat := 20
  /-- How long a request may take. -/
  timeoutSecs : Nat := 30
  deriving DecidableEq

/-- What is wrong with settings. -/
inductive SettingsError where
  | notWhole (name raw : String)
  | emptyBaseUrl
  | zeroBatchSize
  | zeroIndexLimit
  deriving DecidableEq

/-- The wording of a fault. -/
def SettingsError.message : SettingsError → String
  | notWhole name raw => s!"Invalid configuration: {name}={raw} is not a whole number"
  | emptyBaseUrl => "Invalid configuration: base_url is empty"
  | zeroBatchSize => "Invalid configuration: batch_size must be at least 1"
  | zeroIndexLimit => "Invalid configuration: index_limit must be at least 1"

/-- The variables of an environment, as far as they are set. -/
abbrev Environment := String → Option String

namespace Settings

/-- The first thing that is wrong with the settings, if anything is. -/
def fault? (s : Settings) : Option SettingsError :=
  if Text.isBlankText s.baseUrl then some .emptyBaseUrl
  else if s.batchSize = 0 then some .zeroBatchSize
  else if s.indexLimit = 0 then some .zeroIndexLimit
  else none

/-- The settings themselves if nothing is wrong with them. -/
def validate (s : Settings) : Except SettingsError Settings :=
  match s.fault? with
  | some e => .error e
  | none => .ok s

/-- The number that a variable gives, if it is set; blanks around the number do not count. -/
def number? (env : Environment) (name : String) : Except SettingsError (Option Nat) :=
  match env name with
  | none => .ok none
  | some raw =>
    match Decimal.readNat? (UInt64.size - 1) (Text.trimChars raw.toList) with
    | some n => .ok (some n)
    | none => .error (.notWhole name raw)

/-- The variable for the root of the catalog. -/
def baseUrlVariable : String := "DEXLAB_BASE_URL"

/-- The variable for the size of the index. -/
def indexLimitVariable : String := "DEXLAB_INDEX_LIMIT"

/-- The variable for the size of a batch. -/
def batchSizeVariable : String := "DEXLAB_BATCH_SIZE"

/-- The variable for how long a request may take. -/
def timeoutVariable : String := "DEXLAB_TIMEOUT_SECS"

/-- The variables that settings are read from. -/
def variableNames : List String :=
  [baseUrlVariable, indexLimitVariable, batchSizeVariable, timeoutVariable]

/-- The defaults overridden by the environment. -/
def ofEnvironment (env : Environment) : Except SettingsError Settings := do
  let defaults : Settings := {}
  let baseUrl := (env baseUrlVariable).getD defaults.baseUrl
  let indexLimit := (← number? env indexLimitVariable).getD defaults.indexLimit
  let batchSize := (← number? env batchSizeVariable).getD defaults.batchSize
  let timeoutSecs := (← number? env timeoutVariable).getD defaults.timeoutSecs
  validate { baseUrl, indexLimit, batchSize, timeoutSecs }

/-- The root of the catalog without the slashes it ends with. -/
def trimmedBaseUrl (s : Settings) : String :=
  String.ofList (s.baseUrl.toList.reverse.dropWhile (· == '/')).reverse

/-- Where the index is. -/
def indexUrl (s : Settings) : String :=
  s!"{s.trimmedBaseUrl}/pokemon?limit={s.indexLimit}"

end Settings

/-- Settings given on the command line. -/
structure SettingsFlags where
  baseUrl : Option String := none
  batchSize : Option Nat := none
  indexLimit : Option Nat := none
  deriving DecidableEq

namespace Settings

/-- The settings with the given flags in place of what they override. -/
def withFlags (s : Settings) (flags : SettingsFlags) : Settings :=
  { s with
    baseUrl := flags.baseUrl.getD s.baseUrl
    batchSize := flags.batchSize.getD s.batchSize
    indexLimit := flags.indexLimit.getD s.indexLimit }

end Settings

end Fieldbook
