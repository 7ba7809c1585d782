import NaturalQuery.EnvFile
import NaturalQuery.Query.Read
import NaturalQuery.Text.Literal
import NaturalQuery.Text.Lower

/-!
The configuration of the tools, read from environment variables and an environment file. Three
variables count, their names matched without regard to case: `QUERY_DEFAULT_LIMIT` (25 when
unset), `QUERY_MAX_LIMIT` (1000) and `LOG_LEVEL` (`INFO`). A variable set in the environment wins
over the file. The two limits are integers, the largest at most 1000 and at least 1, the default
from 1 to the largest; the level is one of five names in any case. Every problem is reported,
each with the variable, the value given and the kind of problem; the default limit is checked
against the largest only when the variables themselves are right.
-/

namespace NaturalQuery

inductive LogLevel where
  | debug
  | info
  | warning
  | error
  | critical
  deriving DecidableEq, Repr

def LogLevel.all : List LogLevel := [.debug, .info, .warning, .error, .critical]

def LogLevel.name : LogLevel → String
  | .debug => "DEBUG"
  | .info => "INFO"
  | .warning => "WARNING"
  | .error => "ERROR"
  | .critical => "CRITICAL"

def LogLevel.rank : LogLevel → Nat
  | .debug => 10
  | .info => 20
  | .warning => 30
  | .error => 40
  | .critical => 50

structure Settings where
  defaultLimit : Int
  maxLimit : Int
  logLevel : LogLevel

/-- A problem with the configuration: the variable (none for the whole), what is wrong, the
kind of problem, and the value given as a literal with its type. -/
structure ConfigIssue where
  name : Option String
  message : String
  kind : String
  given : String
  givenType : String

abbrev Environment := List (String × String)

def Environment.set (env : Environment) (name value : String) : Environment :=
  if env.any (·.1 == name) then env.map fun (k, v) => if k == name then (k, value) else (k, v)
  else env ++ [(name, value)]

def defaultLimitName : String := "QUERY_DEFAULT_LIMIT"
def maxLimitName : String := "QUERY_MAX_LIMIT"
def logLevelName : String := "LOG_LEVEL"

def settingNames : List String := [defaultLimitName, maxLimitName, logLevelName]

def foldName (name : String) : String := Text.lower name

def lookupFolded (pairs : List (String × α)) (name : String) : Option α :=
  (pairs.reverse.find? fun (k, _) => foldName k == foldName name).map Prod.snd

def mergeInto (base : List (String × String)) (updates : List (String × String)) :
    List (String × String) :=
  updates.foldl (fun acc (k, v) => Environment.set acc k v) base

/-- The values the configuration is read from, in their order: the file's variables first
(those of the configuration, then any others with a value, in lower case), then those of the
environment not in the file; the environment's values win. -/
def configInput (env : Environment) (file : EnvFile.Bindings) : List (String × String) :=
  let folded : EnvFile.Bindings :=
    file.foldl (fun acc (k, v) => EnvFile.Bindings.set acc (foldName k) v) []
  let fromFile := settingNames.filterMap fun n =>
    match folded.lookup (foldName n) with
    | some (some v) => some (n, v)
    | _ => none
  let others := folded.filterMap fun (k, v) =>
    match v with
    | some value =>
      if value.isEmpty || settingNames.any (foldName · == k) then none else some (k, value)
    | none => none
  let fromEnv := settingNames.filterMap fun n => (lookupFolded env n).map (n, ·)
  mergeInto (fromFile ++ others) fromEnv

def valueIssue (name : String) (message kind value : String) : ConfigIssue :=
  ⟨some name, message, kind, Text.literal value, "str"⟩

def readLimit (name value : String) : Except ConfigIssue Int :=
  if (Text.trimWhite value).length > 4300 then
    .error (valueIssue name "Unable to parse input string as an integer, exceeded maximum size"
      "int_parsing_size" value)
  else
    match readIntegerText value with
    | some n => .ok n
    | none => .error (valueIssue name
        "Input should be a valid integer, unable to parse string as an integer" "int_parsing" value)

def asciiUpper (s : String) : Option String :=
  (s.toList.mapM fun c =>
    if 'a' ≤ c && c ≤ 'z' then some [Char.ofNat (c.toNat - 32)]
    else if c.toNat < 128 then some [c]
    else match c.toNat with
      | 0xDF => some ['S', 'S']
      | 0x131 => some ['I']
      | 0x17F => some ['S']
      | 0xFB00 => some ['F', 'F']
      | 0xFB01 => some ['F', 'I']
      | 0xFB02 => some ['F', 'L']
      | 0xFB03 => some ['F', 'F', 'I']
      | 0xFB04 => some ['F', 'F', 'L']
      | 0xFB05 => some ['S', 'T']
      | 0xFB06 => some ['S', 'T']
      | _ => none).map fun parts => String.ofList parts.flatten

def LogLevel.ofName? (name : String) : Option LogLevel :=
  (asciiUpper name).bind fun upper => LogLevel.all.find? (·.name == upper)

def ruleValueIssue (name message value : String) : ConfigIssue :=
  valueIssue name ("Value error, " ++ message) "value_error" value

def loadSettings (env : Environment) (file : EnvFile.Bindings) : Except (List ConfigIssue) Settings :=
  let input := configInput env file
  let defaultLimit : Except ConfigIssue Int :=
    match input.lookup defaultLimitName with
    | some v => readLimit defaultLimitName v
    | none => .ok 25
  let maxLimit : Except ConfigIssue Int :=
    match input.lookup maxLimitName with
    | some v =>
      (readLimit maxLimitName v).bind fun n =>
        if n < 1 || n > 1000 then
          .error (ruleValueIssue maxLimitName "QUERY_MAX_LIMIT must be between 1 and 1000" v)
        else .ok n
    | none => .ok 1000
  let logLevel : Except ConfigIssue LogLevel :=
    match input.lookup logLevelName with
    | some v =>
      match LogLevel.ofName? v with
      | some level => .ok level
      | none => .error (ruleValueIssue logLevelName ("unsupported LOG_LEVEL: " ++ v) v)
    | none => .ok .info
  match defaultLimit, maxLimit, logLevel with
  | .ok d, .ok m, .ok l =>
    if d < 1 || d > m then
      let shown := "\x7b" ++ ", ".intercalate (input.map fun (k, v) =>
        Text.literal k ++ ": " ++ Text.literal v) ++ "\x7d"
      .error [⟨none, "Value error, QUERY_DEFAULT_LIMIT must be between 1 and QUERY_MAX_LIMIT",
        "value_error", shown, "dict"⟩]
    else .ok ⟨d, m, l⟩
  | _, _, _ =>
    let issueOf {α : Type} (r : Except ConfigIssue α) : List ConfigIssue :=
      match r with
      | .error i => [i]
      | .ok _ => []
    .error (issueOf defaultLimit ++ issueOf maxLimit ++ issueOf logLevel)

def shortened (s : String) : String :=
  let cs := s.toList
  if cs.length > 50 then String.ofList (cs.take 25) ++ "..." ++ String.ofList (cs.drop (cs.length - 24))
  else s

def ConfigIssue.report (issues : List ConfigIssue) : String :=
  let count := issues.length
  let title := toString count ++ " validation error" ++ (if count == 1 then "" else "s") ++
    " for Settings"
  let block (i : ConfigIssue) : String :=
    (match i.name with | some n => n ++ "\n" | none => "") ++
      "  " ++ i.message ++ " [type=" ++ i.kind ++ ", input_value=" ++ shortened i.given ++
      ", input_type=" ++ i.givenType ++ "]\n    For further information visit " ++
      "https://errors.pydantic.dev/2.14/v/" ++ i.kind
  title ++ "\n" ++ "\n".intercalate (issues.map block)

end NaturalQuery
