import NaturalQuery.Interpret
import NaturalQuery.Describe
import NaturalQuery.Validation
import NaturalQuery.Settings
import NaturalQuery.Json.Write
import NaturalQuery.Text.Digit

/-!
The command line: `nlq-parse [-h] [--now NOW] [--compact] query [query ...]`. The words of the
query are joined by spaces and read; the query is printed as JSON (indented by two, or on one
line with `--compact`), then described in one sentence. A query that fails the checks has its
problems written as errors and ends with status 1; a configuration problem ends with status 2
before anything is read, as does a command line that cannot be understood.

Arguments are read the usual way for such commands: options may be shortened to any unique
prefix of their long names and take their value after a blank or an `=`; `--` ends the options;
text that looks like a negative number or holds a blank is never an option. The words of the
query must come in one run: words after an option that follow the query are refused.
-/

namespace NaturalQuery.Cli

open Time

def programName : String := "nlq-parse"

def usage : String := "usage: nlq-parse [-h] [--now NOW] [--compact] query [query ...]\n"

def helpText : String :=
  usage ++ "\n" ++
  "Interpret a natural-language business query as a structured descriptor.\n\n" ++
  "positional arguments:\n" ++
  "  query       The query text, e.g. 'invoices over $5000'.\n\n" ++
  "options:\n" ++
  "  -h, --help  show this help message and exit\n" ++
  "  --now NOW   Pin the current time (ISO 8601) used to resolve relative dates.\n" ++
  "  --compact   Print the descriptor as a single JSON line.\n"

inductive Flag where
  | help
  | now
  | compact
  deriving DecidableEq, Repr

def spellings : List (String × Flag) :=
  [("-h", .help), ("--help", .help), ("--now", .now), ("--compact", .compact)]

def Flag.display : Flag → String
  | .help => "-h/--help"
  | .now => "--now"
  | .compact => "--compact"

def Flag.arity : Flag → Nat
  | .now => 1
  | _ => 0

/-- A value written in the same argument as its option: glued to a single-dash option (`-hx`),
or after an `=`. -/
structure Attached where
  value : String
  glued : Bool

/-- What an argument is: a word of the query, or an option (perhaps unknown) with its spelling
and the value written in the same argument, if any. -/
inductive Token where
  | word
  | option (flag : Option Flag) (spelling : String) (attached : Option Attached)

def splitAtEquals (s : String) : String × Option String :=
  let cs := s.toList
  let before := cs.takeWhile (· != '=')
  if before.length == cs.length then (s, none)
  else (String.ofList before, some (String.ofList (cs.drop (before.length + 1))))

def prefixMatches (arg : String) : List (Flag × String × Option Attached) :=
  match arg.toList with
  | '-' :: '-' :: _ =>
    let (stem, attached) := splitAtEquals arg
    spellings.filterMap fun (s, f) =>
      if s.startsWith stem then some (f, s, attached.map (⟨·, false⟩)) else none
  | '-' :: _ :: _ =>
    let short := String.ofList (arg.toList.take 2)
    let rest := String.ofList (arg.toList.drop 2)
    spellings.filterMap fun (s, f) =>
      if s == short then some (f, s, some ⟨rest, true⟩)
      else if s.startsWith arg then some (f, s, none)
      else none
  | _ => []

/-- Whether an argument is written like a negative number: `-` and digits, or `-`, digits, a
point and digits, perhaps followed by one line feed. -/
def looksNegative (arg : String) : Bool :=
  let cs := arg.toList
  let cs := if cs.getLast? == some '\n' then cs.dropLast else cs
  match cs with
  | '-' :: body =>
    let whole := body.takeWhile Text.isDigit
    match body.drop whole.length with
    | [] => !whole.isEmpty
    | '.' :: fraction => !fraction.isEmpty && fraction.all Text.isDigit
    | _ => false
  | _ => false

def classify (arg : String) : Except String Token :=
  match arg.toList with
  | [] => .ok .word
  | c :: rest =>
    if c != '-' then .ok .word
    else
      match spellings.lookup arg with
      | some f => .ok (.option (some f) arg none)
      | none =>
        if rest.isEmpty then .ok .word
        else
          let (stem, attached) := splitAtEquals arg
          match attached, spellings.lookup stem with
          | some value, some f => .ok (.option (some f) stem (some ⟨value, false⟩))
          | _, _ =>
            match prefixMatches arg with
            | [(f, s, value)] => .ok (.option (some f) s value)
            | [] =>
              if looksNegative arg || arg.contains ' ' then .ok .word
              else .ok (.option none arg none)
            | several =>
              .error ("ambiguous option: " ++ arg ++ " could match " ++
                ", ".intercalate (several.map fun (_, s, _) => s))

/-- The kind of each argument: a word (`A`), an option (`O`), or the `--` that ends options
(`-`), after which everything is a word. -/
def tokenize : List String → Except String (List (Char × Token))
  | [] => .ok []
  | "--" :: rest => .ok (('-', .word) :: rest.map fun _ => ('A', .word))
  | arg :: rest => do
    let token ← classify arg
    let kind := match token with
      | .word => 'A'
      | .option _ _ _ => 'O'
    pure ((kind, token) :: (← tokenize rest))

structure Request where
  words : List String
  now : Option Moment
  compact : Bool

/-- How reading the command line ends: with the help, with a complaint, or with a request. -/
inductive Reading where
  | help
  | complaint (message : String)
  | request (r : Request)

structure Progress where
  words : Option (List String)
  now : Option Moment
  compact : Bool
  extras : List String

/-- The number of arguments the query takes from `kinds`: any `-`, a word, then words and `-`
up to the first option; zero when no word comes first. -/
def queryRun (kinds : List Char) : Nat :=
  let dashes := kinds.takeWhile (· == '-')
  match kinds.drop dashes.length with
  | 'A' :: more => dashes.length + 1 + (more.takeWhile fun k => k == 'A' || k == '-').length
  | _ => 0

def dropFirstSeparator : List String → List String
  | [] => []
  | "--" :: rest => rest
  | a :: rest => a :: dropFirstSeparator rest

/-- The words of the query taken from position `start`, when the query has not been taken yet.
Gives the position after them. -/
def takeQuery (args : List String) (kinds : List Char) (start : Nat) (p : Progress) :
    Progress × Nat :=
  match p.words with
  | some _ => (p, start)
  | none =>
    let n := queryRun (kinds.drop start)
    if n = 0 then (p, start)
    else ({ p with words := some (dropFirstSeparator ((args.drop start).take n)) }, start + n)

/-- The moment of a `--now` value: ISO text, a naive one tied to the local clock; or the
complaint. -/
def readNow (zone : SystemZone) (value : String) : Outcome (Except String Moment) :=
  match Moment.readIso? value with
  | none => .ok (.error ("argument --now: invalid ISO timestamp: " ++ value))
  | some m =>
    match m.anchor with
    | .naive =>
      match zone.attach m.wall with
      | .ok attached => .ok (.ok attached)
      | .error .dateOutOfRange => .error .dateOutOfRange
      | .error _ => .ok (.error ("argument --now: invalid _parse_now value: " ++ Text.literal value))
    | _ => .ok (.ok m)

def applyOption (zone : SystemZone) (p : Progress) (flag : Flag) (values : List String) :
    Outcome (Except Reading Progress) :=
  match flag with
  | .help => .ok (.error .help)
  | .compact => .ok (.ok { p with compact := true })
  | .now =>
    match values with
    | [value] =>
      (readNow zone value).map fun r =>
        match r with
        | .ok m => .ok { p with now := some m }
        | .error message => .error (.complaint message)
    | _ => .ok (.ok p)

/-- The options named by one argument: more single-dash options may be glued to a single-dash
option that takes no value, as in `-hh`. Gives the options with their values, the position
after, and the rest of the argument when it names no option. -/
def optionChain (args : List String) (kinds : List Char) (start : Nat) :
    Nat → Flag → String → Option Attached → List (Flag × List String) →
      Except String (List (Flag × List String) × Nat × List String)
  | 0, _, _, _, chain => .ok (chain, start + 1, [])
  | fuel + 1, flag, spelling, attached, chain =>
    let ignored (value : String) : Except String (List (Flag × List String) × Nat × List String) :=
      .error ("argument " ++ flag.display ++ ": ignored explicit argument " ++ Text.literal value)
    match attached with
    | some ⟨value, glued⟩ =>
      if flag.arity == 0 && (spelling.toList.drop 1).head? != some '-' && value != "" then
        if !glued || value.toList.head? == some '-' then ignored value
        else
          let chain := chain ++ [(flag, [])]
          let next := "-" ++ String.ofList (value.toList.take 1)
          let remaining := value.toList.drop 1
          match spellings.lookup next with
          | some f =>
            let attached := match remaining with
              | [] => none
              | '=' :: more => some ⟨String.ofList more, false⟩
              | more => some ⟨String.ofList more, true⟩
            optionChain args kinds start fuel f next attached chain
          | none => .ok (chain, start + 1, ["-" ++ value])
      else if flag.arity == 1 then .ok (chain ++ [(flag, [value])], start + 1, [])
      else ignored value
    | none =>
      if flag.arity == 1 then
        if (kinds.drop (start + 1)).head? == some 'A' then
          .ok (chain ++ [(flag, (args.drop (start + 1)).take 1)], start + 2, [])
        else .error ("argument " ++ flag.display ++ ": expected one argument")
      else .ok (chain ++ [(flag, [])], start + 1, [])

def applyChain (zone : SystemZone) (p : Progress) :
    List (Flag × List String) → Outcome (Except Reading Progress)
  | [] => .ok (.ok p)
  | (flag, values) :: rest => do
    match ← applyOption zone p flag values with
    | .ok p => applyChain zone p rest
    | .error r => pure (.error r)

def readFrom (zone : SystemZone) (args : List String) (tokens : List (Char × Token)) :
    Nat → Nat → Progress → Outcome (Except Reading (Progress × Nat))
  | 0, start, p => .ok (.ok (p, start))
  | fuel + 1, start, p =>
    let kinds := tokens.map Prod.fst
    let optionsAhead := (List.range tokens.length).filter fun i => i ≥ start && kinds[i]? == some 'O'
    match optionsAhead.head? with
    | none => .ok (.ok (p, start))
    | some next =>
      let (p, start') := if start ≠ next then takeQuery args kinds start p else (p, start)
      if start' > start then readFrom zone args tokens fuel start' p
      else
        let p := if start' ≠ next then { p with extras := p.extras ++ (args.drop start').take (next - start') } else p
        match tokens[next]? with
        | some (_, .option none spelling _) =>
          readFrom zone args tokens fuel (next + 1) { p with extras := p.extras ++ [spelling] }
        | some (_, .option (some flag) spelling attached) =>
          match optionChain args kinds next ((attached.map (·.value.length)).getD 0 + 1) flag
            spelling attached [] with
          | .error message => .ok (.error (.complaint message))
          | .ok (chain, after, extra) => do
            match ← applyChain zone { p with extras := p.extras ++ extra } chain with
            | .ok p => readFrom zone args tokens fuel after p
            | .error r => pure (.error r)
        | _ => .ok (.ok (p, next + 1))

def readArguments (zone : SystemZone) (args : List String) : Outcome Reading :=
  match tokenize args with
  | .error message => .ok (.complaint message)
  | .ok tokens => do
    let start : Progress := ⟨none, none, false, []⟩
    match ← readFrom zone args tokens (args.length + 1) 0 start with
    | .error r => pure r
    | .ok (p, stop) =>
      let (p, stop) := takeQuery args (tokens.map Prod.fst) stop p
      let p := { p with extras := p.extras ++ args.drop stop }
      match p.words with
      | none => pure (.complaint "the following arguments are required: query")
      | some words =>
        if p.extras.isEmpty then pure (.request ⟨words, p.now, p.compact⟩)
        else pure (.complaint ("unrecognized arguments: " ++ " ".intercalate p.extras))

structure Report where
  exitCode : Nat
  stdout : String
  stderr : String
  logs : List String

/-- Everything a run of the command sees: its arguments, its environment and environment file,
the local clock's rules and the current time as a UTC reading. -/
structure Invocation where
  args : List String
  env : Environment
  envFile : Option String
  zone : SystemZone
  clock : WallTime

def fileWarnings (text : String) : List String :=
  (EnvFile.brokenLines text).map fun line =>
    "WARNING dotenv.main python-dotenv could not parse statement starting at line " ++ toString line

def withFile (env : Environment) (text : String) : Environment :=
  (EnvFile.values env false text).foldl (fun acc (k, v) =>
    match v with
    | some value => if acc.any (·.1 == k) then acc else acc ++ [(k, value)]
    | none => acc) env

/-- Where a run reads its configuration: the environment with the file's variables added, the
file's variables alone, and the warnings about the file. -/
def Invocation.sources (inv : Invocation) : Environment × EnvFile.Bindings × List String :=
  match inv.envFile with
  | some text =>
    let env := withFile inv.env text
    (env, EnvFile.values env true text, fileWarnings text ++ fileWarnings text)
  | none => (inv.env, [], [])

/-- The current time of a request: the one given with `--now`, or the clock read in the local
zone. -/
def Invocation.now (inv : Invocation) (request : Request) : Outcome Moment :=
  match request.now with
  | some m => pure m
  | none => inv.zone.fromUtc inv.clock

def run (inv : Invocation) : Outcome Report := do
  match ← readArguments inv.zone inv.args with
  | .help => pure ⟨0, helpText, "", []⟩
  | .complaint message =>
    pure ⟨2, "", usage ++ programName ++ ": error: " ++ message ++ "\n", []⟩
  | .request request =>
    let (env, fileVars, warnings) := inv.sources
    match loadSettings env fileVars with
    | .error issues =>
      pure ⟨2, "", "Invalid environment configuration: " ++ ConfigIssue.report issues ++ "\n",
        warnings⟩
    | .ok settings =>
      let now ← inv.now request
      let query ← interpret ⟨now, inv.zone⟩ Vocabulary.standard settings.defaultLimit
        (some (" ".intercalate request.words))
      let findings := query.findings settings.maxLimit
      let layout : Json.Layout := ⟨if request.compact then none else some 2, true⟩
      let stdout := Json.render layout query.toJson ++ "\n" ++ query.describe ++ "\n"
      let entity := match query.entity with | some e => e.name | none => "None"
      let debug := if settings.logLevel == .debug then
          ["DEBUG src.query.parser " ++ query.summaryLine] else []
      let info (line : String) : List String :=
        if settings.logLevel.rank ≤ LogLevel.info.rank then ["INFO src.cli " ++ line] else []
      if findings.isEmpty then
        pure ⟨0, stdout, "", warnings ++ debug ++
          info ("parsed query entity=" ++ entity ++ " confidence=" ++ Decimal.fixed query.confidence 2)⟩
      else
        pure ⟨1, stdout, String.join (findings.map fun f => "error: " ++ f.message ++ "\n"),
          warnings ++ debug ++
            info ("invalid query entity=" ++ entity ++ " errors=" ++ toString findings.length)⟩

end NaturalQuery.Cli
