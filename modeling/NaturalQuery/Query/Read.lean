import NaturalQuery.Query.Check
import NaturalQuery.Json.Value
import NaturalQuery.Decimal.Binary
import NaturalQuery.Time.Iso
import NaturalQuery.Text.Lower
import NaturalQuery.Time.Stamp

/-!
Reading query models from JSON data, leniently. A text member takes text only; an integer member
takes integers, booleans, whole doubles and integer text; a number member takes numbers,
booleans and numeric text; a moment member takes ISO text or Unix seconds; a choice member takes
one of its names. Every member is read and every problem is kept, with its place as a path of
member names and indexes; members a model does not have are refused. A model whose members all
read has its own rules checked last, and a broken rule is a problem of the model as a whole.
The filter value takes the first kind that the data is exactly (text, integer, double, boolean
or a list of texts); when none fits, each kind reports why, under its own name.
-/

namespace NaturalQuery

open Time

abbrev Checked (α : Type) := Except (List Issue) α

def Checked.under (key : String) (result : Checked α) : Checked α :=
  result.mapError fun issues => issues.map fun i => ⟨key :: i.loc, i.msg⟩

def issuesOf (r : Checked α) : List Issue :=
  match r with
  | .error is => is
  | .ok _ => []

def problem (msg : String) : Checked α := .error [⟨[], msg⟩]

section Scalars

def isTrimmed (c : Char) : Bool := Text.isWhiteSpace c

def readText (strip nonEmpty : Bool) : Json → Checked String
  | .str s =>
    let s := if strip then Text.trimWhite s else s
    if nonEmpty && s.isEmpty then problem "String should have at least 1 character" else .ok s
  | _ => problem "Input should be a valid string"

def integerText? (cs : List Char) : Option Int :=
  let (negative, digits) := match cs with
    | '-' :: rest => (true, rest)
    | '+' :: rest => (false, rest)
    | _ => (false, cs)
  if digits.isEmpty || !digits.all (fun c => '0' ≤ c && c ≤ '9') then none
  else
    let n : Int := digits.foldl (fun n c => 10 * n + (c.toNat - 48)) 0
    some (if negative then -n else n)

def underscoresBetweenDigits : List Char → Bool
  | a :: '_' :: b :: rest =>
    '0' ≤ a && a ≤ '9' && '0' ≤ b && b ≤ '9' && underscoresBetweenDigits (b :: rest)
  | '_' :: _ => false
  | _ :: rest => underscoresBetweenDigits rest
  | [] => true

def withoutUnderscores (cs : List Char) : Option (List Char) :=
  if underscoresBetweenDigits cs then some (cs.filter (· ≠ '_')) else none

/-- Integer text: trimmed, with an optional sign, and possibly a point and zeros after it, or
underscores between its digits. -/
def readIntegerText (s : String) : Option Int :=
  let cs := (Text.trimWhite s).toList
  match integerText? cs with
  | some n => some n
  | none =>
    let whole := cs.takeWhile (· ≠ '.')
    let rest := cs.drop whole.length
    let zerosDropped := match rest with
      | '.' :: zeros => if zeros.all (· = '0') then integerText? whole else none
      | _ => none
    match zerosDropped with
    | some n => some n
    | none => (withoutUnderscores cs).bind integerText?

def readInt : Json → Checked Int
  | .int n => .ok n
  | .bool b => .ok (if b then 1 else 0)
  | .float x =>
    match Decimal.Binary.read x with
    | .finite b =>
      if b.isIntegral then .ok b.truncate
      else problem "Input should be a valid integer, got a number with a fractional part"
    | _ => problem "Input should be a finite number"
  | .str s =>
    if (Text.trimWhite s).length > 4300 then
      problem "Unable to parse input string as an integer, exceeded maximum size"
    else
      match readIntegerText s with
      | some n => .ok n
      | none => problem "Input should be a valid integer, unable to parse string as an integer"
  | _ => problem "Input should be a valid integer"

/-- Decimal text as a double: an optional sign, then `inf`, `infinity` or `nan` in any case, or
digits with an optional fraction (at least one digit in all) and an optional exponent. -/
def floatText? (cs : List Char) : Option Float :=
  let (negative, body) := match cs with
    | '-' :: rest => (true, rest)
    | '+' :: rest => (false, rest)
    | _ => (false, cs)
  let word := String.ofList (body.map Text.foldChar)
  let signed (x : Float) : Float := if negative then -x else x
  if word == "inf" || word == "infinity" then some (signed (1.0 / 0.0))
  else if word == "nan" then some (0.0 / 0.0)
  else
    let isAsciiDigit (c : Char) := '0' ≤ c && c ≤ '9'
    let whole := body.takeWhile isAsciiDigit
    let afterWhole := body.drop whole.length
    let (fraction, afterFraction) := match afterWhole with
      | '.' :: more => (more.takeWhile isAsciiDigit, more.dropWhile isAsciiDigit)
      | _ => ([], afterWhole)
    if whole.isEmpty && fraction.isEmpty then none
    else
      let exponent : Option Int := match afterFraction with
        | [] => some 0
        | e :: more =>
          if e = 'e' || e = 'E' then integerText? more else none
      exponent.map fun e =>
        let mantissa := (whole ++ fraction).foldl (fun n c => 10 * n + (c.toNat - 48)) 0
        let power : Int := e - (fraction.length : Int)
        signed (if power < 0 then Float.ofScientific mantissa true power.natAbs
          else Float.ofScientific mantissa false power.natAbs)

def readFloatText (s : String) : Option Float :=
  match floatText? (Text.trimWhite s).toList with
  | some x => some x
  | none => (withoutUnderscores s.toList).bind floatText?

def readFloat : Json → Checked Float
  | .float x => .ok x
  | .int n => .ok (Float.ofInt n)
  | .bool b => .ok (if b then 1.0 else 0.0)
  | .str s =>
    match readFloatText s with
    | some x => .ok x
    | none => problem "Input should be a valid number, unable to parse string as a number"
  | _ => problem "Input should be a valid number"

def choiceList (names : List String) : String :=
  let quoted := names.map fun n => "'" ++ n ++ "'"
  match quoted.reverse with
  | [] => ""
  | [only] => only
  | last :: others => ", ".intercalate others.reverse ++ " or " ++ last

def readChoice (choices : List α) (name : α → String) : Json → Checked α
  | .str s =>
    match choices.find? (name · == s) with
    | some c => .ok c
    | none => problem ("Input should be " ++ choiceList (choices.map name))
  | _ => problem ("Input should be " ++ choiceList (choices.map name))

/-- A moment on a wall time with an offset, or without one; the year 0 has no moments, and a
stamp in it is a problem of the member. -/
def stampMoment (wall : WallTime) (offset : Option Int) : Outcome (Checked Moment) :=
  if wall.date.year = 0 then .ok (problem "Input should be a valid datetime, year 0 is out of range")
  else .ok (.ok ⟨wall, match offset with | some o => .fixed o | none => .naive⟩)

/-- A count of seconds in text, read as a double: the whole seconds below it, then the
microseconds of the rest. -/
def textStamp (x : Float) : Except StampError WallTime :=
  let normalized := if x.abs > 20000000000.0 then x / 1000.0 else x
  let seconds := floorOf normalized
  let micro := ((normalized - Float.ofInt seconds) * 1000000.0).round
  fromTimestamp seconds (if micro.isNaN then 0 else micro.toUInt32.toNat)

/-- A moment in text: a timestamp, a count of seconds, or a day alone at midnight. A failure
reports what the day reader found wrong. -/
def readMomentText (s : String) : Outcome (Checked Moment) :=
  let cs := s.toList
  let refused (e : StampError) : Outcome (Checked Moment) :=
    .ok (problem ("Input should be a valid datetime or date, " ++ e.text))
  match readStamp? cs with
  | some (wall, offset) => stampMoment wall offset
  | none =>
    let counted : Option (Except StampError WallTime) :=
      match stampInteger? cs with
      | some n => some (fromTimestamp n 0)
      | none => (floatText? cs).map textStamp
    match counted with
    | some (.ok wall) => stampMoment wall (some 0)
    | some (.error e) => refused e
    | none =>
      match readStampDate cs with
      | .ok day => stampMoment (WallTime.midnight day) none
      | .error e => refused e

def countedMoment : Except StampError WallTime → Outcome (Checked Moment)
  | .ok wall => stampMoment wall (some 0)
  | .error e => .ok (problem ("Input should be a valid datetime, " ++ e.text))

def readMoment : Json → Outcome (Checked Moment)
  | .str s => readMomentText s
  | .int n =>
    if saturate n == n then countedMoment (fromTimestamp n 0)
    else
      let x := Float.ofInt n
      if x.isFinite then countedMoment (floatStamp x)
      else .ok (problem "Input should be a valid datetime")
  | .float x => countedMoment (floatStamp x)
  | _ => .ok (problem "Input should be a valid datetime")

def readTextList (strip : Bool) (items : List Json) : Checked (List String) :=
  let results := items.mapIdx fun i item => (readText strip false item).under (toString i)
  let issues := results.flatMap fun r => match r with | .error is => is | .ok _ => []
  if issues.isEmpty then .ok (results.filterMap fun r => match r with | .ok s => some s | .error _ => none)
  else .error issues

def readTextSequence : Json → Checked (List String)
  | .arr items => readTextList false items
  | _ => problem "Input should be a valid tuple"

end Scalars

section Unions

def valueKindIssues (v : Json) : List Issue :=
  let tagged {α : Type} (tag : String) (r : Checked α) : List Issue := issuesOf (r.under tag)
  tagged "constrained-str" (readText true false v) ++
    tagged "int" (problem "Input should be a valid integer" : Checked Unit) ++
    tagged "float" (problem "Input should be a valid number" : Checked Unit) ++
    tagged "bool" (problem "Input should be a valid boolean" : Checked Unit) ++
    tagged "datetime" (problem "Input should be a valid datetime" : Checked Unit) ++
    tagged "list[constrained-str]"
      (match v with | .arr items => readTextList true items | _ => problem "Input should be a valid list")

def readFilterValue (v : Json) : Checked FilterValue :=
  match v with
  | .str s => .ok (.text (Text.trimWhite s))
  | .int n => .ok (.int n)
  | .float x => .ok (.float x)
  | .bool b => .ok (.bool b)
  | .arr items =>
    match readTextList true items with
    | .ok texts => .ok (.texts texts)
    | .error _ => .error (valueKindIssues v)
  | _ => .error (valueKindIssues v)

/-- An upper bound: an integer, a double or a moment, as the data is or, failing that, as it
can be read (booleans and text included), in that order. -/
def readBound (v : Json) : Outcome (Checked (Option Bound)) :=
  match v with
  | .null => pure (.ok none)
  | .int n => pure (.ok (some (.int n)))
  | .float x => pure (.ok (some (.float x)))
  | _ =>
    match readInt v with
    | .ok n => pure (.ok (some (.int n)))
    | .error intIssues =>
      match readFloat v with
      | .ok x => pure (.ok (some (.float x)))
      | .error floatIssues => do
        match ← readMoment v with
        | .ok m => pure (.ok (some (.moment m)))
        | .error momentIssues =>
          pure (.error (issuesOf (Checked.under "int" (.error intIssues : Checked Unit)) ++
            issuesOf (Checked.under "float" (.error floatIssues : Checked Unit)) ++
            issuesOf (Checked.under "datetime" (.error momentIssues : Checked Unit))))

end Unions

section Models

def extraIssues (members : List (String × Json)) (known : List String) : List Issue :=
  (members.filter fun (k, _) => !known.contains k).map fun (k, _) =>
    ⟨[k], "Extra inputs are not permitted"⟩

def absentMember (key : String) : Option α → Checked α
  | some d => .ok d
  | none => .error [⟨[key], "Field required"⟩]

/-- A member of a model read by `read`, or `fallback` when it is absent (a required member has
none). -/
def memberOf (members : List (String × Json)) (key : String) (read : Json → Checked α)
    (fallback : Option α) : Checked α :=
  match members.lookup key with
  | some v => (read v).under key
  | none => absentMember key fallback

def memberReading (members : List (String × Json)) (key : String)
    (read : Json → Outcome (Checked α)) (fallback : Option α) : Outcome (Checked α) :=
  match members.lookup key with
  | some v => (read v).map (Checked.under key)
  | none => pure (absentMember key fallback)

def notObject (model : String) : Checked α :=
  problem s!"Input should be a valid dictionary or instance of {model}"

def ruleResult (value : α) (broken : Option String) : Checked α :=
  match broken with
  | some message => .error [ruleIssue message]
  | none => .ok value

def readFilter (v : Json) : Outcome (Checked Filter) :=
  match v with
  | .obj members => do
    let field := memberOf members "field" (readText true true) none
    let operator := memberOf members "operator" (readChoice Operator.all Operator.name) none
    let value := memberOf members "value" readFilterValue none
    let value2 ← memberReading members "value2" readBound (some none)
    let issues := issuesOf field ++ issuesOf operator ++ issuesOf value ++ issuesOf value2 ++
      extraIssues members ["field", "operator", "value", "value2"]
    match field, operator, value, value2 with
    | .ok field, .ok operator, .ok value, .ok value2 =>
      if !issues.isEmpty then pure (.error issues)
      else
        let f : Filter := ⟨field, operator, value, value2⟩
        f.boundsProblem.map (ruleResult f)
    | _, _, _, _ => pure (.error issues)
  | _ => pure (notObject "QueryFilter")

def readSort (v : Json) : Checked SortOrder :=
  match v with
  | .obj members =>
    let field := memberOf members "field" (readText false true) none
    let direction := memberOf members "direction" (readChoice Direction.all Direction.name) none
    let issues := issuesOf field ++ issuesOf direction ++ extraIssues members ["field", "direction"]
    match field, direction with
    | .ok field, .ok direction => if issues.isEmpty then .ok ⟨field, direction⟩ else .error issues
    | _, _ => .error issues
  | _ => notObject "SortSpec"

def readDateRange (v : Json) : Outcome (Checked DateRange) :=
  match v with
  | .obj members => do
    let field := memberOf members "field" (readText false true) none
    let start ← memberReading members "start" readMoment none
    let finish ← memberReading members "end" readMoment none
    let issues := issuesOf field ++ issuesOf start ++ issuesOf finish ++
      extraIssues members ["field", "start", "end"]
    match field, start, finish with
    | .ok field, .ok start, .ok finish =>
      if !issues.isEmpty then pure (.error issues)
      else
        let r : DateRange := ⟨field, start, finish⟩
        r.orderProblem.map (ruleResult r)
    | _, _, _ => pure (.error issues)
  | _ => pure (notObject "DateRange")

def readOptionalText : Json → Checked (Option String)
  | .null => .ok none
  | v => (readText false false v).map some

def readAggregation (v : Json) : Checked Aggregation :=
  match v with
  | .obj members =>
    let kind := memberOf members "type" (readChoice AggregateKind.all AggregateKind.name) none
    let field := memberOf members "field" readOptionalText (some none)
    let issues := issuesOf kind ++ issuesOf field ++ extraIssues members ["type", "field"]
    match kind, field with
    | .ok kind, .ok field => if issues.isEmpty then .ok ⟨kind, field⟩ else .error issues
    | _, _ => .error issues
  | _ => notObject "Aggregation"

def optionalPart (read : Json → Checked α) : Json → Checked (Option α)
  | .null => .ok none
  | v => (read v).map some

def optionalReading (read : Json → Outcome (Checked α)) :
    Json → Outcome (Checked (Option α))
  | .null => pure (.ok none)
  | v => (read v).map (·.map some)

def readFilters (v : Json) : Outcome (Checked (List Filter)) :=
  match v with
  | .arr items => do
    let results ← items.mapIdxM fun i item => (readFilter item).map (Checked.under (toString i))
    let issues := results.flatMap issuesOf
    if issues.isEmpty then
      pure (.ok (results.filterMap fun r => match r with | .ok f => some f | .error _ => none))
    else pure (.error issues)
  | _ => pure (problem "Input should be a valid tuple")

def readConfidence (v : Json) : Checked Float :=
  (readFloat v).bind fun x =>
    if !(x ≥ 0.0) then problem "Input should be greater than or equal to 0"
    else if !(x ≤ 1.0) then problem "Input should be less than or equal to 1"
    else .ok x

def queryMembers : List String :=
  ["original_text", "entity", "filters", "sort", "limit", "date_range", "aggregation",
    "confidence", "ambiguities", "suggestions"]

def readQuery (v : Json) : Outcome (Checked Query) :=
  match v with
  | .obj members => do
    let inputText := memberOf members "original_text" (readText false false) (some "")
    let entity := memberOf members "entity" (optionalPart (readChoice Entity.all Entity.name))
      (some none)
    let filters ← memberReading members "filters" readFilters (some [])
    let sort := memberOf members "sort" (optionalPart readSort) (some none)
    let limit := memberOf members "limit" readInt (some 25)
    let dateRange ← memberReading members "date_range" (optionalReading readDateRange)
      (some none)
    let aggregation := memberOf members "aggregation" (optionalPart readAggregation) (some none)
    let confidence := memberOf members "confidence" readConfidence (some 1.0)
    let ambiguities := memberOf members "ambiguities" readTextSequence (some [])
    let suggestions := memberOf members "suggestions" readTextSequence (some [])
    let issues := issuesOf inputText ++ issuesOf entity ++ issuesOf filters ++ issuesOf sort ++
      issuesOf limit ++ issuesOf dateRange ++ issuesOf aggregation ++ issuesOf confidence ++
      issuesOf ambiguities ++ issuesOf suggestions ++ extraIssues members queryMembers
    match inputText, entity, filters, sort, limit, dateRange, aggregation, confidence,
        ambiguities, suggestions with
    | .ok t, .ok e, .ok fs, .ok s, .ok l, .ok d, .ok a, .ok c, .ok am, .ok su =>
      if issues.isEmpty then pure (.ok ⟨t, e, fs, s, l, d, a, c, am, su⟩) else pure (.error issues)
    | _, _, _, _, _, _, _, _, _, _ => pure (.error issues)
  | _ => pure (notObject "ParsedQuery")

def Checked.orRefuse (model : String) (r : Checked α) : Outcome α :=
  match r with
  | .ok a => .ok a
  | .error issues => .error (.invalid model issues)

/-- The parts of a query that can be read from data on their own. -/
inductive Part where
  | filter
  | sort
  | dateRange
  | aggregation
  | query
deriving DecidableEq, Repr

def Part.name : Part → String
  | .filter => "QueryFilter"
  | .sort => "SortSpec"
  | .dateRange => "DateRange"
  | .aggregation => "Aggregation"
  | .query => "ParsedQuery"

def Part.ofName? (name : String) : Option Part :=
  [Part.filter, .sort, .dateRange, .aggregation, .query].find? (·.name == name)

def Part.read (part : Part) (data : Json) : Outcome Json := do
  let checked : Checked Json ← match part with
    | .filter => (readFilter data).map (·.map Filter.toJson)
    | .sort => pure ((readSort data).map SortOrder.toJson)
    | .dateRange => (readDateRange data).map (·.map DateRange.toJson)
    | .aggregation => pure ((readAggregation data).map Aggregation.toJson)
    | .query => (readQuery data).map (·.map Query.toJson)
  checked.orRefuse part.name

end Models

end NaturalQuery
