import NaturalQuery.Entity
import NaturalQuery.Json.Value
import NaturalQuery.Time.Iso

/-!
The query descriptor and its parts: filters (a field, an operator and one or two values), the
sort order, the date window and the aggregation. Each part is written as a JSON object with all
its members, in a fixed order, null where a part is absent.
-/

namespace NaturalQuery

open Time

inductive Operator where
  | eq | neq | gt | lt | gte | lte | contains | isIn | notIn | between
  deriving Repr, BEq, DecidableEq, Inhabited

inductive Direction where
  | asc | desc
  deriving Repr, BEq, DecidableEq, Inhabited

inductive AggregateKind where
  | count | sum | avg | min | max
  deriving Repr, BEq, DecidableEq, Inhabited

namespace Operator

def all : List Operator := [eq, neq, gt, lt, gte, lte, contains, isIn, notIn, between]

def name : Operator → String
  | eq => "eq" | neq => "neq" | gt => "gt" | lt => "lt" | gte => "gte" | lte => "lte"
  | contains => "contains" | isIn => "in" | notIn => "not_in" | between => "between"

end Operator

namespace Direction

def all : List Direction := [asc, desc]

def name : Direction → String
  | asc => "asc" | desc => "desc"

end Direction

namespace AggregateKind

def all : List AggregateKind := [count, sum, avg, min, max]

def name : AggregateKind → String
  | count => "count" | sum => "sum" | avg => "avg" | min => "min" | max => "max"

end AggregateKind

inductive FilterValue where
  | text (value : String)
  | int (value : Int)
  | float (value : Float)
  | bool (value : Bool)
  | moment (value : Moment)
  | texts (values : List String)
  deriving Inhabited

/-- The upper bound of a range filter. -/
inductive Bound where
  | int (value : Int)
  | float (value : Float)
  | moment (value : Moment)
  deriving Inhabited

structure Filter where
  field : String
  operator : Operator
  value : FilterValue
  value2 : Option Bound := none
  deriving Inhabited

structure SortOrder where
  field : String
  direction : Direction
  deriving Inhabited

/-- An inclusive window of moments on a date field. -/
structure DateRange where
  field : String
  start : Moment
  finish : Moment
  deriving Inhabited

structure Aggregation where
  kind : AggregateKind
  field : Option String := none
  deriving Inhabited

structure Query where
  inputText : String := ""
  entity : Option Entity := none
  filters : List Filter := []
  sort : Option SortOrder := none
  limit : Int := 25
  dateRange : Option DateRange := none
  aggregation : Option Aggregation := none
  confidence : Float := 1.0
  ambiguities : List String := []
  suggestions : List String := []
  deriving Inhabited

section Writing

def floatJson (x : Float) : Json :=
  if x.isNaN || x.isInf then .null else .float x

def FilterValue.toJson : FilterValue → Json
  | .text s => .str s
  | .int n => .int n
  | .float x => floatJson x
  | .bool b => .bool b
  | .moment m => .str m.render
  | .texts items => .arr (items.map .str)

def Bound.toJson : Bound → Json
  | .int n => .int n
  | .float x => floatJson x
  | .moment m => .str m.render

def Filter.toJson (f : Filter) : Json :=
  .obj [("field", .str f.field), ("operator", .str f.operator.name), ("value", f.value.toJson),
    ("value2", (f.value2.map Bound.toJson).getD .null)]

def SortOrder.toJson (s : SortOrder) : Json :=
  .obj [("field", .str s.field), ("direction", .str s.direction.name)]

def DateRange.toJson (r : DateRange) : Json :=
  .obj [("field", .str r.field), ("start", .str r.start.render), ("end", .str r.finish.render)]

def Aggregation.toJson (a : Aggregation) : Json :=
  .obj [("type", .str a.kind.name), ("field", Json.ofOption a.field)]

def Query.toJson (q : Query) : Json :=
  .obj [("original_text", .str q.inputText),
    ("entity", Json.ofOption (q.entity.map Entity.name)),
    ("filters", .arr (q.filters.map Filter.toJson)),
    ("sort", (q.sort.map SortOrder.toJson).getD .null),
    ("limit", .int q.limit),
    ("date_range", (q.dateRange.map DateRange.toJson).getD .null),
    ("aggregation", (q.aggregation.map Aggregation.toJson).getD .null),
    ("confidence", floatJson q.confidence),
    ("ambiguities", .arr (q.ambiguities.map .str)),
    ("suggestions", .arr (q.suggestions.map .str))]

end Writing

end NaturalQuery
