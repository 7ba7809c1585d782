import NaturalQuery.Query.Basic
import NaturalQuery.Time.Iso
import NaturalQuery.Decimal.Notation
import NaturalQuery.Decimal.Binary
import NaturalQuery.Text.Literal

/-!
A query said back as one English sentence: what is searched for, each filter, the date window,
the order and the number of results, joined by commas in that order. Values are shown plainly:
booleans in lower case, whole doubles without their point, moments as `M/D/YYYY`, lists joined
by commas, and nothing as `None`. A mapping (which no query holds) is shown in the bracketed
form of a dictionary.
-/

namespace NaturalQuery

open Time

inductive Shown where
  | nothing
  | bool (value : Bool)
  | int (value : Int)
  | float (value : Float)
  | text (value : String)
  | moment (value : Moment)
  | list (items : List Shown)
  | map (members : List (String × Shown))
  deriving Inhabited

def FilterValue.shown : FilterValue → Shown
  | .text s => .text s
  | .int n => .int n
  | .float x => .float x
  | .bool b => .bool b
  | .moment m => .moment m
  | .texts items => .list (items.map .text)

def Bound.shown : Option Bound → Shown
  | none => .nothing
  | some (.int n) => .int n
  | some (.float x) => .float x
  | some (.moment m) => .moment m

def floatText (x : Float) : String := Decimal.Notation.roundTrip.render x

mutual

def Shown.literal : Shown → String
  | .nothing => "None"
  | .bool b => if b then "True" else "False"
  | .int n => toString n
  | .float x => floatText x
  | .text s => Text.literal s
  | .moment m => m.render
  | .list items => "[" ++ literalItems items ++ "]"
  | .map members => "\x7b" ++ literalMembers members ++ "\x7d"

def literalItems : List Shown → String
  | [] => ""
  | [v] => v.literal
  | v :: rest => v.literal ++ ", " ++ literalItems rest

def literalMembers : List (String × Shown) → String
  | [] => ""
  | [(k, v)] => Text.literal k ++ ": " ++ v.literal
  | (k, v) :: rest => Text.literal k ++ ": " ++ v.literal ++ ", " ++ literalMembers rest

end

def showFloat (x : Float) : String :=
  match Decimal.Binary.read x with
  | .finite b => if b.isIntegral then toString b.truncate else floatText x
  | _ => floatText x

def Shown.display : Shown → String
  | .nothing => "None"
  | .bool b => if b then "true" else "false"
  | .int n => toString n
  | .float x => showFloat x
  | .text s => s
  | .moment m => m.slashDate
  | .list items => displayItems items
  | .map members => Shown.literal (.map members)
where
  displayItems : List Shown → String
    | [] => ""
    | [v] => v.display
    | v :: rest => v.display ++ ", " ++ displayItems rest

def Operator.phrase : Operator → String
  | .eq => "equals"
  | .neq => "not equals"
  | .gt => "greater than"
  | .lt => "less than"
  | .gte => "at least"
  | .lte => "at most"
  | .contains => "containing"
  | .isIn => "in"
  | .notIn => "not in"
  | .between => "between"

def Filter.describe (f : Filter) : String :=
  if f.operator == .between then
    "where " ++ f.field ++ " is between " ++ f.value.shown.display ++ " and " ++
      (Bound.shown f.value2).display
  else
    "where " ++ f.field ++ " " ++ f.operator.phrase ++ " \"" ++ f.value.shown.display ++ "\""

def Query.clauses (q : Query) : List String :=
  let entity := match q.entity with
    | some e => e.name
    | none => "records"
  let window := match q.dateRange with
    | some r => ["from " ++ r.start.slashDate ++ " to " ++ r.finish.slashDate]
    | none => []
  let order := match q.sort with
    | some s =>
      ["sorted by " ++ s.field ++ (if s.direction == .desc then " (newest first)" else " (oldest first)")]
    | none => []
  let count := if q.limit == 0 then [] else ["limited to " ++ toString q.limit ++ " results"]
  ("Searching for " ++ entity) :: q.filters.map Filter.describe ++ window ++ order ++ count

def Query.describe (q : Query) : String := ", ".intercalate q.clauses

end NaturalQuery
