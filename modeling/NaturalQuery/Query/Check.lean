import NaturalQuery.Query.Basic
import NaturalQuery.Text.Blank
import NaturalQuery.Decimal.Binary

/-!
The rules every part of a query obeys, and constructors that apply them. Text in a filter is
trimmed of white space; a field name is never empty. A range filter has an upper bound that is
of the kind of its lower bound (both numbers or both moments) and not below it, and only a
range filter has one. A date window does not end before it starts. A rule that is broken gives
its message; ordering a naive moment against one with an offset fails.
-/

namespace NaturalQuery

open Time

def tooShort : String := "String should have at least 1 character"

def FilterValue.exceeds : FilterValue → Bound → Outcome Bool
  | .int a, .int b => .ok (decide (a > b))
  | .int a, .float y => .ok (Decimal.intExceeds a y)
  | .float x, .int b => .ok (Decimal.floatExceeds x b)
  | .float x, .float y => .ok (x > y)
  | .moment a, .moment b => (a.compare b).map (· == .gt)
  | _, _ => .ok false

def FilterValue.isMoment : FilterValue → Bool
  | .moment _ => true
  | _ => false

def Bound.isMoment : Bound → Bool
  | .moment _ => true
  | _ => false

def Filter.boundsProblem (f : Filter) : Outcome (Option String) :=
  if f.operator == .between then
    match f.value2 with
    | none => .ok (some "value2 is required for operator=between")
    | some upper =>
      match f.value with
      | .text _ | .bool _ | .texts _ => .ok (some "between requires a numeric or datetime lower bound")
      | lower =>
        if lower.isMoment != upper.isMoment then
          .ok (some "between bounds must be both numbers or both datetimes")
        else
          (lower.exceeds upper).map fun above =>
            if above then some "value must be <= value2 for operator=between" else none
  else if f.value2.isSome then .ok (some "value2 is only allowed for operator=between")
  else .ok none

def DateRange.orderProblem (r : DateRange) : Outcome (Option String) :=
  (r.start.compare r.finish).map fun order =>
    if order == .gt then some "start must be <= end" else none

def ruleIssue (message : String) : Issue := ⟨[], "Value error, " ++ message⟩

def FilterValue.trimmed : FilterValue → FilterValue
  | .text s => .text (Text.trimWhite s)
  | .texts items => .texts (items.map Text.trimWhite)
  | v => v

def Filter.make (field : String) (operator : Operator) (value : FilterValue)
    (value2 : Option Bound := none) : Outcome Filter := do
  let field := Text.trimWhite field
  if field.isEmpty then throw (.invalid "QueryFilter" [⟨["field"], tooShort⟩])
  let f : Filter := ⟨field, operator, value.trimmed, value2⟩
  match ← f.boundsProblem with
  | some message => throw (.invalid "QueryFilter" [ruleIssue message])
  | none => pure f

def SortOrder.make (field : String) (direction : Direction) : Outcome SortOrder :=
  if field.isEmpty then .error (.invalid "SortSpec" [⟨["field"], tooShort⟩])
  else .ok ⟨field, direction⟩

def DateRange.make (field : String) (start finish : Moment) : Outcome DateRange := do
  if field.isEmpty then throw (.invalid "DateRange" [⟨["field"], tooShort⟩])
  let r : DateRange := ⟨field, start, finish⟩
  match ← r.orderProblem with
  | some message => throw (.invalid "DateRange" [ruleIssue message])
  | none => pure r

end NaturalQuery
