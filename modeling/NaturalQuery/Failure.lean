/-!
The ways an interpretation can fail. Calendar arithmetic fails when a day leaves the years 1 to
9999; reading a local clock fails when the reading falls in a year outside that span; a naive and
an aware moment cannot be ordered; and a model can be refused with the list of its issues.
-/

namespace NaturalQuery

/-- One problem found while reading a model from data: where (a path of member names and
indexes, empty for the whole value) and what. -/
structure Issue where
  loc : List String
  msg : String
  deriving Repr, BEq, Inhabited

inductive Failure where
  | dateOutOfRange
  | yearOutOfRange (year : Int)
  | mixedAwareness
  | invalid (model : String) (issues : List Issue)
  deriving Repr, Inhabited

def Failure.message : Failure → String
  | .dateOutOfRange => "date value out of range"
  | .yearOutOfRange year => s!"year {year} is out of range"
  | .mixedAwareness => "can't compare offset-naive and offset-aware datetimes"
  | .invalid _ issues => "; ".intercalate (issues.map (·.msg))

abbrev Outcome (α : Type) := Except Failure α

end NaturalQuery
