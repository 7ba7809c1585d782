import NaturalQuery.Detect.Entity
import NaturalQuery.Query.Basic
import NaturalQuery.Decimal.Round

/-!
How sure a reading of a question is, and what to tell the person who asked it. The confidence
starts from the entity match (one half when nothing matched, with a note saying which entity was
assumed), loses three tenths of itself when nothing narrows the records (no filter, no date window
and no aggregation), and is then rounded to two places and held between 0 and 1. Suggestions
point at filters when there are none and at a count when none was asked for.
-/

namespace NaturalQuery

structure Assessment where
  confidence : Float
  ambiguities : List String
  suggestions : List String

def assumedConfidence : Float := 0.5

def unnarrowedFactor : Float := 0.7

def assumedNote (entity : Entity) : String :=
  s!"Could not determine what type of data you want. Defaulting to {entity.name}."

def unnarrowedNote : String := "No specific filters detected. Showing all records."

def filterSuggestion (entity : Entity) : String :=
  "Try adding filters like \"overdue " ++ entity.name ++ "\" or \"over $1000\""

def limitSuggestion : String := "Add \"top 10\" or \"first 5\" to limit results"

def settle (confidence : Float) : Float :=
  let rounded := Decimal.roundPlaces confidence 2
  let atLeastZero := if rounded > 0.0 then rounded else 0.0
  if atLeastZero < 1.0 then atLeastZero else 1.0

def assess (entity : Entity) (entityMatch : Option EntityMatch) (filters : List Filter)
    (dateRange : Option DateRange) (aggregation : Option Aggregation) (limitDetected : Bool) :
    Assessment :=
  let (start, assumed) := match entityMatch with
    | none => (assumedConfidence, [assumedNote entity])
    | some m => (m.confidence, [])
  let unnarrowed := filters.isEmpty && dateRange.isNone && aggregation.isNone
  let confidence := if unnarrowed then start * unnarrowedFactor else start
  { confidence := settle confidence
    ambiguities := assumed ++ (if unnarrowed then [unnarrowedNote] else [])
    suggestions := (if filters.isEmpty then [filterSuggestion entity] else []) ++
      (if limitDetected then [] else [limitSuggestion]) }

end NaturalQuery
