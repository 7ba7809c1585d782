import NaturalQuery.Query.Read

/-!
The checks a query passes before it is run. Every problem is reported, none raised: a query
without an entity, a field that three or more filters constrain (each such field once, in the
order it first appears), and a count outside 1 to the largest allowed. Data that is not a query
reports what reading it found wrong instead, each problem at its dotted place.
-/

namespace NaturalQuery

inductive FindingCode where
  | missingEntity
  | conflictingFilters
  | limitOutOfRange
  | schema
  deriving DecidableEq, Repr

def FindingCode.name : FindingCode → String
  | .missingEntity => "missing_entity"
  | .conflictingFilters => "conflicting_filters"
  | .limitOutOfRange => "limit_out_of_range"
  | .schema => "schema"

/-- One problem of a query, with the field it concerns when there is one. -/
structure Finding where
  code : FindingCode
  message : String
  field : Option String

def leastLimit : Int := 1
def greatestLimit : Int := 1000

def conflictThreshold : Nat := 3

def firstAppearances (names : List String) : List String :=
  names.foldl (fun seen f => if seen.contains f then seen else seen ++ [f]) []

def Query.findings (q : Query) (maxLimit : Int) : List Finding :=
  let entity := if q.entity.isNone then [⟨.missingEntity, "No entity type specified", none⟩] else []
  let fields := q.filters.map Filter.field
  let conflicts := (firstAppearances fields).filterMap fun f =>
    if fields.count f ≥ conflictThreshold then
      some ⟨.conflictingFilters, "multiple conflicting filters on field: " ++ f, some f⟩
    else none
  let limit :=
    if q.limit < leastLimit || q.limit > maxLimit then
      [⟨.limitOutOfRange, "Limit must be between " ++ toString leastLimit ++ " and " ++
        toString maxLimit, some "limit"⟩]
    else []
  entity ++ conflicts ++ limit

def findingsOfData (data : Json) (maxLimit : Int) : Outcome (List Finding) :=
  (readQuery data).map fun checked =>
    match checked with
    | .ok q => q.findings maxLimit
    | .error issues => issues.map fun i =>
      ⟨.schema, i.msg, if i.loc.isEmpty then none else some (".".intercalate i.loc)⟩

end NaturalQuery
