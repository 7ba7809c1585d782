import NaturalQuery.Text.Clean
import NaturalQuery.Period
import NaturalQuery.Detect.Entity
import NaturalQuery.Detect.Status
import NaturalQuery.Detect.Name
import NaturalQuery.Detect.Sort
import NaturalQuery.Detect.Limit
import NaturalQuery.Detect.Aggregation
import NaturalQuery.Amount
import NaturalQuery.Score
import NaturalQuery.Decimal.Round

/-!
Reading a question into a query. The text is trimmed and cleaned once, and every stage reads the
cleaned text: the entity (invoices when none is named), the filters on status, amount and name
in that order, the date window, the order, the count and the aggregation. The assessment of what
was found gives the confidence and the notes. The count is the one asked for, or the default.
-/

namespace NaturalQuery

def assumedEntity : Entity := .invoices

def usualLimit : Int := 25

def interpret (setting : Setting) (vocabulary : Vocabulary) (defaultLimit : Int)
    (text : Option String) : Outcome Query := do
  let inputText := Text.trim (text.getD "")
  let cleaned := Text.clean (some inputText)
  let entityMatch := detectEntity cleaned vocabulary
  let entity := (entityMatch.map EntityMatch.entity).getD assumedEntity
  let status ← detectStatus cleaned entity vocabulary
  let amount ← detectAmount cleaned entity vocabulary
  let name ← detectName cleaned entity vocabulary
  let filters := [status, amount, name].filterMap id
  let dateRange ← setting.dateRange cleaned entity vocabulary
  let sort ← detectSort cleaned entity vocabulary
  let limit := detectLimit cleaned
  let aggregation := detectAggregation cleaned
  let assessment := assess entity entityMatch filters dateRange aggregation limit.isSome
  pure { inputText := inputText
         entity := some entity
         filters := filters
         sort := sort
         limit := limit.getD defaultLimit
         dateRange := dateRange
         aggregation := aggregation
         confidence := assessment.confidence
         ambiguities := assessment.ambiguities
         suggestions := assessment.suggestions }

def Query.summaryLine (q : Query) : String :=
  "parsed entity=" ++ (match q.entity with | some e => e.name | none => "None") ++
    " filters=" ++ toString q.filters.length ++
    " date_range=" ++ (if q.dateRange.isSome then "True" else "False") ++
    " confidence=" ++ Decimal.fixed q.confidence 2

end NaturalQuery
