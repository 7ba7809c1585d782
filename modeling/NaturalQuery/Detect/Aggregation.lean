import NaturalQuery.Query.Basic
import NaturalQuery.Text.Scan

/-!
The summary a text asks for: a count for `how many`, `count of` or `number of`; a sum of the
amount for `total` together with `amount`, `value` or `sum`; an average of the amount for
`average` or `avg`. Phrases match anywhere in the lower-cased text, inside words too.
-/

namespace NaturalQuery

open Text

def detectAggregation (text : String) : Option Aggregation :=
  let lowered := lower text
  let has := containsText lowered
  if ["how many", "count of", "number of"].any has then some ⟨.count, none⟩
  else if has "total" && ["amount", "value", "sum"].any has then some ⟨.sum, some "amount"⟩
  else if has "average" || has "avg" then some ⟨.avg, some "amount"⟩
  else none

end NaturalQuery
