import NaturalQuery.Vocabulary
import NaturalQuery.Query.Check
import NaturalQuery.Text.Scan

/-!
The status a text asks for: the first phrase, in the order the vocabulary lists them for the
kind of record, that occurs in the lower-cased text. Phrases match anywhere, inside words too.
-/

namespace NaturalQuery

def detectStatus (text : String) (entity : Entity) (vocabulary : Vocabulary) :
    Outcome (Option Filter) :=
  let lowered := Text.lower text
  match (vocabulary.statuses entity).find? (fun (phrase, _) => Text.containsText lowered phrase) with
  | some (_, status) => some <$> Filter.make "status" .eq (.text status)
  | none => .ok none

end NaturalQuery
