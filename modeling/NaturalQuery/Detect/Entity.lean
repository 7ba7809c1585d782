import NaturalQuery.Vocabulary
import NaturalQuery.Text.Scan

/-!
Which kind of record a text asks for: the longest keyword of the vocabulary that occurs in the
lower-cased text, the first in table order among equally long ones. A keyword at the start of
the text or right after a space is a sure match; one inside a word is a weaker one.
-/

namespace NaturalQuery

/-- The kind of record a text asks for, how sure the match is, and the keyword that matched. -/
structure EntityMatch where
  entity : Entity
  confidence : Float
  keyword : String

def exactConfidence : Float := 0.95

def partialConfidence : Float := 0.8

def longestKeyword (lowered : String) (table : Table Entity (List String)) :
    Option (Entity × String) :=
  table.foldl (fun best (entity, keywords) =>
    keywords.foldl (fun best keyword =>
      if Text.containsText lowered keyword then
        match best with
        | none => some (entity, keyword)
        | some (_, found) => if keyword.length > found.length then some (entity, keyword) else best
      else best) best) none

def detectEntity (text : String) (vocabulary : Vocabulary) : Option EntityMatch :=
  let lowered := Text.lower text
  (longestKeyword lowered vocabulary.entityKeywords).map fun (entity, keyword) =>
    let exact := lowered.startsWith keyword || Text.containsText lowered (" " ++ keyword)
    ⟨entity, if exact then exactConfidence else partialConfidence, keyword⟩

end NaturalQuery
