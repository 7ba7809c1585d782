import NaturalQuery.Vocabulary
import NaturalQuery.Query.Check
import NaturalQuery.Text.Scan

/-!
The order a text asks for. Superlatives come first: `newest`, `most recent`, `latest` sort by
creation, newest first; `oldest`, `earliest` oldest first; `highest`, `largest`, `biggest` by
the kind's amount field, largest first; `lowest`, `smallest` smallest first. Otherwise a lead
(`sort by`, `sorted by`, `order by`, `ordered by`, `sort`, `sorted`, `order`, `ordered` or `by`,
at the start of a word) and a word name a field through the vocabulary; the first lead found
decides, and a word the vocabulary does not know gives no order.
-/

namespace NaturalQuery

open Text

def sortLeads : List (List String) :=
  [["sorted", "by"], ["sort", "by"], ["ordered", "by"], ["order", "by"], ["sorted"], ["sort"],
    ["ordered"], ["order"], ["by"]]

def dropWords : List String → List Char → Option (List Char)
  | [], cs => some cs
  | w :: ws, cs =>
    (dropExact w.toList cs).bind fun after =>
      match ws with
      | [] => some after
      | _ =>
        let (blanks, rest) := spanBlank after
        if blanks.isEmpty then none else dropWords ws rest

def sortWord (before : Option Char) (rest : List Char) : Option String :=
  if !boundaryAt before rest then none
  else
    sortLeads.findSome? fun lead =>
      (dropWords lead rest).bind fun after =>
        let (blanks, afterBlanks) := spanBlank after
        let word := afterBlanks.takeWhile isWordChar
        if blanks.isEmpty || word.isEmpty then none else some (String.ofList word)

def mentionsAny (lowered : String) (phrases : List String) : Bool :=
  phrases.any (containsText lowered)

def detectSort (text : String) (entity : Entity) (vocabulary : Vocabulary) :
    Outcome (Option SortOrder) :=
  let lowered := lower text
  let amountField := match vocabulary.amountField? entity with
    | some field => if field.isEmpty then "amount" else field
    | none => "amount"
  if mentionsAny lowered ["newest", "most recent", "latest"] then
    some <$> SortOrder.make "createdAt" .desc
  else if mentionsAny lowered ["oldest", "earliest"] then
    some <$> SortOrder.make "createdAt" .asc
  else if mentionsAny lowered ["highest", "largest", "biggest"] then
    some <$> SortOrder.make amountField .desc
  else if mentionsAny lowered ["lowest", "smallest"] then
    some <$> SortOrder.make amountField .asc
  else
    match search sortWord lowered.toList with
    | some word =>
      match vocabulary.sortField? word with
      | some field => some <$> SortOrder.make field (if vocabulary.isAscending word then .asc else .desc)
      | none => .ok none
    | none => .ok none

end NaturalQuery
