import NaturalQuery.Vocabulary
import NaturalQuery.Query.Check
import NaturalQuery.Text.Scan

/-!
A proper name a text mentions. First a connector word (`for`, `from`, `client`, `named`, `by`,
in any case, at the start of a word), blanks, an optional quote, and a name: an ASCII capital
followed by ASCII letters, apostrophes and hyphens, and possibly a second such word after
blanks. The name goes to the kind's name field, quotes at its ends dropped. Failing that, for
any kind but projects, `project` and the run of characters after it (no blanks or quotes,
optionally quoted) that ends the text or is followed by a blank names a project.
-/

namespace NaturalQuery

open Text

def isCapital (c : Char) : Bool := 'A' ≤ c && c ≤ 'Z'

def isNameChar (c : Char) : Bool :=
  ('A' ≤ c && c ≤ 'Z') || ('a' ≤ c && c ≤ 'z') || c = '\'' || c = '-'

def isQuote (c : Char) : Bool := c = '"' || c = '\''

def skipQuote (cs : List Char) : List Char :=
  match cs with
  | c :: rest => if isQuote c then rest else cs
  | [] => cs

def connectors : List String := ["for", "from", "client", "named", "by"]

def nameWord (cs : List Char) : Option (List Char × List Char) :=
  match cs with
  | c :: rest => if isCapital c then some (c :: rest.takeWhile isNameChar, rest.dropWhile isNameChar)
    else none
  | [] => none

def connectorName (before : Option Char) (rest : List Char) : Option (List Char) :=
  if !boundaryAt before rest then none
  else
    connectors.findSome? fun word =>
      (dropFolded word.toList rest).bind fun afterWord =>
        let (blanks, afterBlanks) := spanBlank afterWord
        if blanks.isEmpty then none
        else
          (nameWord (skipQuote afterBlanks)).map fun (first, tail) =>
            let (gap, afterGap) := spanBlank tail
            match (if gap.isEmpty then none else nameWord afterGap) with
            | some (second, _) => first ++ gap ++ second
            | none => first

def projectName (before : Option Char) (rest : List Char) : Option (List Char) :=
  if !boundaryAt before rest then none
  else
    (dropFolded "project".toList rest).bind fun afterWord =>
      let (blanks, afterBlanks) := spanBlank afterWord
      if blanks.isEmpty then none
      else
        let start := skipQuote afterBlanks
        let name := start.takeWhile fun c => !isQuote c && !isBlank c
        let tail := skipQuote (start.drop name.length)
        if name.isEmpty then none
        else
          match tail with
          | [] => some name
          | c :: _ => if isBlank c then some name else none

def dropQuotes (cs : List Char) : List Char :=
  ((cs.dropWhile isQuote).reverse.dropWhile isQuote).reverse

def detectName (text : String) (entity : Entity) (vocabulary : Vocabulary) :
    Outcome (Option Filter) :=
  let cs := text.toList
  let named : Option (String × List Char) :=
    (search connectorName cs).bind fun name => (vocabulary.nameField? entity).map (·, name)
  match named with
  | some (field, name) =>
    some <$> Filter.make field .contains (.text (String.ofList (dropQuotes (trimBlank name))))
  | none =>
    if entity == .projects then .ok none
    else
      match search projectName cs with
      | some name => some <$> Filter.make "projectName" .contains (.text (String.ofList (trimBlank name)))
      | none => .ok none

end NaturalQuery
