import NaturalQuery.Vocabulary
import NaturalQuery.Query.Check
import NaturalQuery.Text.Scan

/-!
Money amounts and the comparisons a text makes with them. An amount is read in the first of
three forms that occurs: `$` and a number, with an optional `k` for thousands; a number and `k`;
a number and `dollar` or `dollars`. Its value is the nearest double to the number (commas
dropped, digits of any script) times 1000 for `k`, and there is none when that is infinite.
A comparison is the first of over (`over`, `more than`, `greater than`, `above`, `exceeding`,
`>`), under (`under`, `less than`, `below`, `<`) and at least (`at least`, `minimum`, `min`)
that occurs before an amount token, else a range `between` two amount tokens joined by `and`,
`to` or `-`. Letters match without regard to case.
-/

namespace NaturalQuery

open Text

/-- The number of a numeral: its digits (commas dropped) and an optional fraction, as the
nearest double. -/
def numeralValue (numeral : List Char) : Float :=
  let plain := numeral.filter (· ≠ ',')
  let whole := plain.takeWhile (· ≠ '.')
  let fraction := (plain.dropWhile (· ≠ '.')).drop 1
  let digits := (whole ++ fraction).foldl (fun n c => 10 * n + (digitValue? c).getD 0) 0
  Float.ofScientific digits true fraction.length

def amountOf (numeral : List Char) (multiplier : Float) : Option Float :=
  let value := numeralValue numeral * multiplier
  if value.isFinite then some value else none

def spanFraction (cs : List Char) : List Char × List Char :=
  match cs with
  | '.' :: rest =>
    let digits := rest.takeWhile isDigit
    if digits.isEmpty then ([], cs) else ('.' :: digits, rest.drop digits.length)
  | _ => ([], cs)

def thousandsMark (cs : List Char) : Option (List Char × List Char) :=
  let (blanks, rest) := spanBlank cs
  match rest with
  | k :: after => if letterMatches 'k' k && boundaryAt (some k) after then some (blanks ++ [k], after)
    else none
  | [] => none

def spanNumeral (cs : List Char) : Option (List Char × List Char) :=
  match cs with
  | d :: rest =>
    if isDigit d then
      let body := rest.takeWhile fun c => isDigit c || c == ','
      let (fraction, after) := spanFraction (rest.drop body.length)
      some (d :: body ++ fraction, after)
    else none
  | [] => none

def dollarForm (_ : Option Char) (rest : List Char) : Option (List Char × Bool) :=
  match rest with
  | '$' :: after =>
    (spanNumeral (spanBlank after).2).map fun (numeral, tail) => (numeral, (thousandsMark tail).isSome)
  | _ => none

def thousandsForm (_ : Option Char) (rest : List Char) : Option (List Char) :=
  let digits := rest.takeWhile isDigit
  if digits.isEmpty then none
  else
    let (fraction, tail) := spanFraction (rest.drop digits.length)
    (thousandsMark tail).map fun _ => digits ++ fraction

def spanGroups : Nat → List Char → List Char × List Char
  | 0, cs => ([], cs)
  | fuel + 1, cs =>
    match cs with
    | ',' :: a :: b :: c :: rest =>
      if isDigit a && isDigit b && isDigit c then
        let (more, tail) := spanGroups fuel rest
        (',' :: a :: b :: c :: more, tail)
      else ([], cs)
    | _ => ([], cs)

/-- The dollars form at this position: digits, groups `,ddd`, an optional fraction, blanks, and
`dollar` or `dollars` ending a word. -/
def dollarsForm (_ : Option Char) (rest : List Char) : Option (List Char) :=
  let digits := rest.takeWhile isDigit
  if digits.isEmpty then none
  else
    let (groups, afterGroups) := spanGroups rest.length (rest.drop digits.length)
    let (fraction, tail) := spanFraction afterGroups
    (dropFolded "dollar".toList (spanBlank tail).2).bind fun afterWord =>
      let ends (cs : List Char) := boundaryAt (some 'r') cs
      let accepted :=
        match afterWord with
        | s :: more => if letterMatches 's' s then boundaryAt (some s) more else ends afterWord
        | [] => true
      if accepted then some (digits ++ groups ++ fraction) else none

def parseAmount (text : Option String) : Option Float :=
  let cs := (text.getD "").toList
  match search dollarForm cs with
  | some (numeral, thousands) => amountOf numeral (if thousands then 1000.0 else 1.0)
  | none =>
    match search thousandsForm cs with
    | some numeral => amountOf numeral 1000.0
    | none =>
      match search dollarsForm cs with
      | some numeral => amountOf numeral 1.0
      | none => none

/-- An amount token at the front of a text: an optional `$`, blanks, a numeral and an optional
`k` ending a word. -/
def amountToken (cs : List Char) : Option (List Char × List Char) :=
  let (dollar, afterDollar) := match cs with
    | '$' :: rest => (['$'], rest)
    | _ => ([], cs)
  let (blanks, start) := spanBlank afterDollar
  (spanNumeral start).map fun (numeral, tail) =>
    match thousandsMark tail with
    | some (mark, after) => (dollar ++ blanks ++ numeral ++ mark, after)
    | none => (dollar ++ blanks ++ numeral, tail)

def tokenAmount (token : List Char) : Option Float :=
  let plain := trimBlank token
  parseAmount (some (String.ofList (if plain.head? == some '$' then plain else '$' :: plain)))

/-- A word that starts a comparison, and whether it must start a word. -/
structure Lead where
  text : String
  wordStart : Bool

def overLeads : List Lead :=
  [⟨"over", true⟩, ⟨"more than", true⟩, ⟨"greater than", true⟩, ⟨"above", true⟩,
    ⟨"exceeding", true⟩, ⟨">", false⟩]

def underLeads : List Lead :=
  [⟨"under", true⟩, ⟨"less than", true⟩, ⟨"below", true⟩, ⟨"<", false⟩]

def atLeastLeads : List Lead :=
  [⟨"at least", true⟩, ⟨"minimum", true⟩, ⟨"min", true⟩]

/-- The amount token after one of `leads` at this position; `wordEnd` asks the lead to end a
word too. -/
def comparison (leads : List Lead) (wordEnd : Bool) (before : Option Char) (rest : List Char) :
    Option (List Char) :=
  leads.findSome? fun lead =>
    if lead.wordStart && !boundaryAt before rest then none
    else
      (dropFolded lead.text.toList rest).bind fun after =>
        if wordEnd && !boundaryAt lead.text.toList.getLast? after then none
        else (amountToken (spanBlank after).2).map (·.1)

def range (before : Option Char) (rest : List Char) : Option (List Char × List Char) :=
  if !boundaryAt before rest then none
  else
    (dropFolded "between".toList rest).bind fun after =>
      (amountToken (spanBlank after).2).bind fun (low, tail) =>
        let joined := (spanBlank tail).2
        let afterJoin := ["and", "to", "-"].findSome? fun word => dropFolded word.toList joined
        afterJoin.bind fun more => (amountToken (spanBlank more).2).map fun (high, _) => (low, high)

def detectAmount (text : String) (entity : Entity) (vocabulary : Vocabulary) :
    Outcome (Option Filter) :=
  match vocabulary.amountField? entity with
  | none => .ok none
  | some field =>
    let cs := text.toList
    let compared : List (Operator × List Lead × Bool) :=
      [(.gt, overLeads, false), (.lt, underLeads, false), (.gte, atLeastLeads, true)]
    match compared.findSome? fun (op, leads, wordEnd) =>
        (search (comparison leads wordEnd) cs).map (op, ·) with
    | some (op, token) =>
      match tokenAmount token with
      | some value => some <$> Filter.make field op (.float value)
      | none => .ok none
    | none =>
      match search range cs with
      | some (low, high) =>
        match tokenAmount low, tokenAmount high with
        | some first, some second =>
          let least := if second < first then second else first
          let most := if second > first then second else first
          some <$> Filter.make field .between (.float least) (some (.float most))
        | _, _ => .ok none
      | none => .ok none

end NaturalQuery
