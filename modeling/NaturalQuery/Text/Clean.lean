import NaturalQuery.Text.Blank

/-!
The cleaned form of a query text: blanks trimmed at both ends, each run of blanks inside
replaced by one space, and the typographic dashes and quotes replaced by their plain forms
(`—` and `–` by `-`, `‘` and `’` by `'`, `“` and `”` by `"`). A missing text cleans to the
empty text.
-/

namespace NaturalQuery.Text

def plainChar (c : Char) : Char :=
  if c.toNat = 0x2014 || c.toNat = 0x2013 then '-'
  else if c.toNat = 0x2018 || c.toNat = 0x2019 then '\''
  else if c.toNat = 0x201C || c.toNat = 0x201D then '"'
  else c

def collapseBlank : List Char → List Char
  | [] => []
  | c :: rest =>
    if isBlank c then ' ' :: collapseBlank (rest.dropWhile isBlank)
    else c :: collapseBlank rest
termination_by cs => cs.length
decreasing_by
  all_goals simp only [List.length_cons]
  all_goals have := (List.dropWhile_sublist isBlank (l := rest)).length_le
  all_goals omega

def clean (text : Option String) : String :=
  String.ofList (collapseBlank ((trimBlank (text.getD "").toList).map plainChar))

end NaturalQuery.Text
