import NaturalQuery.Text.LowerTable
import NaturalQuery.Text.Cased

/-!
Lower case of text. Each character takes its Unicode lower-case mapping, with two characters
that need more: the dotted capital I becomes `i` followed by a combining dot above, and a
capital sigma becomes final `ς` when a cased letter precedes it and none follows it (skipping
case-ignorable characters on both sides), and `σ` otherwise. `foldChar` is the one-character
mapping that case-insensitive matching compares.
-/

namespace NaturalQuery.Text

def runFor (runs : Array CaseRun) (n : Nat) (lo hi : Nat) : Option CaseRun :=
  if _h : lo < hi then
    let mid := (lo + hi) / 2
    match runs[mid]? with
    | none => none
    | some run =>
      if n < run.first then runFor runs n lo mid
      else if run.last < n then runFor runs n (mid + 1) hi
      else if (n - run.first) % run.step == 0 then some run else none
  else none
termination_by hi - lo

/-- The one-character lower case of a character (the dotted capital I becomes `i`, a capital
sigma `σ`). -/
def foldChar (c : Char) : Char :=
  if c.toNat < 128 then
    if 'A' ≤ c && c ≤ 'Z' then Char.ofNat (c.toNat + 32) else c
  else if c.toNat = 0x130 then 'i'
  else if c.toNat = 0x3A3 then Char.ofNat 0x3C3
  else
    match runFor lowerRuns c.toNat 0 lowerRuns.size with
    | some run => Char.ofNat (((c.toNat : Int) + run.shift).toNat)
    | none => c

def casedNext (side : List Char) : Bool :=
  match side.dropWhile isCaseIgnorable with
  | c :: _ => isCased c
  | [] => false

/-- Lower case of a text given as the characters before the current one (nearest first) and the
characters from the current one on. -/
def lowerFrom : List Char → List Char → List Char
  | _, [] => []
  | before, c :: rest =>
    let here :=
      if c.toNat = 0x130 then ['i', Char.ofNat 0x307]
      else if c.toNat = 0x3A3 then
        if casedNext before && !casedNext rest then [Char.ofNat 0x3C2] else [Char.ofNat 0x3C3]
      else [foldChar c]
    here ++ lowerFrom (c :: before) rest

def lower (s : String) : String :=
  String.ofList (lowerFrom [] s.toList)

end NaturalQuery.Text
