import NaturalQuery.Text.Scan

/-!
The number of results a text asks for: the digits after `top`, `first`, `show`, `get` or `find`
(at the start of a word, then blanks), or else the digits that start the text when blanks and a
word follow them. Digits of any script count. A number written with more than 4300 digits is not
read, and then the text asks for no number.
-/

namespace NaturalQuery

open Text

def maxDigits : Nat := 4300

def countWords : List String := ["top", "first", "show", "get", "find"]

def countDigits (before : Option Char) (rest : List Char) : Option (List Char) :=
  if !boundaryAt before rest then none
  else
    countWords.findSome? fun word =>
      (dropExact word.toList rest).bind fun after =>
        let (blanks, afterBlanks) := spanBlank after
        let digits := afterBlanks.takeWhile isDigit
        if blanks.isEmpty || digits.isEmpty then none else some digits

def leadingDigits (cs : List Char) : Option (List Char) :=
  let (digits, rest) := spanDigits cs
  let (blanks, afterBlanks) := spanBlank rest
  match afterBlanks with
  | c :: _ => if !digits.isEmpty && !blanks.isEmpty && isWordChar c then some digits else none
  | [] => none

def digitsValue? (digits : List Char) : Option Nat :=
  if digits.length > maxDigits then none
  else some (digits.foldl (fun n c => 10 * n + (digitValue? c).getD 0) 0)

def detectLimit (text : String) : Option Int :=
  let lowered := (lower text).toList
  match search countDigits lowered with
  | some digits => (digitsValue? digits).map Int.ofNat
  | none => (leadingDigits lowered).bind fun digits => (digitsValue? digits).map Int.ofNat

end NaturalQuery
