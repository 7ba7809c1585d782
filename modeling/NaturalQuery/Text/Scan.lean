import NaturalQuery.Text.Word
import NaturalQuery.Text.Lower
import NaturalQuery.Text.Blank
import NaturalQuery.Text.Digit

/-!
Pieces for finding phrases in text. A position has a word boundary when exactly one of the
characters around it is a word character. Letters of a phrase can be matched without regard to
case: a character matches a lower-case letter when its one-character lower case is that letter,
or the dotless `ı` for `i`, or the long `ſ` for `s`. `search` tries a phrase at every position
from the left and keeps the first hit.
-/

namespace NaturalQuery.Text

def boundaryAt (before : Option Char) (rest : List Char) : Bool :=
  (before.map isWordChar).getD false != (rest.head?.map isWordChar).getD false

def letterMatches (p c : Char) : Bool :=
  let f := foldChar c
  f == p || (p == 'i' && f.toNat == 0x131) || (p == 's' && f.toNat == 0x17F)

def dropFolded : List Char → List Char → Option (List Char)
  | [], cs => some cs
  | _ :: _, [] => none
  | p :: ps, c :: cs => if letterMatches p c then dropFolded ps cs else none

def dropExact : List Char → List Char → Option (List Char)
  | [], cs => some cs
  | _ :: _, [] => none
  | p :: ps, c :: cs => if p == c then dropExact ps cs else none

/-- The first result of `attempt` at the positions of a text from the left, the end included;
`attempt` sees the character before the position and the text from it on. -/
def searchFrom (attempt : Option Char → List Char → Option α) :
    Option Char → List Char → Option α
  | before, [] => attempt before []
  | before, c :: rest =>
    match attempt before (c :: rest) with
    | some found => some found
    | none => searchFrom attempt (some c) rest

def search (attempt : Option Char → List Char → Option α) (cs : List Char) : Option α :=
  searchFrom attempt none cs

def hasWordPhrase (phrase : List Char) (cs : List Char) : Bool :=
  (search (fun before rest =>
    if boundaryAt before rest then
      match dropExact phrase rest with
      | some after => if boundaryAt phrase.getLast? after then some () else none
      | none => none
    else none) cs).isSome

def containsText (s part : String) : Bool :=
  (search (fun _ rest => (dropExact part.toList rest).map fun _ => ()) s.toList).isSome

def spanBlank (cs : List Char) : List Char × List Char :=
  (cs.takeWhile isBlank, cs.dropWhile isBlank)

def spanDigits (cs : List Char) : List Char × List Char :=
  (cs.takeWhile isDigit, cs.dropWhile isDigit)

end NaturalQuery.Text
