import NaturalQuery.Text.Ranges

/-!
Blank characters: the code points of general category `Zs` or of bidirectional class `WS`, `B`
or `S` (which brings in the information separators U+001C to U+001F), as of Unicode 14.0.
Trimming and the blank class of a pattern both use this set.
-/

namespace NaturalQuery.Text

def blankTable : RangeTable := ⟨#[
  (0x9, 0xD), (0x1C, 0x20), (0x85, 0x85), (0xA0, 0xA0), (0x1680, 0x1680), (0x2000, 0x200A),
  (0x2028, 0x2029), (0x202F, 0x202F), (0x205F, 0x205F), (0x3000, 0x3000)]⟩

def isBlank (c : Char) : Bool := blankTable.contains c.toNat

def trimBlank (cs : List Char) : List Char :=
  ((cs.dropWhile isBlank).reverse.dropWhile isBlank).reverse

def trim (s : String) : String :=
  String.ofList (trimBlank s.toList)

end NaturalQuery.Text

namespace NaturalQuery.Text

/-- White space in the sense of the Unicode `White_Space` property: the blanks other than the
information separators U+001C to U+001F. Trimming model fields uses this set. -/
def isWhiteSpace (c : Char) : Bool :=
  isBlank c && !(0x1C ≤ c.toNat && c.toNat ≤ 0x1F)

def trimWhite (s : String) : String :=
  String.ofList (((s.toList.dropWhile isWhiteSpace).reverse.dropWhile isWhiteSpace).reverse)

end NaturalQuery.Text
