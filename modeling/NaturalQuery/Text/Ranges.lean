/-!
Tables of code points as sorted, disjoint closed ranges, searched by halving. `find?` gives the
first code point of the range that holds a code point, and `contains` whether there is one.
-/

namespace NaturalQuery.Text

/-- Sorted, disjoint closed ranges `(first, last)` of code points. -/
structure RangeTable where
  ranges : Array (Nat × Nat)

/-- The first code point of the range holding `n`, searching the ranges from `lo` to below
`hi`. -/
def RangeTable.findIn (t : RangeTable) (n : Nat) (lo hi : Nat) : Option Nat :=
  if _h : lo < hi then
    let mid := (lo + hi) / 2
    match t.ranges[mid]? with
    | none => none
    | some (first, last) =>
      if n < first then t.findIn n lo mid
      else if last < n then t.findIn n (mid + 1) hi
      else some first
  else none
termination_by hi - lo

def RangeTable.find? (t : RangeTable) (n : Nat) : Option Nat :=
  t.findIn n 0 t.ranges.size

def RangeTable.contains (t : RangeTable) (n : Nat) : Bool :=
  (t.find? n).isSome

end NaturalQuery.Text
