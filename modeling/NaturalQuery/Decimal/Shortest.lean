import NaturalQuery.Decimal.Binary

/-!
The shortest decimal that reads back as a given double. The doubles that round to a value `v`
fill an interval around it (its ends included when the mantissa is even); `shortest` tries 1, 2,
… 17 significant digits and on each grid tests the two grid points next to `v`: the first grid
with a point inside wins, and of two points inside the nearer one, a tie going to the even one.
-/

namespace NaturalQuery.Decimal

/-- A decimal `digits * 10 ^ exponent`, with no trailing zero in `digits` unless it is 0. -/
structure Digits where
  digits : Nat
  exponent : Int
  deriving Repr, BEq

def digitCount (n : Nat) : Nat :=
  (Nat.toDigits 10 n).length

def floorLog10 (r : Ratio) : Int :=
  let guess : Int := (digitCount r.num : Int) - (digitCount r.den : Int)
  if (Ratio.ofTens 1 guess).le r then guess else guess - 1

def Digits.normalize (d : Digits) : Digits :=
  go d.digits.log2.succ d
where
  go : Nat → Digits → Digits
    | 0, d => d
    | fuel + 1, d =>
      if d.digits ≠ 0 && d.digits % 10 == 0 then go fuel ⟨d.digits / 10, d.exponent + 1⟩ else d

/-- The shortest decimal inside the rounding interval of a finite double with a non-zero
mantissa; of two equally short ones the nearer. -/
def Binary.shortest (b : Binary) : Digits :=
  let value := b.magnitude
  let high := Ratio.ofTwos (4 * b.mantissa + 2) (b.exponent - 2)
  let low := Ratio.ofTwos (4 * b.mantissa - (if b.narrowBelow then 1 else 2)) (b.exponent - 2)
  let closed := b.mantissa % 2 == 0
  let inside (c : Ratio) : Bool :=
    if closed then low.le c && c.le high else low.lt c && c.lt high
  let top := floorLog10 value
  let onGrid (count : Nat) : Option Digits :=
    let scale : Int := top - count + 1
    let unit := Ratio.ofTens 1 scale
    let below := (value.num * unit.den) / (value.den * unit.num)
    let lowIn := inside (Ratio.ofTens below scale)
    let highIn := inside (Ratio.ofTens (below + 1) scale)
    -- the doubled distance test: `2 v` against `(2 below + 1) * 10 ^ scale`
    let twice : Ratio := ⟨2 * value.num, value.den⟩
    let middle := Ratio.ofTens (2 * below + 1) scale
    if lowIn && highIn then
      if twice.lt middle then some ⟨below, scale⟩
      else if middle.lt twice then some ⟨below + 1, scale⟩
      else some ⟨below + below % 2, scale⟩
    else if lowIn then some ⟨below, scale⟩
    else if highIn then some ⟨below + 1, scale⟩
    else none
  match (List.range 17).findSome? (fun i => onGrid (i + 1)) with
  | some d => d.normalize
  | none => (Digits.normalize ⟨value.num / value.den, 0⟩)

end NaturalQuery.Decimal
