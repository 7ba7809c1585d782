import NaturalQuery.Decimal.Binary

/-!
Rounding a double to a number of decimal places. The exact binary value is rounded to the grid
`10 ^ -places`, a half going to the even neighbour, and the decimal result is read back as the
nearest double. `fixed` writes the same rounded decimal with exactly `places` digits after the
point.
-/

namespace NaturalQuery.Decimal

def Binary.scaledRound (b : Binary) (places : Nat) : Nat :=
  Ratio.roundHalfEven ⟨b.magnitude.num * Nat.pow 10 places, b.magnitude.den⟩

def roundPlaces (x : Float) (places : Nat) : Float :=
  match Binary.read x with
  | .finite b =>
    if b.mantissa = 0 then x
    else
      let magnitude := Float.ofScientific (b.scaledRound places) true places
      if b.negative then -magnitude else magnitude
  | _ => x

def fixed (x : Float) (places : Nat) : String :=
  match Binary.read x with
  | .finite b =>
    let n := b.scaledRound places
    let text := toString n
    let whole := if text.length ≤ places then "0" else String.ofList (text.toList.take (text.length - places))
    let frac := String.ofList (List.replicate (places - text.length) '0') ++
      String.ofList (text.toList.drop (text.length - places))
    (if b.negative then "-" else "") ++ whole ++ (if places = 0 then "" else "." ++ frac)
  | .infinite negative => if negative then "-inf" else "inf"
  | .nan => "nan"

end NaturalQuery.Decimal
