import NaturalQuery.Decimal.Shortest

/-!
Writing a double in text. `Notation` holds the decisions of a number format (where positional
notation ends, how the exponent is written, the texts of the special values) and `render`
applies them to the shortest digits that read back.
-/

namespace NaturalQuery.Decimal

structure Notation where
  positionalFrom : Int
  positionalBelow : Int
  pointZero : Bool
  exponentWidth : Nat
  infinity : String
  notANumber : String

/-- Shortest digits that read back, positional from `1e-4` up to below `1e16`, a whole number
written `5.0`, an exponent with a sign and two digits at least (`1e-05`, `1.5e+300`). -/
def Notation.roundTrip : Notation :=
  ⟨-4, 16, true, 2, "inf", "nan"⟩

def padded (width : Nat) (n : Nat) : String :=
  let text := toString n
  String.ofList (List.replicate (width - text.length) '0') ++ text

def positional (ds : String) (point : Int) (pointZero : Bool) : String :=
  if point ≤ 0 then
    "0." ++ String.ofList (List.replicate (-point).toNat '0') ++ ds
  else if ds.length ≤ point.toNat then
    ds ++ String.ofList (List.replicate (point.toNat - ds.length) '0') ++
      (if pointZero then ".0" else "")
  else
    String.ofList (ds.toList.take point.toNat) ++ "." ++ String.ofList (ds.toList.drop point.toNat)

def Notation.renderDigits (style : Notation) (d : Digits) : String :=
  let ds := toString d.digits
  -- the power of ten of the leading digit
  let lead : Int := d.exponent + ds.length - 1
  if style.positionalFrom ≤ lead && lead < style.positionalBelow then
    positional ds (lead + 1) style.pointZero
  else
    let mantissa :=
      if ds.length = 1 then ds
      else String.ofList (ds.toList.take 1) ++ "." ++ String.ofList (ds.toList.drop 1)
    let sign := if lead < 0 then "-" else "+"
    mantissa ++ "e" ++ sign ++ padded style.exponentWidth lead.natAbs

def Notation.render (style : Notation) (x : Float) : String :=
  match Binary.read x with
  | .nan => style.notANumber
  | .infinite negative => (if negative then "-" else "") ++ style.infinity
  | .finite b =>
    let sign := if b.negative then "-" else ""
    if b.mantissa = 0 then
      sign ++ (if style.pointZero then "0.0" else "0")
    else
      sign ++ style.renderDigits b.shortest

end NaturalQuery.Decimal
