/-!
A double read as an exact binary fraction. `Binary.ofFloat` splits the bit pattern into sign,
integer mantissa and power of two, so that every later step (shortest digits, rounding to a
number of places, the integer of an integral value) is exact arithmetic on `Nat`.
-/

namespace NaturalQuery.Decimal

/-- A finite double: its magnitude is `mantissa * 2 ^ exponent`. -/
structure Binary where
  negative : Bool
  mantissa : Nat
  exponent : Int
  narrowBelow : Bool
  deriving Repr

inductive Reading where
  | finite (value : Binary)
  | infinite (negative : Bool)
  | nan

def Binary.read (x : Float) : Reading :=
  let bits : Nat := x.toBits.toNat
  let negative : Bool := bits / Nat.pow 2 63 == 1
  let biased : Nat := (bits / Nat.pow 2 52) % 2048
  let fraction : Nat := bits % Nat.pow 2 52
  if biased == 2047 then
    if fraction == 0 then .infinite negative else .nan
  else if biased == 0 then
    .finite ⟨negative, fraction, -1074, false⟩
  else
    .finite ⟨negative, fraction + Nat.pow 2 52, (biased : Int) - 1075, fraction == 0 && biased > 1⟩

/-- A non-negative rational `num / den` with a positive denominator. -/
structure Ratio where
  num : Nat
  den : Nat

namespace Ratio

def ofTwos (a : Nat) (e : Int) : Ratio :=
  ⟨a * Nat.pow 2 e.toNat, Nat.pow 2 (-e).toNat⟩

def ofTens (a : Nat) (e : Int) : Ratio :=
  ⟨a * Nat.pow 10 e.toNat, Nat.pow 10 (-e).toNat⟩

def le (p q : Ratio) : Bool := p.num * q.den ≤ q.num * p.den

def lt (p q : Ratio) : Bool := p.num * q.den < q.num * p.den

def roundHalfEven (p : Ratio) : Nat :=
  let whole := p.num / p.den
  let rest := p.num % p.den
  if 2 * rest > p.den then whole + 1
  else if 2 * rest < p.den then whole
  else whole + whole % 2

end Ratio

def Binary.magnitude (b : Binary) : Ratio :=
  Ratio.ofTwos b.mantissa b.exponent

def Binary.isIntegral (b : Binary) : Bool :=
  b.exponent ≥ 0 || b.mantissa % Nat.pow 2 (-b.exponent).toNat == 0

def Binary.truncate (b : Binary) : Int :=
  let whole := b.magnitude.num / b.magnitude.den
  if b.negative then -(whole : Int) else whole

end NaturalQuery.Decimal

namespace NaturalQuery.Decimal

def Binary.compareInt (b : Binary) (n : Int) : Ordering :=
  let m := b.magnitude
  -- compare sign · num / den with n by cross-multiplying
  let left : Int := (if b.negative then -(m.num : Int) else m.num)
  Ord.compare left (n * m.den)

def intExceeds (n : Int) (x : Float) : Bool :=
  match Binary.read x with
  | .nan => false
  | .infinite negative => negative
  | .finite b => b.compareInt n == .lt

def floatExceeds (x : Float) (n : Int) : Bool :=
  match Binary.read x with
  | .nan => false
  | .infinite negative => !negative
  | .finite b => b.compareInt n == .gt

end NaturalQuery.Decimal
