import NaturalQuery.Failure

/-!
The proleptic Gregorian calendar. A day is numbered by its ordinal, 1 for 0001-01-01, and the
conversions both ways are exact for every integer. `Date.addDays` is calendar arithmetic that
keeps to the years 1 to 9999 and fails outside them.
-/

namespace NaturalQuery.Time

def isLeapYear (year : Int) : Bool :=
  year % 4 == 0 && (year % 100 != 0 || year % 400 == 0)

def daysInMonth (year : Int) (month : Nat) : Nat :=
  match month with
  | 2 => if isLeapYear year then 29 else 28
  | 4 | 6 | 9 | 11 => 30
  | _ => 31

/-- The days of the year that come before the first of `month`: the days of the months 1 to
`month - 1`. -/
def daysBeforeMonth (year : Int) : Nat → Nat
  | 0 | 1 => 0
  | month + 2 => daysBeforeMonth year (month + 1) + daysInMonth year (month + 1)

def daysBeforeYear (year : Int) : Int :=
  let past := year - 1
  past * 365 + past / 4 - past / 100 + past / 400

structure Date where
  year : Int
  month : Nat
  day : Nat
  deriving Repr, BEq, DecidableEq, Inhabited

def Date.ordinal (d : Date) : Int :=
  daysBeforeYear d.year + daysBeforeMonth d.year d.month + d.day

def monthDay (year : Int) (dayOfYear : Nat) : Nat × Nat :=
  go 1 dayOfYear 12
where
  go (month : Nat) (left : Nat) : Nat → Nat × Nat
    | 0 => (month, left + 1)
    | fuel + 1 =>
      if left < daysInMonth year month then (month, left + 1)
      else go (month + 1) (left - daysInMonth year month) fuel

def yearOfOrdinal (n : Int) : Int :=
  -- a first guess from the mean year, then a step either way
  let guess := (n - 1) * 400 / 146097 + 1
  if daysBeforeYear (guess + 1) < n then guess + 1
  else if daysBeforeYear guess < n then guess
  else guess - 1

def Date.ofOrdinal (n : Int) : Date :=
  let year := yearOfOrdinal n
  let (month, day) := monthDay year (n - daysBeforeYear year - 1).toNat
  ⟨year, month, day⟩

def Date.isoWeekday (d : Date) : Nat :=
  ((d.ordinal + 6) % 7).toNat + 1

def lastOrdinal : Int := 3652059

def epochOrdinal : Int := 719163

def inSpan (n : Int) : Bool := 1 ≤ n && n ≤ lastOrdinal

def Date.addDays (d : Date) (days : Int) : Outcome Date :=
  let n := d.ordinal + days
  if inSpan n then .ok (Date.ofOrdinal n) else .error .dateOutOfRange

def Date.firstOfMonth (d : Date) : Date := ⟨d.year, d.month, 1⟩

def Date.make (year : Int) (month day : Nat) : Outcome Date :=
  if 1 ≤ year && year ≤ 9999 then .ok ⟨year, month, day⟩ else .error (.yearOutOfRange year)

end NaturalQuery.Time
