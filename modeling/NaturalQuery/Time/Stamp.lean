import NaturalQuery.Time.Moment
import NaturalQuery.Decimal.Binary

/-!
Timestamps as data validation reads them. A timestamp in text is `YYYY-MM-DD`, one of `T`, `t`,
a space or `_`, then `HH:MM`, optionally `:SS` and a fraction after `.` or `,` (digits past the
sixth are dropped), then optionally `Z`, `z` or `±HH[[:]MM]`. Text that is a number instead is a
count of seconds since 1970 at UTC, or of milliseconds once it passes 2 × 10¹⁰ in size; counts
before 1600 or after 9999 are refused. A day alone is read with the day reader, whose complaints
(`StampError`) are the ones a failed timestamp in text reports.
-/

namespace NaturalQuery.Time

inductive StampError where
  | tooShort
  | extraCharacters
  | dateSeparator
  | yearCharacter
  | monthCharacter
  | dayCharacter
  | monthRange
  | dayRange
  | fractionTooLong
  | tooEarly
  | tooLate
deriving DecidableEq, Repr

def StampError.text : StampError → String
  | .tooShort => "input is too short"
  | .extraCharacters => "unexpected extra characters at the end of the input"
  | .dateSeparator => "invalid date separator, expected `-`"
  | .yearCharacter => "invalid character in year"
  | .monthCharacter => "invalid character in month"
  | .dayCharacter => "invalid character in day"
  | .monthRange => "month value is outside expected range of 1-12"
  | .dayRange => "day value is outside expected range"
  | .fractionTooLong => "second fraction value is more than 6 digits long"
  | .tooEarly => "dates before 1600 are not supported as unix timestamps"
  | .tooLate => "dates after 9999 are not supported as unix timestamps"

def digitOf? (c : Char) : Option Nat :=
  if '0' ≤ c && c ≤ '9' then some (c.toNat - 48) else none

def twoDigits (complaint : StampError) : List Char → Except StampError Nat
  | a :: b :: _ =>
    match digitOf? a, digitOf? b with
    | some x, some y => .ok (10 * x + y)
    | _, _ => .error complaint
  | _ => .error complaint

def readStampDay (cs : List Char) : Except StampError Date := do
  if cs.length < 10 then throw .tooShort
  let year : Nat ← match (cs.take 4).mapM digitOf? with
    | some ds => pure (ds.foldl (fun n d => 10 * n + d) 0)
    | none => throw .yearCharacter
  if cs[4]? != some '-' then throw .dateSeparator
  let month ← twoDigits .monthCharacter (cs.drop 5)
  if cs[7]? != some '-' then throw .dateSeparator
  let day ← twoDigits .dayCharacter (cs.drop 8)
  if month < 1 || month > 12 then throw .monthRange
  if day < 1 || day > daysInMonth year month then throw .dayRange
  pure ⟨year, month, day⟩

def readStampDate (cs : List Char) : Except StampError Date := do
  let day ← readStampDay cs
  if cs.length > 10 then throw .extraCharacters
  pure day

def twoDigits? : List Char → Option (Nat × List Char)
  | a :: b :: rest => do
    let x ← digitOf? a
    let y ← digitOf? b
    pure (10 * x + y, rest)
  | _ => none

def stampFraction (cs : List Char) : Option (Nat × List Char) :=
  let ds := cs.takeWhile fun c => (digitOf? c).isSome
  if ds.isEmpty then none
  else
    let six := ds.take 6 ++ List.replicate (6 - ds.length) '0'
    some (six.foldl (fun n c => 10 * n + (c.toNat - 48)) 0, cs.drop ds.length)

def stampOffset : List Char → Option (Option Int)
  | [] => some none
  | c :: rest =>
    if c = 'Z' || c = 'z' then (if rest.isEmpty then some (some 0) else none)
    else if c = '+' || c = '-' then do
      let (hours, afterHours) ← twoDigits? rest
      let (minutes, after) ← match afterHours with
        | ':' :: more => twoDigits? more
        | [] => some (0, [])
        | more => twoDigits? more
      if !after.isEmpty then none
      let seconds : Int := hours * 3600 + minutes * 60
      if seconds ≥ 86400 then none
      pure (some (if c = '-' then -seconds else seconds))
    else none

def stampClock (cs : List Char) : Option ((Nat × Nat × Nat × Nat) × Option Int) := do
  let (hour, r1) ← twoDigits? cs
  let r1 ← match r1 with | ':' :: r => some r | _ => none
  let (minute, r2) ← twoDigits? r1
  if hour > 23 || minute > 59 then none
  let ((second, micro), r3) ← match r2 with
    | ':' :: more => do
      let (second, r) ← twoDigits? more
      if second > 59 then none
      match r with
      | c :: fraction =>
        if c = '.' || c = ',' then
          let (micro, r') ← stampFraction fraction
          pure ((second, micro), r')
        else pure ((second, 0), r)
      | [] => pure ((second, 0), [])
    | _ => pure ((0, 0), r2)
  let offset ← stampOffset r3
  pure ((hour, minute, second, micro), offset)

def readStamp? (cs : List Char) : Option (WallTime × Option Int) := do
  let day ← (readStampDay cs).toOption
  let sep ← cs[10]?
  if !(sep = 'T' || sep = 't' || sep = ' ' || sep = '_') then none
  let ((hour, minute, second, micro), offset) ← stampClock (cs.drop 11)
  pure (⟨day, hour, minute, second, micro⟩, offset)

def earliestStamp : Int := -11676096000
def latestStamp : Int := 253402300799

def fromTimestamp (count : Int) (micro : Nat) : Except StampError WallTime :=
  let (seconds, extra) :=
    if count.natAbs ≤ 20000000000 then (count, (0 : Int))
    else
      let whole := count.tdiv 1000
      let part := count.tmod 1000 * 1000
      if part < 0 then (whole - 1, part + 1000000) else (whole, part)
  let total := micro + extra
  let seconds := seconds + total / 1000000
  let total := total % 1000000
  if seconds < earliestStamp then .error .tooEarly
  else if seconds > latestStamp then .error .tooLate
  else .ok (WallTime.ofMicros ((seconds + epochOrdinal * 86400) * microsPerSecond + total))

def saturate (n : Int) : Int := max (-9223372036854775808) (min 9223372036854775807 n)

def floorOf (x : Float) : Int :=
  match Decimal.Binary.read x with
  | .nan => 0
  | .infinite negative => if negative then -9223372036854775808 else 9223372036854775807
  | .finite b =>
    let t := b.truncate
    saturate (if b.negative && !b.isIntegral then t - 1 else t)

/-- Seconds as a double: whole seconds below it plus the microseconds of its fraction, which
must be whole to a thousandth. -/
def floatStamp (x : Float) : Except StampError WallTime :=
  let whole := Float.ofInt (match Decimal.Binary.read x with
    | .finite b => b.truncate
    | _ => 0)
  let fraction := if x.isFinite then x - whole else x - x
  let micro := fraction.abs * 1000000.0
  if micro - micro.floor > 0.001 then .error .fractionTooLong
  else fromTimestamp (floorOf x) (if micro.isNaN then 0 else micro.toUInt32.toNat)

def stampInteger? (cs : List Char) : Option Int :=
  let (negative, digits) := match cs with
    | '-' :: rest => (true, rest)
    | '+' :: rest => (false, rest)
    | _ => (false, cs)
  if digits.isEmpty then none
  else
    (digits.mapM digitOf?).bind fun ds =>
      let n : Int := (ds.foldl (fun n d => 10 * n + d) 0 : Nat)
      let n := if negative then -n else n
      if saturate n == n then some n else none

end NaturalQuery.Time
