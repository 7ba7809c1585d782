import NaturalQuery.Time.Moment

/-!
Moments in text. `Moment.readIso?` reads the ISO 8601 forms `YYYY-MM-DD` and `YYYYMMDD`, then
optionally any one separator and a time `HH[:MM[:SS[.fraction]]]` (or without colons), then
optionally `Z` or an offset `±HH[:MM[:SS]]`. `Moment.render` writes the form used in answers:
`YYYY-MM-DDTHH:MM:SS`, six digits of fraction only when it is not zero, and `Z` for a zero offset
or `±HH:MM` otherwise. `Moment.slashDate` writes the day as `M/D/YYYY` without padding.
-/

namespace NaturalQuery.Time

def readDigits (width : Nat) (cs : List Char) : Option (Nat × List Char) :=
  let ds := cs.take width
  if ds.length = width && ds.all (fun c => '0' ≤ c && c ≤ '9') then
    some (ds.foldl (fun n c => 10 * n + (c.toNat - 48)) 0, cs.drop width)
  else none

def readIsoDate (cs : List Char) : Option (Date × List Char) := do
  let (year, r1) ← readDigits 4 cs
  let (extended, r1) := match r1 with | '-' :: r => (true, r) | _ => (false, r1)
  let (month, r2) ← readDigits 2 r1
  let r2 ← if extended then (match r2 with | '-' :: r => some r | _ => none) else some r2
  let (day, r3) ← readDigits 2 r2
  if 1 ≤ year && 1 ≤ month && month ≤ 12 && 1 ≤ day && day ≤ daysInMonth year month then
    some (⟨year, month, day⟩, r3)
  else none

def readFraction (cs : List Char) : Option (Nat × List Char) :=
  let ds := cs.takeWhile fun c => '0' ≤ c && c ≤ '9'
  if ds.isEmpty then none
  else
    let six := (ds.take 6) ++ List.replicate (6 - ds.length) '0'
    some (six.foldl (fun n c => 10 * n + (c.toNat - 48)) 0, cs.dropWhile fun c => '0' ≤ c && c ≤ '9')

/-- Hours, then minutes and seconds each after an optional colon, then an optional fraction;
`colons` says whether the parts are separated by colons. -/
def readClockParts (colons : Bool) (cs : List Char) :
    Option ((Nat × Nat × Nat × Nat) × List Char) := do
  let (h, r1) ← readDigits 2 cs
  let next (rest : List Char) : Option (List Char) :=
    if colons then (match rest with | ':' :: r => some r | _ => none) else some rest
  match (next r1).bind (readDigits 2) with
  | none => some ((h, 0, 0, 0), r1)
  | some (m, r2) =>
    match (next r2).bind (readDigits 2) with
    | none => some ((h, m, 0, 0), r2)
    | some (s, r3) =>
      match r3 with
      | c :: more =>
        if c = '.' || c = ',' then
          match readFraction more with
          | some (f, r4) => some ((h, m, s, f), r4)
          | none => none
        else some ((h, m, s, 0), r3)
      | [] => some ((h, m, s, 0), r3)

def readIsoOffset (cs : List Char) : Option (Int × List Char) :=
  match cs with
  | 'Z' :: rest => some (0, rest)
  | c :: rest =>
    if c = '+' || c = '-' then
      let colons := match rest with | _ :: _ :: ':' :: _ => true | _ => false
      (readClockParts colons rest).bind fun ((h, m, s, f), after) =>
        if f ≠ 0 || h ≥ 24 || m ≥ 60 || s ≥ 60 then none
        else
          let seconds : Int := h * 3600 + m * 60 + s
          some (if c = '-' then -seconds else seconds, after)
    else none
  | [] => none

def Moment.readIso? (text : String) : Option Moment := do
  let (date, rest) ← readIsoDate text.toList
  match rest with
  | [] => some ⟨WallTime.midnight date, .naive⟩
  | _ :: timeText =>
    let colons := match timeText with | _ :: _ :: ':' :: _ => true | _ => false
    let ((h, m, s, f), afterTime) ← readClockParts colons timeText
    if h ≥ 24 || m ≥ 60 || s ≥ 60 then none
    else
      let wall : WallTime := ⟨date, h, m, s, f⟩
      match afterTime with
      | [] => some ⟨wall, .naive⟩
      | _ =>
        let (offset, after) ← readIsoOffset afterTime
        if after.isEmpty then some ⟨wall, .fixed offset⟩ else none

def pad (width : Nat) (n : Nat) : String :=
  let text := toString n
  String.ofList (List.replicate (width - text.length) '0') ++ text

def WallTime.render (w : WallTime) : String :=
  let year := if w.date.year < 0 then "-" ++ pad 4 w.date.year.natAbs else pad 4 w.date.year.toNat
  year ++ "-" ++ pad 2 w.date.month ++ "-" ++ pad 2 w.date.day ++ "T" ++ pad 2 w.hour ++ ":" ++
    pad 2 w.minute ++ ":" ++ pad 2 w.second ++ (if w.micro = 0 then "" else "." ++ pad 6 w.micro)

def renderOffset (offset : Int) : String :=
  if offset = 0 then "Z"
  else
    let sign := if offset < 0 then "-" else "+"
    let total := offset.natAbs
    sign ++ pad 2 (total / 3600) ++ ":" ++ pad 2 (total / 60 % 60) ++
      (if total % 60 = 0 then "" else ":" ++ pad 2 (total % 60))

def Moment.render (m : Moment) : String :=
  m.wall.render ++ match m.offset? with
    | some offset => renderOffset offset
    | none => ""

def Moment.slashDate (m : Moment) : String :=
  s!"{m.wall.date.month}/{m.wall.date.day}/{m.wall.date.year}"

def Moment.ofUnix (seconds : Int) (micro : Nat) : Outcome Moment :=
  let t := (seconds + epochOrdinal * 86400) * microsPerSecond + micro
  if inSpan (t.fdiv microsPerDay) then .ok ⟨WallTime.ofMicros t, .fixed 0⟩ else .error .dateOutOfRange

end NaturalQuery.Time
