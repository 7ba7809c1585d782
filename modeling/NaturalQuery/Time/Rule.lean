import NaturalQuery.Time.Calendar

/-!
Time-zone rules in the POSIX form `std offset [dst [offset] [,start[/time],end[/time]]]`, such
as `EST5EDT,M3.2.0,M11.1.0` or `XYZ-5:30`. An offset in the text counts hours west of UTC;
`PosixRule` keeps offsets as seconds east of UTC. `PosixRule.parse` reads a rule the way the C
library does: a name of at least three letters (or `<...>`), an offset whose parts saturate at
24 hours and 59 minutes and seconds, a daylight offset one hour ahead of standard time when it is
left out, changes at 02:00 by default and on the second Sunday of March and the first Sunday of
November when both are left out. Text that does not parse leaves standard time at UTC.
-/

namespace NaturalQuery.Time

/-- The day of the year on which the offset changes. -/
inductive ChangeDay where
  | julian (day : Nat)
  | ordinal (day : Nat)
  | weekday (month week day : Nat)
  deriving Repr, BEq, Inhabited

/-- A change of offset: its day, and its time as seconds after local midnight, which may be
negative or past a day. -/
structure Change where
  day : ChangeDay
  time : Int
  deriving Repr, BEq, Inhabited

/-- A time-zone rule: standard time, and daylight time from `start` to `finish` each year. A
rule without daylight time has both offsets equal. -/
structure PosixRule where
  standard : Int
  daylight : Int
  start : Change
  finish : Change
  named : Bool
  deriving Repr, BEq, Inhabited

def Change.none : Change := ⟨.ordinal 0, 0⟩

def PosixRule.utc : PosixRule := ⟨0, 0, Change.none, Change.none, false⟩

section Reading

def isAsciiLetter (c : Char) : Bool :=
  ('a' ≤ c && c ≤ 'z') || ('A' ≤ c && c ≤ 'Z')

def isAsciiDigit (c : Char) : Bool :=
  '0' ≤ c && c ≤ '9'

/-- The text after a zone name: three letters or more, or `<` three or more of letters, digits
and signs `>`. -/
def skipZoneName (cs : List Char) : Option (List Char) :=
  if (cs.takeWhile isAsciiLetter).length ≥ 3 then some (cs.dropWhile isAsciiLetter)
  else
    match cs with
    | '<' :: rest =>
      let inside := fun c => isAsciiLetter c || isAsciiDigit c || c = '+' || c = '-'
      match rest.dropWhile inside with
      | '>' :: after => if (rest.takeWhile inside).length ≥ 3 then some after else none
      | _ => none
    | _ => none

def isCBlank (c : Char) : Bool :=
  c = ' ' || c = '\t' || c = '\n' || c.toNat = 11 || c.toNat = 12 || c = '\r'

/-- A decimal number as an unsigned 16-bit conversion reads it: blanks skipped, an optional
sign, digits; the value wraps modulo 65536. -/
def readShort (cs : List Char) : Option (Nat × List Char) :=
  let cs := cs.dropWhile isCBlank
  let (negative, cs) :=
    match cs with
    | '-' :: rest => (true, rest)
    | '+' :: rest => (false, rest)
    | _ => (false, cs)
  let digits := cs.takeWhile isAsciiDigit
  if digits.isEmpty then none
  else
    let n := digits.foldl (fun n c => 10 * n + (c.toNat - 48)) 0 % 65536
    some (if negative then (65536 - n) % 65536 else n, cs.dropWhile isAsciiDigit)

def readClock (cs : List Char) : Option ((Nat × Nat × Nat) × List Char) :=
  match readShort cs with
  | none => none
  | some (h, rest) =>
    match rest with
    | ':' :: more =>
      match readShort more with
      | none => some ((h, 0, 0), rest)
      | some (m, rest2) =>
        match rest2 with
        | ':' :: more2 =>
          match readShort more2 with
          | none => some ((h, m, 0), rest2)
          | some (s, rest3) => some ((h, m, s), rest3)
        | _ => some ((h, m, 0), rest2)
    | _ => some ((h, 0, 0), rest)

/-- An offset text as seconds east: the parts saturate at 24 hours and 59 minutes and seconds,
and a leading `-` means east. -/
def readOffset (cs : List Char) : Option (Int × List Char) :=
  let (east, cs) :=
    match cs with
    | '-' :: rest => (true, rest)
    | '+' :: rest => (false, rest)
    | _ => (false, cs)
  (readClock cs).map fun ((h, m, s), rest) =>
    let seconds : Int := min s 59 + min m 59 * 60 + min h 24 * 3600
    (if east then seconds else -seconds, rest)

def readNat (cs : List Char) : Option (Nat × List Char) :=
  let digits := cs.takeWhile isAsciiDigit
  if digits.isEmpty then none
  else some (digits.foldl (fun n c => 10 * n + (c.toNat - 48)) 0, cs.dropWhile isAsciiDigit)

def readWeekday (cs : List Char) : Option (ChangeDay × List Char) := do
  let (m, r1) ← readShort cs
  let r1 ← match r1 with | '.' :: r => some r | _ => none
  let (w, r2) ← readShort r1
  let r2 ← match r2 with | '.' :: r => some r | _ => none
  let (d, r3) ← readShort r2
  if 1 ≤ m && m ≤ 12 && 1 ≤ w && w ≤ 5 && d ≤ 6 then some (.weekday m w d, r3) else none

/-- One change, after an optional comma; `first` says which of the two it is, for the default
when the text is empty. -/
def readChange (first : Bool) (cs : List Char) : Option (Change × List Char) := do
  let cs := match cs with | ',' :: rest => rest | _ => cs
  let (day, rest) ←
    match cs with
    | 'J' :: more =>
      match readNat more with
      | some (d, after) => if 1 ≤ d && d ≤ 365 then some (ChangeDay.julian d, after) else none
      | none => none
    | 'M' :: more => readWeekday more
    | [] => some (if first then ChangeDay.weekday 3 2 0 else ChangeDay.weekday 11 1 0, [])
    | c :: _ =>
      if isAsciiDigit c then
        match readNat cs with
        | some (d, after) => if d ≤ 365 then some (ChangeDay.ordinal d, after) else none
        | none => none
      else none
  match rest with
  | '/' :: more =>
    match more with
    | [] => none
    | _ =>
      let (negative, digits) := match more with | '-' :: r => (true, r) | _ => (false, more)
      let ((h, m, s), after) := (readClock digits).getD ((2, 0, 0), digits)
      let seconds : Int := h * 3600 + m * 60 + s
      some (⟨day, if negative then -seconds else seconds⟩, after)
  | [] => some (⟨day, 7200⟩, [])
  | ',' :: _ => some (⟨day, 7200⟩, rest)
  | _ => none

/-- The daylight offset after the daylight name: an offset if one can be read (its sign
optional), else one hour ahead of standard time, the text going on after any sign. -/
def readDaylightOffset (standard : Int) (cs : List Char) : Int × List Char :=
  match readOffset cs with
  | some found => found
  | none =>
    match cs with
    | c :: rest => if c = '+' || c = '-' then (standard + 3600, rest) else (standard + 3600, cs)
    | [] => (standard + 3600, cs)

/-- What follows a standard offset: the daylight offset, the text left and whether a daylight
name was given. Without a daylight name the daylight offset is 0. -/
def readDaylightPart (standard : Int) (rest : List Char) : Int × List Char × Bool :=
  match skipZoneName rest with
  | some afterDst =>
    let (daylight, rules) := readDaylightOffset standard afterDst
    (daylight, rules, true)
  | none => (0, rest, false)

/-- Reads a rule; what cannot be read stays as the C library leaves it: standard time at UTC
when the standard part fails, a daylight offset of 0 when the daylight name fails, and changes
on day 0 at midnight when the change texts fail. -/
def PosixRule.parse (text : String) : PosixRule :=
  let cs := text.toList
  let cs := match cs with | ':' :: rest => rest | _ => cs
  match skipZoneName cs with
  | none => PosixRule.utc
  | some afterName =>
    let startsOffset := match afterName with
      | c :: _ => c = '+' || c = '-' || isAsciiDigit c
      | [] => false
    match (if startsOffset then readOffset afterName else none) with
    | none => PosixRule.utc
    | some (standard, rest) =>
      match rest with
      | [] => ⟨standard, standard, Change.none, Change.none, false⟩
      | _ =>
        let (daylight, rules, named) := readDaylightPart standard rest
        match readChange true rules with
        | none => ⟨standard, daylight, Change.none, Change.none, named⟩
        | some (start, more) =>
          match readChange false more with
          | some (finish, _) => ⟨standard, daylight, start, finish, named⟩
          | none => ⟨standard, daylight, start, Change.none, named⟩

end Reading

section Evaluation

def daySeconds : Int := 86400

/-- The days of the year before the first of `month` of `year`, as the day count of a weekday
change uses them. -/
def daysBefore (year : Int) (month : Nat) : Int := daysBeforeMonth year month

/-- Zeller's congruence: the weekday (0 for Sunday) of the first of `month` of `year`, with the
divisions of the C library, which go toward zero. -/
def firstWeekday (year : Int) (month : Nat) : Int :=
  let m1 : Int := (month + 9) % 12 + 1
  let yy0 : Int := if month ≤ 2 then year - 1 else year
  let yy1 := yy0.tdiv 100
  let yy2 := yy0.tmod 100
  let dow := ((26 * m1 - 2).tdiv 10 + 1 + yy2 + yy2.tdiv 4 + yy1.tdiv 4 - 2 * yy1).tmod 7
  if dow < 0 then dow + 7 else dow

/-- The day of the month, counted from 0, of weekday `day` of week `week` of a month that
starts on weekday `first` and has `length` days. -/
def weekdayOfMonth (first : Int) (length : Nat) (week day : Nat) : Int :=
  let d0 := (day : Int) - first
  let d0 := if d0 < 0 then d0 + 7 else d0
  ((List.range (week - 1)).foldl
    (fun (acc : Int × Bool) _ =>
      if acc.2 then acc else if acc.1 + 7 ≥ length then (acc.1, true) else (acc.1 + 7, false))
    (d0, false)).1

/-- The Unix instant of a change in `year`, as the C library computes it: days are counted from
the first of January of `year` when it is after 1970, and from 1970-01-01 otherwise; `offset` is
the offset in force before the change. -/
def Change.instantIn (change : Change) (year : Int) (offset : Int) : Int :=
  let jan1 : Int :=
    if year > 1970 then (daysBeforeYear year - daysBeforeYear 1970) * daySeconds else 0
  let dayStart : Int :=
    match change.day with
    | .julian d => jan1 + ((d : Int) - 1) * daySeconds +
        (if d ≥ 60 && isLeapYear year then daySeconds else 0)
    | .ordinal d => jan1 + d * daySeconds
    | .weekday month week day =>
      jan1 + daysBefore year month * daySeconds +
        weekdayOfMonth (firstWeekday year month) (daysInMonth year month) week day * daySeconds
  dayStart - offset + change.time

def utcYear (instant : Int) : Int :=
  (Date.ofOrdinal (instant.fdiv daySeconds + epochOrdinal)).year

/-- The offset (seconds east) that the rule gives at a Unix instant, deciding daylight time as
the C library does: between the two changes of the UTC year of the instant, the end coming
before the start in the southern hemisphere. -/
def PosixRule.offsetAt (rule : PosixRule) (instant : Int) : Int :=
  let year := utcYear instant
  let into := rule.start.instantIn year rule.standard
  let out := rule.finish.instantIn year rule.daylight
  let inDaylight :=
    if into > out then instant < out || instant ≥ into
    else instant ≥ into && instant < out
  if inDaylight then rule.daylight else rule.standard

end Evaluation

end NaturalQuery.Time
