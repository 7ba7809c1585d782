import NaturalQuery.Time.Zone

/-!
Moments: a wall-clock reading to the microsecond, tied to nothing (naive), to a fixed offset, or
to a named zone whose offset depends on the reading. Two moments are ordered by their readings
when they share a zone or an offset (or both are naive), by their instants when both have
offsets, and not at all when only one has an offset. Shifting a moment moves its reading and
keeps what it is tied to; it fails when the reading leaves the years 1 to 9999.
-/

namespace NaturalQuery.Time

def microsPerSecond : Int := 1000000

def microsPerDay : Int := 86400 * microsPerSecond

/-- A wall-clock reading: a day and a time of day to the microsecond. -/
structure WallTime where
  date : Date
  hour : Nat
  minute : Nat
  second : Nat
  micro : Nat
  deriving Repr, BEq, Inhabited

def WallTime.seconds (w : WallTime) : Int :=
  ((w.date.ordinal * 24 + w.hour) * 60 + w.minute) * 60 + w.second

def WallTime.micros (w : WallTime) : Int :=
  w.seconds * microsPerSecond + w.micro

def WallTime.unixSeconds (w : WallTime) : Int :=
  w.seconds - epochOrdinal * 86400

def WallTime.ofMicros (t : Int) : WallTime :=
  let day := t.fdiv microsPerDay
  let rest := (t.fmod microsPerDay).toNat
  ⟨Date.ofOrdinal day, rest / 3600000000, rest / 60000000 % 60, rest / 1000000 % 60,
    rest % 1000000⟩

def WallTime.midnight (d : Date) : WallTime := ⟨d, 0, 0, 0, 0⟩

def WallTime.shift (w : WallTime) (delta : Int) : Outcome WallTime :=
  let t := w.micros + delta
  if inSpan (t.fdiv microsPerDay) then .ok (WallTime.ofMicros t) else .error .dateOutOfRange

inductive Anchor where
  | naive
  | fixed (offset : Int)
  | zone (z : Zone)
  deriving Inhabited

/-- A wall-clock reading and what it is tied to. -/
structure Moment where
  wall : WallTime
  anchor : Anchor
  deriving Inhabited

def Moment.offset? (m : Moment) : Option Int :=
  match m.anchor with
  | .naive => none
  | .fixed offset => some offset
  | .zone z => some (z.offsetOfLocal m.wall.date.year m.wall.unixSeconds)

def Moment.sameZone (a b : Moment) : Bool :=
  match a.anchor, b.anchor with
  | .zone z1, .zone z2 => z1.name == z2.name
  | _, _ => false

/-- The order of two moments: by reading in a shared zone or at equal offsets, else by
instant; a naive moment and one with an offset have no order. -/
def Moment.compare (a b : Moment) : Outcome Ordering :=
  if a.sameZone b then .ok (Ord.compare a.wall.micros b.wall.micros)
  else
    match a.offset?, b.offset? with
    | none, none => .ok (Ord.compare a.wall.micros b.wall.micros)
    | some x, some y =>
      .ok (Ord.compare (a.wall.micros - x * microsPerSecond) (b.wall.micros - y * microsPerSecond))
    | _, _ => .error .mixedAwareness

def Moment.shift (m : Moment) (delta : Int) : Outcome Moment :=
  (m.wall.shift delta).map fun wall => ⟨wall, m.anchor⟩

def Moment.withWall (m : Moment) (wall : WallTime) : Moment := ⟨wall, m.anchor⟩

end NaturalQuery.Time
