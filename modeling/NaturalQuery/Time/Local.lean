import NaturalQuery.Time.Moment
import NaturalQuery.Time.ZoneData

/-!
The system's local time. `SystemZone.ofSetting` reads a zone setting as the C library does: the
name of a known zone, or else a POSIX rule. `SystemZone.attach` ties a naive reading to the
offset the local clock has there, solving `reading = instant + offset(instant)` the way the
standard conversion does: it looks a day back for a second offset, takes the instant that
matches (the later one when the reading is skipped), and fails when a local reading on the
way falls outside the years 1 to 9999. `SystemZone.convert` moves a moment with an offset to
the local offset at its instant.
-/

namespace NaturalQuery.Time

inductive SystemZone where
  | rule (r : PosixRule)
  | table (z : Zone)
  deriving Inhabited

/-- Reads a zone setting: a known zone's name (after an optional `:`) names its table, the
empty setting is UTC, and any other text is read as a POSIX rule. -/
def SystemZone.ofSetting (setting : String) : SystemZone :=
  let name := if setting.startsWith ":" then String.ofList (setting.toList.drop 1) else setting
  if name.isEmpty then .table Zone.utc
  else
    match Zone.named? name with
    | some z => .table z
    | none => .rule (PosixRule.parse name)

def SystemZone.offsetAt : SystemZone → Int → Int
  | .rule r, instant => r.offsetAt instant
  | .table z, instant => z.offsetAt instant

def epochSeconds : Int := epochOrdinal * 86400

/-- The local reading (as whole seconds from day 0) of the instant `u` (on the same count),
refused when its year lies outside 1 to 9999. -/
def SystemZone.localReading (sz : SystemZone) (u : Int) : Outcome Int :=
  let reading := u + sz.offsetAt (u - epochSeconds)
  let year := (Date.ofOrdinal (reading.fdiv 86400)).year
  if 1 ≤ year && year ≤ 9999 then .ok reading else .error (.yearOutOfRange year)

/-- The instant (whole seconds from day 0) whose local reading is `t`; of two, the earlier, and
for a skipped reading the later of the two candidates. -/
def SystemZone.solve (sz : SystemZone) (t : Int) : Outcome Int := do
  let lt ← sz.localReading t
  let a := lt - t
  let u1 := t - a
  let t1 ← sz.localReading u1
  let second (b : Int) : Outcome Int := do
    let u2 := t - b
    let t2 ← sz.localReading u2
    if t2 == t then pure u2
    else if t1 == t then pure u1
    else pure (max u1 u2)
  if t1 == t then
    let u2 := u1 - 86400
    let lt2 ← sz.localReading u2
    let b := lt2 - u2
    if a == b then pure u1 else second b
  else second (t1 - u1)

def SystemZone.offsetAtReading (sz : SystemZone) (utc : WallTime) : Int :=
  sz.offsetAt ((utc.micros - epochSeconds * microsPerSecond).fdiv microsPerSecond)

def SystemZone.fromUtc (sz : SystemZone) (utc : WallTime) : Outcome Moment := do
  let offset := sz.offsetAtReading utc
  let wall ← utc.shift (offset * microsPerSecond)
  pure ⟨wall, .fixed offset⟩

def SystemZone.attach (sz : SystemZone) (w : WallTime) : Outcome Moment := do
  let instant ← sz.solve w.seconds
  let offset := sz.offsetAt (instant - epochSeconds)
  let utc ← w.shift (-offset * microsPerSecond)
  sz.fromUtc utc

def SystemZone.convert (sz : SystemZone) (m : Moment) (offset : Int) : Outcome Moment := do
  let utc ← m.wall.shift (-offset * microsPerSecond)
  sz.fromUtc utc

/-- A moment with an offset: a naive one is tied to the local clock, one with an offset is
kept. -/
def SystemZone.aware (sz : SystemZone) (m : Moment) : Outcome Moment :=
  match m.anchor with
  | .naive => sz.attach m.wall
  | _ => .ok m

end NaturalQuery.Time
