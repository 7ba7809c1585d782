import NaturalQuery.Text.Scan
import NaturalQuery.Time.Local
import NaturalQuery.Query.Check
import NaturalQuery.Vocabulary

/-!
Relative periods ("today", "last week", "last 30 days") and the window of moments each stands
for. Days run from 00:00:00 to 23:59:59.999, weeks start on Sunday, and a rolling window runs
from midnight N days ago up to now. Each bound is placed on the clock that governs `now`: the
local clock when `now` is naive or carries the local offset at its instant (each bound then
takes the local offset of its own day), and `now`'s own offset or zone otherwise.
-/

namespace NaturalQuery

open Time

inductive Period where
  | today | yesterday | tomorrow
  | thisWeek | lastWeek | nextWeek
  | thisMonth | lastMonth | thisYear
  | last30Days | last90Days
  deriving Repr, BEq, DecidableEq, Inhabited

namespace Period

def all : List Period :=
  [today, yesterday, tomorrow, thisWeek, lastWeek, nextWeek, thisMonth, lastMonth, thisYear,
    last30Days, last90Days]

def name : Period → String
  | today => "today" | yesterday => "yesterday" | tomorrow => "tomorrow"
  | thisWeek => "this_week" | lastWeek => "last_week" | nextWeek => "next_week"
  | thisMonth => "this_month" | lastMonth => "last_month" | thisYear => "this_year"
  | last30Days => "last_30_days" | last90Days => "last_90_days"

def ofName? (text : String) : Option Period := all.find? (·.name == text)

def phrases : List (String × Period) :=
  [("today", today), ("yesterday", yesterday), ("tomorrow", tomorrow), ("this week", thisWeek),
    ("last week", lastWeek), ("next week", nextWeek), ("this month", thisMonth),
    ("last month", lastMonth), ("this year", thisYear), ("last 30 days", last30Days),
    ("last 90 days", last90Days), ("past month", last30Days), ("recent", last30Days)]

/-- The period of the first phrase, in the order of `phrases`, that stands in a lower-case text
as whole words. -/
def detect (lowered : String) : Option Period :=
  (phrases.find? fun (phrase, _) => Text.hasWordPhrase phrase.toList lowered.toList).map (·.2)

end Period

/-- What a resolution needs besides the period: the moment now and the local zone. -/
structure Setting where
  now : Moment
  zone : SystemZone

namespace Setting

def endOfDay (d : Date) : WallTime := ⟨d, 23, 59, 59, 999000⟩

/-- Whether `now` follows the local clock: it is naive, or its fixed offset is the local offset
at its instant. -/
def followsLocal (s : Setting) : Outcome Bool :=
  match s.now.anchor with
  | .naive => .ok true
  | .fixed offset => (s.zone.convert s.now offset).map fun m => m.offset? == some offset
  | .zone _ => .ok false

def place (s : Setting) (wall : WallTime) : Outcome Moment := do
  if ← s.followsLocal then s.zone.attach wall else pure (s.now.withWall wall)

def startOf (s : Setting) (d : Date) : Outcome Moment := s.place (WallTime.midnight d)

def endOf (s : Setting) (d : Date) : Outcome Moment := s.place (endOfDay d)

def awareNow (s : Setting) : Outcome Moment := s.zone.aware s.now

def resolve (s : Setting) (p : Period) : Outcome (Moment × Moment) := do
  let today := s.now.wall.date
  match p with
  | .today => pure (← s.startOf today, ← s.endOf today)
  | .yesterday =>
    let day ← today.addDays (-1)
    pure (← s.startOf day, ← s.endOf day)
  | .tomorrow =>
    let day ← today.addDays 1
    pure (← s.startOf day, ← s.endOf day)
  | .thisWeek | .lastWeek | .nextWeek =>
    let sunday ← today.addDays (-((today.isoWeekday % 7 : Nat) : Int))
    let sunday ← match p with
      | .lastWeek => sunday.addDays (-7)
      | .nextWeek => sunday.addDays 7
      | _ => pure sunday
    let saturday ← sunday.addDays 6
    pure (← s.startOf sunday, ← s.endOf saturday)
  | .thisMonth =>
    let first := today.firstOfMonth
    let next ← if first.month == 12 then Date.make (first.year + 1) 1 1
      else pure ⟨first.year, first.month + 1, 1⟩
    let last ← next.addDays (-1)
    pure (← s.startOf first, ← s.endOf last)
  | .lastMonth =>
    let last ← today.firstOfMonth.addDays (-1)
    pure (← s.startOf last.firstOfMonth, ← s.endOf last)
  | .thisYear => pure (← s.startOf ⟨today.year, 1, 1⟩, ← s.endOf ⟨today.year, 12, 31⟩)
  | .last30Days =>
    let day ← today.addDays (-30)
    pure (← s.startOf day, ← s.awareNow)
  | .last90Days =>
    let day ← today.addDays (-90)
    pure (← s.startOf day, ← s.awareNow)

def dueSoonKinds : List Entity := [.invoices, .tasks]

/-- The date window a text asks for: the first period phrase, on the kind's date field; for
invoices and tasks "due soon" asks instead for the seven days from now on the due date. -/
def dateRange (s : Setting) (text : String) (entity : Entity) (vocabulary : Vocabulary) :
    Outcome (Option DateRange) := do
  let lowered := Text.lower text
  let fromPeriod ← match Period.detect lowered with
    | some p =>
      let (start, finish) ← s.resolve p
      some <$> DateRange.make (vocabulary.dateField entity) start finish
    | none => pure none
  if dueSoonKinds.contains entity && Text.containsText lowered "due soon" then
    let start ← s.awareNow
    let finish ← start.shift (7 * microsPerDay)
    some <$> DateRange.make "dueDate" start finish
  else pure fromPeriod

end Setting

end NaturalQuery
