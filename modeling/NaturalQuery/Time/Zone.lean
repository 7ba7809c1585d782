import NaturalQuery.Time.Rule

/-!
Named time zones of the IANA database: a list of transitions (each an instant with the offsets
before and after it) and a rule that holds after the last one. Two readings are given. The offset
at an instant counts transitions at or before it. The offset of a wall-clock reading (taking the
earlier of two instants when the reading is repeated, and the offset before a transition when the
reading is skipped) compares the reading with each transition placed at the later of its two
local times, and past the last transition applies the rule to the reading's own year.
-/

namespace NaturalQuery.Time

/-- A change of offset at a Unix instant. -/
structure Transition where
  instant : Int
  before : Int
  after : Int
  deriving Repr, Inhabited

structure Zone where
  name : String
  before : Int
  transitions : Array Transition
  footer : String
  deriving Inhabited

/-- The last transition at or before `key` under `place`, searching indexes `lo` to below `hi`;
`place` must grow with the index. -/
def lastAtOrBefore (items : Array Transition) (place : Transition → Int) (key : Int)
    (lo hi : Nat) : Option Transition :=
  if _h : lo < hi then
    let mid := (lo + hi) / 2
    match items[mid]? with
    | none => none
    | some item =>
      if place item ≤ key then
        (lastAtOrBefore items place key (mid + 1) hi).orElse fun _ => some item
      else lastAtOrBefore items place key lo mid
  else none
termination_by hi - lo

/-- The Unix time of a change in `year`, read on the local clock, as the rule after a zone's
transitions places it. -/
def Change.localIn (change : Change) (year : Int) : Int :=
  let dayStart : Int :=
    match change.day with
    | .julian d =>
      (Date.ordinal ⟨year, 1, 1⟩ - epochOrdinal - 1 + d +
        (if d ≥ 59 && isLeapYear year then 1 else 0)) * daySeconds
    | .ordinal d => (Date.ordinal ⟨year, 1, 1⟩ - epochOrdinal + d) * daySeconds
    | .weekday month week day =>
      -- the weekday of the first of the month, 0 for Monday
      let first := (Date.ordinal ⟨year, month, 1⟩ + 6) % 7
      let dayOfMonth := ((day : Int) - (first + 1)) % 7 + 1 + ((week : Int) - 1) * 7
      let dayOfMonth :=
        if dayOfMonth > daysInMonth year month then dayOfMonth - 7 else dayOfMonth
      (Date.ordinal ⟨year, month, 1⟩ + dayOfMonth - 1 - epochOrdinal) * daySeconds
  dayStart + change.time

/-- The offset a rule gives to a wall-clock reading `reading` of `year`, the earlier instant when
the reading is repeated and the offset before the change when it is skipped. -/
def PosixRule.offsetOfLocal (rule : PosixRule) (year : Int) (reading : Int) : Int :=
  if !rule.named then rule.standard
  else
    let gain := rule.daylight - rule.standard
    let start := rule.start.localIn year
    let finish := rule.finish.localIn year
    let (start, finish) := if gain ≥ 0 then (start + gain, finish) else (start, finish - gain)
    let inDaylight :=
      if start < finish then start ≤ reading && reading < finish
      else !(finish ≤ reading && reading < start)
    if inDaylight then rule.daylight else rule.standard

/-- The wall-clock time at which a transition is met when a repeated reading counts as the
earlier one. -/
def Transition.localStart (t : Transition) : Int :=
  t.instant + max t.before t.after

/-- The offset of a zone for the wall-clock reading `reading` (Unix-style seconds of the reading)
in `year`. -/
def Zone.offsetOfLocal (z : Zone) (year : Int) (reading : Int) : Int :=
  let count := z.transitions.size
  match z.transitions[0]?, z.transitions[count - 1]? with
  | some first, some last =>
    if reading < first.localStart then z.before
    else if reading > last.localStart then (PosixRule.parse z.footer).offsetOfLocal year reading
    else
      match lastAtOrBefore z.transitions Transition.localStart reading 0 count with
      | some t => t.after
      | none => z.before
  | _, _ => (PosixRule.parse z.footer).offsetOfLocal year reading

/-- The offset of a zone at a Unix instant, the rule after the last transition deciding from
that transition on. -/
def Zone.offsetAt (z : Zone) (instant : Int) : Int :=
  let count := z.transitions.size
  match z.transitions[0]?, z.transitions[count - 1]? with
  | some first, some last =>
    if instant < first.instant then z.before
    else if instant ≥ last.instant then (PosixRule.parse z.footer).offsetAt instant
    else
      match lastAtOrBefore z.transitions Transition.instant instant 0 count with
      | some t => t.after
      | none => z.before
  | _, _ => z.before

end NaturalQuery.Time
