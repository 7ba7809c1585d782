import NaturalQuery.Proofs.Calendar
import NaturalQuery.Proofs.Checks
import NaturalQuery.Period

/-!
The days behind each period's window. For a today in the calendar, a period is drawn from a span
of days that the calendar alone fixes: the day itself, the day before or after, the week from the
latest Sunday, the one before or after it, the month, the month before (December of the year
before, in January), the year, or the thirty or ninety days up to today. The window runs from the
start of the span's first day to the end of its last day, or to now for a rolling window.

The day arithmetic fails exactly when a day it builds leaves the years 1 to 9999. Those are the
ends of the span and, for two periods, one more day on the way: next week is reached from this
week's Sunday, and the end of this month from the first of the next month. So next week fails in
the first days of year 1, and this month fails in December 9999, although every day of their
spans is in the calendar.
-/

namespace NaturalQuery

open Time

namespace Time

/-- A day as a date value holds it: valid, and in the years 1 to 9999. -/
def Date.InCalendar (d : Date) : Prop := d.Valid ∧ 1 ≤ d.year ∧ d.year ≤ 9999

instance (d : Date) : Decidable d.InCalendar := inferInstanceAs (Decidable (_ ∧ _))

def Date.after (d : Date) (k : Int) : Date := Date.ofOrdinal (d.ordinal + k)

/-- The Sunday that starts the week of a day. Day 7, 0001-01-07, is a Sunday. -/
def Date.weekStart (d : Date) : Date := d.after (-(d.ordinal % 7))

section Ordinals

theorem daysBeforeMonth_mono (year : Int) {month later : Nat} (one : 1 ≤ month)
    (le : month ≤ later) : daysBeforeMonth year month ≤ daysBeforeMonth year later := by
  induction later, le using Nat.le_induction with
  | base => exact Nat.le_refl _
  | succ later below ih =>
    rw [daysBeforeMonth_succ year (Nat.le_trans one below)]
    omega

theorem Date.ordinal_injective {d e : Date} (validD : d.Valid) (validE : e.Valid)
    (same : d.ordinal = e.ordinal) : d = e := by
  have boundsD := Date.ordinal_bounds validD
  have boundsE := Date.ordinal_bounds validE
  -- the year is the one whose days hold the ordinal
  have year : d.year = e.year := by
    rcases Int.lt_trichotomy d.year e.year with less | equal | more
    · have := daysBeforeYear_mono (show d.year + 1 ≤ e.year by omega)
      omega
    · exact equal
    · have := daysBeforeYear_mono (show e.year + 1 ≤ d.year by omega)
      omega
  obtain ⟨oneD, -, firstD, lastD⟩ := validD
  obtain ⟨oneE, -, firstE, lastE⟩ := validE
  simp only [Date.ordinal, year] at same lastD
  -- within the year, a later month starts after the whole of an earlier one
  have month : d.month = e.month := by
    rcases Nat.lt_trichotomy d.month e.month with less | equal | more
    · have := daysBeforeMonth_mono e.year (show 1 ≤ d.month + 1 by omega) less
      rw [daysBeforeMonth_succ e.year oneD] at this
      omega
    · exact equal
    · have := daysBeforeMonth_mono e.year (show 1 ≤ e.month + 1 by omega) more
      rw [daysBeforeMonth_succ e.year oneE] at this
      omega
  have day : d.day = e.day := by
    rw [month] at same
    omega
  cases d
  cases e
  simp_all

theorem Date.ofOrdinal_of_valid {d : Date} (valid : d.Valid) : Date.ofOrdinal d.ordinal = d :=
  Date.ordinal_injective (Date.ofOrdinal_valid _) valid (Date.ofOrdinal_ordinal _)

theorem Date.inCalendar_iff {d : Date} (valid : d.Valid) :
    d.InCalendar ↔ 1 ≤ d.ordinal ∧ d.ordinal ≤ lastOrdinal := by
  rw [lastOrdinal_eq, ← inSpan_iff, inSpan_iff_year, Date.ofOrdinal_of_valid valid]
  exact ⟨fun inside => inside.2, fun years => ⟨valid, years⟩⟩

theorem Date.InCalendar.ordinal_bounds {d : Date} (inside : d.InCalendar) :
    1 ≤ d.ordinal ∧ d.ordinal ≤ lastOrdinal :=
  (Date.inCalendar_iff inside.1).mp inside

@[simp] theorem Date.after_ordinal (d : Date) (k : Int) : (d.after k).ordinal = d.ordinal + k :=
  Date.ofOrdinal_ordinal _

theorem Date.after_valid (d : Date) (k : Int) : (d.after k).Valid := Date.ofOrdinal_valid _

theorem Date.after_after (d : Date) (j k : Int) : (d.after j).after k = d.after (j + k) := by
  simp only [Date.after, Date.ofOrdinal_ordinal, Int.add_assoc]

theorem Date.after_eq {d e : Date} {k : Int} (valid : e.Valid) (located : e.ordinal = d.ordinal + k) :
    d.after k = e := by
  rw [Date.after, ← located, Date.ofOrdinal_of_valid valid]

theorem Date.after_inCalendar_iff {d : Date} {k : Int} :
    (d.after k).InCalendar ↔ 1 ≤ d.ordinal + k ∧ d.ordinal + k ≤ lastOrdinal := by
  rw [Date.inCalendar_iff (Date.after_valid d k), Date.after_ordinal]

theorem Date.addDays_bind {α : Type} (d : Date) (k : Int) (f : Date → Outcome α) :
    (d.addDays k >>= f) =
      if (d.after k).InCalendar then f (d.after k) else .error .dateOutOfRange := by
  have span := Date.after_inCalendar_iff (d := d) (k := k)
  rw [lastOrdinal_eq, ← inSpan_iff] at span
  by_cases inside : (d.after k).InCalendar
  · rw [if_pos inside, Date.addDays_of_inSpan (span.mp inside), ok_bind]
    rfl
  · rw [if_neg inside]
    simp [Date.addDays, mt span.mpr inside]
    rfl

end Ordinals

section Weeks

theorem Date.isoWeekday_eq_seven_iff (d : Date) : d.isoWeekday = 7 ↔ d.ordinal % 7 = 0 := by
  unfold Date.isoWeekday
  omega

theorem Date.weekStart_ordinal (d : Date) : d.weekStart.ordinal = d.ordinal - d.ordinal % 7 := by
  rw [Date.weekStart, Date.after_ordinal]
  omega

theorem Date.weekStart_sunday (d : Date) :
    d.weekStart.isoWeekday = 7 ∧ d.weekStart.ordinal ≤ d.ordinal ∧
      d.ordinal < d.weekStart.ordinal + 7 := by
  rw [Date.isoWeekday_eq_seven_iff, Date.weekStart_ordinal]
  omega

theorem Date.weekStart_latest (d e : Date) (sunday : e.isoWeekday = 7)
    (before : e.ordinal ≤ d.ordinal) : e.ordinal ≤ d.weekStart.ordinal := by
  rw [Date.isoWeekday_eq_seven_iff] at sunday
  rw [Date.weekStart_ordinal]
  omega

theorem Date.after_isoWeekday (d : Date) :
    d.after (-((d.isoWeekday % 7 : Nat) : Int)) = d.weekStart := by
  have back : ((d.isoWeekday % 7 : Nat) : Int) = d.ordinal % 7 := by
    unfold Date.isoWeekday
    omega
  rw [back, Date.weekStart]

theorem Date.ordinal_le_six_iff {d : Date} (inside : d.InCalendar) :
    d.ordinal ≤ 6 ↔ d.year = 1 ∧ d.month = 1 ∧ d.day ≤ 6 := by
  have bounds := Date.ordinal_bounds inside.1
  have positive := inside.ordinal_bounds.1
  obtain ⟨one, -, -, -⟩ := inside.1
  constructor
  · intro early
    -- a later year starts after day 365, and a later month of year 1 after day 31
    have year : d.year = 1 := by
      have first : daysBeforeYear 1 = 0 := rfl
      have second : daysBeforeYear 2 = 365 := rfl
      rcases Int.lt_trichotomy d.year 1 with before | same | after
      · have := daysBeforeYear_mono (show d.year + 1 ≤ 1 by omega)
        omega
      · exact same
      · have := daysBeforeYear_mono (show 2 ≤ d.year by omega)
        omega
    have first : daysBeforeYear 1 = 0 := rfl
    simp only [Date.ordinal, year, first] at early
    have month : d.month = 1 := by
      refine Nat.le_antisymm (Nat.not_lt.mp fun after => ?_) one
      have := daysBeforeMonth_mono 1 (show 1 ≤ 2 by decide) after
      have february : daysBeforeMonth 1 2 = 31 := rfl
      omega
    refine ⟨year, month, ?_⟩
    rw [month] at early
    have january : daysBeforeMonth 1 1 = 0 := rfl
    omega
  · rintro ⟨year, month, day⟩
    simp only [Date.ordinal, year, month]
    have january : daysBeforeMonth 1 1 = 0 := rfl
    have first : daysBeforeYear 1 = 0 := rfl
    omega

theorem Date.weekStart_inCalendar_iff {d : Date} (inside : d.InCalendar) :
    d.weekStart.InCalendar ↔ ¬ (d.year = 1 ∧ d.month = 1 ∧ d.day ≤ 6) := by
  have bounds := inside.ordinal_bounds
  rw [← Date.ordinal_le_six_iff inside, Date.weekStart, Date.after_inCalendar_iff]
  omega

end Weeks

section Months

variable {d : Date}

theorem Date.before_first_of_month (valid : d.Valid) (later : d.month ≠ 1) :
    (d.firstOfMonth).after (-1) = ⟨d.year, d.month - 1, daysInMonth d.year (d.month - 1)⟩ := by
  obtain ⟨one, twelve, -, -⟩ := valid
  have step := daysBeforeMonth_succ d.year (show 1 ≤ d.month - 1 by omega)
  rw [show d.month - 1 + 1 = d.month by omega] at step
  refine Date.after_eq ⟨show 1 ≤ d.month - 1 by omega, show d.month - 1 ≤ 12 by omega,
    daysInMonth_pos _ _, Nat.le_refl _⟩ ?_
  simp only [Date.ordinal, Date.firstOfMonth, step]
  omega

theorem Date.before_first_of_year (year : Int) :
    (⟨year, 1, 1⟩ : Date).after (-1) = ⟨year - 1, 12, 31⟩ := by
  have length := Date.nextYear_ordinal (year - 1)
  rw [Int.sub_add_cancel] at length
  refine Date.after_eq ⟨show 1 ≤ 12 by decide, Nat.le_refl 12, show 1 ≤ 31 by decide,
    Nat.le_refl 31⟩ ?_
  rw [length]
  simp only [Date.ordinal]
  have december : daysInMonth (year - 1) 12 = 31 := rfl
  omega

theorem Date.before_next_month (valid : d.Valid) :
    (⟨d.year, d.month + 1, 1⟩ : Date).after (-1) =
      ⟨d.year, d.month, daysInMonth d.year d.month⟩ := by
  obtain ⟨one, twelve, -, -⟩ := valid
  refine Date.after_eq ⟨one, twelve, daysInMonth_pos _ _, Nat.le_refl _⟩ ?_
  rw [Date.nextMonth_ordinal d.year one]
  simp only [Date.ordinal]
  omega

theorem Date.month_inCalendar (inside : d.InCalendar) {month day : Nat} (one : 1 ≤ month)
    (twelve : month ≤ 12) (first : 1 ≤ day) (last : day ≤ daysInMonth d.year month) :
    (⟨d.year, month, day⟩ : Date).InCalendar :=
  ⟨⟨one, twelve, first, last⟩, inside.2⟩

theorem Date.InCalendar.firstOfMonth (inside : d.InCalendar) : d.firstOfMonth.InCalendar :=
  ⟨Date.firstOfMonth_valid inside.1, inside.2⟩

theorem Date.through_next_month {α : Type} (inside : d.InCalendar) (f : Date → Outcome α) :
    (if d.firstOfMonth.month == 12 then
        Date.make (d.firstOfMonth.year + 1) 1 1 >>= fun next => next.addDays (-1) >>= f
      else
        pure (⟨d.firstOfMonth.year, d.firstOfMonth.month + 1, 1⟩ : Date) >>=
          fun next => next.addDays (-1) >>= f) =
      if d.year = 9999 ∧ d.month = 12 then .error (.yearOutOfRange 10000)
      else f ⟨d.year, d.month, daysInMonth d.year d.month⟩ := by
  have years := inside.2
  have months := inside.1.2.1
  have last : Date.InCalendar ⟨d.year, d.month, daysInMonth d.year d.month⟩ :=
    Date.month_inCalendar inside inside.1.1 months (daysInMonth_pos _ _) (Nat.le_refl _)
  by_cases december : d.month = 12
  · rw [if_pos (show (d.firstOfMonth.month == 12) = true by simp [Date.firstOfMonth, december])]
    by_cases lastYear : d.year = 9999
    · rw [if_pos ⟨lastYear, december⟩]
      simp [Date.make, Date.firstOfMonth, lastYear]
      rfl
    · have ending : (⟨d.year + 1, 1, 1⟩ : Date).after (-1) = ⟨d.year, d.month, daysInMonth d.year d.month⟩ := by
        rw [Date.before_first_of_year, Int.add_sub_cancel, december]
        rfl
      rw [if_neg (fun both => lastYear both.1)]
      simp only [Date.firstOfMonth]
      rw [Date.make_of_year (by omega) (by omega), ok_bind, Date.addDays_bind, ending, if_pos last]
  · rw [if_neg (show ¬ (d.firstOfMonth.month == 12) = true by simpa [Date.firstOfMonth] using december),
      if_neg (fun both => december both.2)]
    simp only [Date.firstOfMonth]
    rw [pure_bind, Date.addDays_bind, Date.before_next_month inside.1, if_pos last]

end Months

end Time

namespace Period

/-- The first and last days a period's window is drawn from when the day of now is `today`; a
rolling window is drawn up to today. -/
def span (today : Date) : Period → Date × Date
  | .today => (today, today)
  | .yesterday => (today.after (-1), today.after (-1))
  | .tomorrow => (today.after 1, today.after 1)
  | .thisWeek => (today.weekStart, today.weekStart.after 6)
  | .lastWeek => (today.weekStart.after (-7), today.weekStart.after (-1))
  | .nextWeek => (today.weekStart.after 7, today.weekStart.after 13)
  | .thisMonth =>
    (⟨today.year, today.month, 1⟩, ⟨today.year, today.month, daysInMonth today.year today.month⟩)
  | .lastMonth =>
    if today.month = 1 then (⟨today.year - 1, 12, 1⟩, ⟨today.year - 1, 12, 31⟩)
    else (⟨today.year, today.month - 1, 1⟩,
      ⟨today.year, today.month - 1, daysInMonth today.year (today.month - 1)⟩)
  | .thisYear => (⟨today.year, 1, 1⟩, ⟨today.year, 12, 31⟩)
  | .last30Days => (today.after (-30), today)
  | .last90Days => (today.after (-90), today)

def rolling : Period → Bool
  | .last30Days | .last90Days => true
  | _ => false

/-- The day outside its span that a period's day arithmetic passes through: this week's Sunday on
the way to next week, and the first of the next month on the way to the end of this one. -/
def waypoint (today : Date) : Period → Option Date
  | .nextWeek => some today.weekStart
  | .thisMonth =>
    some (if today.month = 12 then ⟨today.year + 1, 1, 1⟩ else ⟨today.year, today.month + 1, 1⟩)
  | _ => none

def reached (today : Date) (p : Period) : List Date :=
  [(p.span today).1, (p.span today).2] ++ (p.waypoint today).toList

def Reaches (today : Date) (p : Period) : Prop := ∀ d ∈ p.reached today, d.InCalendar

instance (today : Date) (p : Period) : Decidable (p.Reaches today) :=
  inferInstanceAs (Decidable (∀ d ∈ p.reached today, d.InCalendar))

/-- How the day arithmetic fails: the first of January 10000 cannot be built, and every other
day past the calendar overflows. -/
def overflow : Period → Failure
  | .thisMonth => .yearOutOfRange 10000
  | _ => .dateOutOfRange

theorem reaches_iff (today : Date) (p : Period) :
    p.Reaches today ↔ (p.span today).1.InCalendar ∧ (p.span today).2.InCalendar ∧
      ∀ d ∈ p.waypoint today, d.InCalendar := by
  simp [Reaches, reached]

theorem waypoint_inCalendar_iff {today : Date} (inside : today.InCalendar) (p : Period) :
    (∀ d ∈ p.waypoint today, d.InCalendar) ↔
      ¬ (p = .nextWeek ∧ today.year = 1 ∧ today.month = 1 ∧ today.day ≤ 6) ∧
        ¬ (p = .thisMonth ∧ today.year = 9999 ∧ today.month = 12) := by
  have years := inside.2
  have months := inside.1.2.1
  cases p
  case nextWeek => simpa [waypoint] using Date.weekStart_inCalendar_iff inside
  case thisMonth =>
    by_cases december : today.month = 12
    · simp only [waypoint, december, ↓reduceIte, Option.mem_def, Option.some.injEq, forall_eq',
        Date.InCalendar, Date.Valid, reduceCtorEq, false_and, not_false_eq_true, true_and, and_true]
      have positive := daysInMonth_pos (today.year + 1) 1
      omega
    · simp only [waypoint, december, ↓reduceIte, Option.mem_def, Option.some.injEq]
      refine ⟨fun _ => by simp, fun _ => ?_⟩
      rintro _ rfl
      exact ⟨⟨show 1 ≤ today.month + 1 by omega, show today.month + 1 ≤ 12 by omega, Nat.le_refl 1,
        daysInMonth_pos _ _⟩, years⟩
  all_goals simp [waypoint]

theorem span_lastMonth {today : Date} (valid : today.Valid) :
    lastMonth.span today = ((today.firstOfMonth.after (-1)).firstOfMonth, today.firstOfMonth.after (-1)) := by
  by_cases january : today.month = 1
  · have first : today.firstOfMonth = ⟨today.year, 1, 1⟩ := by simp [Date.firstOfMonth, january]
    rw [first, Date.before_first_of_year]
    simp [span, january, Date.firstOfMonth]
  · rw [Date.before_first_of_month valid january]
    simp [span, january, Date.firstOfMonth]

end Period

namespace Setting

def dayWindow (s : Setting) (first last : Date) : Outcome (Moment × Moment) := do
  pure (← s.startOf first, ← s.endOf last)

def rollingWindow (s : Setting) (first : Date) : Outcome (Moment × Moment) := do
  pure (← s.startOf first, ← s.awareNow)

def window (s : Setting) (p : Period) (span : Date × Date) : Outcome (Moment × Moment) :=
  if p.rolling then s.rollingWindow span.1 else s.dayWindow span.1 span.2


variable {s : Setting}

theorem window_eq_ok {p : Period} {span : Date × Date} {start finish : Moment}
    (made : s.window p span = .ok (start, finish)) :
    s.startOf span.1 = .ok start ∧ (p.rolling = false → s.endOf span.2 = .ok finish) ∧
      (p.rolling = true → s.awareNow = .ok finish) := by
  unfold window at made
  split at made
  · next rolling =>
    obtain ⟨a, first, made⟩ := bind_eq_ok.mp made
    obtain ⟨b, last, made⟩ := bind_eq_ok.mp made
    cases made
    exact ⟨first, fun notRolling => by simp [rolling] at notRolling, fun _ => last⟩
  · next dayLong =>
    obtain ⟨a, first, made⟩ := bind_eq_ok.mp made
    obtain ⟨b, last, made⟩ := bind_eq_ok.mp made
    cases made
    exact ⟨first, fun _ => last, fun rolling => absurd rolling dayLong⟩

theorem resolve_eq_window (p : Period) (today : s.now.wall.date.InCalendar) :
    s.resolve p = if p.Reaches s.now.wall.date then s.window p (p.span s.now.wall.date)
      else .error p.overflow := by
  have bounds := today.ordinal_bounds
  cases p with
  | today =>
    rw [if_pos ((Period.reaches_iff _ .today).mpr ⟨today, today, by simp [Period.waypoint]⟩)]
    rfl
  | yesterday =>
    simp only [resolve, Date.addDays_bind]
    refine if_congr ?_ rfl rfl
    simp [Period.reaches_iff, Period.span, Period.waypoint]
  | tomorrow =>
    simp only [resolve, Date.addDays_bind]
    refine if_congr ?_ rfl rfl
    simp [Period.reaches_iff, Period.span, Period.waypoint]
  | thisWeek =>
    simp only [resolve, Date.addDays_bind, Date.after_isoWeekday, pure_bind, ← ite_and]
    refine if_congr ?_ rfl rfl
    simp [Period.reaches_iff, Period.span, Period.waypoint]
  | lastWeek =>
    simp only [resolve, Date.addDays_bind, Date.after_isoWeekday, Date.after_after, ← ite_and]
    refine if_congr ?_ rfl rfl
    simp [Period.reaches_iff, Period.span, Period.waypoint, Date.weekStart, Date.after_after,
      Date.after_inCalendar_iff]
    omega
  | nextWeek =>
    simp only [resolve, Date.addDays_bind, Date.after_isoWeekday, Date.after_after, ← ite_and]
    refine if_congr ?_ rfl rfl
    simp [Period.reaches_iff, Period.span, Period.waypoint, Date.weekStart, Date.after_after,
      Date.after_inCalendar_iff]
    omega
  | thisMonth =>
    have first : Date.InCalendar ⟨s.now.wall.date.year, s.now.wall.date.month, 1⟩ :=
      Date.month_inCalendar today today.1.1 today.1.2.1 (Nat.le_refl 1) (daysInMonth_pos _ _)
    have last : Date.InCalendar ⟨s.now.wall.date.year, s.now.wall.date.month,
        daysInMonth s.now.wall.date.year s.now.wall.date.month⟩ :=
      Date.month_inCalendar today today.1.1 today.1.2.1 (daysInMonth_pos _ _) (Nat.le_refl _)
    have reaches : Period.thisMonth.Reaches s.now.wall.date ↔
        ¬ (s.now.wall.date.year = 9999 ∧ s.now.wall.date.month = 12) := by
      rw [Period.reaches_iff, Period.waypoint_inCalendar_iff today]
      simp [Period.span, first, last]
    simp only [resolve]
    rw [Date.through_next_month today]
    by_cases lastDecember : s.now.wall.date.year = 9999 ∧ s.now.wall.date.month = 12
    · rw [if_pos lastDecember, if_neg (fun inside => reaches.mp inside lastDecember)]
      rfl
    · rw [if_neg lastDecember, if_pos (reaches.mpr lastDecember)]
      rfl
  | lastMonth =>
    simp only [resolve, Date.addDays_bind]
    rw [Period.span_lastMonth today.1]
    refine if_congr ?_ rfl rfl
    rw [Period.reaches_iff, Period.span_lastMonth today.1]
    simp only [Option.mem_def, reduceCtorEq, Period.waypoint, IsEmpty.forall_iff, implies_true,
      and_true, iff_and_self]
    exact Date.InCalendar.firstOfMonth
  | thisYear =>
    have january : Date.InCalendar ⟨s.now.wall.date.year, 1, 1⟩ :=
      Date.month_inCalendar today (Nat.le_refl 1) (by decide) (Nat.le_refl 1) (daysInMonth_pos _ _)
    have december : Date.InCalendar ⟨s.now.wall.date.year, 12, 31⟩ :=
      Date.month_inCalendar today (by decide) (Nat.le_refl 12) (by decide) (Nat.le_refl 31)
    rw [if_pos ((Period.reaches_iff _ .thisYear).mpr ⟨january, december, by simp [Period.waypoint]⟩)]
    rfl
  | last30Days =>
    simp only [resolve, Date.addDays_bind]
    refine if_congr ?_ rfl rfl
    simp [Period.reaches_iff, Period.span, Period.waypoint, today]
  | last90Days =>
    simp only [resolve, Date.addDays_bind]
    refine if_congr ?_ rfl rfl
    simp [Period.reaches_iff, Period.span, Period.waypoint, today]

theorem resolve_bounds {p : Period} {start finish : Moment} (today : s.now.wall.date.InCalendar)
    (resolved : s.resolve p = .ok (start, finish)) :
    (p.span s.now.wall.date).1.InCalendar ∧ (p.span s.now.wall.date).2.InCalendar ∧
      s.place (WallTime.midnight (p.span s.now.wall.date).1) = .ok start ∧
      (p.rolling = false → s.place (endOfDay (p.span s.now.wall.date).2) = .ok finish) ∧
      (p.rolling = true → s.awareNow = .ok finish) := by
  rw [resolve_eq_window p today] at resolved
  split at resolved
  · next reaches =>
    obtain ⟨first, last, -⟩ := (Period.reaches_iff _ _).mp reaches
    obtain ⟨startAt, endAt, nowAt⟩ := window_eq_ok resolved
    exact ⟨first, last, startAt, endAt, nowAt⟩
  · cases resolved

/-- The days every period's window is drawn from, and the exact days on which its arithmetic
fails: when a day of its span is outside the calendar, for next week in the first six days of
year 1, and for this month in December 9999. -/
theorem resolve_reference_days (s : Setting) (p : Period) (today : s.now.wall.date.InCalendar) :
    s.resolve p =
      if (p.span s.now.wall.date).1.InCalendar ∧ (p.span s.now.wall.date).2.InCalendar ∧
          ¬ (p = .nextWeek ∧ s.now.wall.date.year = 1 ∧ s.now.wall.date.month = 1 ∧
            s.now.wall.date.day ≤ 6) ∧
          ¬ (p = .thisMonth ∧ s.now.wall.date.year = 9999 ∧ s.now.wall.date.month = 12)
      then s.window p (p.span s.now.wall.date) else .error p.overflow := by
  rw [resolve_eq_window p today]
  refine if_congr ?_ rfl rfl
  rw [Period.reaches_iff, Period.waypoint_inCalendar_iff today]

theorem resolve_reference_days_in_march :
    let s : Setting := ⟨⟨⟨⟨2026, 3, 15⟩, 12, 0, 0, 0⟩, .naive⟩, SystemZone.ofSetting "UTC"⟩
    s.now.wall.date.InCalendar ∧
      s.resolve .lastMonth = s.window .lastMonth (⟨2026, 2, 1⟩, ⟨2026, 2, 28⟩) := by
  intro s
  have today : s.now.wall.date.InCalendar := by decide
  refine ⟨today, ?_⟩
  rw [resolve_reference_days s .lastMonth today, if_pos (by decide)]
  rfl

/-- In December 9999 every day of this month is in the calendar, but the first of January 10000,
through which the last day is found, is not: the month is not resolved. -/
theorem resolve_this_month_fails_in_last_december :
    let s : Setting := ⟨⟨⟨⟨9999, 12, 15⟩, 12, 0, 0, 0⟩, .fixed 18000⟩, SystemZone.ofSetting "UTC"⟩
    (Period.thisMonth.span s.now.wall.date).1.InCalendar ∧
      (Period.thisMonth.span s.now.wall.date).2.InCalendar ∧
      s.resolve .thisMonth = .error (.yearOutOfRange 10000) :=
  ⟨by decide, by decide, rfl⟩

end Setting

end NaturalQuery
