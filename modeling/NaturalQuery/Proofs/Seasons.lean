import NaturalQuery.Proofs.Calendar
import NaturalQuery.Time.Rule

/-!
The seasons of a POSIX rule as the C library applies it. The rule decides daylight time by the
UTC year of an instant, between the two changes it places in that year. When both changes fall
well inside every year, more than two days apart, the offset is the daylight one on one stretch
of each year and the standard one elsewhere, so it changes at most once in any two days. The
rule of New York's daylight time is such a rule: its changes fall in March and November.
-/

namespace NaturalQuery.Time

/-- The Unix instant of the first of January of `year`. -/
def yearStart (year : Int) : Int := (daysBeforeYear year - daysBeforeYear 1970) * daySeconds

theorem yearStart_succ (year : Int) :
    yearStart year + 365 * daySeconds ≤ yearStart (year + 1) := by
  unfold yearStart
  rw [daysBeforeYear_succ]
  split <;> simp only [daySeconds] <;> omega

theorem yearStart_mono {a b : Int} (le : a ≤ b) : yearStart a ≤ yearStart b := by
  unfold yearStart daySeconds
  have := daysBeforeYear_mono le
  omega

theorem yearStart_epoch : yearStart 1970 = 0 := by
  simp [yearStart]

/-- The UTC year of an instant is the year whose first and next first of January surround it. -/
theorem utcYear_bounds (i : Int) :
    yearStart (utcYear i) ≤ i ∧ i < yearStart (utcYear i + 1) := by
  have year := yearOfOrdinal_spec (i / daySeconds + epochOrdinal)
  have epoch : daysBeforeYear 1970 + 1 = epochOrdinal := by decide
  have found : utcYear i = yearOfOrdinal (i / daySeconds + epochOrdinal) := by
    rw [utcYear, Int.fdiv_eq_ediv_of_nonneg _ (by decide), Date.ofOrdinal_eq]
  rw [found]
  unfold yearStart daySeconds at *
  constructor <;> omega

theorem utcYear_eq {i year : Int} (after : yearStart year ≤ i) (before : i < yearStart (year + 1)) :
    utcYear i = year := by
  obtain ⟨low, high⟩ := utcYear_bounds i
  -- two different years have disjoint spans of instants
  apply Int.le_antisymm
  · apply Int.not_lt.mp
    intro later
    have := yearStart_mono (show year + 1 ≤ utcYear i by omega)
    omega
  · apply Int.not_lt.mp
    intro earlier
    have := yearStart_mono (show utcYear i + 1 ≤ year by omega)
    omega

/-- A rule whose daylight time runs, each year, between two changes well inside the year: the
start more than two days after the year begins, the end more than two days after the start and at
least two days before the next year. Before 1970 the C library counts the changes from the first
of January 1970. -/
structure PosixRule.Seasonal (r : PosixRule) : Prop where
  start_late : ∀ year,
    (if year > 1970 then yearStart year else 0) + 2 * daySeconds < r.start.instantIn year r.standard
  apart : ∀ year,
    r.start.instantIn year r.standard + 2 * daySeconds < r.finish.instantIn year r.daylight
  finish_early : ∀ year, 1970 ≤ year →
    r.finish.instantIn year r.daylight + 2 * daySeconds ≤ yearStart (year + 1)

/-- An instant inside the daylight time of its UTC year. -/
def PosixRule.InSeason (r : PosixRule) (i : Int) : Prop :=
  r.start.instantIn (utcYear i) r.standard ≤ i ∧ i < r.finish.instantIn (utcYear i) r.daylight

instance (r : PosixRule) (i : Int) : Decidable (r.InSeason i) :=
  inferInstanceAs (Decidable (_ ∧ _))

variable {r : PosixRule}

/-- With its start before its end in every year, a seasonal rule keeps daylight time exactly in
season. -/
theorem PosixRule.Seasonal.offsetAt_eq (seasonal : r.Seasonal) (i : Int) :
    r.offsetAt i = if r.InSeason i then r.daylight else r.standard := by
  have apart := seasonal.apart (utcYear i)
  have ordered : ¬ r.start.instantIn (utcYear i) r.standard >
      r.finish.instantIn (utcYear i) r.daylight := by
    simp only [daySeconds] at apart
    omega
  simp only [PosixRule.offsetAt, ordered]
  by_cases season : r.InSeason i
  · rw [if_pos season]
    simp [season.1, season.2]
  · rw [if_neg season]
    simp only [PosixRule.InSeason] at season
    simp [season]

theorem PosixRule.Seasonal.offsetAt_in (seasonal : r.Seasonal) {i : Int} (season : r.InSeason i) :
    r.offsetAt i = r.daylight := by
  rw [seasonal.offsetAt_eq, if_pos season]

theorem PosixRule.Seasonal.offsetAt_out (seasonal : r.Seasonal) {i : Int} (season : ¬ r.InSeason i) :
    r.offsetAt i = r.standard := by
  rw [seasonal.offsetAt_eq, if_neg season]

/-- Every instant within two days of one in season lies in the same UTC year. -/
theorem PosixRule.Seasonal.year_near (seasonal : r.Seasonal) {i j : Int} (season : r.InSeason i)
    (close : (j - i).natAbs ≤ 2 * daySeconds) : utcYear j = utcYear i := by
  obtain ⟨low, high⟩ := utcYear_bounds i
  obtain ⟨into, out⟩ := season
  have late := seasonal.start_late (utcYear i)
  -- a season lies in a year from 1970 on: before it every instant is below the first change
  have modern : 1970 ≤ utcYear i := by
    apply Int.not_lt.mp
    intro early
    have before := yearStart_mono (show utcYear i + 1 ≤ 1970 by omega)
    rw [yearStart_epoch] at before
    rw [if_neg (by omega)] at late
    simp only [daySeconds] at late
    omega
  have early := seasonal.finish_early (utcYear i) modern
  have begins : (if utcYear i > 1970 then yearStart (utcYear i) else 0) = yearStart (utcYear i) := by
    split
    · rfl
    · rw [show utcYear i = 1970 by omega, yearStart_epoch]
  rw [begins] at late
  simp only [daySeconds] at late early close
  exact utcYear_eq (by omega) (by omega)

/-- The clock of a seasonal rule changes its offset at most once in any two days. -/
theorem PosixRule.Seasonal.changes_apart (seasonal : r.Seasonal) {x y z : Int} (xy : x ≤ y)
    (yz : y ≤ z) (close : z - x ≤ 2 * daySeconds) :
    r.offsetAt x = r.offsetAt y ∨ r.offsetAt y = r.offsetAt z := by
  by_cases middle : r.InSeason y
  · -- the season of `y` holds `x` or `z`: else it would last less than two days
    have sameX := seasonal.year_near middle (j := x) (by omega)
    have sameZ := seasonal.year_near middle (j := z) (by omega)
    have apart := seasonal.apart (utcYear y)
    rw [seasonal.offsetAt_in middle]
    obtain ⟨into, out⟩ := middle
    simp only [daySeconds] at apart close
    by_cases inX : r.start.instantIn (utcYear y) r.standard ≤ x
    · exact .inl (seasonal.offsetAt_in ⟨by rw [sameX]; exact inX, by rw [sameX]; omega⟩)
    · exact .inr (seasonal.offsetAt_in ⟨by rw [sameZ]; omega, by rw [sameZ]; omega⟩).symm
  · -- a season holding `x` and `z` holds `y`, which lies between them in the same year
    rw [seasonal.offsetAt_out middle]
    by_cases inX : r.InSeason x
    · have sameY := seasonal.year_near inX (j := y) (by omega)
      have sameZ := seasonal.year_near inX (j := z) (by omega)
      have outZ : ¬ r.InSeason z := fun inZ => by
        apply middle
        unfold PosixRule.InSeason at inX inZ ⊢
        rw [sameY]
        rw [sameZ] at inZ
        omega
      exact .inr (seasonal.offsetAt_out outZ).symm
    · exact .inl (seasonal.offsetAt_out inX)

section NewYork

theorem Change.instantIn_weekday (month week day : Nat) (time year offset : Int) :
    Change.instantIn ⟨.weekday month week day, time⟩ year offset =
      (if year > 1970 then yearStart year else 0) + daysBeforeMonth year month * daySeconds +
        weekdayOfMonth (firstWeekday year month) (daysInMonth year month) week day * daySeconds -
        offset + time :=
  rfl

theorem firstWeekday_bounds (year : Int) (month : Nat) :
    0 ≤ firstWeekday year month ∧ firstWeekday year month < 7 := by
  -- the remainder toward zero lies strictly between -7 and 7, and a negative one moves up a week
  have wrapped (x : Int) : 0 ≤ (if x.tmod 7 < 0 then x.tmod 7 + 7 else x.tmod 7) ∧
      (if x.tmod 7 < 0 then x.tmod 7 + 7 else x.tmod 7) < 7 := by
    have low := Int.lt_tmod_of_pos x (show (0 : Int) < 7 by decide)
    have high := Int.tmod_lt_of_pos x (show (0 : Int) < 7 by decide)
    split <;> omega
  exact wrapped _

section
variable {first : Int} (low : 0 ≤ first) (high : first < 7) {day : Nat} (weekday : day < 7)
  (length : Nat)
include low high weekday

theorem weekdayOfMonth_first_week :
    0 ≤ weekdayOfMonth first length 1 day ∧ weekdayOfMonth first length 1 day < 7 := by
  simp only [weekdayOfMonth, Nat.sub_self, List.range_zero, List.foldl_nil]
  split <;> omega

theorem weekdayOfMonth_second_week :
    0 ≤ weekdayOfMonth first length 2 day ∧ weekdayOfMonth first length 2 day < 14 := by
  simp only [weekdayOfMonth]
  simp only [show 2 - 1 = 1 from rfl, List.range_one, List.foldl_cons, List.foldl_nil]
  (repeat' split) <;> simp <;> omega

end

/-- New York's rule keeps daylight time from the second Sunday of March to the first Sunday of
November, well inside every year. -/
theorem PosixRule.parse_newYork_seasonal :
    (PosixRule.parse "EST5EDT,M3.2.0,M11.1.0").Seasonal := by
  have start : (PosixRule.parse "EST5EDT,M3.2.0,M11.1.0").start = ⟨.weekday 3 2 0, 7200⟩ := rfl
  have finish : (PosixRule.parse "EST5EDT,M3.2.0,M11.1.0").finish = ⟨.weekday 11 1 0, 7200⟩ :=
    rfl
  have standard : (PosixRule.parse "EST5EDT,M3.2.0,M11.1.0").standard = -18000 := by decide
  have daylight : (PosixRule.parse "EST5EDT,M3.2.0,M11.1.0").daylight = -14400 := by decide
  -- March begins 59 or 60 days into the year and November 304 or 305; the second Sunday of March
  -- falls within its first 14 days and the first Sunday of November within its first 7
  have march (year : Int) : 59 ≤ (daysBeforeMonth year 3 : Int) ∧ (daysBeforeMonth year 3 : Int) ≤ 60 := by
    cases leap : isLeapYear year <;> simp [daysBeforeMonth, daysInMonth, leap]
  have november (year : Int) :
      304 ≤ (daysBeforeMonth year 11 : Int) ∧ (daysBeforeMonth year 11 : Int) ≤ 305 := by
    cases leap : isLeapYear year <;> simp [daysBeforeMonth, daysInMonth, leap]
  have spring (year : Int) := weekdayOfMonth_second_week (firstWeekday_bounds year 3).1
    (firstWeekday_bounds year 3).2 (show 0 < 7 by decide) (daysInMonth year 3)
  have autumn (year : Int) := weekdayOfMonth_first_week (firstWeekday_bounds year 11).1
    (firstWeekday_bounds year 11).2 (show 0 < 7 by decide) (daysInMonth year 11)
  constructor
  · intro year
    have := march year
    have := spring year
    rw [start, standard, Change.instantIn_weekday]
    simp only [daySeconds]
    omega
  · intro year
    have := march year
    have := spring year
    have := november year
    have := autumn year
    rw [start, finish, standard, daylight, Change.instantIn_weekday, Change.instantIn_weekday]
    simp only [daySeconds]
    omega
  · intro year modern
    have := november year
    have := autumn year
    have next := yearStart_succ year
    have epoch := yearStart_epoch
    rw [finish, daylight, Change.instantIn_weekday]
    simp only [daySeconds] at next ⊢
    split
    · omega
    · -- before 1971 the changes are counted from 1970, the first year the rule is read in
      obtain rfl : year = 1970 := by omega
      omega

end NewYork

end NaturalQuery.Time
