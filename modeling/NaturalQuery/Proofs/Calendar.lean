import NaturalQuery.Time.Calendar

/-!
The day numbering of the calendar is exact. Every integer is the ordinal of the day that
`Date.ofOrdinal` gives, and that day has a month from 1 to 12 and a day within its month; a day
in range has its ordinal inside its own year; and an ordinal lies in the span of the calendar
exactly when its year is one of 1 to 9999. `Date.addDays` is therefore addition of ordinals,
refused exactly when the sum leaves the span.
-/

namespace NaturalQuery.Time

def Date.Valid (d : Date) : Prop :=
  1 ≤ d.month ∧ d.month ≤ 12 ∧ 1 ≤ d.day ∧ d.day ≤ daysInMonth d.year d.month

instance (d : Date) : Decidable d.Valid := inferInstanceAs (Decidable (_ ∧ _))

theorem daysBeforeYear_eq (year : Int) :
    daysBeforeYear year =
      (year - 1) * 365 + (year - 1) / 4 - (year - 1) / 100 + (year - 1) / 400 :=
  rfl

theorem daysBeforeYear_succ (year : Int) :
    daysBeforeYear (year + 1) = daysBeforeYear year + if isLeapYear year then 366 else 365 := by
  rw [daysBeforeYear_eq, daysBeforeYear_eq]
  unfold isLeapYear
  by_cases h4 : year % 4 = 0 <;> by_cases h100 : year % 100 = 0 <;>
    by_cases h400 : year % 400 = 0 <;> simp [h4, h100, h400] <;> omega

theorem daysBeforeYear_mono {a b : Int} (h : a ≤ b) : daysBeforeYear a ≤ daysBeforeYear b := by
  rw [daysBeforeYear_eq, daysBeforeYear_eq]
  omega

theorem daysInMonth_pos (year : Int) (month : Nat) : 0 < daysInMonth year month := by
  unfold daysInMonth
  split <;> (try split) <;> omega

theorem daysInMonth_le (year : Int) (month : Nat) : daysInMonth year month ≤ 31 := by
  unfold daysInMonth
  split <;> (try split) <;> omega

theorem daysBeforeMonth_one (year : Int) : daysBeforeMonth year 1 = 0 := rfl

theorem daysBeforeMonth_succ (year : Int) {month : Nat} (h : 1 ≤ month) :
    daysBeforeMonth year (month + 1) = daysBeforeMonth year month + daysInMonth year month := by
  obtain ⟨m, rfl⟩ : ∃ m, month = m + 1 := ⟨month - 1, by omega⟩
  rfl

theorem daysBeforeMonth_thirteen (year : Int) :
    daysBeforeMonth year 13 = if isLeapYear year then 366 else 365 := by
  cases h : isLeapYear year <;> simp [daysBeforeMonth, daysInMonth, h]

theorem daysBeforeMonth_thirteen_eq (year : Int) :
    (daysBeforeMonth year 13 : Int) = daysBeforeYear (year + 1) - daysBeforeYear year := by
  rw [daysBeforeMonth_thirteen, daysBeforeYear_succ]
  split <;> omega

theorem daysBeforeMonth_add_le (year : Int) {month : Nat} (one : 1 ≤ month) (twelve : month ≤ 12) :
    daysBeforeMonth year month + daysInMonth year month ≤ daysBeforeMonth year 13 := by
  rw [← daysBeforeMonth_succ year one]
  -- the remaining months only add days
  have grows : ∀ k, daysBeforeMonth year (month + 1) ≤ daysBeforeMonth year (month + 1 + k) := by
    intro k
    induction k with
    | zero => simp
    | succ k ih =>
      rw [← Nat.add_assoc, daysBeforeMonth_succ year (show 1 ≤ month + 1 + k by omega)]
      omega
  have := grows (12 - month)
  rwa [show month + 1 + (12 - month) = 13 by omega] at this

theorem monthDay_go_spec (year : Int) (fuel : Nat) :
    ∀ month left, 1 ≤ month → month + fuel = 13 →
      daysBeforeMonth year month + left < daysBeforeMonth year 13 →
      let found := monthDay.go year month left fuel
      month ≤ found.1 ∧ found.1 ≤ 12 ∧ 1 ≤ found.2 ∧ found.2 ≤ daysInMonth year found.1 ∧
        daysBeforeMonth year found.1 + found.2 = daysBeforeMonth year month + left + 1 := by
  induction fuel with
  | zero =>
    intro month left _ thirteen inside
    subst thirteen
    omega
  | succ fuel ih =>
    intro month left one thirteen inside
    simp only [monthDay.go]
    split
    · next fits =>
      simp only
      omega
    · next spills =>
      have step := daysBeforeMonth_succ year one
      have rest := ih (month + 1) (left - daysInMonth year month) (by omega) (by omega)
        (by omega)
      simp only at rest ⊢
      exact ⟨by omega, rest.2.1, rest.2.2.1, rest.2.2.2.1, by omega⟩

theorem monthDay_spec (year : Int) {dayOfYear : Nat}
    (inside : dayOfYear < daysBeforeMonth year 13) :
    let found := monthDay year dayOfYear
    1 ≤ found.1 ∧ found.1 ≤ 12 ∧ 1 ≤ found.2 ∧ found.2 ≤ daysInMonth year found.1 ∧
      daysBeforeMonth year found.1 + found.2 = dayOfYear + 1 := by
  have spec := monthDay_go_spec year 12 1 dayOfYear (Nat.le_refl 1) rfl
    (by rw [daysBeforeMonth_one]; omega)
  simp only [daysBeforeMonth_one, Nat.zero_add] at spec
  exact ⟨spec.1, spec.2⟩

theorem yearOfOrdinal_spec (n : Int) :
    daysBeforeYear (yearOfOrdinal n) < n ∧ n ≤ daysBeforeYear (yearOfOrdinal n + 1) := by
  -- the guess from the mean length of a year is off by at most one year either way
  have near : daysBeforeYear ((n - 1) * 400 / 146097) < n ∧
      n ≤ daysBeforeYear ((n - 1) * 400 / 146097 + 3) := by
    simp only [daysBeforeYear_eq]
    omega
  unfold yearOfOrdinal
  generalize (n - 1) * 400 / 146097 = p at near
  dsimp only
  split
  · next above => exact ⟨above, by simpa [Int.add_assoc] using near.2⟩
  · next above =>
    split
    · next below => exact ⟨below, by simpa using Int.not_lt.mp above⟩
    · next below => exact ⟨by simpa using near.1, by simpa using Int.not_lt.mp below⟩

theorem Date.ofOrdinal_eq (n : Int) :
    Date.ofOrdinal n = ⟨yearOfOrdinal n,
      (monthDay (yearOfOrdinal n) (n - daysBeforeYear (yearOfOrdinal n) - 1).toNat).1,
      (monthDay (yearOfOrdinal n) (n - daysBeforeYear (yearOfOrdinal n) - 1).toNat).2⟩ :=
  rfl

theorem Date.ofOrdinal_spec (n : Int) :
    (Date.ofOrdinal n).Valid ∧ (Date.ofOrdinal n).ordinal = n := by
  have year := yearOfOrdinal_spec n
  have length := daysBeforeMonth_thirteen_eq (yearOfOrdinal n)
  have found := monthDay_spec (yearOfOrdinal n)
    (show (n - daysBeforeYear (yearOfOrdinal n) - 1).toNat < daysBeforeMonth (yearOfOrdinal n) 13 by
      omega)
  simp only at found
  rw [Date.ofOrdinal_eq]
  refine ⟨⟨found.1, found.2.1, found.2.2.1, found.2.2.2.1⟩, ?_⟩
  simp only [Date.ordinal]
  omega

@[simp] theorem Date.ofOrdinal_ordinal (n : Int) : (Date.ofOrdinal n).ordinal = n :=
  (Date.ofOrdinal_spec n).2

theorem Date.ofOrdinal_valid (n : Int) : (Date.ofOrdinal n).Valid :=
  (Date.ofOrdinal_spec n).1

theorem Date.ordinal_bounds {d : Date} (valid : d.Valid) :
    daysBeforeYear d.year < d.ordinal ∧ d.ordinal ≤ daysBeforeYear (d.year + 1) := by
  obtain ⟨one, twelve, first, last⟩ := valid
  have ends := daysBeforeMonth_add_le d.year one twelve
  have length := daysBeforeMonth_thirteen_eq d.year
  simp only [Date.ordinal]
  omega


theorem lastOrdinal_eq : lastOrdinal = daysBeforeYear 10000 := rfl

theorem daysBeforeYear_one : daysBeforeYear 1 = 0 := rfl

theorem inSpan_iff (n : Int) : inSpan n = true ↔ 1 ≤ n ∧ n ≤ daysBeforeYear 10000 := by
  rw [← lastOrdinal_eq]
  simp [inSpan]

theorem inSpan_iff_year (n : Int) :
    inSpan n = true ↔ 1 ≤ (Date.ofOrdinal n).year ∧ (Date.ofOrdinal n).year ≤ 9999 := by
  have year := yearOfOrdinal_spec n
  rw [inSpan_iff, Date.ofOrdinal_eq]
  dsimp only
  constructor
  · rintro ⟨low, high⟩
    constructor
    · -- a year before 1 ends by day 0
      refine Int.not_lt.mp fun before => ?_
      have := daysBeforeYear_mono (show yearOfOrdinal n + 1 ≤ 1 by omega)
      rw [daysBeforeYear_one] at this
      omega
    · refine Int.not_lt.mp fun after => ?_
      have := daysBeforeYear_mono (show 10000 ≤ yearOfOrdinal n by omega)
      omega
  · rintro ⟨low, high⟩
    have first := daysBeforeYear_mono low
    have last := daysBeforeYear_mono (show yearOfOrdinal n + 1 ≤ 10000 by omega)
    rw [daysBeforeYear_one] at first
    omega

theorem Date.inSpan_ordinal {d : Date} (valid : d.Valid) (low : 1 ≤ d.year)
    (high : d.year ≤ 9999) : inSpan d.ordinal = true := by
  have bounds := Date.ordinal_bounds valid
  have first := daysBeforeYear_mono low
  have last := daysBeforeYear_mono (show d.year + 1 ≤ 10000 by omega)
  rw [daysBeforeYear_one] at first
  rw [inSpan_iff]
  omega

theorem Date.addDays_of_inSpan {d : Date} {days : Int} (inside : inSpan (d.ordinal + days) = true) :
    d.addDays days = .ok (Date.ofOrdinal (d.ordinal + days)) := by
  simp [Date.addDays, inside]

theorem Date.addDays_eq_ok {d e : Date} {days : Int} :
    d.addDays days = .ok e ↔ inSpan (d.ordinal + days) = true ∧ e = Date.ofOrdinal (d.ordinal + days) := by
  unfold Date.addDays
  by_cases inside : inSpan (d.ordinal + days) = true
  · simp [inside, eq_comm]
  · simp [inside]

theorem Date.addDays_ordinal {d e : Date} {days : Int} (added : d.addDays days = .ok e) :
    e.ordinal = d.ordinal + days ∧ e.Valid := by
  obtain ⟨-, rfl⟩ := Date.addDays_eq_ok.mp added
  exact ⟨Date.ofOrdinal_ordinal _, Date.ofOrdinal_valid _⟩

theorem Date.firstOfMonth_valid {d : Date} (valid : d.Valid) : d.firstOfMonth.Valid := by
  obtain ⟨one, twelve, -, -⟩ := valid
  exact ⟨one, twelve, Nat.le_refl 1, daysInMonth_pos d.year d.month⟩

theorem Date.firstOfMonth_ordinal (d : Date) : d.firstOfMonth.ordinal = d.ordinal - d.day + 1 := by
  simp only [Date.ordinal, Date.firstOfMonth]
  omega

theorem Date.make_of_year {year : Int} (low : 1 ≤ year) (high : year ≤ 9999) (month day : Nat) :
    Date.make year month day = .ok ⟨year, month, day⟩ := by
  simp [Date.make, low, high]

theorem Date.nextMonth_ordinal (year : Int) {month : Nat} (one : 1 ≤ month) :
    Date.ordinal ⟨year, month + 1, 1⟩ = Date.ordinal ⟨year, month, 1⟩ + daysInMonth year month := by
  simp only [Date.ordinal, daysBeforeMonth_succ year one]
  omega

theorem Date.nextYear_ordinal (year : Int) :
    Date.ordinal ⟨year + 1, 1, 1⟩ = Date.ordinal ⟨year, 12, 1⟩ + daysInMonth year 12 := by
  have length := daysBeforeMonth_thirteen_eq year
  rw [daysBeforeMonth_succ year (show 1 ≤ 12 by decide)] at length
  simp only [Date.ordinal, daysBeforeMonth_one]
  omega

end NaturalQuery.Time
