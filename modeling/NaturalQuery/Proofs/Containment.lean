import NaturalQuery.Proofs.Placement

/-!
Where now lies against the window of a period, compared as instants. Every bound of a window, and
now itself, is its reading less an offset of the clock that governs now. When those offsets lie
within a day of each other, a bound whose day is away from the edges of today is always on its
side of now: a current window starts before now and ends after it, a past one ends before it and
a future one starts after it. At the edges of today the order rests on the offsets there. On a
clock that keeps one offset around now the law holds exactly, except that a window ending today
ends at 23:59:59.999, before a now in the last millisecond of the day; a change of offset near
midnight can break it, and so can offsets more than a day apart.
-/

namespace NaturalQuery

open Time

namespace Time

/-- The instant of a moment with an offset, in microseconds from day 0 on the UTC count. -/
def Moment.instant? (m : Moment) : Option Int :=
  m.offset?.map fun o => m.wall.micros - o * microsPerSecond

/-- `m` is the reading `w` at the offset `o`: its instant is `w` less `o`. -/
def Moment.Shows (m : Moment) (w : WallTime) (o : Int) : Prop :=
  m.instant? = some (w.micros - o * microsPerSecond)

def Moment.Before (a b : Moment) : Prop :=
  ∃ x y, a.instant? = some x ∧ b.instant? = some y ∧ x < y

def Moment.NotAfter (a b : Moment) : Prop :=
  ∃ x y, a.instant? = some x ∧ b.instant? = some y ∧ x ≤ y

/-- The microseconds of a reading since the midnight of its day. -/
def WallTime.timeOfDay (w : WallTime) : Int := w.micros - (WallTime.midnight w.date).micros

/-- The offsets a named zone gives readings lie within one day of each other. -/
def Zone.Narrow (z : Zone) : Prop :=
  ∃ low, ∀ year reading,
    low ≤ z.offsetOfLocal year reading ∧ z.offsetOfLocal year reading < low + 86400

/-- The local clock keeps one offset from four days before the instant `t` to four days after. -/
def SystemZone.SteadyNear (sz : SystemZone) (t : Int) : Prop :=
  ∃ c, ∀ u, (u - t).natAbs ≤ 4 * 86400 → sz.offsetAt (u - epochSeconds) = c

/-- A named zone gives every reading within two days of `w` one offset. -/
def Zone.SteadyNear (z : Zone) (w : WallTime) : Prop :=
  ∃ c, ∀ v : WallTime, (v.micros - w.micros).natAbs ≤ 2 * microsPerDay →
    z.offsetOfLocal v.date.year v.unixSeconds = c

section Instants

variable {a b : Moment} {w w' : WallTime} {o o' : Int}

theorem Moment.Before.notAfter (before : a.Before b) : a.NotAfter b := by
  obtain ⟨x, y, first, second, earlier⟩ := before
  exact ⟨x, y, first, second, Int.le_of_lt earlier⟩

theorem Moment.shows_wall {m : Moment} (offset : m.offset? = some o) : m.Shows m.wall o := by
  simp [Moment.Shows, Moment.instant?, offset]

theorem Moment.Shows.notAfter_self (shown : a.Shows w o) : a.NotAfter a :=
  ⟨_, _, shown, shown, Int.le_refl _⟩

theorem Moment.Shows.before_of_far (shown : a.Shows w o) (shown' : b.Shows w' o')
    (close : o' - o < 86400) (far : w.micros + 86399000000 < w'.micros) : a.Before b := by
  refine ⟨_, _, shown, shown', ?_⟩
  simp only [microsPerSecond_eq]
  omega

theorem Moment.Shows.before_iff_instants (shown : a.Shows w o) (shown' : b.Shows w' o') :
    a.Before b ↔ w.micros - o * microsPerSecond < w'.micros - o' * microsPerSecond := by
  constructor
  · rintro ⟨x, y, first, second, earlier⟩
    rw [shown, Option.some.injEq] at first
    rw [shown', Option.some.injEq] at second
    omega
  · exact fun earlier => ⟨_, _, shown, shown', earlier⟩

theorem Moment.Shows.notAfter_iff_instants (shown : a.Shows w o) (shown' : b.Shows w' o') :
    a.NotAfter b ↔ w.micros - o * microsPerSecond ≤ w'.micros - o' * microsPerSecond := by
  constructor
  · rintro ⟨x, y, first, second, notLater⟩
    rw [shown, Option.some.injEq] at first
    rw [shown', Option.some.injEq] at second
    omega
  · exact fun notLater => ⟨_, _, shown, shown', notLater⟩

theorem Moment.Shows.before_iff (shown : a.Shows w o) (shown' : b.Shows w' o) :
    a.Before b ↔ w.micros < w'.micros := by
  rw [shown.before_iff_instants shown']
  omega

theorem Moment.Shows.notAfter_iff (shown : a.Shows w o) (shown' : b.Shows w' o) :
    a.NotAfter b ↔ w.micros ≤ w'.micros := by
  rw [shown.notAfter_iff_instants shown']
  omega

end Instants

section LocalClock

variable {sz : SystemZone}

theorem SystemZone.solve_offset {t r : Int} (solved : sz.solve t = .ok r) :
    ∃ u, r = t - sz.offsetAt u := by
  obtain ⟨u₁, b, first, second, found⟩ := sz.solve_cases solved
  obtain ⟨v, other⟩ : ∃ v, b = sz.offsetAt v := by
    split at second
    · exact ⟨_, second⟩
    · exact ⟨_, second⟩
  have candidates : r = u₁ ∨ r = t - b := by
    rcases found with ⟨-, -, same⟩ | ⟨-, -, same⟩ | ⟨-, -, same⟩ | ⟨-, -, same⟩
    · exact .inl same
    · exact .inr same
    · exact .inl same
    · rw [same]
      exact max_choice u₁ (t - b)
  rcases candidates with same | same
  · exact ⟨_, same.trans first⟩
  · exact ⟨v, by rw [same, other]⟩

theorem SystemZone.attach_shows {w : WallTime} {m : Moment} (attached : sz.attach w = .ok m) :
    ∃ r, sz.solve w.seconds = .ok r ∧ m.Shows w (sz.offsetAt (r - epochSeconds)) := by
  unfold SystemZone.attach at attached
  obtain ⟨r, solved, attached⟩ := bind_eq_ok.mp attached
  obtain ⟨utc, shifted, converted⟩ := bind_eq_ok.mp attached
  unfold SystemZone.fromUtc at converted
  obtain ⟨wall, back, made⟩ := bind_eq_ok.mp converted
  -- the UTC reading is `w` less the offset found, and the moment moves it to the local offset
  have utcMicros := (WallTime.shift_micros shifted).2
  have wallMicros := (WallTime.shift_micros back).2
  refine ⟨r, solved, ?_⟩
  rw [← Except.ok.inj made]
  simp only [Moment.Shows, Moment.instant?, Moment.offset?, Option.map_some, wallMicros,
    utcMicros, microsPerSecond_eq, Option.some.injEq]
  omega

theorem SystemZone.attach_steady (moderate : sz.Moderate) {t c : Int}
    (keeps : ∀ u, (u - t).natAbs ≤ 4 * 86400 → sz.offsetAt (u - epochSeconds) = c)
    {w : WallTime} {m : Moment} (near : (w.seconds - t).natAbs ≤ 2 * 86400 + 1)
    (attached : sz.attach w = .ok m) : m.Shows w c := by
  obtain ⟨r, solved, shown⟩ := sz.attach_shows attached
  obtain ⟨u, found⟩ := sz.solve_offset solved
  have bounded := moderate u
  unfold offsetLimit at bounded
  rwa [keeps r (by omega)] at shown

end LocalClock

end Time

namespace Period

/-- Whether a period's window lies around now, behind it or ahead of it. -/
inductive Tense where
  | current | past | future
  deriving DecidableEq

def tense : Period → Tense
  | .yesterday | .lastWeek | .lastMonth => .past
  | .tomorrow | .nextWeek => .future
  | _ => .current

/-- Where now lies against a window, compared as instants: within a current one, after a past
one and before a future one. -/
def Tense.Holds : Tense → Moment → Moment → Moment → Prop
  | .current, start, finish, n => start.NotAfter n ∧ n.NotAfter finish
  | .past, _, finish, n => finish.Before n
  | .future, start, _, n => n.Before start

theorem span_around {today : Date} (valid : today.Valid) (p : Period) :
    (p.tense = .current →
        (p.span today).1.ordinal ≤ today.ordinal ∧ today.ordinal ≤ (p.span today).2.ordinal) ∧
      (p.tense = .past → (p.span today).2.ordinal < today.ordinal) ∧
      (p.tense = .future → today.ordinal < (p.span today).1.ordinal) := by
  have week := today.weekStart_sunday
  have days := valid.2.2
  cases p
  case thisMonth =>
    simp only [tense, span, Date.ordinal, reduceCtorEq, false_implies, and_true, true_implies]
    omega
  case lastMonth =>
    rw [span_lastMonth valid]
    simp only [tense, reduceCtorEq, false_implies, Date.after_ordinal, true_implies, and_true,
      true_and]
    simp only [Date.firstOfMonth, Date.ordinal]
    omega
  case thisYear =>
    -- the last of December closes the year: the next year starts the day after
    have inYear := Date.ordinal_bounds valid
    have year := daysBeforeMonth_thirteen_eq today.year
    have december : daysBeforeMonth today.year 13 = daysBeforeMonth today.year 12 + 31 :=
      daysBeforeMonth_succ today.year (show 1 ≤ 12 by decide)
    simp only [tense, span, reduceCtorEq, false_implies, and_true, true_implies]
    simp only [Date.ordinal, daysBeforeMonth_one] at inYear ⊢
    omega
  all_goals simp [tense, span] <;> omega

theorem span_rolling {today : Date} {p : Period} (rolling : p.rolling = true) :
    (p.span today).2 = today := by
  cases p <;> simp_all [Period.rolling, span]

theorem rolling_of_past {p : Period} (past : p.tense = .past) : p.rolling = false := by
  cases p <;> simp_all [tense, Period.rolling]

end Period

namespace Setting

variable {s : Setting}

/-- The offsets of the clock that governs now lie within one day of each other: those of the
local clock when now follows it, and those its zone gives when now is tied to a zone. -/
def NarrowClock (s : Setting) : Prop :=
  (s.FollowsLocal → s.zone.Narrow) ∧ ∀ z, s.now.anchor = .zone z → z.Narrow

/-- The clock that governs now keeps one offset around now. -/
def Steady (s : Setting) : Prop :=
  (s.FollowsLocal → s.zone.SteadyNear s.now.wall.seconds) ∧
    ∀ z, s.now.anchor = .zone z → z.SteadyNear s.now.wall

/-- An offset of the clock that governs now: one of the local clock when now follows it, now's
own fixed offset when it does not, or one its zone gives a reading. -/
def ClockOffset (s : Setting) (o : Int) : Prop :=
  (s.FollowsLocal ∧ ∃ u, s.zone.offsetAt u = o) ∨ (¬ s.FollowsLocal ∧ s.now.anchor = .fixed o) ∨
    ∃ z, s.now.anchor = .zone z ∧ ∃ year reading, z.offsetOfLocal year reading = o

theorem FollowsLocal.not_zone (onLocal : s.FollowsLocal) (z : Zone) : s.now.anchor ≠ .zone z := by
  rcases onLocal with naive | ⟨o, fixed, -⟩
  · rw [naive]
    exact fun same => by cases same
  · rw [fixed]
    exact fun same => by cases same

theorem FollowsLocal.fixed_offset (valid : s.now.wall.Valid) (onLocal : s.FollowsLocal) {o : Int}
    (fixed : s.now.anchor = .fixed o) :
    s.zone.offsetAt (s.now.wall.seconds - o - epochSeconds) = o := by
  rcases onLocal with naive | ⟨x, fixed', offset⟩
  · rw [fixed] at naive
    cases naive
  · rw [fixed] at fixed'
    cases fixed'
    have micro := valid.2.2.2.2
    have second : (s.now.wall.micros - o * microsPerSecond).fdiv microsPerSecond =
        s.now.wall.seconds - o := by
      rw [Int.fdiv_eq_ediv_of_nonneg _ (by decide)]
      simp only [WallTime.micros, microsPerSecond_eq]
      omega
    rwa [second] at offset

theorem place_cases {w : WallTime} {m : Moment} (placed : s.place w = .ok m) :
    (s.FollowsLocal ∧ s.zone.attach w = .ok m) ∨ (¬ s.FollowsLocal ∧ m = s.now.withWall w) := by
  unfold place at placed
  obtain ⟨follows, decided, placed⟩ := bind_eq_ok.mp placed
  have tested := followsLocal_eq_ok_iff decided
  cases follows with
  | true => exact .inl ⟨tested.mp rfl, placed⟩
  | false =>
    exact .inr ⟨fun onLocal => absurd (tested.mpr onLocal) (by simp),
      (Except.ok.inj placed).symm⟩

theorem awareNow_cases {n : Moment} (aware : s.awareNow = .ok n) :
    (s.now.anchor = .naive ∧ s.zone.attach s.now.wall = .ok n) ∨
      (s.now.anchor ≠ .naive ∧ n = s.now) := by
  rcases tie : s.now.anchor with _ | x | z
  · simp only [awareNow, SystemZone.aware, tie] at aware
    exact .inl ⟨rfl, aware⟩
  · simp only [awareNow, SystemZone.aware, tie] at aware
    exact .inr ⟨by simp, (Except.ok.inj aware).symm⟩
  · simp only [awareNow, SystemZone.aware, tie] at aware
    exact .inr ⟨by simp, (Except.ok.inj aware).symm⟩

theorem withWall_shows (own : ¬ s.FollowsLocal) (w : WallTime) :
    ∃ o, s.ClockOffset o ∧ (s.now.withWall w).Shows w o := by
  rcases tie : s.now.anchor with _ | x | z
  · exact absurd (.inl tie) own
  · exact ⟨x, .inr (.inl ⟨own, tie⟩),
      Moment.shows_wall (m := s.now.withWall w) (by simp [Moment.offset?, Moment.withWall, tie])⟩
  · exact ⟨z.offsetOfLocal w.date.year w.unixSeconds, .inr (.inr ⟨z, tie, _, _, rfl⟩),
      Moment.shows_wall (m := s.now.withWall w) (by simp [Moment.offset?, Moment.withWall, tie])⟩

theorem place_shows {w : WallTime} {m : Moment} (placed : s.place w = .ok m) :
    ∃ o, s.ClockOffset o ∧ m.Shows w o := by
  rcases place_cases placed with ⟨onLocal, attached⟩ | ⟨own, rfl⟩
  · obtain ⟨r, -, shown⟩ := s.zone.attach_shows attached
    exact ⟨_, .inl ⟨onLocal, _, rfl⟩, shown⟩
  · exact withWall_shows own w

theorem awareNow_shows {n : Moment} (aware : s.awareNow = .ok n) :
    ∃ o, s.ClockOffset o ∧ n.Shows s.now.wall o := by
  rcases awareNow_cases aware with ⟨naive, attached⟩ | ⟨tied, rfl⟩
  · obtain ⟨r, -, shown⟩ := s.zone.attach_shows attached
    exact ⟨_, .inl ⟨.inl naive, _, rfl⟩, shown⟩
  · by_cases onLocal : s.FollowsLocal
    · -- a fixed offset that follows the local clock is one of its offsets
      rcases onLocal with naive | ⟨o, fixed, offset⟩
      · exact absurd naive tied
      · exact ⟨o, .inl ⟨.inr ⟨o, fixed, offset⟩, _, offset⟩,
          Moment.shows_wall (by simp [Moment.offset?, fixed])⟩
    · exact withWall_shows onLocal s.now.wall

theorem clockOffset_close (narrow : s.NarrowClock) {o o' : Int} (first : s.ClockOffset o)
    (second : s.ClockOffset o') : o' - o < 86400 := by
  rcases first with ⟨onLocal, u, rfl⟩ | ⟨own, fixed⟩ | ⟨z, zoned, year, reading, rfl⟩
  · rcases second with ⟨-, u', rfl⟩ | ⟨own', -⟩ | ⟨z', zoned', -⟩
    · obtain ⟨low, within⟩ := narrow.1 onLocal
      have early := within u
      have late := within u'
      omega
    · exact absurd onLocal own'
    · exact absurd zoned' (onLocal.not_zone z')
  · rcases second with ⟨onLocal', -⟩ | ⟨-, fixed'⟩ | ⟨z', zoned', -⟩
    · exact absurd onLocal' own
    · rw [fixed] at fixed'
      cases fixed'
      omega
    · rw [fixed] at zoned'
      cases zoned'
  · rcases second with ⟨onLocal', -⟩ | ⟨-, fixed'⟩ | ⟨z', zoned', year', reading', rfl⟩
    · exact absurd zoned (onLocal'.not_zone z)
    · rw [zoned] at fixed'
      cases fixed'
    · rw [zoned] at zoned'
      cases zoned'
      obtain ⟨low, within⟩ := narrow.2 z zoned
      have early := within year reading
      have late := within year' reading'
      omega

theorem Steady.offset (steady : s.Steady) (moderate : s.zone.Moderate) (valid : s.now.wall.Valid) :
    ∃ c, (∀ {w m}, w.Valid → (w.micros - s.now.wall.micros).natAbs ≤ 2 * microsPerDay →
        s.place w = .ok m → m.Shows w c) ∧
      ∀ {n}, s.awareNow = .ok n → n.Shows s.now.wall c := by
  by_cases onLocal : s.FollowsLocal
  · -- on the local clock every candidate instant stays within four days of now's reading
    obtain ⟨c, keeps⟩ := steady.1 onLocal
    refine ⟨c, fun wValid close placed => ?_, fun aware => ?_⟩
    · rcases place_cases placed with ⟨-, attached⟩ | ⟨own, -⟩
      · refine s.zone.attach_steady moderate keeps ?_ attached
        have micro := wValid.2.2.2.2
        have micro' := valid.2.2.2.2
        simp only [WallTime.micros, microsPerSecond_eq, microsPerDay_eq] at close
        omega
      · exact absurd onLocal own
    · rcases awareNow_cases aware with ⟨-, attached⟩ | ⟨tied, rfl⟩
      · exact s.zone.attach_steady moderate keeps (by simp) attached
      · rcases tie : s.now.anchor with _ | o | z
        · exact absurd tie tied
        · have offset := onLocal.fixed_offset valid tie
          have bounded := moderate (s.now.wall.seconds - o - epochSeconds)
          rw [offset] at bounded
          unfold offsetLimit at bounded
          rw [keeps _ (by omega)] at offset
          exact Moment.shows_wall (by simp [Moment.offset?, tie, offset])
        · exact absurd tie (onLocal.not_zone z)
  · rcases tie : s.now.anchor with _ | x | z
    · exact absurd (.inl tie) onLocal
    · -- now's own fixed offset places everything
      refine ⟨x, fun _ _ placed => ?_, fun aware => ?_⟩
      · rcases place_cases placed with ⟨onLocal', -⟩ | ⟨-, rfl⟩
        · exact absurd onLocal' onLocal
        · exact Moment.shows_wall (m := s.now.withWall _)
            (by simp [Moment.offset?, Moment.withWall, tie])
      · rcases awareNow_cases aware with ⟨naive, -⟩ | ⟨-, rfl⟩
        · rw [tie] at naive
          cases naive
        · exact Moment.shows_wall (by simp [Moment.offset?, tie])
    · -- now's zone gives every reading near it one offset
      obtain ⟨c, keeps⟩ := steady.2 z tie
      refine ⟨c, fun _ close placed => ?_, fun aware => ?_⟩
      · rcases place_cases placed with ⟨onLocal', -⟩ | ⟨-, rfl⟩
        · exact absurd onLocal' onLocal
        · exact Moment.shows_wall (m := s.now.withWall _)
            (by simp [Moment.offset?, Moment.withWall, tie, keeps _ close])
      · rcases awareNow_cases aware with ⟨naive, -⟩ | ⟨-, rfl⟩
        · rw [tie] at naive
          cases naive
        · exact Moment.shows_wall (by simp [Moment.offset?, tie, keeps s.now.wall (by simp [microsPerDay_eq])])

section Law

variable {p : Period} {start finish n : Moment}

theorem resolve_far_bounds (today : s.now.wall.date.InCalendar) (valid : s.now.wall.Valid)
    (narrow : s.NarrowClock) (resolved : s.resolve p = .ok (start, finish))
    (aware : s.awareNow = .ok n) :
    (p.tense = .current → ((p.span s.now.wall.date).1 ≠ s.now.wall.date → start.Before n) ∧
        ((p.span s.now.wall.date).2 ≠ s.now.wall.date → n.Before finish)) ∧
      (p.tense = .past → (p.span s.now.wall.date).2 ≠ s.now.wall.date.after (-1) →
        finish.Before n) ∧
      (p.tense = .future → (p.span s.now.wall.date).1 ≠ s.now.wall.date.after 1 →
        n.Before start) := by
  obtain ⟨first, last, startAt, endAt, -⟩ := resolve_bounds today resolved
  obtain ⟨os, startOffset, startShown⟩ := place_shows startAt
  obtain ⟨on, nowOffset, nowShown⟩ := awareNow_shows aware
  have around := Period.span_around today.1 p
  have within := WallTime.ordinal_eq_div valid
  rw [microsPerDay_eq] at within
  refine ⟨fun current => ⟨fun other => ?_, fun other => ?_⟩, fun past other => ?_,
    fun future other => ?_⟩
  · -- the first day is before today
    have earlier : (p.span s.now.wall.date).1.ordinal < s.now.wall.date.ordinal :=
      lt_of_le_of_ne (around.1 current).1
        (fun same => other (Date.ordinal_injective first.1 today.1 same))
    refine startShown.before_of_far nowShown (clockOffset_close narrow startOffset nowOffset) ?_
    rw [WallTime.midnight_micros]
    omega
  · -- the last day is after today, so the window is not rolling
    cases rolling : p.rolling
    · obtain ⟨of, finishOffset, finishShown⟩ := place_shows (endAt rolling)
      have later : s.now.wall.date.ordinal < (p.span s.now.wall.date).2.ordinal :=
        lt_of_le_of_ne (around.1 current).2
          (fun same => other (Date.ordinal_injective last.1 today.1 same.symm))
      refine nowShown.before_of_far finishShown (clockOffset_close narrow nowOffset finishOffset) ?_
      rw [endOfDay_micros]
      omega
    · exact absurd (Period.span_rolling rolling) other
  · -- the last day is before yesterday
    obtain ⟨of, finishOffset, finishShown⟩ := place_shows (endAt (Period.rolling_of_past past))
    have earlier : (p.span s.now.wall.date).2.ordinal + 1 < s.now.wall.date.ordinal := by
      have before := around.2.1 past
      have notYesterday : (p.span s.now.wall.date).2.ordinal ≠ s.now.wall.date.ordinal + -1 :=
        fun same => other (Date.after_eq last.1 same).symm
      omega
    refine finishShown.before_of_far nowShown (clockOffset_close narrow finishOffset nowOffset) ?_
    rw [endOfDay_micros]
    omega
  · -- the first day is after tomorrow
    have later : s.now.wall.date.ordinal + 1 < (p.span s.now.wall.date).1.ordinal := by
      have after := around.2.2 future
      have notTomorrow : (p.span s.now.wall.date).1.ordinal ≠ s.now.wall.date.ordinal + 1 :=
        fun same => other (Date.after_eq first.1 same).symm
      omega
    refine nowShown.before_of_far startShown (clockOffset_close narrow nowOffset startOffset) ?_
    rw [WallTime.midnight_micros]
    omega

theorem resolve_edge_law (today : s.now.wall.date.InCalendar) (valid : s.now.wall.Valid)
    (narrow : s.NarrowClock) (resolved : s.resolve p = .ok (start, finish))
    (aware : s.awareNow = .ok n) :
    ∃ os on of, s.ClockOffset os ∧ s.ClockOffset on ∧ s.ClockOffset of ∧
      start.Shows (WallTime.midnight (p.span s.now.wall.date).1) os ∧ n.Shows s.now.wall on ∧
      (p.rolling = false → finish.Shows (endOfDay (p.span s.now.wall.date).2) of) ∧
      (p.tense.Holds start finish n ↔
        (p.tense = .current →
          ((p.span s.now.wall.date).1 = s.now.wall.date →
            (on - os) * microsPerSecond ≤ s.now.wall.timeOfDay) ∧
          (p.rolling = false → (p.span s.now.wall.date).2 = s.now.wall.date →
            s.now.wall.timeOfDay ≤ 86399999000 + (on - of) * microsPerSecond)) ∧
        (p.tense = .past → (p.span s.now.wall.date).2 = s.now.wall.date.after (-1) →
          (on - of) * microsPerSecond < s.now.wall.timeOfDay + 1000) ∧
        (p.tense = .future → (p.span s.now.wall.date).1 = s.now.wall.date.after 1 →
          s.now.wall.timeOfDay < 86400000000 + (on - os) * microsPerSecond)) := by
  obtain ⟨first, last, startAt, endAt, nowAt⟩ := resolve_bounds today resolved
  obtain ⟨os, startOffset, startShown⟩ := place_shows startAt
  obtain ⟨on, nowOffset, nowShown⟩ := awareNow_shows aware
  -- a rolling window ends at now, and any offset of the clock serves for its end
  obtain ⟨of, finishOffset, finishShown⟩ : ∃ of, s.ClockOffset of ∧
      (p.rolling = false → finish.Shows (endOfDay (p.span s.now.wall.date).2) of) := by
    cases rolling : p.rolling
    · obtain ⟨of, finishOffset, finishShown⟩ := place_shows (endAt rolling)
      exact ⟨of, finishOffset, fun _ => finishShown⟩
    · exact ⟨on, nowOffset, fun same => by cases same⟩
  refine ⟨os, on, of, startOffset, nowOffset, finishOffset, startShown, nowShown, finishShown, ?_⟩
  have far := resolve_far_bounds today valid narrow resolved aware
  have midnight : (WallTime.midnight s.now.wall.date).micros + s.now.wall.timeOfDay =
      s.now.wall.micros := by
    unfold WallTime.timeOfDay
    omega
  rw [WallTime.midnight_micros] at midnight
  cases tense : p.tense
  · -- a current window: the start against now, and the end against now unless it is now
    have startLaw : start.NotAfter n ↔ ((p.span s.now.wall.date).1 = s.now.wall.date →
        (on - os) * microsPerSecond ≤ s.now.wall.timeOfDay) := by
      by_cases firstToday : (p.span s.now.wall.date).1 = s.now.wall.date
      · rw [startShown.notAfter_iff_instants nowShown, WallTime.midnight_micros, firstToday]
        simp only [microsPerSecond_eq, forall_const]
        omega
      · simp [firstToday, ((far.1 tense).1 firstToday).notAfter]
    have finishLaw : n.NotAfter finish ↔ (p.rolling = false →
        (p.span s.now.wall.date).2 = s.now.wall.date →
          s.now.wall.timeOfDay ≤ 86399999000 + (on - of) * microsPerSecond) := by
      cases rolling : p.rolling
      · by_cases lastToday : (p.span s.now.wall.date).2 = s.now.wall.date
        · rw [nowShown.notAfter_iff_instants (finishShown rolling), endOfDay_micros, lastToday]
          simp only [microsPerSecond_eq, forall_const]
          omega
        · simp [lastToday, ((far.1 tense).2 lastToday).notAfter]
      · obtain rfl : finish = n := Except.ok.inj ((nowAt rolling).symm.trans aware)
        simp [nowShown.notAfter_self]
    simp only [Period.Tense.Holds, startLaw, finishLaw, true_implies, reduceCtorEq, false_implies,
      and_true]
  · -- a past window ends before now
    have law : finish.Before n ↔ ((p.span s.now.wall.date).2 = s.now.wall.date.after (-1) →
        (on - of) * microsPerSecond < s.now.wall.timeOfDay + 1000) := by
      by_cases lastYesterday : (p.span s.now.wall.date).2 = s.now.wall.date.after (-1)
      · rw [(finishShown (Period.rolling_of_past tense)).before_iff_instants nowShown,
          endOfDay_micros, lastYesterday, Date.after_ordinal]
        simp only [microsPerSecond_eq, forall_const]
        omega
      · simp [lastYesterday, far.2.1 tense lastYesterday]
    simp only [Period.Tense.Holds, law, true_implies, reduceCtorEq, false_implies, and_true,
      true_and]
  · -- a future window starts after now
    have law : n.Before start ↔ ((p.span s.now.wall.date).1 = s.now.wall.date.after 1 →
        s.now.wall.timeOfDay < 86400000000 + (on - os) * microsPerSecond) := by
      by_cases firstTomorrow : (p.span s.now.wall.date).1 = s.now.wall.date.after 1
      · rw [nowShown.before_iff_instants startShown, WallTime.midnight_micros, firstTomorrow,
          Date.after_ordinal]
        simp only [microsPerSecond_eq, forall_const]
        omega
      · simp [firstTomorrow, far.2.2 tense firstTomorrow]
    simp only [Period.Tense.Holds, law, true_implies, reduceCtorEq, false_implies, true_and]

theorem resolve_steady_law (today : s.now.wall.date.InCalendar) (valid : s.now.wall.Valid)
    (moderate : s.zone.Moderate) (narrow : s.NarrowClock) (steady : s.Steady)
    (resolved : s.resolve p = .ok (start, finish)) (aware : s.awareNow = .ok n) :
    p.tense.Holds start finish n ↔
      ¬ (p.tense = .current ∧ p.rolling = false ∧ (p.span s.now.wall.date).2 = s.now.wall.date ∧
        (endOfDay s.now.wall.date).micros < s.now.wall.micros) := by
  obtain ⟨first, last, startAt, endAt, nowAt⟩ := resolve_bounds today resolved
  obtain ⟨c, placedAt, nowAt'⟩ := steady.offset moderate valid
  have nowShown := nowAt' aware
  have far := resolve_far_bounds today valid narrow resolved aware
  have within := WallTime.ordinal_eq_div valid
  rw [microsPerDay_eq] at within
  cases tense : p.tense
  · -- a current window: its start is never after now
    have startNotAfter : start.NotAfter n := by
      by_cases firstToday : (p.span s.now.wall.date).1 = s.now.wall.date
      · have shown := placedAt (WallTime.midnight_valid first.1)
          (by rw [WallTime.midnight_micros, firstToday, microsPerDay_eq]; omega) startAt
        exact (shown.notAfter_iff nowShown).mpr
          (by rw [WallTime.midnight_micros, firstToday]; omega)
      · exact ((far.1 tense).1 firstToday).notAfter
    cases rolling : p.rolling
    · by_cases lastToday : (p.span s.now.wall.date).2 = s.now.wall.date
      · have shown := placedAt (endOfDay_valid last.1)
          (by rw [endOfDay_micros, lastToday, microsPerDay_eq]; omega) (endAt rolling)
        rw [lastToday] at shown
        simp only [Period.Tense.Holds, startNotAfter, true_and, nowShown.notAfter_iff shown,
          lastToday, not_lt]
      · simp [Period.Tense.Holds, startNotAfter, ((far.1 tense).2 lastToday).notAfter, lastToday]
    · obtain rfl : finish = n := Except.ok.inj ((nowAt rolling).symm.trans aware)
      simp [Period.Tense.Holds, startNotAfter, nowShown.notAfter_self]
  · -- a past window ends before now
    simp only [Period.Tense.Holds, reduceCtorEq, false_and, not_false_eq_true, iff_true]
    by_cases lastYesterday : (p.span s.now.wall.date).2 = s.now.wall.date.after (-1)
    · have shown := placedAt (endOfDay_valid last.1)
        (by rw [endOfDay_micros, lastYesterday, Date.after_ordinal, microsPerDay_eq]; omega)
        (endAt (Period.rolling_of_past tense))
      refine (shown.before_iff nowShown).mpr ?_
      rw [endOfDay_micros, lastYesterday, Date.after_ordinal]
      omega
    · exact far.2.1 tense lastYesterday
  · -- a future window starts after now
    simp only [Period.Tense.Holds, reduceCtorEq, false_and, not_false_eq_true, iff_true]
    by_cases firstTomorrow : (p.span s.now.wall.date).1 = s.now.wall.date.after 1
    · have shown := placedAt (WallTime.midnight_valid first.1)
        (by rw [WallTime.midnight_micros, firstTomorrow, Date.after_ordinal, microsPerDay_eq]; omega)
        startAt
      refine (nowShown.before_iff shown).mpr ?_
      rw [WallTime.midnight_micros, firstTomorrow, Date.after_ordinal]
      omega
    · exact far.2.2 tense firstTomorrow

end Law

/-- Where now lies against the window of a period, compared as instants, on a clock whose offsets
lie within a day of each other. A bound away from the edges of today is always on its side: a
current window starts before now unless it starts today and ends after now unless it ends today,
a past one ends before now unless it ends yesterday, and a future one starts after now unless it
starts tomorrow. At the edges the law holds exactly when the time of day of now's reading clears
the difference between the offset at which now shows its reading and the one at which the bound
shows its own. On a clock that keeps one offset around now that difference is nil, and the law
fails only for a window that is not rolling, ends today, and so ends before a now later than
23:59:59.999. -/
theorem resolve_brackets_now (s : Setting) (p : Period) (today : s.now.wall.date.InCalendar)
    (valid : s.now.wall.Valid) (moderate : s.zone.Moderate) (narrow : s.NarrowClock)
    {start finish n : Moment} (resolved : s.resolve p = .ok (start, finish))
    (aware : s.awareNow = .ok n) :
    (p.tense = .current → ((p.span s.now.wall.date).1 ≠ s.now.wall.date → start.Before n) ∧
        ((p.span s.now.wall.date).2 ≠ s.now.wall.date → n.Before finish)) ∧
      (p.tense = .past → (p.span s.now.wall.date).2 ≠ s.now.wall.date.after (-1) →
        finish.Before n) ∧
      (p.tense = .future → (p.span s.now.wall.date).1 ≠ s.now.wall.date.after 1 →
        n.Before start) ∧
      (∃ os on of, s.ClockOffset os ∧ s.ClockOffset on ∧ s.ClockOffset of ∧
        start.Shows (WallTime.midnight (p.span s.now.wall.date).1) os ∧ n.Shows s.now.wall on ∧
        (p.rolling = false → finish.Shows (endOfDay (p.span s.now.wall.date).2) of) ∧
        (p.tense.Holds start finish n ↔
          (p.tense = .current →
            ((p.span s.now.wall.date).1 = s.now.wall.date →
              (on - os) * microsPerSecond ≤ s.now.wall.timeOfDay) ∧
            (p.rolling = false → (p.span s.now.wall.date).2 = s.now.wall.date →
              s.now.wall.timeOfDay ≤ 86399999000 + (on - of) * microsPerSecond)) ∧
          (p.tense = .past → (p.span s.now.wall.date).2 = s.now.wall.date.after (-1) →
            (on - of) * microsPerSecond < s.now.wall.timeOfDay + 1000) ∧
          (p.tense = .future → (p.span s.now.wall.date).1 = s.now.wall.date.after 1 →
            s.now.wall.timeOfDay < 86400000000 + (on - os) * microsPerSecond))) ∧
      (s.Steady → (p.tense.Holds start finish n ↔
        ¬ (p.tense = .current ∧ p.rolling = false ∧ (p.span s.now.wall.date).2 = s.now.wall.date ∧
          (endOfDay s.now.wall.date).micros < s.now.wall.micros))) := by
  have far := resolve_far_bounds today valid narrow resolved aware
  exact ⟨far.1, far.2.1, far.2.2, resolve_edge_law today valid narrow resolved aware,
    fun steady => resolve_steady_law today valid moderate narrow steady resolved aware⟩

/-- On the night the clocks of Santiago skip from midnight to one, tomorrow starts at its midnight
three hours behind UTC, while now, at half past eleven, is four hours behind: the half hour since
eleven clears the hour between the offsets, so now is already past the start of tomorrow. -/
theorem resolve_brackets_now_on_spring_night :
    let s : Setting := ⟨⟨⟨⟨2026, 9, 5⟩, 23, 30, 0, 0⟩, .naive⟩,
      SystemZone.ofSetting "<-04>4<-03>,M9.1.6/24,M4.1.6/24"⟩
    ∃ start finish n, s.resolve .tomorrow = .ok (start, finish) ∧ s.awareNow = .ok n ∧
      ¬ Period.Tense.Holds .future start finish n := by
  intro s
  have rule := SystemZone.ofSetting_rule "<-04>4<-03>,M9.1.6/24,M4.1.6/24"
    (by simp) (by decide) (by decide)
  have moderate : s.zone.Moderate := SystemZone.ofSetting_moderate _
  have narrowZone : s.zone.Narrow := by
    show (SystemZone.ofSetting _).Narrow
    rw [rule]
    exact SystemZone.rule_narrow (by decide)
  have regular : s.now.Regular := ⟨by decide, by decide, by decide, fun _ fixed => by cases fixed⟩
  obtain ⟨start, finish, -, resolved, -, -⟩ := resolve_ordered moderate narrowZone regular .tomorrow
  obtain ⟨n, aware, -⟩ := awareNow_spec moderate regular
  have narrow : s.NarrowClock := ⟨fun _ => narrowZone, fun _ zoned => by cases zoned⟩
  obtain ⟨os, on, of, -, -, -, startShown, nowShown, -, law⟩ :=
    (resolve_brackets_now s .tomorrow (by decide) (by decide) moderate narrow resolved aware).2.2.2.1
  -- the runs place tomorrow's midnight at 03:00 UTC and now at 03:30 UTC
  have runs : (s.resolve .tomorrow).toOption.map (fun w => w.1.instant?) =
      some (some ((WallTime.midnight ⟨2026, 9, 6⟩).micros + 10800 * microsPerSecond)) ∧
    s.awareNow.toOption.map Moment.instant? =
      some (some (s.now.wall.micros + 14400 * microsPerSecond)) := by decide +kernel
  rw [resolved, aware] at runs
  have tomorrow : (Period.span s.now.wall.date .tomorrow).1 = ⟨2026, 9, 6⟩ := by decide
  have night : s.now.wall.micros + 1800000000 = (WallTime.midnight ⟨2026, 9, 6⟩).micros := by
    decide
  have late : s.now.wall.timeOfDay = 84600000000 := by decide
  simp only [Moment.Shows, tomorrow] at startShown nowShown
  simp only [Except.toOption, Option.map_some, startShown, nowShown, Option.some.injEq] at runs
  refine ⟨start, finish, n, resolved, aware, fun holds => ?_⟩
  have edge := (law.mp holds).2.2 rfl (by decide)
  simp only [microsPerSecond_eq] at runs edge
  omega

/-- Three nows the law misses. In UTC a now in the last millisecond of a day comes after the end of
today. On the night the clocks of Santiago skip from midnight to one, tomorrow's midnight is placed
at eleven the evening before, ahead of a now at half past eleven. And on a clock that springs 25
hours forward late on a Saturday, the end of this week is placed half a day back, before a now late
on the Friday. -/
theorem resolve_misses_now :
    let late : Setting := ⟨⟨⟨⟨2026, 3, 15⟩, 23, 59, 59, 999500⟩, .naive⟩, SystemZone.ofSetting "UTC"⟩
    let spring : Setting := ⟨⟨⟨⟨2026, 9, 5⟩, 23, 30, 0, 0⟩, .naive⟩,
      SystemZone.ofSetting "<-04>4<-03>,M9.1.6/24,M4.1.6/24"⟩
    let apart : Setting := ⟨⟨⟨⟨2026, 3, 13⟩, 23, 0, 0, 0⟩, .naive⟩,
      SystemZone.ofSetting "AAA+12BBB-13,M3.2.6/23,M11.1.0"⟩
    ((late.resolve .today).toOption.map (fun window => window.2.instant?) =
        some (some (endOfDay ⟨2026, 3, 15⟩).micros) ∧
      late.awareNow.toOption.map Moment.instant? = some (some late.now.wall.micros) ∧
      (endOfDay ⟨2026, 3, 15⟩).micros < late.now.wall.micros) ∧
    ((spring.resolve .tomorrow).toOption.map (fun window => window.1.instant?) =
        some (some ((WallTime.midnight ⟨2026, 9, 6⟩).micros + 10800 * microsPerSecond)) ∧
      spring.awareNow.toOption.map Moment.instant? =
        some (some (spring.now.wall.micros + 14400 * microsPerSecond)) ∧
      (WallTime.midnight ⟨2026, 9, 6⟩).micros + 10800 * microsPerSecond <
        spring.now.wall.micros + 14400 * microsPerSecond) ∧
    ((apart.resolve .thisWeek).toOption.map (fun window => window.2.instant?) =
        some (some ((endOfDay ⟨2026, 3, 14⟩).micros - 46800 * microsPerSecond)) ∧
      apart.awareNow.toOption.map Moment.instant? =
        some (some (apart.now.wall.micros + 43200 * microsPerSecond)) ∧
      (endOfDay ⟨2026, 3, 14⟩).micros - 46800 * microsPerSecond <
        apart.now.wall.micros + 43200 * microsPerSecond) := by
  decide +kernel

end Setting

end NaturalQuery
