import NaturalQuery.Proofs.LocalClock
import NaturalQuery.Period

/-!
The window of every period can be resolved, and it does not end before it starts, for every
moment now that is away from the ends of the calendar, as long as the offsets of the local clock
lie within one day of each other. A window on the local clock is ordered because each of its
bounds is its reading less an offset of the zone, and the readings of a window lie at least a
day, less a millisecond, apart; a window on any other clock keeps `now`'s own tie, and is ordered
by its readings.
-/

namespace NaturalQuery

open Time

/-- A moment as the interpreter may be given one, away from the ends of the calendar: a reading
in range of the years 2 to 9998, with a fixed offset under a day if it has one. -/
structure Time.Moment.Regular (m : Moment) : Prop where
  valid : m.wall.Valid
  after : 2 ≤ m.wall.date.year
  before : m.wall.date.year ≤ 9998
  small : ∀ o, m.anchor = .fixed o → o.natAbs < 86400

/-- A window whose bounds are decided and do not run backwards. -/
def WindowOrdered (window : Outcome (Moment × Moment)) : Prop :=
  ∃ start finish order, window = .ok (start, finish) ∧ start.compare finish = .ok order ∧
    order ≠ .gt

theorem WindowOrdered.of_bounds {first second : Outcome Moment}
    (bounds : ∃ a b o, first = .ok a ∧ second = .ok b ∧ a.compare b = .ok o ∧ o ≠ .gt) :
    WindowOrdered (do pure (← first, ← second)) := by
  obtain ⟨a, b, o, rfl, rfl, compared, notAfter⟩ := bounds
  exact ⟨a, b, o, rfl, compared, notAfter⟩

/-- The offsets of the local clock lie within one day of each other. -/
def Time.SystemZone.Narrow (sz : SystemZone) : Prop :=
  ∃ low, ∀ instant, low ≤ sz.offsetAt instant ∧ sz.offsetAt instant < low + 86400

theorem Time.SystemZone.ofSetting_empty_offsetAt (instant : Int) :
    (SystemZone.ofSetting "").offsetAt instant = 0 := by
  have utc : SystemZone.ofSetting "" = .table Zone.utc := rfl
  simp [utc, SystemZone.offsetAt, Zone.offsetAt, Zone.utc]

theorem Time.SystemZone.ofSetting_empty_narrow : (SystemZone.ofSetting "").Narrow :=
  ⟨0, fun instant => by simp [SystemZone.ofSetting_empty_offsetAt]⟩

theorem Time.SystemZone.ofSetting_rule (setting : String) (plain : setting.startsWith ":" = false)
    (nonempty : setting.isEmpty = false) (unknown : (Zone.named? setting).isNone = true) :
    SystemZone.ofSetting setting = .rule (PosixRule.parse setting) := by
  rw [Option.isNone_iff_eq_none] at unknown
  simp [SystemZone.ofSetting, plain, nonempty, unknown]

theorem Time.SystemZone.rule_narrow {r : PosixRule} (close : (r.daylight - r.standard).natAbs < 86400) :
    (SystemZone.rule r).Narrow := by
  refine ⟨min r.standard r.daylight, fun instant => ?_⟩
  rcases r.offsetAt_cases instant with daylight | standard
  · simp only [SystemZone.offsetAt, daylight]
    omega
  · simp only [SystemZone.offsetAt, standard]
    omega

theorem Time.SystemZone.ofSetting_newYork :
    SystemZone.ofSetting "EST5EDT,M3.2.0,M11.1.0" = .rule (PosixRule.parse "EST5EDT,M3.2.0,M11.1.0") :=
  SystemZone.ofSetting_rule _ (by simp) (by decide) (by decide)

theorem Time.SystemZone.ofSetting_newYork_narrow :
    (SystemZone.ofSetting "EST5EDT,M3.2.0,M11.1.0").Narrow := by
  rw [SystemZone.ofSetting_newYork]
  exact SystemZone.rule_narrow (by decide)

theorem Time.Zone.ChangesOnce.narrow {z : Zone} {instant before after : Int}
    (once : z.ChangesOnce instant before after) (close : (after - before).natAbs < 86400) :
    (SystemZone.table z).Narrow := by
  refine ⟨min before after, fun u => ?_⟩
  simp only [SystemZone.offsetAt, once.offsetAt]
  split <;> omega

theorem Time.WallTime.midnight_valid {d : Date} (valid : d.Valid) : (WallTime.midnight d).Valid :=
  ⟨valid, by simp [WallTime.midnight]⟩

theorem Time.WallTime.midnight_micros (d : Date) :
    (WallTime.midnight d).micros = d.ordinal * 86400000000 := by
  simp [WallTime.micros_eq, WallTime.midnight]

theorem endOfDay_valid {d : Date} (valid : d.Valid) : (Setting.endOfDay d).Valid :=
  ⟨valid, by simp [Setting.endOfDay]⟩

theorem endOfDay_micros (d : Date) :
    (Setting.endOfDay d).micros = d.ordinal * 86400000000 + 86399999000 := by
  simp only [WallTime.micros_eq, Setting.endOfDay]
  omega

theorem Time.SystemZone.places_ordered {sz : SystemZone} (narrow : sz.Narrow)
    {w₁ w₂ : WallTime} {m₁ m₂ : Moment} (placed₁ : sz.Places w₁ m₁) (placed₂ : sz.Places w₂ m₂)
    (apart : w₁.micros + 86399000000 ≤ w₂.micros) :
    ∃ order, m₁.compare m₂ = .ok order ∧ order ≠ .gt := by
  obtain ⟨low, within⟩ := narrow
  obtain ⟨u₁, v₁, anchor₁, -, micros₁⟩ := placed₁
  obtain ⟨u₂, v₂, anchor₂, -, micros₂⟩ := placed₂
  have first := within u₁
  have second := within u₂
  rcases m₁ with ⟨wall₁, _⟩
  rcases m₂ with ⟨wall₂, _⟩
  simp only at anchor₁ anchor₂ micros₁ micros₂
  subst anchor₁ anchor₂
  rw [Moment.compare_fixed]
  refine ⟨_, rfl, Int.compare_ne_gt.mpr ?_⟩
  simp only [microsPerSecond_eq] at *
  omega

theorem Time.SystemZone.places_self {sz : SystemZone} {m : Moment} {v : Int}
    (anchor : m.anchor = .fixed (sz.offsetAt v)) (valid : m.wall.Valid) : sz.Places m.wall m :=
  ⟨v, v, anchor, valid, by omega⟩

theorem Time.Moment.shift_of_inSpan {m : Moment} {delta : Int}
    (inside : inSpan ((m.wall.micros + delta) / microsPerDay) = true) :
    m.shift delta = .ok (m.withWall (WallTime.ofMicros (m.wall.micros + delta))) := by
  simp [Moment.shift, WallTime.shift_of_inSpan inside, Moment.withWall, Except.map]

theorem Time.Moment.withWall_wall (m : Moment) : m.withWall m.wall = m := rfl

theorem Time.Date.inside_of_year {d : Date} (valid : d.Valid) (after : 2 ≤ d.year)
    (before : d.year ≤ 9998) : DayInside 105 d.ordinal := by
  have bounds := Date.ordinal_bounds valid
  have low := daysBeforeYear_mono after
  have high := daysBeforeYear_mono (show d.year + 1 ≤ 9999 by omega)
  have first : daysBeforeYear 2 = 365 := rfl
  have last : daysBeforeYear 9999 = 3651694 := rfl
  have span : lastOrdinal = 3652059 := rfl
  unfold DayInside
  omega

namespace Setting

variable {s : Setting}

theorem inside_of_close (regular : s.now.Regular) {n : Int}
    (close : (n - s.now.wall.date.ordinal).natAbs ≤ 100) : DayInside 5 n := by
  have today := Date.inside_of_year regular.valid.1 regular.after regular.before
  unfold DayInside at *
  omega

theorem today_inside (regular : s.now.Regular) : DayInside 5 s.now.wall.date.ordinal :=
  inside_of_close regular (by simp)

theorem place_of_follows (follows : s.followsLocal = .ok true) (wall : WallTime) :
    s.place wall = s.zone.attach wall := by
  unfold place
  rw [follows, ok_bind]
  rfl

theorem place_of_not_follows (follows : s.followsLocal = .ok false) (wall : WallTime) :
    s.place wall = .ok (s.now.withWall wall) := by
  unfold place
  rw [follows, ok_bind]
  rfl

theorem followsLocal_spec (moderate : s.zone.Moderate) (regular : s.now.Regular) :
    ∃ follows, s.followsLocal = .ok follows ∧
      (follows = true → s.now.anchor = .naive ∨ ∃ v, s.now.anchor = .fixed (s.zone.offsetAt v)) ∧
      (follows = false → s.awareNow = .ok s.now) := by
  unfold followsLocal
  split
  · next naive => exact ⟨true, rfl, fun _ => .inl naive, by simp⟩
  · next offset fixed =>
    obtain ⟨converted, converts, v, anchor, -, -⟩ :=
      s.zone.convert_spec moderate (regular.small offset fixed) regular.valid
        ((today_inside regular).mono (by decide))
    rw [converts]
    refine ⟨_, rfl, fun same => .inr ⟨v, ?_⟩, fun _ => ?_⟩
    · simp only [Moment.offset?, anchor, beq_iff_eq, Option.some.injEq] at same
      rw [fixed, same]
    · simp [awareNow, SystemZone.aware, fixed]
  · next z zone => exact ⟨false, rfl, by simp, fun _ => by simp [awareNow, SystemZone.aware, zone]⟩

theorem awareNow_spec (moderate : s.zone.Moderate) (regular : s.now.Regular) :
    ∃ aware, s.awareNow = .ok aware ∧ aware.wall.Valid ∧
      (aware.wall.micros - s.now.wall.micros).natAbs ≤ 2 * offsetLimit * 1000000 := by
  unfold awareNow SystemZone.aware
  split
  · obtain ⟨m, attached, u, v, -, valid, micros⟩ := s.zone.attach_places moderate regular.valid
      (today_inside regular)
    have first := moderate u
    have second := moderate v
    refine ⟨m, attached, valid, ?_⟩
    simp only [microsPerSecond_eq] at micros
    omega
  · exact ⟨s.now, rfl, regular.valid, by simp⟩

theorem window_ordered (moderate : s.zone.Moderate) (narrow : s.zone.Narrow)
    (regular : s.now.Regular) {first last : Date} (validFirst : first.Valid) (validLast : last.Valid)
    (insideFirst : DayInside 5 first.ordinal) (insideLast : DayInside 5 last.ordinal)
    (order : first.ordinal ≤ last.ordinal) :
    WindowOrdered (do pure (← s.startOf first, ← s.endOf last)) := by
  apply WindowOrdered.of_bounds
  have apart : (WallTime.midnight first).micros + 86399000000 ≤ (endOfDay last).micros := by
    rw [WallTime.midnight_micros, endOfDay_micros]
    omega
  obtain ⟨follows, decided, onLocal, -⟩ := followsLocal_spec moderate regular
  cases follows with
  | true =>
    -- both bounds go through the local clock
    obtain ⟨a, startAt, placedStart⟩ :=
      s.zone.attach_places moderate (WallTime.midnight_valid validFirst) insideFirst
    obtain ⟨b, endAt, placedEnd⟩ :=
      s.zone.attach_places moderate (endOfDay_valid validLast) insideLast
    obtain ⟨o, compared, notAfter⟩ := SystemZone.places_ordered narrow placedStart placedEnd apart
    refine ⟨a, b, o, ?_, ?_, compared, notAfter⟩
    · rw [startOf, place_of_follows decided]
      exact startAt
    · rw [endOf, place_of_follows decided]
      exact endAt
  | false =>
    -- both bounds keep the tie of `now`
    refine ⟨_, _, _, by rw [startOf, place_of_not_follows decided],
      by rw [endOf, place_of_not_follows decided], Moment.compare_withWall _ _ _, ?_⟩
    exact Int.compare_ne_gt.mpr (by omega)

theorem rolling_ordered (moderate : s.zone.Moderate) (narrow : s.zone.Narrow)
    (regular : s.now.Regular) {first : Date} (valid : first.Valid)
    (inside : DayInside 5 first.ordinal) (before : first.ordinal < s.now.wall.date.ordinal) :
    WindowOrdered (do pure (← s.startOf first, ← s.awareNow)) := by
  apply WindowOrdered.of_bounds
  have day := WallTime.ordinal_eq_div regular.valid
  have apart : (WallTime.midnight first).micros + 86399000000 ≤ s.now.wall.micros := by
    rw [WallTime.midnight_micros]
    simp only [microsPerDay_eq] at day
    omega
  have today := today_inside regular
  obtain ⟨follows, decided, onLocal, offLocal⟩ := followsLocal_spec moderate regular
  cases follows with
  | true =>
    obtain ⟨a, startAt, placedStart⟩ :=
      s.zone.attach_places moderate (WallTime.midnight_valid valid) inside
    -- now itself stands for its reading on the local clock
    have placedNow : ∃ b, s.awareNow = .ok b ∧ s.zone.Places s.now.wall b := by
      rcases onLocal rfl with naive | ⟨v, fixed⟩
      · unfold awareNow SystemZone.aware
        rw [naive]
        exact s.zone.attach_places moderate regular.valid today
      · refine ⟨s.now, ?_, SystemZone.places_self fixed regular.valid⟩
        simp [awareNow, SystemZone.aware, fixed]
    obtain ⟨b, nowAt, placedNow⟩ := placedNow
    obtain ⟨o, compared, notAfter⟩ := SystemZone.places_ordered narrow placedStart placedNow apart
    refine ⟨a, b, o, ?_, nowAt, compared, notAfter⟩
    rw [startOf, place_of_follows decided]
    exact startAt
  | false =>
    refine ⟨_, s.now, _, by rw [startOf, place_of_not_follows decided], offLocal rfl,
      Moment.compare_withWall s.now _ s.now.wall, ?_⟩
    exact Int.compare_ne_gt.mpr (by omega)

theorem addDays_near (regular : s.now.Regular) {d : Date} {offset : Int}
    (located : d.ordinal = s.now.wall.date.ordinal + offset) (days : Int)
    (close : (offset + days).natAbs ≤ 100) :
    ∃ e, d.addDays days = .ok e ∧ e.Valid ∧ e.ordinal = s.now.wall.date.ordinal + (offset + days) := by
  have inside := inside_of_close regular (n := d.ordinal + days) (by omega)
  have span : inSpan (d.ordinal + days) = true := by
    rw [inSpan_iff, ← lastOrdinal_eq]
    unfold DayInside at inside
    omega
  refine ⟨_, Date.addDays_of_inSpan span, Date.ofOrdinal_valid _, ?_⟩
  rw [Date.ofOrdinal_ordinal]
  omega

theorem sunday_near (regular : s.now.Regular) :
    ∃ sunday back, s.now.wall.date.addDays (-((s.now.wall.date.isoWeekday % 7 : Nat) : Int)) =
      .ok sunday ∧ sunday.Valid ∧ 0 ≤ back ∧ back ≤ 6 ∧
      sunday.ordinal = s.now.wall.date.ordinal + -back := by
  have here : s.now.wall.date.ordinal = s.now.wall.date.ordinal + 0 := (Int.add_zero _).symm
  obtain ⟨sunday, toSunday, valid, located⟩ :=
    addDays_near regular here (-((s.now.wall.date.isoWeekday % 7 : Nat) : Int)) (by omega)
  exact ⟨sunday, ((s.now.wall.date.isoWeekday % 7 : Nat) : Int), toSunday, valid, by omega, by omega,
    by omega⟩

theorem week_ordered (moderate : s.zone.Moderate) (narrow : s.zone.Narrow)
    (regular : s.now.Regular) {sunday : Date} {offset : Int} (valid : sunday.Valid)
    (located : sunday.ordinal = s.now.wall.date.ordinal + offset) (close : offset.natAbs ≤ 90) :
    WindowOrdered (do
      let saturday ← sunday.addDays 6
      pure (← s.startOf sunday, ← s.endOf saturday)) := by
  obtain ⟨saturday, toSaturday, saturdayValid, saturdayAt⟩ :=
    addDays_near regular located 6 (by omega)
  rw [toSaturday, ok_bind]
  exact window_ordered moderate narrow regular valid saturdayValid
    (inside_of_close regular (by omega)) (inside_of_close regular (by omega)) (by omega)

theorem month_ordered (moderate : s.zone.Moderate) (narrow : s.zone.Narrow)
    (regular : s.now.Regular) {next : Date}
    (located : next.ordinal = s.now.wall.date.firstOfMonth.ordinal +
      daysInMonth s.now.wall.date.year s.now.wall.date.month) :
    WindowOrdered (do
      let last ← next.addDays (-1)
      pure (← s.startOf s.now.wall.date.firstOfMonth, ← s.endOf last)) := by
  have valid := regular.valid.1
  have firstAt := Date.firstOfMonth_ordinal s.now.wall.date
  have length := daysInMonth_le s.now.wall.date.year s.now.wall.date.month
  have day : 1 ≤ s.now.wall.date.day ∧ s.now.wall.date.day ≤ daysInMonth s.now.wall.date.year s.now.wall.date.month :=
    ⟨valid.2.2.1, valid.2.2.2⟩
  obtain ⟨last, toLast, lastValid, lastAt⟩ := addDays_near regular
    (show next.ordinal = s.now.wall.date.ordinal +
      (daysInMonth s.now.wall.date.year s.now.wall.date.month - s.now.wall.date.day + 1) by
        omega) (-1) (by omega)
  rw [toLast, ok_bind]
  exact window_ordered moderate narrow regular (Date.firstOfMonth_valid valid) lastValid
    (inside_of_close regular (by omega)) (inside_of_close regular (by omega)) (by omega)

theorem resolve_ordered (moderate : s.zone.Moderate) (narrow : s.zone.Narrow)
    (regular : s.now.Regular) (p : Period) : WindowOrdered (s.resolve p) := by
  have valid := regular.valid.1
  have today := today_inside regular
  have here : s.now.wall.date.ordinal = s.now.wall.date.ordinal + 0 := (Int.add_zero _).symm
  have day : 1 ≤ s.now.wall.date.day ∧ s.now.wall.date.day ≤ 31 :=
    ⟨valid.2.2.1, Nat.le_trans valid.2.2.2 (daysInMonth_le _ _)⟩
  cases p with
  | today => exact window_ordered moderate narrow regular valid valid today today (Int.le_refl _)
  | yesterday =>
    obtain ⟨day, shifted, dayValid, dayAt⟩ := addDays_near regular here (-1) (by decide)
    have inside := inside_of_close regular (n := day.ordinal) (by omega)
    simp only [resolve]
    rw [shifted, ok_bind]
    exact window_ordered moderate narrow regular dayValid dayValid inside inside (Int.le_refl _)
  | tomorrow =>
    obtain ⟨day, shifted, dayValid, dayAt⟩ := addDays_near regular here 1 (by decide)
    have inside := inside_of_close regular (n := day.ordinal) (by omega)
    simp only [resolve]
    rw [shifted, ok_bind]
    exact window_ordered moderate narrow regular dayValid dayValid inside inside (Int.le_refl _)
  | thisWeek =>
    obtain ⟨sunday, back, toSunday, sundayValid, ahead, behind, sundayAt⟩ := sunday_near regular
    simp only [resolve]
    rw [toSunday, ok_bind, pure_bind]
    exact week_ordered moderate narrow regular sundayValid sundayAt (by omega)
  | lastWeek =>
    obtain ⟨sunday, back, toSunday, -, ahead, behind, sundayAt⟩ := sunday_near regular
    obtain ⟨earlier, toEarlier, earlierValid, earlierAt⟩ :=
      addDays_near regular sundayAt (-7) (by omega)
    simp only [resolve]
    rw [toSunday, ok_bind, toEarlier, ok_bind]
    exact week_ordered moderate narrow regular earlierValid earlierAt (by omega)
  | nextWeek =>
    obtain ⟨sunday, back, toSunday, -, ahead, behind, sundayAt⟩ := sunday_near regular
    obtain ⟨later, toLater, laterValid, laterAt⟩ := addDays_near regular sundayAt 7 (by omega)
    simp only [resolve]
    rw [toSunday, ok_bind, toLater, ok_bind]
    exact week_ordered moderate narrow regular laterValid laterAt (by omega)
  | thisMonth =>
    -- the source's `if` on December takes the rest of the block into each branch
    simp only [resolve, Date.firstOfMonth]
    by_cases december : s.now.wall.date.month = 12
    · have after := regular.after
      have before := regular.before
      have twelve : (s.now.wall.date.month == 12) = true := by simp [december]
      simp only [twelve, ↓reduceIte]
      rw [Date.make_of_year (by omega) (by omega), ok_bind]
      apply month_ordered moderate narrow regular
      simp only [Date.firstOfMonth, december]
      exact Date.nextYear_ordinal _
    · have other : (s.now.wall.date.month == 12) = false := by simpa using december
      simp only [other, Bool.false_eq_true, ↓reduceIte]
      rw [pure_bind]
      exact month_ordered moderate narrow regular (Date.nextMonth_ordinal _ valid.1)
  | lastMonth =>
    have firstAt := Date.firstOfMonth_ordinal s.now.wall.date
    obtain ⟨last, toLast, lastValid, lastAt⟩ := addDays_near regular
      (show s.now.wall.date.firstOfMonth.ordinal =
        s.now.wall.date.ordinal + (1 - s.now.wall.date.day) by omega) (-1) (by omega)
    have startAt := Date.firstOfMonth_ordinal last
    have lastDay : 1 ≤ last.day ∧ last.day ≤ 31 :=
      ⟨lastValid.2.2.1, Nat.le_trans lastValid.2.2.2 (daysInMonth_le _ _)⟩
    simp only [resolve]
    rw [toLast, ok_bind]
    exact window_ordered moderate narrow regular (Date.firstOfMonth_valid lastValid) lastValid
      (inside_of_close regular (by omega)) (inside_of_close regular (by omega)) (by omega)
  | thisYear =>
    have january : Date.Valid ⟨s.now.wall.date.year, 1, 1⟩ :=
      ⟨Nat.le_refl 1, by simp, Nat.le_refl 1, daysInMonth_pos _ _⟩
    have december : Date.Valid ⟨s.now.wall.date.year, 12, 31⟩ :=
      ⟨by simp, Nat.le_refl 12, by simp, Nat.le_refl 31⟩
    have order : Date.ordinal ⟨s.now.wall.date.year, 1, 1⟩ ≤
        Date.ordinal ⟨s.now.wall.date.year, 12, 31⟩ := by
      simp only [Date.ordinal, daysBeforeMonth_one]
      omega
    simp only [resolve]
    exact window_ordered moderate narrow regular january december
      ((Date.inside_of_year january regular.after regular.before).mono (by decide))
      ((Date.inside_of_year december regular.after regular.before).mono (by decide)) order
  | last30Days =>
    obtain ⟨day, shifted, dayValid, dayAt⟩ := addDays_near regular here (-30) (by decide)
    simp only [resolve]
    rw [shifted, ok_bind]
    exact rolling_ordered moderate narrow regular dayValid (inside_of_close regular (by omega))
      (by omega)
  | last90Days =>
    obtain ⟨day, shifted, dayValid, dayAt⟩ := addDays_near regular here (-90) (by decide)
    simp only [resolve]
    rw [shifted, ok_bind]
    exact rolling_ordered moderate narrow regular dayValid (inside_of_close regular (by omega))
      (by omega)

theorem dueSoon_ordered (moderate : s.zone.Moderate) (regular : s.now.Regular) :
    ∃ a b o, s.awareNow = .ok a ∧ a.shift (7 * microsPerDay) = .ok b ∧ a.compare b = .ok o ∧
      o ≠ .gt := by
  obtain ⟨a, aware, valid, near⟩ := awareNow_spec moderate regular
  have today := Date.inside_of_year regular.valid.1 regular.after regular.before
  have nowDay := WallTime.ordinal_eq_div regular.valid
  have span : inSpan ((a.wall.micros + 7 * microsPerDay) / microsPerDay) = true := by
    rw [inSpan_iff, ← lastOrdinal_eq]
    unfold DayInside offsetLimit at *
    simp only [microsPerDay_eq] at *
    omega
  refine ⟨a, _, _, aware, Moment.shift_of_inSpan span, Moment.compare_withWall a a.wall _, ?_⟩
  rw [WallTime.ofMicros_micros]
  exact Int.compare_ne_gt.mpr (by simp only [microsPerDay_eq]; omega)

theorem dueSoon_ok (moderate : s.zone.Moderate) (regular : s.now.Regular) :
    ∃ found, (do
      let start ← s.awareNow
      let finish ← start.shift (7 * microsPerDay)
      some <$> DateRange.make "dueDate" start finish) = .ok found := by
  obtain ⟨a, b, o, aware, shifted, compared, notAfter⟩ := dueSoon_ordered moderate regular
  rw [aware, ok_bind, shifted, ok_bind, DateRange.make_ok rfl compared notAfter]
  exact ⟨_, rfl⟩

theorem dateRange_ok (moderate : s.zone.Moderate) (narrow : s.zone.Narrow)
    (regular : s.now.Regular) (text : String) (entity : Entity) (vocabulary : Vocabulary)
    (dated : (vocabulary.dateField entity).isEmpty = false) :
    ∃ found, s.dateRange text entity vocabulary = .ok found := by
  unfold dateRange
  dsimp only
  cases detected : Period.detect (Text.lower text) with
  | none =>
    simp only [pure_bind]
    exact ite_exists_ok (dueSoon_ok moderate regular) ⟨_, rfl⟩
  | some p =>
    obtain ⟨a, b, o, resolved, compared, notAfter⟩ := resolve_ordered moderate narrow regular p
    simp only [resolved, ok_bind]
    rw [DateRange.make_ok dated compared notAfter, map_ok, ok_bind]
    exact ite_exists_ok (dueSoon_ok moderate regular) ⟨_, rfl⟩

end Setting

end NaturalQuery
