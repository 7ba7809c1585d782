import NaturalQuery.Proofs.Containment

/-!
Three ways of giving the same wall-clock reading as now: naive; converted to the local offset of
its instant, as the standard conversion does; or tied to a named zone that resolves readings as
the local clock shows them. The first two resolve every period alike exactly when the conversion
keeps the day of the reading, which it does whenever some instant shows the reading; a reading
skipped across midnight moves to the day before. The first and the third place a bound at the
same instant exactly when some instant shows its reading: the local search places a skipped
reading at the offset after the jump, and the zone at the offset before it. "Due soon" runs seven
days of readings in the zone but 168 hours at a fixed offset, so the two weeks end together
exactly when the zone keeps its offset over the week.
-/

namespace NaturalQuery

open Time

/-- Two window outcomes agree as instants: both fail alike, or both give windows that start at one
instant and end at one instant. -/
def SameWindow : Outcome (Moment × Moment) → Outcome (Moment × Moment) → Prop
  | .ok (start, finish), .ok (start', finish') =>
    start.instant? = start'.instant? ∧ finish.instant? = finish'.instant?
  | .error e, .error e' => e = e'
  | _, _ => False

theorem SameWindow.refl (window : Outcome (Moment × Moment)) : SameWindow window window := by
  rcases window with e | ⟨start, finish⟩
  · exact (rfl : e = e)
  · exact ⟨rfl, rfl⟩

namespace Time

/-- A named zone resolves readings as the local clock `sz` shows them, as a zone with the same
rules does when a repeated reading counts as its earlier instant: a reading some instant shows
gets the offset in force at the earliest such instant, and a reading the clock jumps over gets
the offset in force just before the jump. -/
def Zone.ResolvesAs (z : Zone) (sz : SystemZone) : Prop :=
  ∀ w : WallTime,
    (∀ u, sz.EarliestShowing w.seconds u →
      z.offsetOfLocal w.date.year w.unixSeconds = sz.offsetAt (u - epochSeconds)) ∧
    ∀ T, sz.wallAt (T - 1) < w.seconds → w.seconds < sz.wallAt T →
      z.offsetOfLocal w.date.year w.unixSeconds = sz.offsetAt (T - 1 - epochSeconds)

theorem Moment.Before.ne {a b : Moment} (before : a.Before b) : a.instant? ≠ b.instant? := by
  obtain ⟨x, y, first, second, earlier⟩ := before
  intro same
  rw [first, second, Option.some.injEq] at same
  omega

theorem Moment.shift_eq_ok {m m' : Moment} {delta : Int} (shifted : m.shift delta = .ok m') :
    m'.anchor = m.anchor ∧ m'.wall.micros = m.wall.micros + delta := by
  obtain ⟨wall, moved, rfl⟩ := map_eq_ok.mp shifted
  exact ⟨rfl, (WallTime.shift_micros moved).2⟩

section Jumps

variable {sz : SystemZone}

theorem SystemZone.convert_attached {w : WallTime} {m : Moment} (attached : sz.attach w = .ok m) :
    ∃ o, m.anchor = .fixed o ∧ m.wall.Valid ∧ sz.convert m o = .ok m := by
  unfold SystemZone.attach at attached
  obtain ⟨r, -, attached⟩ := bind_eq_ok.mp attached
  obtain ⟨utc, shifted, converted⟩ := bind_eq_ok.mp attached
  have inside := (WallTime.shift_eq_ok.mp shifted).1
  obtain ⟨utcValid, utcMicros⟩ := WallTime.shift_micros shifted
  have again := converted
  unfold SystemZone.fromUtc at converted
  obtain ⟨wall, back, made⟩ := bind_eq_ok.mp converted
  obtain ⟨wallValid, wallMicros⟩ := WallTime.shift_micros back
  rw [← Except.ok.inj made] at again ⊢
  -- moving the reading back by its offset returns the UTC reading it came from
  have micros : wall.micros + -sz.offsetAtReading utc * microsPerSecond = utc.micros := by
    rw [wallMicros, Int.neg_mul]
    omega
  have returns : wall.shift (-sz.offsetAtReading utc * microsPerSecond) = .ok utc := by
    rw [WallTime.shift_eq_ok, micros, WallTime.ofMicros_of_valid utcValid, utcMicros]
    exact ⟨inside, rfl⟩
  refine ⟨_, rfl, wallValid, ?_⟩
  simp only [SystemZone.convert]
  rw [returns, ok_bind, again]

theorem SystemZone.exists_jump (narrow : sz.Narrow) {t : Int} (skipped : ∀ v, sz.wallAt v ≠ t) :
    ∃ T, sz.wallAt (T - 1) < t ∧ t < sz.wallAt T := by
  obtain ⟨low, within⟩ := narrow
  -- the last instant whose reading is below `t`
  obtain ⟨g, below, last⟩ := Int.exists_greatest_of_bdd (P := fun u => sz.wallAt u < t)
    ⟨t - low, fun u lower => by
      have := within (u - epochSeconds)
      unfold SystemZone.wallAt at lower
      omega⟩
    ⟨t - low - 86400, by
      have := within (t - low - 86400 - epochSeconds)
      unfold SystemZone.wallAt
      omega⟩
  refine ⟨g + 1, by simpa using below, ?_⟩
  have notBelow : ¬ sz.wallAt (g + 1) < t := fun lower => by
    have := last _ lower
    omega
  have := skipped (g + 1)
  omega

theorem SystemZone.solve_jumped (moderate : sz.Moderate) (narrow : sz.Narrow) (sparse : sz.Sparse)
    {t r T : Int} (solved : sz.solve t = .ok r) (skipped : ∀ v, sz.wallAt v ≠ t)
    (before : sz.wallAt (T - 1) < t) (after : t < sz.wallAt T) :
    sz.offsetAt (r - epochSeconds) = sz.offsetAt (T - epochSeconds) ∧
      sz.offsetAt (T - 1 - epochSeconds) ≠ sz.offsetAt (T - epochSeconds) := by
  obtain ⟨low, within⟩ := narrow
  have early := within (T - 1 - epochSeconds)
  have late := within (T - epochSeconds)
  have earlyBound := moderate (T - 1 - epochSeconds)
  have lateBound := moderate (T - epochSeconds)
  unfold SystemZone.wallAt at before after
  unfold offsetLimit at earlyBound lateBound
  have change : sz.offsetAt (T - 1 - epochSeconds) ≠ sz.offsetAt (T - epochSeconds) := by omega
  -- with one change in two days, each side of the jump keeps the offset it has there
  have sideBefore : ∀ x, x < T → T - x ≤ 172800 →
      sz.offsetAt (x - epochSeconds) = sz.offsetAt (T - 1 - epochSeconds) := fun x earlier close => by
    by_contra other
    exact sparse.no_two_changes (show x ≤ T - 1 by omega) (show T - 1 ≤ T by omega) (by omega)
      other change
  have sideAfter : ∀ x, T ≤ x → x - T < 172800 →
      sz.offsetAt (x - epochSeconds) = sz.offsetAt (T - epochSeconds) := fun x later close => by
    by_contra other
    exact sparse.no_two_changes (show T - 1 ≤ T by omega) later (by omega) change
      (fun same => other same.symm)
  refine ⟨?_, change⟩
  obtain ⟨u₁, b, first, second, found⟩ := sz.solve_cases solved
  rcases found with ⟨shown, -, -⟩ | ⟨-, shown, -⟩ | ⟨shown, -, -⟩ | ⟨missed, -, result⟩
  · exact absurd shown (skipped _)
  · exact absurd shown (skipped _)
  · exact absurd shown (skipped _)
  · rw [if_neg missed] at second
    -- the two candidates read `t` at the offsets on the two sides; the later one is past the jump
    rcases lt_or_ge t T with beforeJump | pastJump
    · rw [sideBefore t beforeJump (by omega)] at first
      rw [first, sideAfter _ (by omega) (by omega)] at second
      rw [result, first, max_eq_left (by omega)]
      exact sideAfter _ (by omega) (by omega)
    · rw [sideAfter t pastJump (by omega)] at first
      rw [first, sideBefore _ (by omega) (by omega)] at second
      rw [result, first, second, max_eq_right (by omega)]
      exact sideAfter _ (by omega) (by omega)

theorem SystemZone.attach_zone_iff (moderate : sz.Moderate) (narrow : sz.Narrow)
    (sparse : sz.Sparse) {z : Zone} (resolves : z.ResolvesAs sz) {w : WallTime} {m : Moment}
    (valid : w.Valid) (attached : sz.attach w = .ok m) :
    m.instant? = (⟨w, .zone z⟩ : Moment).instant? ↔ ∃ v, sz.wallAt v = w.seconds := by
  constructor
  · intro same
    by_contra skipped
    push Not at skipped
    obtain ⟨T, before, after⟩ := sz.exists_jump narrow skipped
    obtain ⟨r, solved, shown⟩ := sz.attach_shows attached
    obtain ⟨jumped, change⟩ := sz.solve_jumped moderate narrow sparse solved skipped before after
    rw [shown] at same
    simp only [Moment.instant?, Moment.offset?, (resolves w).2 T before after, jumped,
      Option.map_some, Option.some.injEq, microsPerSecond_eq] at same
    omega
  · intro shown
    obtain ⟨u, earliest, rfl⟩ := sz.attach_earliest moderate narrow sparse valid attached shown
    simp [Moment.instant?, Moment.offset?, (resolves w).1 u earliest]

end Jumps

theorem Zone.ChangesOnce.resolvesAs {z : Zone} {instant before after : Int}
    (once : z.ChangesOnce instant before after) : z.ResolvesAs (.table z) := by
  have offset : ∀ u, (SystemZone.table z).offsetAt u = if u < instant then before else after :=
    once.offsetAt
  intro w
  have unix : w.unixSeconds = w.seconds - epochSeconds := rfl
  rw [once.offsetOfLocal, unix]
  refine ⟨fun u ⟨shows, earliest⟩ => ?_, fun T below above => ?_⟩
  · unfold SystemZone.wallAt at shows earliest
    rw [offset] at shows ⊢
    by_cases early : u - epochSeconds < instant
    · rw [if_pos early] at shows ⊢
      rw [if_pos (by omega)]
    · rw [if_neg early] at shows ⊢
      -- a reading that the offset before the change also shows is shown at an earlier instant
      have notBefore : ¬ w.seconds - epochSeconds < instant + before := fun below => by
        have := earliest (w.seconds - before) (by rw [offset, if_pos (by omega)]; omega)
        omega
      rw [if_neg (by omega)]
  · unfold SystemZone.wallAt at below above
    rw [offset] at below above ⊢
    -- away from the change the clock moves a second a second, and skips no reading
    by_cases atChange : T - epochSeconds = instant
    · rw [if_pos (by omega)] at below ⊢
      rw [if_neg (by omega)] at above
      rw [if_pos (by omega)]
    · exfalso
      split_ifs at below above <;> omega

end Time

theorem DateRange.make_eq_ok {field : String} {start finish : Moment} {r : DateRange}
    (made : DateRange.make field start finish = .ok r) : r = ⟨field, start, finish⟩ := by
  unfold DateRange.make at made
  split at made
  · cases made
  · obtain ⟨problem, -, made⟩ := bind_eq_ok.mp made
    split at made
    · cases made
    · exact (Except.ok.inj made).symm

namespace Setting

/-- The coming week of "due soon": from now, with an offset, to the same moment seven days of
readings later on its own clock. -/
def dueSoon (s : Setting) : Outcome (Moment × Moment) := do
  let start ← s.awareNow
  let finish ← start.shift (7 * microsPerDay)
  pure (start, finish)

/-- Two settings resolve alike when they share the day of now, the placement of readings and now
with an offset. -/
structure Alike (s s' : Setting) : Prop where
  day : s.now.wall.date = s'.now.wall.date
  place : ∀ w, s.place w = s'.place w
  aware : s.awareNow = s'.awareNow

variable {s s' : Setting}

theorem Alike.resolve_eq (alike : s.Alike s') (p : Period) : s.resolve p = s'.resolve p := by
  simp only [resolve, startOf, endOf, alike.day, alike.place, alike.aware]

theorem Alike.dateRange_eq (alike : s.Alike s') (text : String) (entity : Entity)
    (vocabulary : Vocabulary) :
    s.dateRange text entity vocabulary = s'.dateRange text entity vocabulary := by
  simp only [dateRange, alike.resolve_eq, alike.aware]

theorem dueSoon_or {soon : Bool} {before : Option DateRange} {r : DateRange}
    (found : (if soon = true then do
        let start ← s.awareNow
        let finish ← start.shift (7 * microsPerDay)
        some <$> DateRange.make "dueDate" start finish
      else pure before) = .ok (some r)) :
    (soon = true ∧ r.field = "dueDate" ∧ s.dueSoon = .ok (r.start, r.finish)) ∨
      (soon = false ∧ before = some r) := by
  split at found
  · next asked =>
    obtain ⟨start, aware, found⟩ := bind_eq_ok.mp found
    obtain ⟨finish, shifted, found⟩ := bind_eq_ok.mp found
    obtain ⟨range, made, same⟩ := map_eq_ok.mp found
    cases same
    cases DateRange.make_eq_ok made
    refine .inl ⟨asked, rfl, ?_⟩
    simp only [dueSoon, aware, shifted, ok_bind]
    rfl
  · next notAsked => exact .inr ⟨by simpa using notAsked, Except.ok.inj found⟩

theorem dateRange_source {text : String} {entity : Entity} {vocabulary : Vocabulary}
    {r : DateRange} (found : s.dateRange text entity vocabulary = .ok (some r)) :
    ((dueSoonKinds.contains entity && Text.containsText (Text.lower text) "due soon") = true ∧
        r.field = "dueDate" ∧ s.dueSoon = .ok (r.start, r.finish)) ∨
      ((dueSoonKinds.contains entity && Text.containsText (Text.lower text) "due soon") = false ∧
        ∃ p, Period.detect (Text.lower text) = some p ∧ r.field = vocabulary.dateField entity ∧
          s.resolve p = .ok (r.start, r.finish)) := by
  unfold dateRange at found
  dsimp only at found
  -- the period's window is built first, and "due soon" then takes its place
  cases detected : Period.detect (Text.lower text) with
  | none =>
    simp only [detected, pure_bind] at found
    rcases dueSoon_or found with soon | ⟨-, nothing⟩
    · exact .inl soon
    · cases nothing
  | some p =>
    simp only [detected] at found
    obtain ⟨⟨start, finish⟩, resolved, found⟩ := bind_eq_ok.mp found
    obtain ⟨fromPeriod, periodAt, found⟩ := bind_eq_ok.mp found
    obtain ⟨range, made, rfl⟩ := map_eq_ok.mp periodAt
    rcases dueSoon_or found with soon | ⟨notSoon, same⟩
    · exact .inl soon
    · cases same
      cases DateRange.make_eq_ok made
      exact .inr ⟨notSoon, p, rfl, rfl, resolved⟩

theorem dateRange_same_source {text : String} {entity : Entity} {vocabulary : Vocabulary}
    {r r' : DateRange} (found : s.dateRange text entity vocabulary = .ok (some r))
    (found' : s'.dateRange text entity vocabulary = .ok (some r')) :
    r.field = r'.field ∧
      ((s.dueSoon = .ok (r.start, r.finish) ∧ s'.dueSoon = .ok (r'.start, r'.finish)) ∨
        ∃ p, s.resolve p = .ok (r.start, r.finish) ∧ s'.resolve p = .ok (r'.start, r'.finish)) := by
  rcases dateRange_source found with ⟨soon, field, window⟩ | ⟨notSoon, p, detected, field, window⟩ <;>
    rcases dateRange_source found' with
      ⟨soon', field', window'⟩ | ⟨notSoon', p', detected', field', window'⟩
  · exact ⟨field.trans field'.symm, .inl ⟨window, window'⟩⟩
  · rw [soon] at notSoon'
    cases notSoon'
  · rw [notSoon] at soon'
    cases soon'
  · rw [detected] at detected'
    cases detected'
    exact ⟨field.trans field'.symm, .inr ⟨p, window, window'⟩⟩

section Forms

variable {Z : SystemZone} {z : Zone} {N : WallTime} {m : Moment}

theorem resolve_today_start {start finish : Moment} (resolved : s.resolve .today = .ok (start, finish)) :
    s.place (WallTime.midnight s.now.wall.date) = .ok start := by
  simp only [resolve] at resolved
  obtain ⟨a, first, resolved⟩ := bind_eq_ok.mp resolved
  obtain ⟨b, -, made⟩ := bind_eq_ok.mp resolved
  cases (Prod.mk.inj (Except.ok.inj made)).1
  exact first

theorem converted_follows (attached : Z.attach N = .ok m) :
    (⟨m, Z⟩ : Setting).followsLocal = .ok true ∧
      (⟨m, Z⟩ : Setting).awareNow = (⟨⟨N, .naive⟩, Z⟩ : Setting).awareNow := by
  obtain ⟨o, fixed, -, converts⟩ := Z.convert_attached attached
  constructor
  · simp [followsLocal, fixed, converts, Except.map, Moment.offset?]
  · simp [awareNow, SystemZone.aware, fixed, attached]

theorem converted_dueSoon (attached : Z.attach N = .ok m) :
    (⟨m, Z⟩ : Setting).dueSoon = (⟨⟨N, .naive⟩, Z⟩ : Setting).dueSoon := by
  unfold dueSoon
  rw [(converted_follows attached).2]

theorem alike_of_attach (attached : Z.attach N = .ok m) (day : m.wall.date = N.date) :
    (⟨m, Z⟩ : Setting).Alike ⟨⟨N, .naive⟩, Z⟩ where
  day := day
  place w := by
    rw [place_of_follows (converted_follows attached).1, place_of_follows rfl]
  aware := (converted_follows attached).2

theorem converted_agrees_iff (moderate : Z.Moderate) (narrow : Z.Narrow)
    (regular : (⟨N, .naive⟩ : Moment).Regular) (attached : Z.attach N = .ok m) :
    (∀ p, SameWindow ((⟨⟨N, .naive⟩, Z⟩ : Setting).resolve p) ((⟨m, Z⟩ : Setting).resolve p)) ↔
      m.wall.date = N.date := by
  constructor
  · intro agree
    by_contra moved
    have regular' : (⟨⟨N, .naive⟩, Z⟩ : Setting).now.Regular := regular
    obtain ⟨start, finish, -, resolved, -, -⟩ := resolve_ordered moderate narrow regular' .today
    have same := agree .today
    rw [resolved] at same
    rcases converted : (⟨m, Z⟩ : Setting).resolve .today with e | ⟨start', finish'⟩
    · rw [converted] at same
      exact same
    · rw [converted] at same
      obtain ⟨sameStart, -⟩ := same
      -- both starts are midnights on the local clock, of days at least a day apart
      have startAt := resolve_today_start resolved
      have startAt' := resolve_today_start converted
      rw [place_of_follows rfl] at startAt
      rw [place_of_follows (converted_follows attached).1] at startAt'
      obtain ⟨r, -, shown⟩ := Z.attach_shows startAt
      obtain ⟨r', -, shown'⟩ := Z.attach_shows startAt'
      obtain ⟨-, -, valid', -⟩ := Z.convert_attached attached
      have apart : N.date.ordinal ≠ m.wall.date.ordinal := fun same =>
        moved (Date.ordinal_injective valid'.1 regular.valid.1 same.symm)
      obtain ⟨low, within⟩ := narrow
      have first := within (r - epochSeconds)
      have second := within (r' - epochSeconds)
      rcases lt_or_gt_of_ne apart with earlier | later
      · refine (shown.before_of_far shown' (by omega) ?_).ne sameStart
        simp only [WallTime.midnight_micros]
        omega
      · refine (shown'.before_of_far shown (by omega) ?_).ne sameStart.symm
        simp only [WallTime.midnight_micros]
        omega
  · intro day p
    rw [(alike_of_attach attached day).resolve_eq]
    exact SameWindow.refl _

theorem zoned_agrees_iff (moderate : Z.Moderate) (narrow : Z.Narrow) (sparse : Z.Sparse)
    (resolves : z.ResolvesAs Z) (valid : N.Valid) (today : N.date.InCalendar) {p : Period}
    {start finish start' finish' : Moment}
    (resolved : (⟨⟨N, .naive⟩, Z⟩ : Setting).resolve p = .ok (start, finish))
    (resolved' : (⟨⟨N, .zone z⟩, Z⟩ : Setting).resolve p = .ok (start', finish')) :
    (start.instant? = start'.instant? ↔
        ∃ v, Z.wallAt v = (WallTime.midnight (p.span N.date).1).seconds) ∧
      (finish.instant? = finish'.instant? ↔
        ∃ v, Z.wallAt v = (if p.rolling then N else endOfDay (p.span N.date).2).seconds) := by
  obtain ⟨first, last, startAt, endAt, nowAt⟩ := resolve_bounds today resolved
  obtain ⟨-, -, startAt', endAt', nowAt'⟩ := resolve_bounds today resolved'
  -- the naive now places on the local clock, the zoned one in its own zone
  rw [place_of_follows rfl] at startAt endAt
  rw [place_of_not_follows rfl] at startAt' endAt'
  cases Except.ok.inj startAt'
  refine ⟨Z.attach_zone_iff moderate narrow sparse resolves (WallTime.midnight_valid first.1)
    startAt, ?_⟩
  cases rolling : p.rolling
  · cases Except.ok.inj (endAt' rolling)
    simpa [Moment.withWall] using Z.attach_zone_iff moderate narrow sparse resolves
      (endOfDay_valid last.1) (endAt rolling)
  · have ends := nowAt rolling
    have ends' := nowAt' rolling
    simp only [awareNow, SystemZone.aware] at ends ends'
    cases Except.ok.inj ends'
    simpa using Z.attach_zone_iff moderate narrow sparse resolves valid ends

theorem dueSoon_zoned_iff (moderate : Z.Moderate) (narrow : Z.Narrow) (sparse : Z.Sparse)
    (resolves : z.ResolvesAs Z) (valid : N.Valid) {start finish start' finish' : Moment}
    (soon : (⟨⟨N, .naive⟩, Z⟩ : Setting).dueSoon = .ok (start, finish))
    (soon' : (⟨⟨N, .zone z⟩, Z⟩ : Setting).dueSoon = .ok (start', finish')) :
    (start.instant? = start'.instant? ↔ ∃ v, Z.wallAt v = N.seconds) ∧
      ((∃ v, Z.wallAt v = N.seconds) →
        (finish.instant? = finish'.instant? ↔ finish'.offset? = start'.offset?)) := by
  obtain ⟨now, attached, soon⟩ := bind_eq_ok.mp soon
  obtain ⟨later, shifted, made⟩ := bind_eq_ok.mp soon
  obtain ⟨rfl, rfl⟩ := Prod.mk.inj (Except.ok.inj made)
  obtain ⟨now', aware', soon'⟩ := bind_eq_ok.mp soon'
  cases Except.ok.inj aware'
  obtain ⟨later', shifted', made'⟩ := bind_eq_ok.mp soon'
  obtain ⟨rfl, rfl⟩ := Prod.mk.inj (Except.ok.inj made')
  refine ⟨Z.attach_zone_iff moderate narrow sparse resolves valid attached, fun shown => ?_⟩
  obtain ⟨u, earliest, rfl⟩ := Z.attach_earliest moderate narrow sparse valid attached shown
  have zoneNow := (resolves N).1 u earliest
  -- a week on, the converted moment keeps its offset and the zoned one takes the zone's
  obtain ⟨anchor, micros⟩ := Moment.shift_eq_ok shifted
  obtain ⟨anchor', micros'⟩ := Moment.shift_eq_ok shifted'
  rcases later with ⟨wall, tie⟩
  rcases later' with ⟨wall', tie'⟩
  simp only at anchor anchor' micros micros'
  subst anchor anchor'
  simp only [Moment.instant?, Moment.offset?, Option.map_some, Option.some.injEq, micros, micros',
    zoneNow, microsPerSecond_eq]
  omega

end Forms

/-- Three ways of giving the same reading as now. Naive, and as the standard conversion gives it:
the conversion keeps the reading whenever some instant shows it, the two resolve every period to
the same instants exactly when it keeps the day, and then they detect the same windows; their
coming weeks are the same. Naive, and tied to a zone that resolves readings as the local clock
shows them: each bound of a period's window, now included for a rolling one, falls at the same
instant exactly when some instant shows its reading; the coming weeks start together exactly when
some instant shows now's reading, and then end together exactly when the zone keeps its offset
over the week; and both detect a text's window from the same period or both from "due soon". -/
theorem now_forms_agree (Z : SystemZone) (z : Zone) (N : WallTime)
    (regular : (⟨N, .naive⟩ : Moment).Regular) (moderate : Z.Moderate) (narrow : Z.Narrow)
    (sparse : Z.Sparse) (resolves : z.ResolvesAs Z) :
    let naive : Setting := ⟨⟨N, .naive⟩, Z⟩
    let zoned : Setting := ⟨⟨N, .zone z⟩, Z⟩
    ∃ m, Z.attach N = .ok m ∧ ((∃ v, Z.wallAt v = N.seconds) → m.wall = N) ∧
      ((∀ p, SameWindow (naive.resolve p) ((⟨m, Z⟩ : Setting).resolve p)) ↔
        m.wall.date = N.date) ∧
      (m.wall.date = N.date → ∀ text entity vocabulary,
        (⟨m, Z⟩ : Setting).dateRange text entity vocabulary = naive.dateRange text entity vocabulary) ∧
      (⟨m, Z⟩ : Setting).dueSoon = naive.dueSoon ∧
      (∀ p start finish start' finish', naive.resolve p = .ok (start, finish) →
        zoned.resolve p = .ok (start', finish') →
        (start.instant? = start'.instant? ↔
          ∃ v, Z.wallAt v = (WallTime.midnight (p.span N.date).1).seconds) ∧
        (finish.instant? = finish'.instant? ↔
          ∃ v, Z.wallAt v = (if p.rolling then N else endOfDay (p.span N.date).2).seconds)) ∧
      (∀ start finish start' finish', naive.dueSoon = .ok (start, finish) →
        zoned.dueSoon = .ok (start', finish') →
        (start.instant? = start'.instant? ↔ ∃ v, Z.wallAt v = N.seconds) ∧
        ((∃ v, Z.wallAt v = N.seconds) →
          (finish.instant? = finish'.instant? ↔ finish'.offset? = start'.offset?))) ∧
      (∀ text entity vocabulary r r', naive.dateRange text entity vocabulary = .ok (some r) →
        zoned.dateRange text entity vocabulary = .ok (some r') → r.field = r'.field ∧
          ((naive.dueSoon = .ok (r.start, r.finish) ∧ zoned.dueSoon = .ok (r'.start, r'.finish)) ∨
            ∃ p, naive.resolve p = .ok (r.start, r.finish) ∧
              zoned.resolve p = .ok (r'.start, r'.finish))) := by
  intro naive zoned
  have today : N.date.InCalendar :=
    ⟨regular.valid.1, le_trans (by decide) regular.after, le_trans regular.before (by decide)⟩
  obtain ⟨m, attached, -⟩ := Z.attach_places moderate regular.valid
    ((Date.inside_of_year regular.valid.1 regular.after regular.before).mono (by decide))
  refine ⟨m, attached, fun shown => ?_, converted_agrees_iff moderate narrow regular attached,
    fun day => (alike_of_attach attached day).dateRange_eq, converted_dueSoon attached,
    fun p _ _ _ _ resolved resolved' =>
      zoned_agrees_iff moderate narrow sparse resolves regular.valid today resolved resolved',
    fun _ _ _ _ soon soon' => dueSoon_zoned_iff moderate narrow sparse resolves regular.valid soon soon',
    fun _ _ _ _ _ found found' => dateRange_same_source found found'⟩
  -- a reading some instant shows is kept: it is tied at the earliest such instant
  obtain ⟨u, -, rfl⟩ := Z.attach_earliest moderate narrow sparse regular.valid attached shown
  rfl

/-- On the morning a clock falls back from one to midnight, now at noon given naive is kept by the
standard conversion, and given naive or in the zone whose table the clock follows it starts today
at the same instant, the earlier of the two midnights. -/
theorem now_forms_agree_falling_back :
    let Z := SystemZone.table Zone.fallsBackOnce
    let N : WallTime := ⟨⟨2026, 11, 1⟩, 12, 0, 0, 0⟩
    (∃ m, Z.attach N = .ok m ∧ m.wall = N ∧
      ∀ p, SameWindow ((⟨⟨N, .naive⟩, Z⟩ : Setting).resolve p) ((⟨m, Z⟩ : Setting).resolve p)) ∧
    ∀ start finish start' finish',
      (⟨⟨N, .naive⟩, Z⟩ : Setting).resolve .today = .ok (start, finish) →
      (⟨⟨N, .zone Zone.fallsBackOnce⟩, Z⟩ : Setting).resolve .today = .ok (start', finish') →
      start.instant? = start'.instant? := by
  intro Z N
  have once := Zone.fallsBackOnce_changesOnce
  have regular : (⟨N, .naive⟩ : Moment).Regular :=
    ⟨by decide, by decide, by decide, fun _ fixed => by cases fixed⟩
  obtain ⟨m, attached, keeps, agrees, -, -, zoned, -, -⟩ := now_forms_agree Z Zone.fallsBackOnce N
    regular (once.moderate (by decide) (by decide)) (once.narrow (by decide)) once.sparse
    once.resolvesAs
  have epoch : epochSeconds = 62135683200 := by decide
  -- noon is shown five hours behind UTC, after the change, and midnight first four hours behind
  have noon : Z.wallAt (63929217600 + 18000) = N.seconds := by
    simp only [Z, SystemZone.wallAt, SystemZone.offsetAt, once.offsetAt, epoch]
    decide
  have midnight : Z.wallAt (63929174400 + 14400) =
      (WallTime.midnight (Period.span N.date .today).1).seconds := by
    simp only [Z, SystemZone.wallAt, SystemZone.offsetAt, once.offsetAt, epoch]
    decide
  have same := keeps ⟨_, noon⟩
  refine ⟨⟨m, attached, same, agrees.mpr (by rw [same])⟩, fun _ _ _ _ resolved resolved' => ?_⟩
  exact (zoned .today _ _ _ _ resolved resolved').1.mpr ⟨_, midnight⟩

/-- Where the three ways part. A reading skipped at midnight moves, under the standard conversion,
to the evening before, so today is another day. Santiago skips the midnight of its spring-forward
night: the local search places it at 23:00 the evening before, the zone at one hour later. And the
coming week from a Thursday in New York before the clocks go forward ends 168 hours later at a
fixed offset, but an hour earlier as seven days of readings in the zone. -/
theorem now_forms_disagree :
    let gap := SystemZone.ofSetting "AAA0BBB-1,M3.5.0/23:30,M10.5.0"
    let skipped : WallTime := ⟨⟨2026, 3, 30⟩, 0, 10, 0, 0⟩
    let converted : Moment := ⟨⟨⟨2026, 3, 29⟩, 23, 10, 0, 0⟩, .fixed 0⟩
    let santiago := SystemZone.ofSetting "<-04>4<-03>,M9.1.6/24,M4.1.6/24"
    let sunday : WallTime := ⟨⟨2026, 9, 6⟩, 12, 0, 0, 0⟩
    let newYork := SystemZone.ofSetting "EST5EDT,M3.2.0,M11.1.0"
    let thursday : WallTime := ⟨⟨2026, 3, 5⟩, 12, 0, 0, 0⟩
    ((gap.attach skipped).toOption.map (fun m => (m.wall.micros, m.offset?)) =
        some (converted.wall.micros, some 0) ∧
      ((⟨⟨skipped, .naive⟩, gap⟩ : Setting).resolve .today).toOption.map (fun w => w.1.instant?) =
        some (some ((WallTime.midnight ⟨2026, 3, 30⟩).micros - 3600 * microsPerSecond)) ∧
      ((⟨converted, gap⟩ : Setting).resolve .today).toOption.map (fun w => w.1.instant?) =
        some (some (WallTime.midnight ⟨2026, 3, 29⟩).micros)) ∧
    (((⟨⟨sunday, .naive⟩, santiago⟩ : Setting).resolve .today).toOption.map
        (fun w => w.1.instant?) =
        some (some ((WallTime.midnight ⟨2026, 9, 6⟩).micros + 10800 * microsPerSecond)) ∧
      ((⟨⟨sunday, .zone Zone.santiago⟩, santiago⟩ : Setting).resolve .today).toOption.map
        (fun w => w.1.instant?) =
        some (some ((WallTime.midnight ⟨2026, 9, 6⟩).micros + 14400 * microsPerSecond))) ∧
    ((⟨⟨thursday, .naive⟩, newYork⟩ : Setting).dueSoon.toOption.map (fun w => w.2.instant?) =
        some (some ((⟨⟨2026, 3, 12⟩, 12, 0, 0, 0⟩ : WallTime).micros + 18000 * microsPerSecond)) ∧
      (⟨⟨thursday, .zone Zone.newYork⟩, newYork⟩ : Setting).dueSoon.toOption.map
        (fun w => w.2.instant?) =
        some (some ((⟨⟨2026, 3, 12⟩, 12, 0, 0, 0⟩ : WallTime).micros + 14400 * microsPerSecond))) := by
  decide +kernel

end Setting

end NaturalQuery
