import NaturalQuery.Proofs.Days
import NaturalQuery.Proofs.Window
import NaturalQuery.Proofs.Seasons

/-!
Where the bounds of a window fall. On `now`'s own offset or zone a bound is its reading, tied as
`now` is. On the local clock it is the instant the standard conversion settles on, and that
conversion looks for a second offset only one day back from its first candidate. So it finds the
earliest instant that shows a reading whenever the offsets of the local clock lie within a day of
each other and change at most once in any two days; a clock that changes twice within a day can
repeat a midnight whose earlier instant it misses.
-/

namespace NaturalQuery

open Time

namespace Time

/-- The local reading, in whole seconds from day 0, of the instant `u` on the same count. -/
def SystemZone.wallAt (sz : SystemZone) (u : Int) : Int := u + sz.offsetAt (u - epochSeconds)

/-- `u` is the earliest instant whose local reading is `t`. -/
def SystemZone.EarliestShowing (sz : SystemZone) (t u : Int) : Prop :=
  sz.wallAt u = t ∧ ∀ v, sz.wallAt v = t → u ≤ v

/-- The local clock changes its offset at most once in any two days. -/
def SystemZone.Sparse (sz : SystemZone) : Prop :=
  ∀ x y z, x ≤ y → y ≤ z → z - x ≤ 172800 →
    sz.offsetAt x = sz.offsetAt y ∨ sz.offsetAt y = sz.offsetAt z

theorem Zone.ChangesOnce.sparse {z : Zone} {instant before after : Int}
    (once : z.ChangesOnce instant before after) : (SystemZone.table z).Sparse := by
  intro x y w xy yw _
  simp only [SystemZone.offsetAt, once.offsetAt]
  -- the one change lies after the middle instant or not after it
  by_cases early : y < instant
  · exact .inl (by simp [early, show x < instant by omega])
  · exact .inr (by simp [early, show ¬ w < instant by omega])

theorem PosixRule.Seasonal.sparse {r : PosixRule} (seasonal : r.Seasonal) :
    (SystemZone.rule r).Sparse :=
  fun _ _ _ xy yz close => seasonal.changes_apart xy yz (by simp only [daySeconds]; omega)

/-- The clock of New York changes at most once in any two days. -/
theorem SystemZone.ofSetting_newYork_sparse :
    (SystemZone.ofSetting "EST5EDT,M3.2.0,M11.1.0").Sparse := by
  rw [SystemZone.ofSetting_newYork]
  exact PosixRule.parse_newYork_seasonal.sparse

section Search

variable {sz : SystemZone}

theorem SystemZone.localReading_eq_ok {u x : Int} (read : sz.localReading u = .ok x) :
    x = sz.wallAt u := by
  unfold SystemZone.localReading at read
  dsimp only at read
  split at read
  · exact (Except.ok.inj read).symm
  · cases read

theorem SystemZone.Sparse.no_two_changes (sparse : sz.Sparse) {x y z : Int} (xy : x ≤ y) (yz : y ≤ z)
    (close : z - x ≤ 172800) (first : sz.offsetAt (x - epochSeconds) ≠ sz.offsetAt (y - epochSeconds))
    (second : sz.offsetAt (y - epochSeconds) ≠ sz.offsetAt (z - epochSeconds)) : False := by
  rcases sparse (x - epochSeconds) (y - epochSeconds) (z - epochSeconds) (by omega) (by omega)
    (by omega) with same | same
  · exact first same
  · exact second same

theorem SystemZone.Sparse.no_three_offsets (sparse : sz.Sparse) {x y z : Int}
    (close : max x (max y z) - min x (min y z) ≤ 172800)
    (xy : sz.offsetAt (x - epochSeconds) ≠ sz.offsetAt (y - epochSeconds))
    (yz : sz.offsetAt (y - epochSeconds) ≠ sz.offsetAt (z - epochSeconds))
    (xz : sz.offsetAt (x - epochSeconds) ≠ sz.offsetAt (z - epochSeconds)) : False := by
  -- whichever instant lies between the other two differs from both
  rcases le_total x y with hxy | hyx
  · rcases le_total y z with hyz | hzy
    · exact sparse.no_two_changes hxy hyz (by omega) xy yz
    · rcases le_total x z with hxz | hzx
      · exact sparse.no_two_changes hxz hzy (by omega) xz (Ne.symm yz)
      · exact sparse.no_two_changes hzx hxy (by omega) (Ne.symm xz) xy
  · rcases le_total x z with hxz | hzx
    · exact sparse.no_two_changes hyx hxz (by omega) (Ne.symm xy) xz
    · rcases le_total y z with hyz | hzy
      · exact sparse.no_two_changes hyz hzx (by omega) yz (Ne.symm xz)
      · exact sparse.no_two_changes hzy hyx (by omega) (Ne.symm yz) (Ne.symm xy)

theorem SystemZone.solve_cases {t r : Int} (solved : sz.solve t = .ok r) :
    ∃ u₁ b, u₁ = t - sz.offsetAt (t - epochSeconds) ∧
      b = (if sz.wallAt u₁ = t then sz.offsetAt (u₁ - 86400 - epochSeconds)
        else sz.offsetAt (u₁ - epochSeconds)) ∧
      ((sz.wallAt u₁ = t ∧ b = sz.offsetAt (t - epochSeconds) ∧ r = u₁) ∨
        (¬ (sz.wallAt u₁ = t ∧ b = sz.offsetAt (t - epochSeconds)) ∧ sz.wallAt (t - b) = t ∧
          r = t - b) ∨
        (sz.wallAt u₁ = t ∧ sz.wallAt (t - b) ≠ t ∧ r = u₁) ∨
        (sz.wallAt u₁ ≠ t ∧ sz.wallAt (t - b) ≠ t ∧ r = max u₁ (t - b))) := by
  have offset (u : Int) : sz.wallAt u - u = sz.offsetAt (u - epochSeconds) := by
    unfold SystemZone.wallAt
    omega
  unfold SystemZone.solve at solved
  obtain ⟨lt, readT, solved⟩ := bind_eq_ok.mp solved
  obtain ⟨t₁, read₁, solved⟩ := bind_eq_ok.mp solved
  rw [SystemZone.localReading_eq_ok readT] at solved read₁
  rw [SystemZone.localReading_eq_ok read₁] at solved
  simp only [offset] at solved
  split at solved
  · next shown =>
    -- the first candidate shows the reading: look a day back
    have shown : sz.wallAt (t - sz.offsetAt (t - epochSeconds)) = t := by simpa using shown
    refine ⟨_, sz.offsetAt (t - sz.offsetAt (t - epochSeconds) - 86400 - epochSeconds), rfl,
      (if_pos shown).symm, ?_⟩
    obtain ⟨lt₂, read₂, solved⟩ := bind_eq_ok.mp solved
    rw [SystemZone.localReading_eq_ok read₂, offset] at solved
    split at solved
    · next same =>
      exact .inl ⟨shown, (by simpa using same : _ = _).symm, (Except.ok.inj solved).symm⟩
    · next other =>
      have other : sz.offsetAt (t - sz.offsetAt (t - epochSeconds) - 86400 - epochSeconds) ≠
          sz.offsetAt (t - epochSeconds) := fun same => other (by simp [same])
      obtain ⟨t₂, read₂, solved⟩ := bind_eq_ok.mp solved
      rw [SystemZone.localReading_eq_ok read₂] at solved
      split at solved
      · next found =>
        exact .inr (.inl ⟨fun both => other both.2, by simpa using found,
          (Except.ok.inj solved).symm⟩)
      · next missed =>
        exact .inr (.inr (.inl ⟨shown, by simpa using missed, (Except.ok.inj solved).symm⟩))
  · next missed =>
    -- the first candidate misses: try the offset found there
    have missed : sz.wallAt (t - sz.offsetAt (t - epochSeconds)) ≠ t := by simpa using missed
    refine ⟨_, sz.offsetAt (t - sz.offsetAt (t - epochSeconds) - epochSeconds), rfl,
      (if_neg missed).symm, ?_⟩
    obtain ⟨t₂, read₂, solved⟩ := bind_eq_ok.mp solved
    rw [SystemZone.localReading_eq_ok read₂] at solved
    split at solved
    · next found =>
      exact .inr (.inl ⟨fun both => missed both.1, by simpa using found,
        (Except.ok.inj solved).symm⟩)
    · next other =>
      exact .inr (.inr (.inr ⟨missed, by simpa using other, (Except.ok.inj solved).symm⟩))

theorem SystemZone.solve_earliest (moderate : sz.Moderate) (narrow : sz.Narrow)
    (sparse : sz.Sparse) {t r : Int} (solved : sz.solve t = .ok r) (shown : ∃ v, sz.wallAt v = t) :
    sz.EarliestShowing t r := by
  obtain ⟨low, within⟩ := narrow
  -- an instant shows `t` exactly when its offset is its distance to `t`
  have showing (v : Int) : sz.wallAt v = t ↔ sz.offsetAt (v - epochSeconds) = t - v := by
    unfold SystemZone.wallAt
    omega
  have atReading := within (t - epochSeconds)
  have boundReading := moderate (t - epochSeconds)
  unfold offsetLimit at boundReading
  obtain ⟨u₁, b, hu, hb, found⟩ := sz.solve_cases solved
  have atFirstCandidate := within (u₁ - epochSeconds)
  have dayBefore := within (u₁ - 86400 - epochSeconds)
  rcases found with ⟨first, same, result⟩ | ⟨notFirst, second, result⟩ |
      ⟨first, notSecond, result⟩ | ⟨missFirst, missSecond, -⟩
  · -- found at the first candidate, with the same offset a day before it
    rw [if_pos first] at hb
    rw [result]
    refine ⟨first, fun v atV => Int.not_lt.mp fun earlier => ?_⟩
    have offsetFirst := (showing u₁).mp first
    have offsetV := (showing v).mp atV
    have atV' := within (v - epochSeconds)
    exact sparse.no_two_changes (x := u₁ - 86400) (y := v) (z := u₁) (by omega) (by omega)
      (by omega) (by omega) (by omega)
  · -- found at the second candidate
    rw [result]
    refine ⟨second, fun v atV => Int.not_lt.mp fun earlier => ?_⟩
    have offsetSecond := (showing (t - b)).mp second
    have offsetV := (showing v).mp atV
    have atV' := within (v - epochSeconds)
    have boundV := moderate (v - epochSeconds)
    unfold offsetLimit at boundV
    by_cases first : sz.wallAt u₁ = t
    · rw [if_pos first] at hb
      have offsetFirst := (showing u₁).mp first
      have other : b ≠ sz.offsetAt (t - epochSeconds) := fun same => notFirst ⟨first, same⟩
      -- the offset a day back is the larger: else it would return after the first candidate
      have larger : sz.offsetAt (t - epochSeconds) < b := by
        refine Int.not_le.mp fun smaller => ?_
        exact sparse.no_two_changes (x := u₁ - 86400) (y := u₁) (z := t - b) (by omega) (by omega)
          (by omega) (by omega) (by omega)
      exact sparse.no_two_changes (x := u₁ - 86400) (y := v) (z := t - b) (by omega) (by omega)
        (by omega) (by omega) (by omega)
    · rw [if_neg first] at hb
      have apart : v ≠ u₁ := fun same => first (same ▸ atV)
      exact sparse.no_three_offsets (x := t) (y := u₁) (z := v) (by omega)
        (fun same => first ((showing u₁).mpr (by omega))) (by omega) (by omega)
  · -- found only at the first candidate
    rw [if_pos first] at hb
    rw [result]
    refine ⟨first, fun v atV => Int.not_lt.mp fun earlier => ?_⟩
    have offsetFirst := (showing u₁).mp first
    have offsetV := (showing v).mp atV
    have atV' := within (v - epochSeconds)
    have apart : v ≠ t - b := fun same => notSecond (same ▸ atV)
    exact sparse.no_two_changes (x := u₁ - 86400) (y := v) (z := u₁) (by omega) (by omega)
      (by omega) (by omega) (by omega)
  · -- neither candidate shows the reading, so no instant does
    rw [if_neg missFirst] at hb
    obtain ⟨v, atV⟩ := shown
    have offsetV := (showing v).mp atV
    have atV' := within (v - epochSeconds)
    have boundV := moderate (v - epochSeconds)
    unfold offsetLimit at boundV
    have apartFirst : v ≠ u₁ := fun same => missFirst (same ▸ atV)
    have apartSecond : v ≠ t - b := fun same => missSecond (same ▸ atV)
    exact (sparse.no_three_offsets (x := t) (y := u₁) (z := v) (by omega)
      (fun same => missFirst ((showing u₁).mpr (by omega))) (by omega) (by omega)).elim

theorem WallTime.ofMicros_of_valid {w : WallTime} (valid : w.Valid) : WallTime.ofMicros w.micros = w := by
  have day := WallTime.ordinal_eq_div valid
  obtain ⟨dateValid, hour, minute, second, micro⟩ := valid
  unfold WallTime.ofMicros
  rw [Int.fdiv_eq_ediv_of_nonneg _ (by decide), Int.fmod_eq_emod_of_nonneg _ (by decide), ← day]
  dsimp only
  rw [Date.ofOrdinal_of_valid dateValid]
  rcases w with ⟨date, h, m, sec, μ⟩
  simp only [WallTime.micros_eq, microsPerDay_eq] at *
  simp only [WallTime.mk.injEq, true_and]
  omega

theorem SystemZone.attach_earliest (moderate : sz.Moderate) (narrow : sz.Narrow)
    (sparse : sz.Sparse) {w : WallTime} {m : Moment} (valid : w.Valid)
    (attached : sz.attach w = .ok m) (shown : ∃ v, sz.wallAt v = w.seconds) :
    ∃ u, sz.EarliestShowing w.seconds u ∧ m = ⟨w, .fixed (sz.offsetAt (u - epochSeconds))⟩ := by
  unfold SystemZone.attach at attached
  obtain ⟨u, solved, attached⟩ := bind_eq_ok.mp attached
  obtain ⟨utc, shifted, converted⟩ := bind_eq_ok.mp attached
  have earliest := sz.solve_earliest moderate narrow sparse solved shown
  refine ⟨u, earliest, ?_⟩
  have utcMicros := (WallTime.shift_micros shifted).2
  -- the whole second of the UTC reading is the instant found
  have offset : sz.offsetAtReading utc = sz.offsetAt (u - epochSeconds) := by
    have reads := earliest.1
    unfold SystemZone.wallAt at reads
    have micro := valid.2.2.2.2
    unfold SystemZone.offsetAtReading
    rw [Int.fdiv_eq_ediv_of_nonneg _ (by decide), utcMicros]
    congr 1
    simp only [WallTime.micros, microsPerSecond_eq] at *
    omega
  unfold SystemZone.fromUtc at converted
  rw [offset] at converted
  obtain ⟨wall, back, made⟩ := bind_eq_ok.mp converted
  have wallMicros := (WallTime.shift_micros back).2
  rw [utcMicros] at wallMicros
  have same : wall = w := by
    rw [← WallTime.ofMicros_of_valid (WallTime.shift_micros back).1,
      ← WallTime.ofMicros_of_valid valid, wallMicros]
    congr 1
    simp only [microsPerSecond_eq]
    omega
  rw [← Except.ok.inj made, same]

end Search

end Time

namespace Setting

variable {s : Setting}

/-- `now` follows the local clock: it is naive, or its fixed offset is the local offset at its own
instant. -/
def FollowsLocal (s : Setting) : Prop :=
  s.now.anchor = .naive ∨ ∃ o, s.now.anchor = .fixed o ∧
    s.zone.offsetAt ((s.now.wall.micros - o * microsPerSecond).fdiv microsPerSecond - epochSeconds) = o

/-- A moment stands for the reading `w` on the clock that governs `s`. On the local clock it is,
when some instant shows `w`, the reading `w` at the earliest such instant, with the offset in force
there; on `now`'s own offset or zone it is `w` tied as `now` is. -/
def OnClock (s : Setting) (w : WallTime) (m : Moment) : Prop :=
  (s.FollowsLocal → (∃ v, s.zone.wallAt v = w.seconds) →
    ∃ u, s.zone.EarliestShowing w.seconds u ∧ m = ⟨w, .fixed (s.zone.offsetAt (u - epochSeconds))⟩) ∧
  (¬ s.FollowsLocal → m = s.now.withWall w)

theorem followsLocal_eq_ok_iff {follows : Bool} (decided : s.followsLocal = .ok follows) :
    follows = true ↔ s.FollowsLocal := by
  unfold followsLocal at decided
  unfold FollowsLocal
  split at decided
  · next naive =>
    cases decided
    simp [naive]
  · next offset fixed =>
    obtain ⟨converted, converts, tested⟩ := map_eq_ok.mp decided
    unfold SystemZone.convert at converts
    obtain ⟨utc, shifted, converts⟩ := bind_eq_ok.mp converts
    unfold SystemZone.fromUtc at converts
    obtain ⟨wall, -, made⟩ := bind_eq_ok.mp converts
    cases made
    have utcMicros := (WallTime.shift_micros shifted).2
    -- the local offset at the instant of `now` is the one found for its UTC reading
    have instant : (utc.micros - epochSeconds * microsPerSecond).fdiv microsPerSecond =
        (s.now.wall.micros - offset * microsPerSecond).fdiv microsPerSecond - epochSeconds := by
      rw [Int.fdiv_eq_ediv_of_nonneg _ (by decide), Int.fdiv_eq_ediv_of_nonneg _ (by decide),
        utcMicros]
      simp only [microsPerSecond_eq]
      omega
    subst tested
    simp [Moment.offset?, fixed, SystemZone.offsetAtReading, instant]
  · next z zoned =>
    cases decided
    simp [zoned]

theorem place_onClock (moderate : s.zone.Moderate) (narrow : s.FollowsLocal → s.zone.Narrow)
    (sparse : s.FollowsLocal → s.zone.Sparse) {w : WallTime} {m : Moment} (valid : w.Valid)
    (placed : s.place w = .ok m) : s.OnClock w m := by
  unfold place at placed
  obtain ⟨follows, decided, placed⟩ := bind_eq_ok.mp placed
  have tested := followsLocal_eq_ok_iff decided
  cases follows with
  | true =>
    have onLocal := tested.mp rfl
    exact ⟨fun _ shown =>
        s.zone.attach_earliest moderate (narrow onLocal) (sparse onLocal) valid placed shown,
      fun notLocal => absurd onLocal notLocal⟩
  | false =>
    refine ⟨fun onLocal => absurd (tested.mpr onLocal) (by simp), fun _ => ?_⟩
    exact (Except.ok.inj placed).symm

/-- Every bound a period resolves to stands, on the clock that governs `now`, for the start or the
end of its day: on `now`'s own offset or zone the reading itself, and on a local clock whose offsets
lie within a day of each other and change at most once in any two days the earliest instant that
shows it, with the offset in force there. The local clock is constrained only when `now` follows
it. -/
theorem resolve_on_governing_clock (s : Setting) (p : Period) (today : s.now.wall.date.InCalendar)
    (moderate : s.zone.Moderate) (narrow : s.FollowsLocal → s.zone.Narrow)
    (sparse : s.FollowsLocal → s.zone.Sparse) {start finish : Moment}
    (resolved : s.resolve p = .ok (start, finish)) :
    s.OnClock (WallTime.midnight (p.span s.now.wall.date).1) start ∧
      (p.rolling = false → s.OnClock (endOfDay (p.span s.now.wall.date).2) finish) := by
  rw [resolve_eq_window p today] at resolved
  split at resolved
  · next reaches =>
    obtain ⟨first, last, -⟩ := (Period.reaches_iff _ _).mp reaches
    obtain ⟨startAt, endAt, -⟩ := window_eq_ok resolved
    exact ⟨place_onClock moderate narrow sparse (WallTime.midnight_valid first.1) startAt,
      fun dayLong => place_onClock moderate narrow sparse (endOfDay_valid last.1) (endAt dayLong)⟩
  · cases resolved

/-- On the morning a clock falls back from one to midnight, today starts at the earlier of its two
midnights, four hours behind UTC. -/
theorem resolve_on_governing_clock_falling_back :
    let s : Setting := ⟨⟨⟨⟨2026, 11, 1⟩, 12, 0, 0, 0⟩, .naive⟩, .table Zone.fallsBackOnce⟩
    ∃ start finish, s.resolve .today = .ok (start, finish) ∧
      start = ⟨WallTime.midnight ⟨2026, 11, 1⟩, .fixed (-14400)⟩ ∧
      s.OnClock (endOfDay ⟨2026, 11, 1⟩) finish := by
  intro s
  have once := Zone.fallsBackOnce_changesOnce
  have moderate : s.zone.Moderate := once.moderate (by decide) (by decide)
  have narrow : s.zone.Narrow := once.narrow (by decide)
  have regular : s.now.Regular := ⟨by decide, by decide, by decide, fun _ fixed => by cases fixed⟩
  obtain ⟨start, finish, -, resolved, -, -⟩ := resolve_ordered moderate narrow regular .today
  have bounds := resolve_on_governing_clock s .today (by decide) moderate (fun _ => narrow)
    (fun _ => once.sparse) resolved
  have midnight : (WallTime.midnight ⟨2026, 11, 1⟩).seconds = 63929174400 := by decide
  have epoch : epochSeconds = 62135683200 := by decide
  -- midnight is first shown at 04:00 UTC, an hour before the change
  have shown : s.zone.wallAt (63929174400 + 14400) = 63929174400 := by
    simp only [s, SystemZone.wallAt, SystemZone.offsetAt, once.offsetAt, epoch]
    decide
  obtain ⟨u, ⟨-, earliest⟩, placed⟩ := bounds.1.1 (.inl rfl) ⟨_, midnight ▸ shown⟩
  have early : u - epochSeconds < 1793509200 := by
    have := earliest _ (midnight ▸ shown)
    omega
  refine ⟨start, finish, resolved, ?_, bounds.2 rfl⟩
  rw [placed]
  simp [s, SystemZone.offsetAt, once.offsetAt, early, Period.span]

/-- The search misses the earlier of two midnights on a local clock that changes twice within a
day, and on one whose two offsets lie more than a day apart. The first keeps three hours of
daylight time on the evening of the first of March, so the hours around midnight repeat; the
second ends its daylight time, 25 hours ahead of standard time, at one in the morning. In both the
window of the day starts at the later midnight, although an earlier instant shows it too. -/
theorem resolve_today_misses_earlier_midnight :
    let twice : Setting := ⟨⟨⟨⟨2026, 3, 2⟩, 12, 0, 0, 0⟩, .naive⟩,
      SystemZone.ofSetting "AAA0BBB-3,J60/19,J60/25"⟩
    let apart : Setting := ⟨⟨⟨⟨2026, 11, 1⟩, 12, 0, 0, 0⟩, .naive⟩,
      SystemZone.ofSetting "AAA+12BBB-13,M3.2.0,M11.1.0/1"⟩
    (((twice.resolve .today).toOption.map fun window => (window.1.wall.micros, window.1.offset?)) =
        some ((WallTime.midnight ⟨2026, 3, 2⟩).micros, some 0) ∧
      twice.zone.wallAt ((WallTime.midnight ⟨2026, 3, 2⟩).seconds - 10800) =
        (WallTime.midnight ⟨2026, 3, 2⟩).seconds) ∧
    (((apart.resolve .today).toOption.map fun window => (window.1.wall.micros, window.1.offset?)) =
        some ((WallTime.midnight ⟨2026, 11, 1⟩).micros, some (-43200)) ∧
      apart.zone.wallAt ((WallTime.midnight ⟨2026, 11, 1⟩).seconds - 46800) =
        (WallTime.midnight ⟨2026, 11, 1⟩).seconds) := by
  decide +kernel

end Setting

end NaturalQuery
