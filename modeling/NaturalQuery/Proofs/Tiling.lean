import NaturalQuery.Proofs.Containment

/-!
Adjacent periods and the seam between them. Yesterday and today, today and tomorrow, last week
and this week, this week and next week, last month and this month: in each pair the later span
starts the day after the earlier one ends, so the later window starts at the midnight that follows
23:59:59.999 of the earlier window's last day, one millisecond later on the wall clock. As instants
the two windows meet exactly when the clock that governs now gives those two readings one offset.
On now's own fixed offset they always do, and so they do on a named zone or the local clock that
keeps one offset around that midnight. Where the offset changes at that midnight they do not:
where the clocks go back at midnight, the hour before it repeats, 23:59:59.999 is placed at its
earlier showing, and an hour falls between the windows.
-/

namespace NaturalQuery

open Time

namespace Time

/-- `b` is one millisecond after `a` as instants: a window that starts at `b` begins right where
one that ends at `a` stops. -/
def Moment.Tiles (a b : Moment) : Prop :=
  ∃ x, a.instant? = some x ∧ b.instant? = some (x + 1000)

theorem Moment.Shows.tiles_iff {a b : Moment} {w w' : WallTime} {o o' : Int} (shown : a.Shows w o)
    (shown' : b.Shows w' o') (next : w'.micros = w.micros + 1000) : a.Tiles b ↔ o = o' := by
  unfold Moment.Tiles
  rw [shown, shown']
  simp only [Option.some.injEq, exists_eq_left', next, microsPerSecond_eq]
  omega

theorem Date.after_back {d : Date} (valid : d.Valid) (k : Int) : (d.after (-k)).after k = d := by
  rw [Date.after_after]
  exact Date.after_eq valid (by omega)

end Time

namespace Period

def adjacent : List (Period × Period) :=
  [(.yesterday, .today), (.today, .tomorrow), (.lastWeek, .thisWeek), (.thisWeek, .nextWeek),
    (.lastMonth, .thisMonth)]

theorem adjacent_not_rolling {earlier later : Period} (pair : (earlier, later) ∈ adjacent) :
    earlier.rolling = false ∧ later.rolling = false := by
  have table : ∀ pair ∈ adjacent, pair.1.rolling = false ∧ pair.2.rolling = false := by decide
  exact table _ pair

theorem span_adjacent {today : Date} (valid : today.Valid) {earlier later : Period}
    (pair : (earlier, later) ∈ adjacent) :
    (later.span today).1 = (earlier.span today).2.after 1 := by
  simp only [adjacent, List.mem_cons, Prod.mk.injEq, List.not_mem_nil, or_false] at pair
  rcases pair with ⟨rfl, rfl⟩ | ⟨rfl, rfl⟩ | ⟨rfl, rfl⟩ | ⟨rfl, rfl⟩ | ⟨rfl, rfl⟩
  · exact (Date.after_back valid 1).symm
  · rfl
  · exact (Date.after_back (Date.after_valid _ _) 1).symm
  · simp only [span, Date.after_after]
    rfl
  · rw [span_lastMonth valid]
    exact (Date.after_back (Date.firstOfMonth_valid valid) 1).symm

end Period

namespace Setting

variable {s : Setting}

theorem midnight_after_micros (d : Date) :
    (WallTime.midnight (d.after 1)).micros = (endOfDay d).micros + 1000 := by
  rw [WallTime.midnight_micros, endOfDay_micros, Date.after_ordinal]
  omega

theorem midnight_after_seconds (d : Date) :
    (WallTime.midnight (d.after 1)).seconds = (endOfDay d).seconds + 1 := by
  simp only [WallTime.seconds, WallTime.midnight, endOfDay, Date.after_ordinal]
  omega

section Offsets

variable {w : WallTime} {m : Moment}

theorem place_on_local (onLocal : s.FollowsLocal) (placed : s.place w = .ok m) :
    ∃ r, s.zone.solve w.seconds = .ok r ∧ m.Shows w (s.zone.offsetAt (r - epochSeconds)) := by
  rcases place_cases placed with ⟨-, attached⟩ | ⟨own, -⟩
  · exact s.zone.attach_shows attached
  · exact absurd onLocal own

theorem place_on_fixed (own : ¬ s.FollowsLocal) {o : Int} (tie : s.now.anchor = .fixed o)
    (placed : s.place w = .ok m) : m.Shows w o := by
  rcases place_cases placed with ⟨onLocal, -⟩ | ⟨-, rfl⟩
  · exact absurd onLocal own
  · simp [Moment.Shows, Moment.instant?, Moment.offset?, Moment.withWall, tie]

theorem place_on_zone {z : Zone} (tie : s.now.anchor = .zone z) (placed : s.place w = .ok m) :
    m.Shows w (z.offsetOfLocal w.date.year w.unixSeconds) := by
  rcases place_cases placed with ⟨onLocal, -⟩ | ⟨-, rfl⟩
  · exact absurd tie (FollowsLocal.not_zone onLocal z)
  · simp [Moment.Shows, Moment.instant?, Moment.offset?, Moment.withWall, tie]

end Offsets

theorem adjacent_seam (today : s.now.wall.date.InCalendar) {earlier later : Period}
    (pair : (earlier, later) ∈ Period.adjacent) {start₁ finish₁ start₂ finish₂ : Moment}
    (first : s.resolve earlier = .ok (start₁, finish₁))
    (second : s.resolve later = .ok (start₂, finish₂)) :
    s.place (endOfDay (earlier.span s.now.wall.date).2) = .ok finish₁ ∧
      s.place (WallTime.midnight ((earlier.span s.now.wall.date).2.after 1)) = .ok start₂ := by
  have startAt := (resolve_bounds today second).2.2.1
  rw [Period.span_adjacent today.1 pair] at startAt
  exact ⟨(resolve_bounds today first).2.2.2.1 (Period.adjacent_not_rolling pair).1, startAt⟩

/-- Adjacent periods meet as instants exactly when the clock that governs now gives the last
reading of the earlier window and the first of the later one a single offset. The later span starts
the day after the earlier one ends. On now's own fixed offset the windows always meet. Tied to a
zone, they meet exactly when the zone gives 23:59:59.999 of the earlier window's last day and the
midnight after it one offset; on the local clock, exactly when the local offsets at the instants
the search settles on for those two readings agree. -/
theorem adjacent_periods_tile (s : Setting) (today : s.now.wall.date.InCalendar)
    {earlier later : Period} (pair : (earlier, later) ∈ Period.adjacent)
    {start₁ finish₁ start₂ finish₂ : Moment} (first : s.resolve earlier = .ok (start₁, finish₁))
    (second : s.resolve later = .ok (start₂, finish₂)) :
    let seam := (earlier.span s.now.wall.date).2
    (later.span s.now.wall.date).1 = seam.after 1 ∧
      (∀ o, s.now.anchor = .fixed o → ¬ s.FollowsLocal → finish₁.Tiles start₂) ∧
      (∀ z, s.now.anchor = .zone z → (finish₁.Tiles start₂ ↔
        z.offsetOfLocal seam.year (endOfDay seam).unixSeconds =
          z.offsetOfLocal (seam.after 1).year (WallTime.midnight (seam.after 1)).unixSeconds)) ∧
      (s.FollowsLocal → ∃ r₁ r₂, s.zone.solve (endOfDay seam).seconds = .ok r₁ ∧
        s.zone.solve (WallTime.midnight (seam.after 1)).seconds = .ok r₂ ∧
        (finish₁.Tiles start₂ ↔
          s.zone.offsetAt (r₁ - epochSeconds) = s.zone.offsetAt (r₂ - epochSeconds))) := by
  intro seam
  obtain ⟨endAt, startAt⟩ := adjacent_seam today pair first second
  -- the two readings are one millisecond apart, so the windows meet when their offsets agree
  have next := midnight_after_micros seam
  refine ⟨Period.span_adjacent today.1 pair, fun o tie own => ?_, fun z tie => ?_,
    fun onLocal => ?_⟩
  · exact ((place_on_fixed own tie endAt).tiles_iff (place_on_fixed own tie startAt) next).mpr rfl
  · exact (place_on_zone tie endAt).tiles_iff (place_on_zone tie startAt) next
  · obtain ⟨r₁, solved₁, shown₁⟩ := place_on_local onLocal endAt
    obtain ⟨r₂, solved₂, shown₂⟩ := place_on_local onLocal startAt
    exact ⟨r₁, r₂, solved₁, solved₂, shown₁.tiles_iff shown₂ next⟩

theorem adjacent_periods_tile_in_utc :
    let s : Setting := ⟨⟨⟨⟨2026, 3, 15⟩, 12, 0, 0, 0⟩, .naive⟩, SystemZone.ofSetting ""⟩
    ∃ start₁ finish₁ start₂ finish₂, s.resolve .yesterday = .ok (start₁, finish₁) ∧
      s.resolve .today = .ok (start₂, finish₂) ∧ finish₁.Tiles start₂ := by
  intro s
  have regular : s.now.Regular := ⟨by decide, by decide, by decide, fun _ fixed => by cases fixed⟩
  have moderate := SystemZone.ofSetting_moderate ""
  obtain ⟨start₁, finish₁, -, first, -, -⟩ :=
    resolve_ordered moderate SystemZone.ofSetting_empty_narrow regular .yesterday
  obtain ⟨start₂, finish₂, -, second, -, -⟩ :=
    resolve_ordered moderate SystemZone.ofSetting_empty_narrow regular .today
  obtain ⟨-, -, -, onLocal⟩ :=
    adjacent_periods_tile s (by decide) List.mem_cons_self first second
  obtain ⟨r₁, r₂, -, -, tiles⟩ := onLocal (.inl rfl)
  refine ⟨start₁, finish₁, start₂, finish₂, first, second, tiles.mpr ?_⟩
  rw [SystemZone.ofSetting_empty_offsetAt, SystemZone.ofSetting_empty_offsetAt]

/-- Where the clocks of Santiago go back from midnight to eleven, on the night into Sunday
2026-04-05, yesterday and today do not meet, on the local clock and in the zone alike: yesterday
ends at 23:59:59.999 three hours behind UTC, the earlier of its two showings, and today starts at
midnight four hours behind, an hour and a millisecond later. -/
theorem adjacent_days_part_at_fall_back :
    let onLocal : Setting := ⟨⟨⟨⟨2026, 4, 5⟩, 12, 0, 0, 0⟩, .naive⟩,
      SystemZone.ofSetting "<-04>4<-03>,M9.1.6/24,M4.1.6/24"⟩
    let zoned : Setting := ⟨⟨⟨⟨2026, 4, 5⟩, 12, 0, 0, 0⟩, .zone Zone.santiago⟩,
      SystemZone.ofSetting "UTC"⟩
    ((onLocal.resolve .yesterday).toOption.map fun window => window.2.instant?) =
        some (some ((endOfDay ⟨2026, 4, 4⟩).micros + 10800 * microsPerSecond)) ∧
      ((onLocal.resolve .today).toOption.map fun window => window.1.instant?) =
        some (some ((WallTime.midnight ⟨2026, 4, 5⟩).micros + 14400 * microsPerSecond)) ∧
      ((zoned.resolve .yesterday).toOption.map fun window => window.2.instant?) =
        some (some ((endOfDay ⟨2026, 4, 4⟩).micros + 10800 * microsPerSecond)) ∧
      ((zoned.resolve .today).toOption.map fun window => window.1.instant?) =
        some (some ((WallTime.midnight ⟨2026, 4, 5⟩).micros + 14400 * microsPerSecond)) ∧
      (WallTime.midnight ⟨2026, 4, 5⟩).micros + 14400 * microsPerSecond =
        (endOfDay ⟨2026, 4, 4⟩).micros + 10800 * microsPerSecond + 3600001000 := by
  decide +kernel

theorem adjacent_periods_tile_of_steady (today : s.now.wall.date.InCalendar)
    (moderate : s.zone.Moderate) {earlier later : Period} (pair : (earlier, later) ∈ Period.adjacent)
    {start₁ finish₁ start₂ finish₂ : Moment} (first : s.resolve earlier = .ok (start₁, finish₁))
    (second : s.resolve later = .ok (start₂, finish₂))
    (steady : (s.FollowsLocal →
        s.zone.SteadyNear (WallTime.midnight ((earlier.span s.now.wall.date).2.after 1)).seconds) ∧
      ∀ z, s.now.anchor = .zone z →
        z.SteadyNear (WallTime.midnight ((earlier.span s.now.wall.date).2.after 1))) :
    finish₁.Tiles start₂ := by
  obtain ⟨endAt, startAt⟩ := adjacent_seam today pair first second
  have next := midnight_after_micros (earlier.span s.now.wall.date).2
  have nextSecond := midnight_after_seconds (earlier.span s.now.wall.date).2
  by_cases onLocal : s.FollowsLocal
  · -- both readings lie within a second of the midnight, where the local offset is steady
    obtain ⟨c, keeps⟩ := steady.1 onLocal
    have attached : ∀ {w m}, s.place w = .ok m → s.zone.attach w = .ok m := fun placed =>
      (place_cases placed).elim And.right fun own => absurd onLocal own.1
    have shown₁ := s.zone.attach_steady moderate keeps (by omega) (attached endAt)
    have shown₂ := s.zone.attach_steady moderate keeps (by omega) (attached startAt)
    exact (shown₁.tiles_iff shown₂ next).mpr rfl
  · rcases tie : s.now.anchor with _ | o | z
    · exact absurd (.inl tie) onLocal
    · exact ((place_on_fixed onLocal tie endAt).tiles_iff (place_on_fixed onLocal tie startAt)
        next).mpr rfl
    · -- the zone gives both readings, a millisecond apart, its steady offset
      obtain ⟨c, keeps⟩ := steady.2 z tie
      have shown₁ := place_on_zone tie endAt
      have shown₂ := place_on_zone tie startAt
      rw [keeps _ (by rw [next, microsPerDay, microsPerSecond_eq]; omega)] at shown₁
      rw [keeps _ (by simp [microsPerDay, microsPerSecond_eq])] at shown₂
      exact (shown₁.tiles_iff shown₂ next).mpr rfl

end Setting

end NaturalQuery
