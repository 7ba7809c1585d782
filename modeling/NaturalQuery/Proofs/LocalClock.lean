import NaturalQuery.Proofs.Clock
import NaturalQuery.Proofs.Checks
import NaturalQuery.Time.Local

/-!
The local clock. Every zone a setting can name keeps its offsets within 26 hours of UTC, the
most the C library reads from a rule. Far enough inside the calendar every step of the standard
conversion therefore succeeds: tying a reading to the local clock gives a moment with a fixed
offset, and whichever instant the conversion settles on, that moment is the reading less one
offset of the zone while carrying another.
-/

namespace NaturalQuery.Time

/-- The largest offset, in seconds, that the C library reads from a rule: 24:59:59 for standard
time, and an hour more for daylight time. -/
def offsetLimit : Nat := 93599

def DayInside (margin day : Int) : Prop := 1 + margin ≤ day ∧ day ≤ lastOrdinal - margin

theorem DayInside.mono {margin smaller day : Int} (inside : DayInside margin day)
    (less : smaller ≤ margin) : DayInside smaller day := by
  unfold DayInside at *
  omega

section Bounds

theorem readOffset_bounded {cs : List Char} {x : Int} {rest : List Char}
    (read : readOffset cs = some (x, rest)) : x.natAbs ≤ 89999 := by
  unfold readOffset at read
  simp only [Option.map_eq_some_iff] at read
  obtain ⟨⟨⟨hours, minutes, seconds⟩, after⟩, _, eq⟩ := read
  split at eq <;> simp only [Prod.mk.injEq] at eq <;> omega

theorem readDaylightOffset_bounded {standard : Int} (cs : List Char)
    (bounded : standard.natAbs ≤ 89999) : (readDaylightOffset standard cs).1.natAbs ≤ offsetLimit := by
  unfold readDaylightOffset offsetLimit
  split
  · next found read =>
    have := readOffset_bounded read
    omega
  · split
    · split <;> simp only <;> omega
    · simp only
      omega

def PosixRule.Moderate (r : PosixRule) : Prop :=
  r.standard.natAbs ≤ offsetLimit ∧ r.daylight.natAbs ≤ offsetLimit

theorem PosixRule.parse_moderate (text : String) : (PosixRule.parse text).Moderate := by
  unfold PosixRule.parse PosixRule.Moderate offsetLimit
  simp only
  split
  · exact ⟨by decide, by decide⟩
  · split
    · exact ⟨by decide, by decide⟩
    · next standard rest read =>
      have std : standard.natAbs ≤ 89999 :=
        readOffset_bounded (Option.ite_none_right_eq_some.mp read).2
      -- the daylight offset is read after a daylight name, and is 0 without one
      have daylight : (readDaylightPart standard rest).1.natAbs ≤ 93599 := by
        unfold readDaylightPart
        split
        · exact readDaylightOffset_bounded _ std
        · simp
      split
      · exact ⟨by simp only; omega, by simp only; omega⟩
      · split
        · exact ⟨by simp only; omega, daylight⟩
        · split <;> exact ⟨by simp only; omega, daylight⟩

theorem PosixRule.offsetAt_cases (r : PosixRule) (instant : Int) :
    r.offsetAt instant = r.daylight ∨ r.offsetAt instant = r.standard := by
  unfold PosixRule.offsetAt
  dsimp only
  -- whichever hemisphere the rule is in, the result is one of its two offsets
  split <;> split <;> simp

theorem PosixRule.offsetAt_bounded {r : PosixRule} (moderate : r.Moderate) (instant : Int) :
    (r.offsetAt instant).natAbs ≤ offsetLimit := by
  rcases r.offsetAt_cases instant with daylight | standard
  · rw [daylight]
    exact moderate.2
  · rw [standard]
    exact moderate.1

theorem lastAtOrBefore_mem {items : Array Transition} {place : Transition → Int} {key : Int}
    {lo hi : Nat} {t : Transition} (found : lastAtOrBefore items place key lo hi = some t) :
    t ∈ items.toList := by
  fun_induction lastAtOrBefore items place key lo hi with
  | case1 lo hi inside mid missing => simp at found
  | case2 lo hi inside mid item present below ih =>
    cases later : lastAtOrBefore items place key (mid + 1) hi with
    | none =>
      simp only [later, Option.orElse_none, Option.some.injEq] at found
      subst found
      exact Array.mem_toList_iff.mpr (Array.mem_of_getElem? present)
    | some u =>
      simp only [later, Option.orElse_some, Option.some.injEq] at found
      subst found
      exact ih later
  | case3 lo hi inside mid item present above ih => exact ih found
  | case4 lo hi outside => simp at found

def Zone.Moderate (z : Zone) : Prop :=
  z.before.natAbs ≤ offsetLimit ∧ ∀ t ∈ z.transitions.toList, t.after.natAbs ≤ offsetLimit

def Zone.isModerate (z : Zone) : Bool :=
  z.before.natAbs ≤ offsetLimit && z.transitions.toList.all fun t => t.after.natAbs ≤ offsetLimit

theorem Zone.moderate_of_isModerate {z : Zone} (checked : z.isModerate = true) : z.Moderate := by
  simp only [Zone.isModerate, Bool.and_eq_true, decide_eq_true_eq, List.all_eq_true] at checked
  exact checked

theorem Zone.offsetAt_bounded {z : Zone} (moderate : z.Moderate) (instant : Int) :
    (z.offsetAt instant).natAbs ≤ offsetLimit := by
  have footer := PosixRule.offsetAt_bounded (PosixRule.parse_moderate z.footer)
  unfold Zone.offsetAt
  dsimp only
  split
  · split
    · exact moderate.1
    · split
      · exact footer _
      · split
        · next t found => exact moderate.2 t (lastAtOrBefore_mem found)
        · exact moderate.1
  · exact moderate.1

set_option maxRecDepth 100000 in
theorem Zone.known_moderate : ∀ z ∈ Zone.known, z.Moderate := by
  have checked : Zone.known.all Zone.isModerate = true := by decide
  intro z member
  exact Zone.moderate_of_isModerate (List.all_eq_true.mp checked z member)

/-- Every offset of the local clock is within `offsetLimit`. -/
def SystemZone.Moderate (sz : SystemZone) : Prop :=
  ∀ instant, (sz.offsetAt instant).natAbs ≤ offsetLimit

theorem SystemZone.ofSetting_moderate (setting : String) :
    (SystemZone.ofSetting setting).Moderate := by
  intro instant
  unfold SystemZone.ofSetting
  dsimp only
  generalize (if setting.startsWith ":" then String.ofList (setting.toList.drop 1) else setting) = name
  split
  · exact Zone.offsetAt_bounded (Zone.moderate_of_isModerate (z := Zone.utc) (by decide)) instant
  · split
    · next z named =>
      have member : z ∈ Zone.known := List.mem_of_find?_eq_some named
      exact Zone.offsetAt_bounded (Zone.known_moderate z member) instant
    · exact PosixRule.offsetAt_bounded (PosixRule.parse_moderate _) instant

end Bounds


section Conversion

variable {sz : SystemZone}

theorem SystemZone.localReading_ok (moderate : sz.Moderate) {u : Int}
    (inside : DayInside 2 (u / daySeconds)) :
    sz.localReading u = .ok (u + sz.offsetAt (u - epochSeconds)) := by
  have offset := moderate (u - epochSeconds)
  have year : inSpan ((u + sz.offsetAt (u - epochSeconds)) / 86400) = true := by
    rw [inSpan_iff, ← lastOrdinal_eq]
    unfold DayInside daySeconds offsetLimit at *
    omega
  rw [inSpan_iff_year] at year
  unfold SystemZone.localReading
  dsimp only
  rw [Int.fdiv_eq_ediv_of_nonneg _ (by decide)]
  simp [year.1, year.2]

theorem SystemZone.solve_ok (moderate : sz.Moderate) {t : Int}
    (inside : DayInside 5 (t / daySeconds)) : ∃ u, sz.solve t = .ok u := by
  -- every reading the search asks for lies within an offset and a day of `t`
  have near : ∀ u, (u - t).natAbs ≤ offsetLimit + 86400 →
      ∃ o : Int, o.natAbs ≤ offsetLimit ∧ sz.localReading u = .ok (u + o) := by
    intro u close
    refine ⟨_, moderate (u - epochSeconds), sz.localReading_ok moderate ?_⟩
    unfold DayInside daySeconds offsetLimit at *
    omega
  unfold SystemZone.solve
  obtain ⟨a, ha, read⟩ := near t (by omega)
  rw [read, ok_bind]
  dsimp only
  obtain ⟨b, hb, read⟩ := near (t - (t + a - t)) (by unfold offsetLimit at *; omega)
  rw [read, ok_bind]
  split
  · obtain ⟨c, hc, read⟩ := near (t - (t + a - t) - 86400) (by unfold offsetLimit at *; omega)
    rw [read, ok_bind]
    split
    · exact ⟨_, rfl⟩
    · obtain ⟨d, hd, read⟩ := near (t - (t - (t + a - t) - 86400 + c - (t - (t + a - t) - 86400)))
        (by unfold offsetLimit at *; omega)
      rw [read, ok_bind]
      split
      · exact ⟨_, rfl⟩
      · exact ⟨_, rfl⟩
  · obtain ⟨d, hd, read⟩ := near (t - (t - (t + a - t) + b - (t - (t + a - t))))
      (by unfold offsetLimit at *; omega)
    rw [read, ok_bind]
    -- the reading is not found at the first instant, so the second or the later one is taken
    split
    · exact ⟨_, rfl⟩
    · exact ⟨_, rfl⟩

theorem SystemZone.fromUtc_ok (moderate : sz.Moderate) {utc : WallTime}
    (inside : DayInside 2 (utc.micros / microsPerDay)) :
    sz.fromUtc utc = .ok ⟨WallTime.ofMicros (utc.micros + sz.offsetAtReading utc * microsPerSecond),
      .fixed (sz.offsetAtReading utc)⟩ := by
  have offset := moderate ((utc.micros - epochSeconds * microsPerSecond).fdiv microsPerSecond)
  unfold SystemZone.fromUtc
  dsimp only
  rw [WallTime.shift_of_inSpan]
  · rfl
  · rw [inSpan_iff, ← lastOrdinal_eq]
    unfold SystemZone.offsetAtReading DayInside offsetLimit at *
    simp only [microsPerDay_eq, microsPerSecond_eq] at *
    omega

/-- A moment that stands for the reading `w` on the clock of `sz`: it carries an offset of the
zone, and its instant is `w` less an offset of the zone. -/
def SystemZone.Places (sz : SystemZone) (w : WallTime) (m : Moment) : Prop :=
  ∃ u v, m.anchor = .fixed (sz.offsetAt v) ∧ m.wall.Valid ∧
    m.wall.micros = w.micros - sz.offsetAt u * microsPerSecond + sz.offsetAt v * microsPerSecond

theorem SystemZone.fromUtc_places (moderate : sz.Moderate) {utc w : WallTime} {u : Int}
    (utcOf : utc.micros = w.micros - sz.offsetAt u * microsPerSecond)
    (inside : DayInside 2 (utc.micros / microsPerDay)) :
    ∃ m, sz.fromUtc utc = .ok m ∧ sz.Places w m := by
  rw [sz.fromUtc_ok moderate inside]
  refine ⟨_, rfl, u, (utc.micros - epochSeconds * microsPerSecond).fdiv microsPerSecond, rfl,
    (WallTime.ofMicros_spec _).1, ?_⟩
  simp only [WallTime.ofMicros_micros, SystemZone.offsetAtReading, utcOf]

theorem SystemZone.attach_places (moderate : sz.Moderate) {w : WallTime} (valid : w.Valid)
    (inside : DayInside 5 w.date.ordinal) : ∃ m, sz.attach w = .ok m ∧ sz.Places w m := by
  obtain ⟨instant, solved⟩ := sz.solve_ok moderate (t := w.seconds)
    (by rw [daySeconds, WallTime.seconds_div valid]; exact inside)
  have offset := moderate (instant - epochSeconds)
  have day := WallTime.ordinal_eq_div valid
  have shifted : w.shift (-sz.offsetAt (instant - epochSeconds) * microsPerSecond) =
      .ok (WallTime.ofMicros (w.micros + -sz.offsetAt (instant - epochSeconds) * microsPerSecond)) := by
    apply WallTime.shift_of_inSpan
    rw [inSpan_iff, ← lastOrdinal_eq]
    unfold DayInside offsetLimit at *
    simp only [microsPerDay_eq, microsPerSecond_eq] at *
    omega
  unfold SystemZone.attach
  rw [solved, ok_bind]
  dsimp only
  rw [shifted, ok_bind]
  apply sz.fromUtc_places moderate (u := instant - epochSeconds)
  · rw [WallTime.ofMicros_micros, Int.neg_mul, ← Int.sub_eq_add_neg]
  · unfold DayInside offsetLimit at *
    simp only [microsPerDay_eq, microsPerSecond_eq, WallTime.ofMicros_micros] at *
    omega

theorem SystemZone.convert_spec (moderate : sz.Moderate) {m : Moment} {offset : Int}
    (small : offset.natAbs < 86400) (valid : m.wall.Valid)
    (inside : DayInside 3 m.wall.date.ordinal) :
    ∃ converted, sz.convert m offset = .ok converted ∧ ∃ v,
      converted.anchor = .fixed (sz.offsetAt v) ∧ converted.wall.Valid ∧
        converted.wall.micros = m.wall.micros - offset * microsPerSecond +
          sz.offsetAt v * microsPerSecond := by
  have day := WallTime.ordinal_eq_div valid
  unfold SystemZone.convert
  rw [WallTime.shift_of_inSpan, ok_bind, sz.fromUtc_ok moderate]
  · refine ⟨_, rfl, _, rfl, (WallTime.ofMicros_spec _).1, ?_⟩
    simp only [WallTime.ofMicros_micros, SystemZone.offsetAtReading, Int.neg_mul,
      ← Int.sub_eq_add_neg]
  · unfold DayInside at *
    simp only [microsPerDay_eq, microsPerSecond_eq, WallTime.ofMicros_micros] at *
    omega
  · rw [inSpan_iff, ← lastOrdinal_eq]
    unfold DayInside at *
    simp only [microsPerDay_eq, microsPerSecond_eq] at *
    omega

end Conversion

section OneChange

/-- A zone that changes its offset once, at the Unix instant `instant`, from `before` to `after`,
and keeps `after` by a rule of one offset. -/
structure Zone.ChangesOnce (z : Zone) (instant before after : Int) : Prop where
  before_eq : z.before = before
  transitions_eq : z.transitions = #[⟨instant, before, after⟩]
  standard_eq : (PosixRule.parse z.footer).standard = after
  daylight_eq : (PosixRule.parse z.footer).daylight = after
  unnamed : (PosixRule.parse z.footer).named = false

variable {z : Zone} {instant before after : Int}

theorem Zone.ChangesOnce.offsetAt (once : z.ChangesOnce instant before after) (u : Int) :
    z.offsetAt u = if u < instant then before else after := by
  have footer : (PosixRule.parse z.footer).offsetAt u = after := by
    rcases (PosixRule.parse z.footer).offsetAt_cases u with daylight | standard
    · rw [daylight, once.daylight_eq]
    · rw [standard, once.standard_eq]
  by_cases early : u < instant
  · simp [Zone.offsetAt, once.transitions_eq, once.before_eq, early]
  · simp [Zone.offsetAt, once.transitions_eq, early, footer, Int.not_lt.mp early]

theorem Zone.ChangesOnce.offsetOfLocal (once : z.ChangesOnce instant before after)
    (year reading : Int) :
    z.offsetOfLocal year reading = if reading < instant + max before after then before else after := by
  have footer : (PosixRule.parse z.footer).offsetOfLocal year reading = after := by
    simp [PosixRule.offsetOfLocal, once.unnamed, once.standard_eq]
  unfold Zone.offsetOfLocal
  simp only [once.transitions_eq, List.size_toArray, List.length_singleton, Nat.sub_self,
    Transition.localStart, once.before_eq]
  rcases lt_trichotomy reading (instant + max before after) with below | meets | above
  · simp [below]
  · -- the reading of the change itself is met by the transition
    subst meets
    have found : lastAtOrBefore #[⟨instant, before, after⟩] Transition.localStart
        (instant + max before after) 0 1 = some ⟨instant, before, after⟩ := by
      simp [lastAtOrBefore, Transition.localStart]
    simp [found]
  · simp [not_lt.mpr above.le, above, footer]

theorem Zone.ChangesOnce.moderate (once : z.ChangesOnce instant before after)
    (small : before.natAbs ≤ offsetLimit) (small' : after.natAbs ≤ offsetLimit) :
    (SystemZone.table z).Moderate := fun u => by
  simp only [SystemZone.offsetAt, once.offsetAt]
  split
  · exact small
  · exact small'

/-- A clock four hours behind UTC that falls back to five hours behind at 01:00 on the first of
November 2026 and keeps that offset, so that the readings from midnight to one are shown twice. -/
def Zone.fallsBackOnce : Zone := ⟨"EST5", -14400, #[⟨1793509200, -14400, -18000⟩], "EST5"⟩

theorem Zone.fallsBackOnce_changesOnce :
    Zone.fallsBackOnce.ChangesOnce 1793509200 (-14400) (-18000) :=
  ⟨rfl, rfl, by decide, by decide, by decide⟩

end OneChange

end NaturalQuery.Time
