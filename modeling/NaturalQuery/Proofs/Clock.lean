import NaturalQuery.Proofs.Calendar
import NaturalQuery.Time.Moment

/-!
Readings and their microsecond count. A reading in range is determined by its count, and
`WallTime.ofMicros` inverts the count exactly, so shifting a reading adds to its count and fails
exactly when the day it lands on leaves the span. Two moments tied the same way are ordered by
their readings; two moments with fixed offsets are ordered by their instants.
-/

namespace NaturalQuery.Time

def WallTime.Valid (w : WallTime) : Prop :=
  w.date.Valid ∧ w.hour < 24 ∧ w.minute < 60 ∧ w.second < 60 ∧ w.micro < 1000000

instance (w : WallTime) : Decidable w.Valid := inferInstanceAs (Decidable (_ ∧ _))

theorem microsPerDay_eq : microsPerDay = 86400000000 := rfl

theorem microsPerSecond_eq : microsPerSecond = 1000000 := rfl

theorem WallTime.micros_eq (w : WallTime) :
    w.micros = w.date.ordinal * 86400000000 + w.hour * 3600000000 + w.minute * 60000000 +
      w.second * 1000000 + w.micro := by
  simp only [WallTime.micros, WallTime.seconds, microsPerSecond]
  omega

theorem WallTime.seconds_div {w : WallTime} (valid : w.Valid) :
    w.seconds / 86400 = w.date.ordinal := by
  obtain ⟨-, hour, minute, second, -⟩ := valid
  simp only [WallTime.seconds]
  omega

theorem WallTime.ofMicros_spec (t : Int) :
    (WallTime.ofMicros t).Valid ∧ (WallTime.ofMicros t).micros = t ∧
      (WallTime.ofMicros t).date.ordinal = t / microsPerDay := by
  have day := Date.ofOrdinal_spec (t.fdiv microsPerDay)
  unfold WallTime.ofMicros
  rw [Int.fdiv_eq_ediv_of_nonneg _ (by decide), Int.fmod_eq_emod_of_nonneg _ (by decide)] at *
  refine ⟨⟨day.1, ?_, ?_, ?_, ?_⟩, ?_, day.2⟩
  all_goals simp only [WallTime.micros_eq, microsPerDay_eq] at *
  all_goals omega

@[simp] theorem WallTime.ofMicros_micros (t : Int) : (WallTime.ofMicros t).micros = t :=
  (WallTime.ofMicros_spec t).2.1

theorem WallTime.ofMicros_ordinal (t : Int) :
    (WallTime.ofMicros t).date.ordinal = t / microsPerDay :=
  (WallTime.ofMicros_spec t).2.2

theorem WallTime.ordinal_eq_div {w : WallTime} (valid : w.Valid) :
    w.date.ordinal = w.micros / microsPerDay := by
  obtain ⟨-, hour, minute, second, micro⟩ := valid
  rw [WallTime.micros_eq, microsPerDay_eq]
  omega

theorem WallTime.shift_eq_ok {w w' : WallTime} {delta : Int} :
    w.shift delta = .ok w' ↔
      inSpan ((w.micros + delta) / microsPerDay) = true ∧ w' = WallTime.ofMicros (w.micros + delta) := by
  unfold WallTime.shift
  dsimp only
  rw [Int.fdiv_eq_ediv_of_nonneg _ (by decide)]
  by_cases inside : inSpan ((w.micros + delta) / microsPerDay) = true
  · simp [inside, eq_comm]
  · simp [inside]

theorem WallTime.shift_of_inSpan {w : WallTime} {delta : Int}
    (inside : inSpan ((w.micros + delta) / microsPerDay) = true) :
    w.shift delta = .ok (WallTime.ofMicros (w.micros + delta)) :=
  WallTime.shift_eq_ok.mpr ⟨inside, rfl⟩

theorem WallTime.shift_micros {w w' : WallTime} {delta : Int} (shifted : w.shift delta = .ok w') :
    w'.Valid ∧ w'.micros = w.micros + delta := by
  obtain ⟨-, rfl⟩ := WallTime.shift_eq_ok.mp shifted
  exact ⟨(WallTime.ofMicros_spec _).1, WallTime.ofMicros_micros _⟩

theorem Moment.compare_fixed (a b : WallTime) (x y : Int) :
    Moment.compare ⟨a, .fixed x⟩ ⟨b, .fixed y⟩ =
      .ok (Ord.compare (a.micros - x * microsPerSecond) (b.micros - y * microsPerSecond)) := rfl

theorem Moment.compare_zone (a b : WallTime) (z : Zone) :
    Moment.compare ⟨a, .zone z⟩ ⟨b, .zone z⟩ = .ok (Ord.compare a.micros b.micros) := by
  simp [Moment.compare, Moment.sameZone]

theorem Moment.compare_naive (a b : WallTime) :
    Moment.compare ⟨a, .naive⟩ ⟨b, .naive⟩ = .ok (Ord.compare a.micros b.micros) := rfl

theorem compare_sub_sub (a b c : Int) : Ord.compare (a - c) (b - c) = Ord.compare a b := by
  rw [Int.compare_eq_ite_lt, Int.compare_eq_ite_lt]
  have below : (a - c < b - c) = (a < b) := propext (by omega)
  have above : (b - c < a - c) = (b < a) := propext (by omega)
  simp only [below, above]

theorem Moment.compare_withWall (m : Moment) (a b : WallTime) :
    (m.withWall a).compare (m.withWall b) = .ok (Ord.compare a.micros b.micros) := by
  rcases m with ⟨_, _ | x | z⟩
  · exact Moment.compare_naive a b
  · rw [Moment.withWall, Moment.withWall, Moment.compare_fixed, compare_sub_sub]
  · exact Moment.compare_zone a b z

end NaturalQuery.Time
