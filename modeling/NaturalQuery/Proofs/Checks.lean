import Mathlib
import NaturalQuery.Query.Check

/-!
When the constructors of a query's parts succeed. A filter is built as given, its texts trimmed,
as soon as its trimmed field keeps a character and its bounds break no rule; a sort order and a
date window need a field that is not empty, and the window bounds in order. The rule on a range
of doubles holds of the two bounds a reading takes as the smaller and the larger of two doubles,
because the order of doubles is a strict order: no double is below itself, not even NaN, and no
two are each below the other.
-/

namespace NaturalQuery

open Time

section Outcomes

variable {ε α β : Type}

theorem ok_bind (a : α) (f : α → Except ε β) : (Except.ok a >>= f) = f a := rfl

theorem map_ok (a : α) (f : α → β) : (f <$> (Except.ok a : Except ε α)) = .ok (f a) :=
  rfl

theorem bind_eq_ok {x : Except ε α} {f : α → Except ε β} {b : β} :
    (x >>= f) = .ok b ↔ ∃ a, x = .ok a ∧ f a = .ok b := by
  cases x <;> simp [bind, Except.bind]

theorem map_eq_ok {x : Except ε α} {f : α → β} {b : β} :
    (f <$> x) = .ok b ↔ ∃ a, x = .ok a ∧ f a = b := by
  cases x <;> simp [Functor.map, Except.map]

theorem ite_exists_ok {c : Prop} [Decidable c] {x y : Except ε α}
    (yes : ∃ a, x = .ok a) (no : ∃ a, y = .ok a) : ∃ a, (if c then x else y) = .ok a := by
  split
  · exact yes
  · exact no

end Outcomes

section FloatOrder

open Float.Model

theorem unpackedCompare_swap (a b : UnpackedFloat) :
    b.compare a = (a.compare b).map Ordering.swap := by
  rcases a with ⟨_ | _⟩ | _ | ⟨_ | _⟩ | ⟨_ | _, m₁, e₁, _⟩ <;>
  rcases b with ⟨_ | _⟩ | _ | ⟨_ | _⟩ | ⟨_ | _, m₂, e₂, _⟩ <;>
  simp [UnpackedFloat.compare, Ordering.swap_then, Int.compare_swap, Nat.compare_swap] <;> rfl

theorem float_lt_iff (x y : Float) :
    x < y ↔ x.toModel.unpack.compare y.toModel.unpack = some .lt := by
  simp [LT.lt, Float.lt, Float.Model.lt, UnpackedFloat.lt]

theorem float_lt_asymm {x y : Float} (below : x < y) : ¬ y < x := by
  rw [float_lt_iff] at *
  rw [unpackedCompare_swap, below]
  decide

theorem float_lt_irrefl (x : Float) : ¬ x < x := fun below =>
  float_lt_asymm below below

theorem float_least_le_most (first second : Float) :
    ¬ (if second < first then second else first) > (if second > first then second else first) := by
  by_cases below : second < first
  · -- the bounds are `second` and `first`, and `first` is not below `second`
    have notAbove : ¬ second > first := float_lt_asymm below
    simp only [below, notAbove, ↓reduceIte, not_false_eq_true]
  · by_cases above : second > first
    · simp only [below, above, ↓reduceIte, not_false_eq_true]
    · -- both bounds are `first`
      simp only [below, above, ↓reduceIte]
      exact float_lt_irrefl first

end FloatOrder

section Constructors

theorem Filter.boundsProblem_single {field : String} {operator : Operator} {value : FilterValue}
    (single : operator ≠ .between) :
    Filter.boundsProblem ⟨field, operator, value, none⟩ = .ok none := by
  have notBetween : (operator == .between) = false := by
    cases operator <;> first | rfl | exact absurd rfl single
  simp [Filter.boundsProblem, notBetween]

theorem Filter.boundsProblem_floats (field : String) {low high : Float} (ordered : ¬ low > high) :
    Filter.boundsProblem ⟨field, .between, .float low, some (.float high)⟩ = .ok none := by
  have between : (Operator.between == Operator.between) = true := rfl
  simp [Filter.boundsProblem, between, FilterValue.isMoment, Bound.isMoment, FilterValue.exceeds,
    ordered, Except.map]

theorem Filter.make_ok {field : String} {operator : Operator} {value : FilterValue}
    {value2 : Option Bound} (named : (Text.trimWhite field).isEmpty = false)
    (sound :
      Filter.boundsProblem ⟨Text.trimWhite field, operator, value.trimmed, value2⟩ = .ok none) :
    Filter.make field operator value value2 =
      .ok ⟨Text.trimWhite field, operator, value.trimmed, value2⟩ := by
  simp only [Filter.make, named, Bool.false_eq_true, ↓reduceIte]
  rw [sound]
  rfl

theorem Filter.make_field {field : String} {operator : Operator} {value : FilterValue}
    {value2 : Option Bound} {f : Filter} (built : Filter.make field operator value value2 = .ok f) :
    f.field = Text.trimWhite field := by
  simp only [Filter.make] at built
  split at built
  · cases built
  · obtain ⟨problem, -, made⟩ := bind_eq_ok.mp built
    split at made
    · cases made
    · cases made
      rfl

theorem SortOrder.make_ok {field : String} (named : field.isEmpty = false) (direction : Direction) :
    SortOrder.make field direction = .ok ⟨field, direction⟩ := by
  simp [SortOrder.make, named]

theorem DateRange.make_ok {field : String} {start finish : Moment} {order : Ordering}
    (named : field.isEmpty = false) (compared : start.compare finish = .ok order)
    (notAfter : order ≠ .gt) :
    DateRange.make field start finish = .ok ⟨field, start, finish⟩ := by
  have problem : DateRange.orderProblem ⟨field, start, finish⟩ = .ok none := by
    simp [DateRange.orderProblem, compared, Except.map, notAfter]
  simp only [DateRange.make, named, Bool.false_eq_true, ↓reduceIte]
  rw [problem]
  rfl

end Constructors

end NaturalQuery
