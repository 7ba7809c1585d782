import NaturalQuery.Validation

/-!
The problems the checks report of a query that has a kind. With at most three filters, of which
the first of three is on `status`, the only conflict possible is all three on `status`; the count
is out of range exactly when it lies outside 1 to the largest allowed.
-/

namespace NaturalQuery

theorem Query.findings_codes (q : Query) (maxLimit : Int) (named : q.entity.isSome)
    (shape : q.filters.length < 3 ∨
      ∃ second third, q.filters.map Filter.field = ["status", second, third]) :
    (q.findings maxLimit).map Finding.code =
      (if q.filters.map Filter.field = ["status", "status", "status"] then [.conflictingFilters]
        else []) ++
      (if q.limit < 1 ∨ maxLimit < q.limit then [.limitOutOfRange] else []) := by
  obtain ⟨e, he⟩ := Option.isSome_iff_exists.mp named
  simp only [Query.findings, he, Option.isNone_some, Bool.false_eq_true, ↓reduceIte,
    List.nil_append, List.map_append]
  congr 1
  · rcases shape with few | ⟨second, third, fields⟩
    · -- no field can be on three filters when there are fewer
      have notThree : q.filters.map Filter.field ≠ ["status", "status", "status"] := fun same => by
        have := congrArg List.length same
        simp only [List.length_map, List.length_cons, List.length_nil] at this
        omega
      rw [if_neg notThree, List.map_eq_nil_iff, List.filterMap_eq_nil_iff]
      intro f _
      have bound := List.count_le_length (a := f) (l := q.filters.map Filter.field)
      simp only [List.length_map] at bound
      rw [if_neg (by simp only [conflictThreshold]; omega)]
    · -- the fields are `status`, `second` and `third`
      rw [fields]
      by_cases two : second = "status"
      · subst two
        by_cases three : third = "status"
        · subst three
          simp [firstAppearances, conflictThreshold]
        · simp [firstAppearances, conflictThreshold, three, Ne.symm three, List.count_cons]
      · by_cases three : third = "status"
        · subst three
          simp [firstAppearances, conflictThreshold, two, Ne.symm two, List.count_cons]
        · by_cases same : second = third
          · subst same
            simp [firstAppearances, conflictThreshold, two, Ne.symm two, List.count_cons]
          · simp [firstAppearances, conflictThreshold, two, Ne.symm two, three, Ne.symm three, same,
              Ne.symm same, List.count_cons]
  · by_cases below : q.limit < 1 <;> by_cases above : maxLimit < q.limit <;>
      simp [leastLimit, below, above]

end NaturalQuery
