import NaturalQuery.Proofs.Checks
import NaturalQuery.Validation

/-!
The problems the checks report, exactly and in order. First a missing kind, then one conflict for
each field that three or more filters constrain, each such field once and in the order the
filters first name it, then a count out of range. The order of the conflicts comes from the list
of first appearances: a name joins it when the scan meets it for the first time, so the list
holds every name once, sorted by where the name first occurs. A query passes exactly when it has
a kind, no field carries three filters, and its count lies in range.
-/

namespace NaturalQuery

/-- `conflicts` lists the names that occur at least three times in `names`, each once, in the
order of their first occurrence. -/
structure FirstConflicts (names conflicts : List String) : Prop where
  nodup : conflicts.Nodup
  mem_iff : ∀ f, f ∈ conflicts ↔ 3 ≤ names.count f
  ordered : conflicts.Pairwise fun a b => names.idxOf a < names.idxOf b

section FirstAppearances

variable {names : List String} {x f : String}

theorem firstAppearances_append_singleton (names : List String) (x : String) :
    firstAppearances (names ++ [x]) =
      if (firstAppearances names).contains x then firstAppearances names
      else firstAppearances names ++ [x] := by
  unfold firstAppearances
  rw [List.foldl_append]
  rfl

theorem mem_firstAppearances : f ∈ firstAppearances names ↔ f ∈ names := by
  induction names using List.reverseRecOn generalizing f with
  | nil => simp [firstAppearances]
  | append_singleton names x ih =>
    rw [firstAppearances_append_singleton]
    split
    · next seen =>
      -- `x` was met before, so it adds no new member
      have old : x ∈ names := ih.mp (List.contains_iff_mem.mp seen)
      rw [ih, List.mem_append, List.mem_singleton]
      exact ⟨.inl, fun member => member.elim id fun same => same ▸ old⟩
    · simp [ih]

theorem firstAppearances_snoc (names : List String) (x : String) :
    firstAppearances (names ++ [x]) = firstAppearances names ++ if x ∈ names then [] else [x] := by
  rw [firstAppearances_append_singleton]
  by_cases old : x ∈ names
  · simp [mem_firstAppearances, old]
  · simp [mem_firstAppearances, old]

theorem nodup_firstAppearances (names : List String) : (firstAppearances names).Nodup := by
  induction names using List.reverseRecOn with
  | nil => exact List.nodup_nil
  | append_singleton names x ih =>
    rw [firstAppearances_snoc]
    split
    · simpa using ih
    · next fresh =>
      refine List.nodup_append.mpr ⟨ih, List.nodup_singleton x, ?_⟩
      intro a member b same
      rw [List.mem_singleton] at same
      subst same
      rintro rfl
      exact fresh (mem_firstAppearances.mp member)

theorem firstAppearances_ordered (names : List String) :
    (firstAppearances names).Pairwise fun a b => names.idxOf a < names.idxOf b := by
  induction names using List.reverseRecOn with
  | nil => exact List.Pairwise.nil
  | append_singleton names x ih =>
    -- a name met before keeps its first position when the scan goes on
    have kept : ∀ a ∈ firstAppearances names, (names ++ [x]).idxOf a = names.idxOf a :=
      fun a member => List.idxOf_append_of_mem (mem_firstAppearances.mp member)
    have earlier : (firstAppearances names).Pairwise
        fun a b => (names ++ [x]).idxOf a < (names ++ [x]).idxOf b :=
      ih.imp_of_mem fun {a b} memberA memberB before => by rwa [kept a memberA, kept b memberB]
    rw [firstAppearances_snoc]
    split
    · simpa using earlier
    · next fresh =>
      refine List.pairwise_append.mpr ⟨earlier, List.pairwise_singleton _ x, ?_⟩
      intro a member b same
      rw [List.mem_singleton] at same
      subst same
      -- a new name sits after every name met before
      rw [kept a member, List.idxOf_append_of_notMem fresh, List.idxOf_cons_self]
      have inside := List.idxOf_lt_length_of_mem (mem_firstAppearances.mp member)
      omega

end FirstAppearances

theorem filterMap_ite_eq {α β : Type} (l : List α) (p : α → Prop) [DecidablePred p] (g : α → β) :
    (l.filterMap fun a => if p a then some (g a) else none) = (l.filter fun a => decide (p a)).map g := by
  induction l with
  | nil => rfl
  | cons a rest ih =>
    by_cases kept : p a <;> simp [kept, ih]

theorem firstConflicts_of_fields (names : List String) :
    FirstConflicts names
      ((firstAppearances names).filter fun f => decide (conflictThreshold ≤ names.count f)) where
  nodup := (nodup_firstAppearances names).filter _
  mem_iff f := by
    rw [List.mem_filter, mem_firstAppearances, decide_eq_true_iff]
    constructor
    · exact fun ⟨_, many⟩ => many
    · intro many
      exact ⟨List.count_pos_iff.mp (by omega), many⟩
  ordered := (firstAppearances_ordered names).filter _

theorem findingsOfData_of_query {data : Json} {q : Query} (read : readQuery data = .ok (.ok q))
    (maxLimit : Int) : findingsOfData data maxLimit = .ok (q.findings maxLimit) := by
  rw [findingsOfData, read]
  rfl

theorem FirstConflicts.eq_nil_iff {names conflicts : List String} (first : FirstConflicts names conflicts) :
    conflicts = [] ↔ ∀ f, names.count f < 3 := by
  rw [List.eq_nil_iff_forall_not_mem]
  refine forall_congr' fun f => ?_
  rw [first.mem_iff, not_le]

theorem findings_eq (q : Query) (maxLimit : Int) :
    q.findings maxLimit =
      (if q.entity = none then [⟨.missingEntity, "No entity type specified", none⟩] else []) ++
        ((firstAppearances (q.filters.map Filter.field)).filter fun f =>
            decide (conflictThreshold ≤ (q.filters.map Filter.field).count f)).map (fun f =>
          ⟨.conflictingFilters, "multiple conflicting filters on field: " ++ f, some f⟩) ++
        (if q.limit < 1 ∨ maxLimit < q.limit then
          [⟨.limitOutOfRange, "Limit must be between 1 and " ++ toString maxLimit, some "limit"⟩]
        else []) := by
  have limitText : toString (1 : Int) = "1" := rfl
  simp only [Query.findings, ge_iff_le, filterMap_ite_eq, Bool.or_eq_true, decide_eq_true_eq,
    gt_iff_lt]
  simp only [leastLimit, limitText]
  congr 2
  cases q.entity <;> rfl

/-- The checks report exactly, in this order: a missing kind, one conflict per field that three or
more filters constrain (in the order the filters first name the fields), and a count outside 1 to
`maxLimit`; data read as a query is reported on as that query. A query passes exactly when it has
a kind, no field carries three filters and its count is in range. -/
theorem findings_exact (q : Query) (maxLimit : Int) :
    ∃ conflicts, FirstConflicts (q.filters.map Filter.field) conflicts ∧
      q.findings maxLimit =
        (if q.entity = none then [⟨.missingEntity, "No entity type specified", none⟩] else []) ++
          conflicts.map (fun f =>
            ⟨.conflictingFilters, "multiple conflicting filters on field: " ++ f, some f⟩) ++
          (if q.limit < 1 ∨ maxLimit < q.limit then
            [⟨.limitOutOfRange, "Limit must be between 1 and " ++ toString maxLimit, some "limit"⟩]
          else []) ∧
      ((q.findings maxLimit).isEmpty ↔ q.entity ≠ none ∧
        (∀ f, (q.filters.map Filter.field).count f < 3) ∧
        1 ≤ q.limit ∧ q.limit ≤ maxLimit) ∧
      ∀ data, readQuery data = .ok (.ok q) → findingsOfData data maxLimit = .ok (q.findings maxLimit) := by
  have first := firstConflicts_of_fields (q.filters.map Filter.field)
  refine ⟨_, first, findings_eq q maxLimit, ?_, fun data read => findingsOfData_of_query read maxLimit⟩
  -- the report is empty exactly when each of its three parts is
  rw [findings_eq]
  simp only [List.isEmpty_iff, List.append_eq_nil_iff, List.map_eq_nil_iff, ite_eq_right_iff,
    List.cons_ne_nil, imp_false, not_or, not_lt, first.eq_nil_iff]
  constructor
  · rintro ⟨⟨named, few⟩, inRange⟩
    exact ⟨named, few, inRange⟩
  · rintro ⟨named, few, inRange⟩
    exact ⟨⟨named, few⟩, inRange⟩

end NaturalQuery
