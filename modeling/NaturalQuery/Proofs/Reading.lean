import NaturalQuery.Validation
import NaturalQuery.Proofs.Checks

/-!
What reading data as a query can fail with. Reading reports what it cannot take as problems at
their places, a moment of the year 0 among them, and fails outright in one way only: on a date
window that reads cleanly but whose bounds are a moment with an offset and one without, which
have no order. Checking data therefore raises exactly on such a window and reports everything
else.

Each reader is shown to fail only as `FailsOnly` admits, one lemma per reader, and the readers
that read others are assembled from those lemmas; the list of filters by induction on the list.
-/

namespace NaturalQuery

open Time

section Failures

variable {α β : Type} {allowed other : Failure → Prop}

/-- An outcome that, if it fails, fails in a way `allowed` admits. -/
def FailsOnly (allowed : Failure → Prop) (x : Outcome α) : Prop :=
  ∀ e, x = .error e → allowed e

theorem FailsOnly.ok (a : α) : FailsOnly allowed (.ok a) := fun _ failed => nomatch failed

theorem FailsOnly.pure (a : α) : FailsOnly allowed (Pure.pure a) := FailsOnly.ok a

theorem FailsOnly.mono {x : Outcome α} (weaker : ∀ e, allowed e → other e)
    (fails : FailsOnly allowed x) : FailsOnly other x :=
  fun e failed => weaker e (fails e failed)

theorem FailsOnly.bind {x : Outcome α} {f : α → Outcome β} (first : FailsOnly allowed x)
    (rest : ∀ a, x = .ok a → FailsOnly allowed (f a)) : FailsOnly allowed (x >>= f) := by
  intro e failed
  cases read : x with
  | error e' =>
    rw [read] at failed
    cases failed
    exact first e read
  | ok a =>
    rw [read] at failed
    exact rest a read e failed

theorem FailsOnly.map {x : Outcome α} {f : α → β} (fails : FailsOnly allowed x) :
    FailsOnly allowed (f <$> x) := by
  intro e failed
  cases read : x with
  | error e' =>
    rw [read] at failed
    cases failed
    exact fails e read
  | ok a =>
    rw [read] at failed
    cases failed

theorem FailsOnly.exists_ok {x : Outcome α} (never : FailsOnly (fun _ => False) x) :
    ∃ a, x = .ok a := by
  cases x with
  | ok a => exact ⟨a, rfl⟩
  | error e => exact (never e rfl).elim

end Failures

section Moments

variable {allowed : Failure → Prop}

theorem stampMoment_failsOnly (wall : WallTime) (offset : Option Int) :
    FailsOnly allowed (stampMoment wall offset) := by
  unfold stampMoment
  split <;> exact FailsOnly.ok _

theorem readMomentText_failsOnly (s : String) : FailsOnly allowed (readMomentText s) := by
  unfold readMomentText
  dsimp only
  split
  · exact stampMoment_failsOnly _ _
  · -- a count of seconds, or else a day alone
    split
    · exact stampMoment_failsOnly _ _
    · exact FailsOnly.ok _
    · split
      · exact stampMoment_failsOnly _ _
      · exact FailsOnly.ok _

theorem countedMoment_failsOnly (counted : Except StampError WallTime) :
    FailsOnly allowed (countedMoment counted) := by
  cases counted with
  | ok wall => exact stampMoment_failsOnly wall (some 0)
  | error _ => exact FailsOnly.ok _

theorem readMoment_failsOnly (v : Json) : FailsOnly allowed (readMoment v) := by
  cases v with
  | str s => exact readMomentText_failsOnly s
  | int n =>
    simp only [readMoment]
    split
    · exact countedMoment_failsOnly _
    · split
      · exact countedMoment_failsOnly _
      · exact FailsOnly.ok _
  | float x => exact countedMoment_failsOnly _
  | null | bool _ | arr _ | obj _ => exact FailsOnly.ok _

theorem readBound_failsOnly (v : Json) : FailsOnly allowed (readBound v) := by
  unfold readBound
  split
  · exact FailsOnly.pure _
  · exact FailsOnly.pure _
  · exact FailsOnly.pure _
  · split
    · exact FailsOnly.pure _
    · split
      · exact FailsOnly.pure _
      · refine FailsOnly.bind (readMoment_failsOnly v) fun _ _ => ?_
        split
        · exact FailsOnly.pure _
        · exact FailsOnly.pure _

end Moments

section Members

variable {α : Type} {allowed : Failure → Prop}

theorem Checked.under_eq_ok {key : String} {c : Checked α} {a : α} :
    c.under key = .ok a ↔ c = .ok a := by
  cases c <;> simp [Checked.under, Except.mapError]

theorem memberReading_failsOnly {members : List (String × Json)} {key : String}
    {read : Json → Outcome (Checked α)} {fallback : Option α}
    (reads : ∀ v, members.lookup key = some v → FailsOnly allowed (read v)) :
    FailsOnly allowed (memberReading members key read fallback) := by
  unfold memberReading
  split
  · next v found => exact (reads v found).map
  · exact FailsOnly.pure _

theorem memberReading_eq_ok_iff {members : List (String × Json)} {key : String}
    {read : Json → Outcome (Checked α)} {a : α} :
    memberReading members key read none = .ok (.ok a) ↔
      ∃ v, members.lookup key = some v ∧ read v = .ok (.ok a) := by
  constructor
  · intro readOk
    unfold memberReading at readOk
    split at readOk
    · next v found =>
      obtain ⟨c, readC, under⟩ := map_eq_ok.mp readOk
      exact ⟨v, found, readC.trans (congrArg Except.ok (Checked.under_eq_ok.mp under))⟩
    · cases readOk
  · rintro ⟨v, found, readV⟩
    simp [memberReading, found, readV, Except.map, Checked.under, Except.mapError]

theorem memberOf_eq_ok {members : List (String × Json)} {key : String}
    {read : Json → Checked α} {a : α} (readOk : memberOf members key read none = .ok a) :
    ∃ v, members.lookup key = some v ∧ read v = .ok a := by
  unfold memberOf at readOk
  split at readOk
  · exact ⟨_, ‹_›, Checked.under_eq_ok.mp readOk⟩
  · cases readOk

theorem optionalReading_failsOnly {read : Json → Outcome (Checked α)} {v : Json}
    (reads : FailsOnly allowed (read v)) : FailsOnly allowed (optionalReading read v) := by
  unfold optionalReading
  split
  · exact FailsOnly.pure _
  · exact reads.map

end Members

section Filters

variable {α β : Type} {allowed : Failure → Prop}

theorem readFilterValue_not_moment {v : Json} {value : FilterValue}
    (readOk : readFilterValue v = .ok value) : value.isMoment = false := by
  unfold readFilterValue at readOk
  split at readOk
  · cases readOk; rfl
  · cases readOk; rfl
  · cases readOk; rfl
  · cases readOk; rfl
  · split at readOk
    · cases readOk; rfl
    · cases readOk
  · cases readOk

theorem FilterValue.exceeds_ok {value : FilterValue} (upper : Bound)
    (notMoment : value.isMoment = false) : ∃ above, value.exceeds upper = .ok above := by
  cases value <;> cases upper <;> first
    | exact ⟨_, rfl⟩
    | cases notMoment

theorem Filter.boundsProblem_ok (f : Filter) (notMoment : f.value.isMoment = false) :
    ∃ problem, f.boundsProblem = .ok problem := by
  unfold Filter.boundsProblem
  split
  · split
    · exact ⟨_, rfl⟩
    · next upper _ =>
      split
      case h_4 =>
        split
        · exact ⟨_, rfl⟩
        · obtain ⟨above, exceeds⟩ := FilterValue.exceeds_ok upper notMoment
          rw [exceeds]
          exact ⟨_, rfl⟩
      -- a lower value of text, a boolean or texts is refused
      all_goals exact ⟨_, rfl⟩
  · split
    · exact ⟨_, rfl⟩
    · exact ⟨_, rfl⟩

theorem readFilter_failsOnly (v : Json) : FailsOnly allowed (readFilter v) := by
  unfold readFilter
  split
  · next members =>
    dsimp only
    refine FailsOnly.bind (memberReading_failsOnly fun v _ => readBound_failsOnly v) fun _ _ => ?_
    split
    · next field operator value bound _ _ readValue _ =>
      split
      · exact FailsOnly.pure _
      · obtain ⟨raw, -, readRaw⟩ := memberOf_eq_ok readValue
        obtain ⟨problem, checked⟩ := Filter.boundsProblem_ok ⟨field, operator, value, bound⟩
          (readFilterValue_not_moment readRaw)
        rw [checked]
        exact FailsOnly.ok _
    · exact FailsOnly.pure _
  · exact FailsOnly.pure _

theorem mapIdxM_go_failsOnly {f : Nat → α → Outcome β} (each : ∀ i item, FailsOnly allowed (f i item))
    (items : List α) (acc : Array β) : FailsOnly allowed (List.mapIdxM.go f items acc) := by
  induction items generalizing acc with
  | nil => exact FailsOnly.pure _
  | cons item rest ih =>
    rw [List.mapIdxM.go]
    exact FailsOnly.bind (each _ item) fun _ _ => ih _

theorem readFilters_failsOnly (v : Json) : FailsOnly allowed (readFilters v) := by
  unfold readFilters
  split
  · next items =>
    refine FailsOnly.bind ?_ fun _ _ => ?_
    · exact mapIdxM_go_failsOnly (fun _ item => (readFilter_failsOnly item).map) items #[]
    · dsimp only
      split
      · exact FailsOnly.pure _
      · exact FailsOnly.pure _
  · exact FailsOnly.pure _

end Filters

section Windows

theorem Moment.compare_failsOnly (a b : Moment) :
    FailsOnly (fun e => e = .mixedAwareness ∧ a.offset?.isSome ≠ b.offset?.isSome)
      (a.compare b) := by
  intro e failed
  unfold Moment.compare at failed
  split at failed
  · cases failed
  · split at failed
    · cases failed
    · cases failed
    · next neither both =>
      cases failed
      refine ⟨rfl, ?_⟩
      cases first : a.offset? <;> cases second : b.offset? <;> simp_all

theorem Moment.compare_mixed {a b : Moment} (mixed : a.offset?.isSome ≠ b.offset?.isSome) :
    a.compare b = .error .mixedAwareness := by
  obtain ⟨_, anchorA⟩ := a
  obtain ⟨_, anchorB⟩ := b
  -- two zones both have offsets, so a mixed pair is never read in a shared zone
  cases anchorA <;> cases anchorB <;> simp_all [Moment.compare, Moment.sameZone, Moment.offset?]

/-- A date window that reads cleanly, its field and both its bounds with nothing else beside
them, and whose bounds are a moment with an offset and one without. -/
def Json.MixedWindow (v : Json) : Prop :=
  ∃ members field start finish a b, v = .obj members ∧
    memberOf members "field" (readText false true) none = .ok field ∧
    members.lookup "start" = some start ∧ readMoment start = .ok (.ok a) ∧
    members.lookup "end" = some finish ∧ readMoment finish = .ok (.ok b) ∧
    extraIssues members ["field", "start", "end"] = [] ∧ a.offset?.isSome ≠ b.offset?.isSome

theorem readDateRange_failsOnly (v : Json) :
    FailsOnly (fun e => e = .mixedAwareness ∧ v.MixedWindow) (readDateRange v) := by
  unfold readDateRange
  split
  · next members =>
    dsimp only
    refine FailsOnly.bind (memberReading_failsOnly fun v _ => readMoment_failsOnly v)
      fun startRead readStart => ?_
    refine FailsOnly.bind (memberReading_failsOnly fun v _ => readMoment_failsOnly v)
      fun finishRead readFinish => ?_
    split
    · next x y z field start finish readField =>
      split
      · exact FailsOnly.pure _
      · next clean =>
        -- the bounds are compared only when nothing else is wrong with the window
        have noExtras : extraIssues members ["field", "start", "end"] = [] := by
          simpa [issuesOf, readField] using clean
        obtain ⟨s, foundStart, momentStart⟩ := memberReading_eq_ok_iff.mp readStart
        obtain ⟨t, foundFinish, momentFinish⟩ := memberReading_eq_ok_iff.mp readFinish
        refine FailsOnly.map (FailsOnly.map ((Moment.compare_failsOnly start finish).mono ?_))
        rintro e ⟨rfl, mixed⟩
        exact ⟨rfl, members, field, s, t, start, finish, rfl, readField, foundStart, momentStart,
          foundFinish, momentFinish, noExtras, mixed⟩
    · exact FailsOnly.pure _
  · exact FailsOnly.pure _

theorem readDateRange_mixed {v : Json} (mixed : v.MixedWindow) :
    readDateRange v = .error .mixedAwareness := by
  obtain ⟨members, field, start, finish, a, b, rfl, readField, foundStart, momentStart,
    foundFinish, momentFinish, noExtras, offsets⟩ := mixed
  have startRead := memberReading_eq_ok_iff.mpr ⟨start, foundStart, momentStart⟩
  have finishRead := memberReading_eq_ok_iff.mpr ⟨finish, foundFinish, momentFinish⟩
  unfold readDateRange
  dsimp only
  rw [startRead, finishRead, ok_bind, ok_bind, readField]
  simp only [issuesOf, noExtras, List.append_nil, List.isEmpty_nil, Bool.not_true]
  simp [DateRange.orderProblem, Moment.compare_mixed offsets, Except.map]

end Windows

/-- Data whose date window is mixed. -/
def Json.MixedDateRange (data : Json) : Prop :=
  ∃ members window, data = .obj members ∧ members.lookup "date_range" = some window ∧
    window.MixedWindow

theorem readQuery_failsOnly (data : Json) :
    FailsOnly (fun e => e = .mixedAwareness ∧ data.MixedDateRange) (readQuery data) := by
  unfold readQuery
  split
  · next members =>
    dsimp only
    refine FailsOnly.bind (memberReading_failsOnly fun v _ => readFilters_failsOnly v)
      fun _ _ => ?_
    refine FailsOnly.bind (memberReading_failsOnly fun window found => ?_) fun _ _ => ?_
    · refine optionalReading_failsOnly ((readDateRange_failsOnly window).mono ?_)
      rintro e ⟨rfl, mixed⟩
      exact ⟨rfl, members, window, rfl, found, mixed⟩
    · split
      · split
        · exact FailsOnly.pure _
        · exact FailsOnly.pure _
      · exact FailsOnly.pure _
  · exact FailsOnly.pure _

theorem readQuery_mixed {data : Json} (mixed : data.MixedDateRange) :
    readQuery data = .error .mixedAwareness := by
  obtain ⟨members, window, rfl, found, mixedWindow⟩ := mixed
  obtain ⟨filters, readFiltersOk⟩ :
      ∃ c, memberReading members "filters" readFilters (some []) = .ok c :=
    FailsOnly.exists_ok (memberReading_failsOnly fun v _ => readFilters_failsOnly v)
  obtain ⟨windowMembers, rfl⟩ : ∃ windowMembers, window = .obj windowMembers := by
    obtain ⟨windowMembers, -, -, -, -, -, rfl, -⟩ := mixedWindow
    exact ⟨windowMembers, rfl⟩
  have windowRead : memberReading members "date_range" (optionalReading readDateRange) (some none)
      = .error .mixedAwareness := by
    simp [memberReading, found, optionalReading, readDateRange_mixed mixedWindow, Except.map]
  unfold readQuery
  dsimp only
  rw [readFiltersOk, windowRead]
  rfl

/-- Checking data raises exactly on a mixed date window, and otherwise reports the problems of
the query it reads, or those of the reading at their dotted places. -/
theorem findingsOfData_raises_iff_mixed (data : Json) (maxLimit : Int) :
    (data.MixedDateRange → findingsOfData data maxLimit = .error .mixedAwareness) ∧
    (¬ data.MixedDateRange → ∃ findings, findingsOfData data maxLimit = .ok findings ∧
      ((∃ q, readQuery data = .ok (.ok q) ∧ findings = q.findings maxLimit) ∨
       (∃ issues, readQuery data = .ok (.error issues) ∧
         findings = issues.map fun i =>
           ⟨.schema, i.msg, if i.loc.isEmpty then none else some (".".intercalate i.loc)⟩))) := by
  refine ⟨fun mixed => ?_, fun clean => ?_⟩
  · rw [findingsOfData, readQuery_mixed mixed]
    rfl
  · unfold findingsOfData
    cases read : readQuery data with
    | ok checked =>
      cases checked with
      | ok q => exact ⟨_, rfl, .inl ⟨q, rfl, rfl⟩⟩
      | error issues => exact ⟨_, rfl, .inr ⟨issues, rfl, rfl⟩⟩
    | error e => exact (clean (readQuery_failsOnly data e read).2).elim

/-- A date window from a day without an offset to a day at UTC cannot be checked. -/
theorem findingsOfData_fails_on_mixed_window :
    findingsOfData (.obj [("entity", .str "invoices"),
      ("date_range", .obj [("field", .str "dueDate"), ("start", .str "2026-01-01T00:00:00"),
        ("end", .str "2026-01-02T00:00:00Z")])]) greatestLimit = .error .mixedAwareness := by
  rfl

end NaturalQuery
