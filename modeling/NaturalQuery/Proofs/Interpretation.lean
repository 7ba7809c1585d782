import NaturalQuery.Proofs.Window
import NaturalQuery.Proofs.Detection
import NaturalQuery.Proofs.Findings
import NaturalQuery.Interpret
import NaturalQuery.Validation

/-!
Reading a question into a query, as a whole. Every question is read, for a moment now in the
years 2 to 9998 and a local clock whose offsets lie within a day of each other, when the field
names of the vocabulary keep a character once trimmed: each detector succeeds, and so does the
date window. The problems the checks then report of a reading are at most two: a conflict, when
all three filters land on `status`, which takes a vocabulary that sends both the amount and the
name of the kind there, and a count out of range, the count being the one the question asks for
or else the default.
-/

namespace NaturalQuery

open Time

theorem interpret_eq_ok {setting : Setting} {vocabulary : Vocabulary} {defaultLimit : Int}
    {text : Option String} {q : Query}
    (read : interpret setting vocabulary defaultLimit text = .ok q) :
    ∃ cleaned entity status amount name,
      cleaned = Text.clean (some (Text.trim (text.getD ""))) ∧
      entity = ((detectEntity cleaned vocabulary).map EntityMatch.entity).getD assumedEntity ∧
      detectStatus cleaned entity vocabulary = .ok status ∧
      detectAmount cleaned entity vocabulary = .ok amount ∧
      detectName cleaned entity vocabulary = .ok name ∧
      q.entity = some entity ∧ q.filters = [status, amount, name].filterMap id ∧
      q.limit = (detectLimit cleaned).getD defaultLimit := by
  simp only [interpret, bind_eq_ok] at read
  obtain ⟨status, hs, amount, ha, name, hn, range, -, sort, -, built⟩ := read
  cases built
  refine ⟨_, _, status, amount, name, rfl, rfl, hs, ha, hn, ?_, ?_, ?_⟩
  -- each part is a field of the query built
  all_goals dsimp only

theorem interpret_ok {setting : Setting} (moderate : setting.zone.Moderate)
    (narrow : setting.zone.Narrow) (regular : setting.now.Regular) {vocabulary : Vocabulary}
    (filled : vocabulary.Filled) (defaultLimit : Int) (text : Option String) :
    ∃ q, interpret setting vocabulary defaultLimit text = .ok q := by
  unfold interpret
  dsimp only
  generalize Text.clean (some (Text.trim (text.getD ""))) = cleaned
  generalize ((detectEntity cleaned vocabulary).map EntityMatch.entity).getD assumedEntity = entity
  obtain ⟨status, hs, -⟩ := detectStatus_spec cleaned entity vocabulary
  obtain ⟨amount, ha⟩ := detectAmount_ok cleaned entity vocabulary filled.amounts
  obtain ⟨name, hn⟩ := detectName_ok cleaned entity vocabulary filled.names
  obtain ⟨range, hr⟩ := Setting.dateRange_ok moderate narrow regular cleaned entity vocabulary
    (vocabulary.dateField_named filled entity)
  obtain ⟨sort, hsort⟩ := detectSort_ok cleaned entity vocabulary filled.sorts
  rw [hs, ok_bind, ha, ok_bind, hn, ok_bind, hr, ok_bind, hsort, ok_bind]
  exact ⟨_, rfl⟩

/-- Every question is read, whatever the zone setting, for a moment now in the years 2 to 9998
whose local clock has its offsets within a day of each other, with a vocabulary whose field
names are filled. -/
theorem interpret_returns (now : Moment) (tz : String) (regular : now.Regular)
    (narrow : (SystemZone.ofSetting tz).Narrow) (vocabulary : Vocabulary) (filled : vocabulary.Filled)
    (defaultLimit : Int) (text : Option String) :
    ∃ q, interpret ⟨now, SystemZone.ofSetting tz⟩ vocabulary defaultLimit text = .ok q :=
  interpret_ok (SystemZone.ofSetting_moderate tz) narrow regular filled defaultLimit text

/-- A question read at one in the morning of the day New York's clocks spring forward, under the
rule of its daylight time. -/
theorem interpret_returns_in_new_york : ∃ q, interpret
    ⟨⟨⟨⟨2026, 3, 8⟩, 1, 0, 0, 0⟩, .naive⟩, SystemZone.ofSetting "EST5EDT,M3.2.0,M11.1.0"⟩
    Vocabulary.standard 25 (some "unpaid invoices over $500 due today") = .ok q :=
  interpret_returns _ _ ⟨by decide, by decide, by decide, fun _ fixed => by cases fixed⟩
    SystemZone.ofSetting_newYork_narrow Vocabulary.standard Vocabulary.standard_filled 25 _

/-- On the last day of the calendar "tomorrow" asks for a day past its end, and the question is
not read. -/
theorem interpret_fails_on_last_day : ∃ failure, interpret
    ⟨⟨⟨⟨9999, 12, 31⟩, 12, 0, 0, 0⟩, .naive⟩, SystemZone.ofSetting "UTC"⟩ Vocabulary.standard 25
    (some "tomorrow") = .error failure := by
  have cleaned : Text.clean (some (Text.trim "tomorrow")) = "tomorrow" := by decide +kernel
  have noEntity : detectEntity "tomorrow" Vocabulary.standard = none :=
    Option.isNone_iff_eq_none.mp (by decide +kernel)
  have period : Period.detect (Text.lower "tomorrow") = some .tomorrow := by decide +kernel
  have past : Date.addDays ⟨9999, 12, 31⟩ 1 = .error .dateOutOfRange := rfl
  obtain ⟨status, hs, -⟩ := detectStatus_spec "tomorrow" assumedEntity Vocabulary.standard
  obtain ⟨amount, ha⟩ :=
    detectAmount_ok "tomorrow" assumedEntity Vocabulary.standard Vocabulary.standard_filled.amounts
  obtain ⟨name, hn⟩ :=
    detectName_ok "tomorrow" assumedEntity Vocabulary.standard Vocabulary.standard_filled.names
  simp only [interpret, Option.getD_some, cleaned, noEntity, Option.map_none, Option.getD_none]
  rw [hs, ok_bind, ha, ok_bind, hn, ok_bind]
  simp only [Setting.dateRange, period, Setting.resolve, past]
  exact ⟨_, rfl⟩

/-- The vocabulary sends both the amount and the name of a kind to the field `status`, where the
status filter goes. -/
def Vocabulary.SendsToStatus (v : Vocabulary) (e : Entity) : Prop :=
  (∃ field, v.amountField? e = some field ∧ Text.trimWhite field = "status") ∧
  (∃ field, v.nameField? e = some field ∧ Text.trimWhite field = "status")

theorem Vocabulary.standard_amount_not_status (e : Entity) :
    (Vocabulary.standard.amountField? e).map Text.trimWhite ≠ some "status" := by
  cases e <;> decide +kernel

theorem Vocabulary.standard_not_sendsToStatus (e : Entity) :
    ¬ Vocabulary.standard.SendsToStatus e := by
  rintro ⟨⟨field, known, trimmed⟩, -⟩
  apply Vocabulary.standard_amount_not_status e
  rw [known, Option.map_some, trimmed]

theorem interpret_filters {setting : Setting} {vocabulary : Vocabulary} {defaultLimit : Int}
    {text : Option String} {q : Query}
    (read : interpret setting vocabulary defaultLimit text = .ok q) :
    ∃ entity, q.entity = some entity ∧
      (q.filters.length < 3 ∨
        ∃ second third, q.filters.map Filter.field = ["status", second, third]) ∧
      (q.filters.map Filter.field = ["status", "status", "status"] →
        vocabulary.SendsToStatus entity) := by
  obtain ⟨cleaned, entity, status, amount, name, -, -, hs, ha, hn, named, filters, -⟩ :=
    interpret_eq_ok read
  obtain ⟨found, hfound, onStatus⟩ := detectStatus_spec cleaned entity vocabulary
  rw [hs] at hfound
  cases hfound
  have onAmount := detectAmount_field cleaned entity vocabulary ha
  have onName := detectName_field cleaned entity vocabulary hn
  refine ⟨entity, named, ?_⟩
  rw [filters]
  have fewer : ∀ {l : List Filter}, l.length < 3 →
      (l.length < 3 ∨ ∃ second third, l.map Filter.field = ["status", second, third]) ∧
      (l.map Filter.field = ["status", "status", "status"] → vocabulary.SendsToStatus entity) :=
    fun few => ⟨.inl few, fun same => absurd (congrArg List.length same) (by simp; omega)⟩
  -- only when all three detectors fire are there three filters
  rcases status with _ | s <;> rcases amount with _ | a <;> rcases name with _ | n
  iterate 7 exact fewer (by simp)
  have first : s.field = "status" := onStatus s rfl
  have three : List.filterMap id [some s, some a, some n] = [s, a, n] := rfl
  rw [three]
  refine ⟨.inr ⟨a.field, n.field, by simp [first]⟩, fun same => ?_⟩
  simp only [List.map_cons, List.map_nil, List.cons.injEq, and_true] at same
  obtain ⟨-, amountStatus, nameStatus⟩ := same
  obtain ⟨amountField, knownAmount, trimmedAmount⟩ := onAmount a rfl
  refine ⟨⟨amountField, knownAmount, trimmedAmount ▸ amountStatus⟩, ?_⟩
  rcases onName n rfl with project | ⟨nameField, knownName, trimmedName⟩
  · exact absurd (project.symm.trans nameStatus) (by decide)
  · exact ⟨nameField, knownName, trimmedName ▸ nameStatus⟩

theorem interpret_standard_passes_iff {setting : Setting} {defaultLimit : Int}
    {text : Option String} {q : Query}
    (read : interpret setting Vocabulary.standard defaultLimit text = .ok q) (maxLimit : Int) :
    q.findings maxLimit = [] ↔ 1 ≤ q.limit ∧ q.limit ≤ maxLimit := by
  obtain ⟨entity, named, shape, collide⟩ := interpret_filters read
  have codes := q.findings_codes maxLimit (by simp [named]) shape
  -- the standard tables never send an amount to `status`
  have noConflict : q.filters.map Filter.field ≠ ["status", "status", "status"] :=
    fun same => Vocabulary.standard_not_sendsToStatus entity (collide same)
  rw [← List.map_eq_nil_iff (f := Finding.code), codes, if_neg noConflict, List.nil_append]
  by_cases out : q.limit < 1 ∨ maxLimit < q.limit
  · simp only [out, ↓reduceIte, reduceCtorEq, false_iff]
    omega
  · simp only [out, ↓reduceIte, true_iff]
    omega

/-- The problems the checks report of a reading. Its count is the one the question asks for, or
else the default; a count out of range is reported exactly when it lies outside 1 to the largest
allowed, a conflict exactly when all three filters are on `status`, which takes a vocabulary that
sends the amount and the name of the kind there; nothing else is reported. So with the standard
tables a reading passes the checks exactly when its count is in range. -/
theorem interpret_findings {setting : Setting} {vocabulary : Vocabulary} {defaultLimit : Int}
    {text : Option String} {q : Query} (read : interpret setting vocabulary defaultLimit text = .ok q)
    (maxLimit : Int) :
    q.limit = (detectLimit (Text.clean (some (Text.trim (text.getD ""))))).getD defaultLimit ∧
    (q.findings maxLimit).map Finding.code =
      (if q.filters.map Filter.field = ["status", "status", "status"] then [.conflictingFilters]
        else []) ++
      (if q.limit < 1 ∨ maxLimit < q.limit then [.limitOutOfRange] else []) ∧
    (q.filters.map Filter.field = ["status", "status", "status"] →
      ∃ entity, q.entity = some entity ∧ vocabulary.SendsToStatus entity) ∧
    (vocabulary = Vocabulary.standard →
      (q.findings maxLimit = [] ↔ 1 ≤ q.limit ∧ q.limit ≤ maxLimit)) := by
  obtain ⟨_, _, _, _, _, rfl, -, -, -, -, -, -, limit⟩ := interpret_eq_ok read
  obtain ⟨entity, named, shape, collide⟩ := interpret_filters read
  have codes := q.findings_codes maxLimit (by simp [named]) shape
  refine ⟨limit, codes, fun same => ⟨entity, named, collide same⟩, ?_⟩
  rintro rfl
  exact interpret_standard_passes_iff read maxLimit

/-- A question for the top 5000 unpaid invoices over $500, read with the standard tables, asks for
5000 of them and is reported for its count alone. -/
theorem interpret_findings_of_large_count : ∃ q, interpret
    ⟨⟨⟨⟨2026, 3, 8⟩, 1, 0, 0, 0⟩, .naive⟩, SystemZone.ofSetting ""⟩ Vocabulary.standard 25
      (some "top 5000 unpaid invoices over $500") = .ok q ∧
    q.limit = 5000 ∧ (q.findings greatestLimit).map Finding.code = [.limitOutOfRange] := by
  obtain ⟨q, read⟩ : ∃ q, interpret ⟨⟨⟨⟨2026, 3, 8⟩, 1, 0, 0, 0⟩, .naive⟩, SystemZone.ofSetting ""⟩
      Vocabulary.standard 25 (some "top 5000 unpaid invoices over $500") = .ok q :=
    interpret_ok (SystemZone.ofSetting_moderate "") SystemZone.ofSetting_empty_narrow
      ⟨by decide, by decide, by decide, fun _ fixed => by cases fixed⟩ Vocabulary.standard_filled 25 _
  obtain ⟨limit, codes, conflict, -⟩ := interpret_findings read greatestLimit
  have asked : detectLimit (Text.clean (some (Text.trim "top 5000 unpaid invoices over $500"))) =
      some 5000 := by decide +kernel
  rw [Option.getD_some, asked, Option.getD_some] at limit
  -- the standard tables never put all three filters on `status`
  have noConflict : q.filters.map Filter.field ≠ ["status", "status", "status"] := fun same => by
    obtain ⟨entity, -, sends⟩ := conflict same
    exact Vocabulary.standard_not_sendsToStatus entity sends
  refine ⟨q, read, limit, ?_⟩
  rw [codes, if_neg noConflict, limit]
  decide

end NaturalQuery
