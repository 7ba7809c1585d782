import NaturalQuery.Proofs.Checks
import NaturalQuery.Detect.Status
import NaturalQuery.Detect.Name
import NaturalQuery.Detect.Sort
import NaturalQuery.Amount

/-!
The detectors never fail on a vocabulary whose field names keep a character once white space is
trimmed from their ends, and each filter they build is on a known field: the status filter on
`status`, the amount filter on the kind's amount field, and the name filter on the kind's name
field or on `projectName`, each trimmed. The amount filter of a range is built because its two
bounds are taken as the smaller and the larger of the two amounts read.
-/

namespace NaturalQuery

/-- Every field name a table gives keeps a character once white space is trimmed off its ends. -/
def Table.Filled {κ : Type} (t : Table κ String) : Prop :=
  ∀ pair ∈ t, (Text.trimWhite pair.2).isEmpty = false

/-- The tables of field names are filled: amount, date and name fields, and sort fields. -/
structure Vocabulary.Filled (v : Vocabulary) : Prop where
  amounts : v.amountFields.Filled
  dates : v.dateFields.Filled
  names : v.nameFields.Filled
  sorts : v.sortFieldSynonyms.Filled

theorem Vocabulary.standard_filled : Vocabulary.standard.Filled := by
  refine ⟨?_, ?_, ?_, ?_⟩ <;> unfold Table.Filled <;> decide +kernel

theorem Table.lookup_filled {κ : Type} [BEq κ] {t : Table κ String} (filled : t.Filled)
    {key : κ} {field : String} (found : t.lookup key = some field) :
    (Text.trimWhite field).isEmpty = false := by
  rw [List.lookup_eq_findSome?] at found
  obtain ⟨pair, member, hit⟩ := List.exists_of_findSome?_eq_some found
  have same : pair.2 = field := by
    split at hit
    · exact Option.some.inj hit
    · contradiction
  exact same ▸ filled pair member

theorem isEmpty_of_trimWhite {s : String} (kept : (Text.trimWhite s).isEmpty = false) :
    s.isEmpty = false := by
  rw [String.isEmpty_eq_false_iff] at *
  rintro rfl
  exact kept rfl

theorem Vocabulary.dateField_named {v : Vocabulary} (filled : v.Filled) (entity : Entity) :
    (v.dateField entity).isEmpty = false := by
  unfold Vocabulary.dateField
  cases found : v.dateFields.lookup entity with
  | none => decide
  | some field => exact isEmpty_of_trimWhite (Table.lookup_filled filled.dates found)

theorem fixed_fields_trimmed :
    Text.trimWhite "status" = "status" ∧ Text.trimWhite "projectName" = "projectName" := by
  decide +kernel

section Detectors

variable (text : String) (entity : Entity) (vocabulary : Vocabulary)

theorem detectStatus_spec :
    ∃ found, detectStatus text entity vocabulary = .ok found ∧
      ∀ f ∈ found, f.field = "status" := by
  unfold detectStatus
  dsimp only
  split
  · rw [Filter.make_ok (by rw [fixed_fields_trimmed.1]; decide)
      (Filter.boundsProblem_single (by decide)), map_ok]
    refine ⟨_, rfl, ?_⟩
    simp only [Option.mem_def, Option.some.injEq, forall_eq']
    exact fixed_fields_trimmed.1
  · exact ⟨none, rfl, by simp⟩

theorem comparison_operator {cs : List Char} {op : Operator} {token : List Char}
    (found : ([(.gt, overLeads, false), (.lt, underLeads, false), (.gte, atLeastLeads, true)] :
      List (Operator × List Lead × Bool)).findSome? (fun (op, leads, wordEnd) =>
        (Text.search (comparison leads wordEnd) cs).map (op, ·)) = some (op, token)) :
    op ≠ .between := by
  obtain ⟨⟨op', leads, wordEnd⟩, member, hit⟩ := List.exists_of_findSome?_eq_some found
  obtain ⟨_, -, same⟩ := Option.map_eq_some_iff.mp hit
  cases same
  simp only [List.mem_cons, List.not_mem_nil, or_false, Prod.mk.injEq] at member
  rcases member with ⟨rfl, -⟩ | ⟨rfl, -⟩ | ⟨rfl, -⟩ <;> decide

theorem field_of_made {field : String} {operator : Operator} {value : FilterValue}
    {value2 : Option Bound} {found : Option Filter}
    (built : (some <$> Filter.make field operator value value2) = .ok found) :
    ∀ f ∈ found, f.field = Text.trimWhite field := by
  intro f member
  obtain ⟨g, made, rfl⟩ := map_eq_ok.mp built
  cases member
  exact Filter.make_field made

theorem detectAmount_ok (filled : vocabulary.amountFields.Filled) :
    ∃ found, detectAmount text entity vocabulary = .ok found := by
  unfold detectAmount
  split
  · exact ⟨none, rfl⟩
  · next field known =>
    have named := Table.lookup_filled filled known
    dsimp only
    split
    · -- a one-sided comparison
      next op token compared =>
      split
      · rw [Filter.make_ok named (Filter.boundsProblem_single (comparison_operator compared)), map_ok]
        exact ⟨_, rfl⟩
      · exact ⟨none, rfl⟩
    · -- a range, its bounds in order
      split
      · split
        · next first second _ _ =>
          rw [Filter.make_ok named
            (Filter.boundsProblem_floats _ (float_least_le_most first second)), map_ok]
          exact ⟨_, rfl⟩
        · exact ⟨none, rfl⟩
      · exact ⟨none, rfl⟩

theorem detectAmount_field {found : Option Filter}
    (built : detectAmount text entity vocabulary = .ok found) :
    ∀ f ∈ found, ∃ field, vocabulary.amountField? entity = some field ∧
      f.field = Text.trimWhite field := by
  unfold detectAmount at built
  split at built
  · cases built
    simp
  · next field known =>
    dsimp only at built
    split at built
    · -- a one-sided comparison
      split at built
      · exact fun f member => ⟨field, known, field_of_made built f member⟩
      · cases built
        simp
    · -- a range
      split at built
      · split at built
        · exact fun f member => ⟨field, known, field_of_made built f member⟩
        · cases built
          simp
      · cases built
        simp

theorem detectName_ok (filled : vocabulary.nameFields.Filled) :
    ∃ found, detectName text entity vocabulary = .ok found := by
  unfold detectName
  dsimp only
  split
  · -- a name after a connector goes to the kind's name field
    next field name named =>
    obtain ⟨_, -, mapped⟩ := Option.bind_eq_some_iff.mp named
    obtain ⟨_, known, same⟩ := Option.map_eq_some_iff.mp mapped
    cases same
    rw [Filter.make_ok (Table.lookup_filled filled known) (Filter.boundsProblem_single (by decide)),
      map_ok]
    exact ⟨_, rfl⟩
  · split
    · exact ⟨none, rfl⟩
    · split
      · rw [Filter.make_ok (by rw [fixed_fields_trimmed.2]; decide)
          (Filter.boundsProblem_single (by decide)), map_ok]
        exact ⟨_, rfl⟩
      · exact ⟨none, rfl⟩

theorem detectName_field {found : Option Filter}
    (built : detectName text entity vocabulary = .ok found) :
    ∀ f ∈ found, f.field = "projectName" ∨
      ∃ field, vocabulary.nameField? entity = some field ∧ f.field = Text.trimWhite field := by
  unfold detectName at built
  dsimp only at built
  split at built
  · next field name named =>
    obtain ⟨_, -, mapped⟩ := Option.bind_eq_some_iff.mp named
    obtain ⟨_, known, same⟩ := Option.map_eq_some_iff.mp mapped
    cases same
    exact fun f member => .inr ⟨field, known, field_of_made built f member⟩
  · split at built
    · cases built
      simp
    · -- a project name
      split at built
      · exact fun f member => .inl ((field_of_made built f member).trans fixed_fields_trimmed.2)
      · cases built
        simp

theorem amountOrDefault_named (field : String) :
    (if field.isEmpty then "amount" else field).isEmpty = false := by
  split
  · decide
  · simpa using ‹¬field.isEmpty = true›

theorem detectSort_ok (filled : vocabulary.sortFieldSynonyms.Filled) :
    ∃ found, detectSort text entity vocabulary = .ok found := by
  unfold detectSort
  dsimp only
  split
  · exact ⟨_, by rw [SortOrder.make_ok (by decide), map_ok]⟩
  · split
    · exact ⟨_, by rw [SortOrder.make_ok (by decide), map_ok]⟩
    · -- the superlatives of amounts sort by the kind's amount field, `amount` when it has none
      split
      · rw [SortOrder.make_ok ?largestNamed, map_ok]
        · exact ⟨_, rfl⟩
        · split
          · exact amountOrDefault_named _
          · decide
      · split
        · rw [SortOrder.make_ok ?smallestNamed, map_ok]
          · exact ⟨_, rfl⟩
          · split
            · exact amountOrDefault_named _
            · decide
        · -- a sort word the vocabulary knows names its field
          split
          · split
            · next known =>
              have named := isEmpty_of_trimWhite (Table.lookup_filled filled known)
              exact ⟨_, by rw [SortOrder.make_ok named, map_ok]⟩
            · exact ⟨none, rfl⟩
          · exact ⟨none, rfl⟩

end Detectors

end NaturalQuery
