import NaturalQuery.Cli
import NaturalQuery.Proofs.Interpretation

/-!
How a run of the command that reads a question ends. The configuration is refused, and the run
ends with status 2 before the question is read; or its limits are in order, the default from 1
to the largest and the largest at most 1000. Then, once the question is read with the standard
tables, the run ends with status 1 exactly when the question asks for a count outside 1 to the
largest, and with status 0 otherwise: a question that asks for no count passes, because the
default is in range.
-/

namespace NaturalQuery

open Time

/-- The limits of a configuration in order: the default from 1 to the largest, and the largest
at most the greatest count there is. -/
structure Settings.Sound (s : Settings) : Prop where
  defaultPositive : 1 ≤ s.defaultLimit
  defaultWithin : s.defaultLimit ≤ s.maxLimit
  maxBounded : s.maxLimit ≤ greatestLimit

theorem loadSettings_sound {env : Environment} {file : EnvFile.Bindings} {s : Settings}
    (loaded : loadSettings env file = .ok s) : s.Sound := by
  unfold loadSettings at loaded
  dsimp only at loaded
  split at loaded
  · next d m level _ readMax _ =>
    split at loaded
    · cases loaded
    · next inOrder =>
      cases loaded
      -- the largest is 1000 when unset, and otherwise passed its own check
      have capped : m ≤ greatestLimit := by
        split at readMax
        · obtain ⟨n, -, checked⟩ := bind_eq_ok.mp readMax
          split at checked
          · cases checked
          · next within =>
            cases checked
            simp only [Bool.or_eq_true, decide_eq_true_eq, not_or] at within
            simp only [greatestLimit]
            omega
        · cases readMax
          decide
      simp only [Bool.or_eq_true, decide_eq_true_eq, not_or] at inOrder
      refine ⟨?_, ?_, capped⟩ <;> dsimp only <;> omega
  · cases loaded

theorem Settings.Sound.limit_in_range {s : Settings} (sound : s.Sound) (found : Option Int) :
    (1 ≤ found.getD s.defaultLimit ∧ found.getD s.defaultLimit ≤ s.maxLimit) ↔
      (found.any fun n => n < 1 || s.maxLimit < n) = false := by
  cases found with
  | none => simpa using ⟨sound.defaultPositive, sound.defaultWithin⟩
  | some n =>
    simp only [Option.getD_some, Option.any_some, Bool.or_eq_false_iff, decide_eq_false_iff_not,
      Int.not_lt]

/-- How a run that reads a question ends: with status 2 when the configuration is refused;
and when it is read, its limits are in order and, once the question is read, the run ends with
status 1 exactly when the question asks for a count outside 1 to the largest, 0 otherwise. -/
theorem run_exit_code (inv : Cli.Invocation) (request : Cli.Request)
    (accepted : Cli.readArguments inv.zone inv.args = .ok (.request request)) :
    (∀ issues, loadSettings inv.sources.1 inv.sources.2.1 = .error issues →
      ∃ report, Cli.run inv = .ok report ∧ report.exitCode = 2) ∧
    (∀ settings, loadSettings inv.sources.1 inv.sources.2.1 = .ok settings →
      settings.Sound ∧
      ∀ now query, inv.now request = .ok now →
        interpret ⟨now, inv.zone⟩ Vocabulary.standard settings.defaultLimit
          (some (" ".intercalate request.words)) = .ok query →
        ∃ report, Cli.run inv = .ok report ∧
          report.exitCode =
            if (detectLimit (Text.clean (some (Text.trim (" ".intercalate request.words))))).any
              (fun n => n < 1 || settings.maxLimit < n) then 1 else 0) := by
  rcases sources : inv.sources with ⟨env, fileVars, warnings⟩
  simp only [Cli.run, accepted, ok_bind, sources]
  refine ⟨fun issues refused => ?_, fun settings loaded => ⟨loadSettings_sound loaded, ?_⟩⟩
  · -- the configuration is refused before the question is read
    rw [refused]
    exact ⟨_, rfl, rfl⟩
  · intro now query clock read
    obtain ⟨_, _, _, _, _, rfl, -, -, -, -, -, -, limit⟩ := interpret_eq_ok read
    have passes := interpret_standard_passes_iff read settings.maxLimit
    rw [limit, Option.getD_some, (loadSettings_sound loaded).limit_in_range] at passes
    rw [loaded]
    dsimp only
    rw [clock, ok_bind, read, ok_bind]
    -- the run passes exactly when the checks report nothing
    split
    · next empty =>
      rw [passes.mp (List.isEmpty_iff.mp empty)]
      exact ⟨_, rfl, rfl⟩
    · next reported =>
      have out := fun inRange => reported (List.isEmpty_iff.mpr (passes.mpr inRange))
      simp only [imp_false, Bool.not_eq_false] at out
      rw [out]
      exact ⟨_, rfl, rfl⟩

/-- Three runs that ask about invoices at noon on a spring day. With no configuration the run
passes and ends with status 0; asking for the top 5000 is a count out of range, status 1; and a
largest count of 5000 in the environment is refused, status 2. -/
theorem run_exit_code_on_invoices :
    (∃ report, Cli.run ⟨["invoices"], [], none, SystemZone.ofSetting "",
        ⟨⟨2026, 3, 8⟩, 12, 0, 0, 0⟩⟩ = .ok report ∧ report.exitCode = 0) ∧
    (∃ report, Cli.run ⟨["top", "5000", "invoices"], [], none, SystemZone.ofSetting "",
        ⟨⟨2026, 3, 8⟩, 12, 0, 0, 0⟩⟩ = .ok report ∧ report.exitCode = 1) ∧
    (∃ report, Cli.run ⟨["invoices"], [("QUERY_MAX_LIMIT", "5000")], none,
        SystemZone.ofSetting "", ⟨⟨2026, 3, 8⟩, 12, 0, 0, 0⟩⟩ = .ok report ∧
      report.exitCode = 2) := by
  -- each question is read at noon UTC, a regular moment
  have reads : ∀ words : List String, ∃ query, interpret
      ⟨⟨⟨⟨2026, 3, 8⟩, 12, 0, 0, 0⟩, .fixed 0⟩, SystemZone.ofSetting ""⟩ Vocabulary.standard 25
      (some (" ".intercalate words)) = .ok query := fun _ =>
    interpret_ok (SystemZone.ofSetting_moderate "") SystemZone.ofSetting_empty_narrow
      ⟨by decide, by decide, by decide, fun _ fixed => by cases fixed; decide⟩
      Vocabulary.standard_filled 25 _
  have loaded : loadSettings [] [] = .ok ⟨25, 1000, .info⟩ := rfl
  have counts : detectLimit (Text.clean (some (Text.trim (" ".intercalate ["invoices"])))) = none ∧
      detectLimit (Text.clean (some (Text.trim (" ".intercalate ["top", "5000", "invoices"])))) =
        some 5000 ∧
      (loadSettings [("QUERY_MAX_LIMIT", "5000")] []).toOption.isNone = true := by decide +kernel
  obtain ⟨issues, bad⟩ : ∃ issues, loadSettings [("QUERY_MAX_LIMIT", "5000")] [] = .error issues := by
    cases result : loadSettings [("QUERY_MAX_LIMIT", "5000")] [] with
    | error issues => exact ⟨issues, rfl⟩
    | ok settings => simp [result, Except.toOption] at counts
  obtain ⟨-, passes⟩ := run_exit_code ⟨["invoices"], [], none, SystemZone.ofSetting "",
    ⟨⟨2026, 3, 8⟩, 12, 0, 0, 0⟩⟩ ⟨["invoices"], none, false⟩ rfl
  obtain ⟨-, asks⟩ := run_exit_code ⟨["top", "5000", "invoices"], [], none,
    SystemZone.ofSetting "", ⟨⟨2026, 3, 8⟩, 12, 0, 0, 0⟩⟩ ⟨["top", "5000", "invoices"], none, false⟩ rfl
  obtain ⟨refused, -⟩ := run_exit_code ⟨["invoices"], [("QUERY_MAX_LIMIT", "5000")], none,
    SystemZone.ofSetting "", ⟨⟨2026, 3, 8⟩, 12, 0, 0, 0⟩⟩ ⟨["invoices"], none, false⟩ rfl
  obtain ⟨plain, readPlain⟩ := reads ["invoices"]
  obtain ⟨top, readTop⟩ := reads ["top", "5000", "invoices"]
  obtain ⟨report, ran, code⟩ := (passes _ loaded).2 _ plain rfl readPlain
  obtain ⟨report', ran', code'⟩ := (asks _ loaded).2 _ top rfl readTop
  rw [counts.1] at code
  rw [counts.2.1] at code'
  exact ⟨⟨report, ran, code⟩, ⟨report', ran', code'⟩, refused issues bad⟩

end NaturalQuery
