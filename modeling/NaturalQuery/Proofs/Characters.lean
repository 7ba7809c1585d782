import NaturalQuery.Proofs.Checks
import NaturalQuery.Text.Scan

/-!
Facts about the character classes that the amount patterns combine. A range the table search
reports holds the code point it was asked about, so two classes whose ranges are apart share no
character: no decimal digit is blank. Matching a Latin letter without regard to case reaches
beyond ASCII only through four characters: the dotted capital I, the dotless `ı`, the long `ſ`
and the Kelvin sign. So a fact about every character that matches a letter is checked on the
128 ASCII characters and these four.
-/

namespace NaturalQuery.Text

theorem RangeTable.findIn_sound {t : RangeTable} {n lo hi first : Nat}
    (found : t.findIn n lo hi = some first) :
    ∃ last, (first, last) ∈ t.ranges.toList ∧ first ≤ n ∧ n ≤ last := by
  fun_induction t.findIn n lo hi with
  | case1 => simp_all
  | case2 _ _ _ _ _ _ _ _ ih => exact ih found
  | case3 _ _ _ _ _ _ _ _ _ ih => exact ih found
  | case4 lo hi _ mid f l range notBelow notAbove =>
    obtain rfl := Option.some.inj found
    exact ⟨l, Array.mem_toList_iff.mpr (Array.mem_of_getElem? range), by omega, by omega⟩
  | case5 => cases found

theorem RangeTable.contains_sound {t : RangeTable} {n : Nat} (inside : t.contains n = true) :
    ∃ range ∈ t.ranges.toList, range.1 ≤ n ∧ n ≤ range.2 := by
  obtain ⟨first, found⟩ := Option.isSome_iff_exists.mp inside
  obtain ⟨last, member, low, high⟩ := RangeTable.findIn_sound found
  exact ⟨(first, last), member, low, high⟩

theorem isBlank_of_isDigit {c : Char} (digit : isDigit c = true) : isBlank c = false := by
  rw [← Bool.not_eq_true]
  intro blank
  obtain ⟨r₁, inDigits, low₁, high₁⟩ := RangeTable.contains_sound digit
  obtain ⟨r₂, inBlanks, low₂, high₂⟩ := RangeTable.contains_sound blank
  have apart : ∀ r₁ ∈ digitTable.ranges.toList, ∀ r₂ ∈ blankTable.ranges.toList,
      r₁.2 < r₂.1 ∨ r₂.2 < r₁.1 := by decide
  rcases apart r₁ inDigits r₂ inBlanks with before | after <;> omega

theorem of_ascii {Q : Char → Prop} (table : ∀ n : Fin 128, Q (Char.ofNat n)) {c : Char}
    (ascii : c.toNat < 128) : Q c := by
  have listed := table ⟨c.toNat, ascii⟩
  rwa [Char.ofNat_toNat] at listed

theorem ascii_classes {c : Char} (ascii : c.toNat < 128) :
    isDigit c = decide ('0' ≤ c ∧ c ≤ '9') ∧
      isBlank c = decide (9 ≤ c.toNat ∧ c.toNat ≤ 13 ∨ 28 ≤ c.toNat ∧ c.toNat ≤ 32) ∧
      isWordChar c = (c.isAlphanum || c == '_') :=
  of_ascii (Q := fun c => isDigit c = decide ('0' ≤ c ∧ c ≤ '9') ∧
      isBlank c = decide (9 ≤ c.toNat ∧ c.toNat ≤ 13 ∨ 28 ≤ c.toNat ∧ c.toNat ≤ 32) ∧
      isWordChar c = (c.isAlphanum || c == '_'))
    (by decide +kernel) ascii

theorem isDigit_of_ascii {c : Char} (ascii : c.toNat < 128) :
    isDigit c = decide ('0' ≤ c ∧ c ≤ '9') :=
  (ascii_classes ascii).1

theorem isBlank_of_ascii {c : Char} (ascii : c.toNat < 128) :
    isBlank c = decide (9 ≤ c.toNat ∧ c.toNat ≤ 13 ∨ 28 ≤ c.toNat ∧ c.toNat ≤ 32) :=
  (ascii_classes ascii).2.1

theorem isWordChar_of_ascii {c : Char} (ascii : c.toNat < 128) :
    isWordChar c = (c.isAlphanum || c == '_') :=
  (ascii_classes ascii).2.2

theorem runFor_sound {runs : Array CaseRun} {n lo hi : Nat} {run : CaseRun}
    (found : runFor runs n lo hi = some run) :
    run ∈ runs.toList ∧ run.first ≤ n ∧ n ≤ run.last ∧ (n - run.first) % run.step = 0 := by
  fun_induction runFor runs n lo hi with
  | case1 => simp_all
  | case2 _ _ _ _ _ _ _ ih => exact ih found
  | case3 _ _ _ _ _ _ _ _ ih => exact ih found
  | case4 lo hi _ mid r range notBelow notAbove aligned =>
    obtain rfl := Option.some.inj found
    exact ⟨Array.mem_toList_iff.mpr (Array.mem_of_getElem? range), by omega, by omega,
      by simpa using aligned⟩
  | case5 => cases found
  | case6 => cases found

theorem char_ofNat_eq {m : Nat} {c : Char} (made : Char.ofNat m = c) (nonzero : c.toNat ≠ 0) :
    m = c.toNat := by
  unfold Char.ofNat at made
  split at made
  · rw [← made]
    rfl
  · exact absurd (by rw [← made]; rfl) nonzero

theorem foldChar_of_latin {c : Char}
    (latin : (0 < (foldChar c).toNat ∧ (foldChar c).toNat < 128) ∨ (foldChar c).toNat = 0x131 ∨
      (foldChar c).toNat = 0x17F) :
    c.toNat < 128 ∨ c.toNat = 0x130 ∨ c.toNat = 0x131 ∨ c.toNat = 0x17F ∨ c.toNat = 0x212A := by
  by_cases ascii : c.toNat < 128
  · exact .inl ascii
  by_cases dotted : c.toNat = 0x130
  · exact .inr (.inl dotted)
  by_cases sigma : c.toNat = 0x3A3
  · -- the capital sigma folds to `σ`
    have folded : foldChar c = Char.ofNat 0x3C3 := by simp [foldChar, sigma]
    rw [folded] at latin
    exact absurd latin (by decide)
  cases found : runFor lowerRuns c.toNat 0 lowerRuns.size with
  | none =>
    -- a character the table does not move is its own lower case
    have folded : foldChar c = c := by simp [foldChar, ascii, dotted, sigma, found]
    rw [folded] at latin
    omega
  | some run =>
    have folded : foldChar c = Char.ofNat (((c.toNat : Int) + run.shift).toNat) := by
      simp [foldChar, ascii, dotted, sigma, found]
    obtain ⟨member, low, high, aligned⟩ := runFor_sound found
    have shifted : (((c.toNat : Int) + run.shift).toNat) = (foldChar c).toNat :=
      char_ofNat_eq folded.symm (by omega)
    -- each run is checked at the one code point it would send to each target
    have table : ∀ run ∈ lowerRuns.toList, ∀ t : Nat, t ∈ List.range' 1 127 ++ [0x131, 0x17F] →
        0 ≤ (t : Int) - run.shift → run.first ≤ ((t : Int) - run.shift).toNat →
        ((t : Int) - run.shift).toNat ≤ run.last →
        (((t : Int) - run.shift).toNat - run.first) % run.step = 0 →
        128 ≤ ((t : Int) - run.shift).toNat → ((t : Int) - run.shift).toNat = 0x212A := by
      decide +kernel
    rw [← shifted] at latin
    have back : ((((c.toNat : Int) + run.shift).toNat : Nat) : Int) - run.shift = c.toNat := by
      omega
    have listed : ((c.toNat : Int) + run.shift).toNat ∈ List.range' 1 127 ++ [0x131, 0x17F] := by
      simp only [List.mem_append, List.mem_range'_1, List.mem_cons, List.not_mem_nil]
      omega
    have kelvin := table run member _ listed (by rw [back]; omega) (by rw [back]; simpa using low)
      (by rw [back]; simpa using high) (by rw [back]; simpa using aligned) (by rw [back]; omega)
    rw [back] at kelvin
    exact .inr (.inr (.inr (.inr (by simpa using kelvin))))

theorem letterMatches_of_latin {p c : Char} (ascii : 0 < p.toNat ∧ p.toNat < 128)
    (hit : letterMatches p c = true) :
    c.toNat < 128 ∨ c.toNat = 0x130 ∨ c.toNat = 0x131 ∨ c.toNat = 0x17F ∨ c.toNat = 0x212A := by
  apply foldChar_of_latin
  simp only [letterMatches, Bool.or_eq_true, beq_iff_eq, Bool.and_eq_true] at hit
  rcases hit with (same | ⟨-, dotless⟩) | ⟨-, long⟩
  · exact .inl (same ▸ ascii)
  · exact .inr (.inl dotless)
  · exact .inr (.inr long)

theorem forall_letterMatches {p : Char} (ascii : 0 < p.toNat ∧ p.toNat < 128) {Q : Char → Prop}
    (table : ∀ n : Fin 128, letterMatches p (Char.ofNat n) = true → Q (Char.ofNat n))
    (others : ∀ n ∈ [0x130, 0x131, 0x17F, 0x212A],
      letterMatches p (Char.ofNat n) = true → Q (Char.ofNat n))
    {c : Char} (hit : letterMatches p c = true) : Q c := by
  rw [← Char.ofNat_toNat c] at hit ⊢
  rcases letterMatches_of_latin ascii (by rwa [Char.ofNat_toNat] at hit) with
    small | named | named | named | named
  · exact table ⟨c.toNat, small⟩ hit
  all_goals exact others _ (by simp [named]) hit

theorem letterMatches_k {c : Char} (mark : letterMatches 'k' c = true) :
    isBlank c = false ∧ isDigit c = false ∧ isWordChar c = true ∧ c ≠ ',' ∧ c ≠ '.' :=
  forall_letterMatches (Q := fun c => isBlank c = false ∧ isDigit c = false ∧
      isWordChar c = true ∧ c ≠ ',' ∧ c ≠ '.') (by decide) (by decide +kernel) (by decide +kernel)
    mark

theorem isWordChar_of_letterMatches {p c : Char} (letter : 'a' ≤ p ∧ p ≤ 'z')
    (hit : letterMatches p c = true) : isWordChar c = true := by
  have table : ∀ p ∈ List.range' 97 26, ∀ n : Fin 128,
      letterMatches (Char.ofNat p) (Char.ofNat n) = true → isWordChar (Char.ofNat n) = true := by
    decide +kernel
  have bounds : 97 ≤ p.toNat ∧ p.toNat ≤ 122 := letter
  have listed : p.toNat ∈ List.range' 97 26 := by
    simp only [List.mem_range'_1]
    omega
  refine forall_letterMatches (by omega) (Q := fun c => isWordChar c = true)
    (fun n matched => table _ listed n ?_) ?_ hit
  · rwa [Char.ofNat_toNat]
  · intro n member _
    simp only [List.mem_cons, List.not_mem_nil, or_false] at member
    rcases member with rfl | rfl | rfl | rfl <;> decide +kernel

theorem letterMatches_digit {p c : Char} (ascii : 0 < p.toNat ∧ p.toNat < 128)
    (digit : isDigit c = true) (hit : letterMatches p c = true) : isDigit p = true := by
  -- an ASCII digit is its own lower case, and none of the four others is a digit
  have table : ∀ n : Fin 128, isDigit (Char.ofNat n) = true →
      foldChar (Char.ofNat n) = Char.ofNat n ∧ (Char.ofNat n).toNat < 128 := by
    decide +kernel
  have others : ∀ n ∈ [0x130, 0x131, 0x17F, 0x212A], isDigit (Char.ofNat n) = true →
      foldChar (Char.ofNat n) = Char.ofNat n ∧ (Char.ofNat n).toNat < 128 := by
    decide +kernel
  have plain : isDigit c = true → foldChar c = c ∧ c.toNat < 128 :=
    forall_letterMatches ascii (Q := fun c => isDigit c = true → foldChar c = c ∧ c.toNat < 128)
      (fun n _ => table n) (fun n member _ => others n member) hit
  obtain ⟨folded, small⟩ := plain digit
  simp only [letterMatches, folded, Bool.or_eq_true, beq_iff_eq, Bool.and_eq_true] at hit
  rcases hit with (same | ⟨-, wide⟩) | ⟨-, wide⟩
  · rwa [← same]
  all_goals omega

theorem letterMatches_eq_of_hit {q c : Char} (ascii : q.toNat < 128) (plain : q ≠ 'i' ∧ q ≠ 's')
    (hit : letterMatches q c = true) (p : Char) : letterMatches p c = (q == p) := by
  have folded : foldChar c = q := by
    simpa [letterMatches, plain.1, plain.2] using hit
  have narrow : (q.toNat == 0x131) = false ∧ (q.toNat == 0x17F) = false := by
    simp only [beq_eq_false_iff_ne]
    omega
  simp only [letterMatches, folded, narrow.1, narrow.2, Bool.and_false, Bool.or_false]

end NaturalQuery.Text
