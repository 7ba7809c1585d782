import NaturalQuery.Proofs.AmountRange

/-!
Reading an amount never fails and never gives a negative amount. Each of the three forms
captures a numeral that, once its commas are dropped, is a run of decimal digits with an
optional fraction of a point and digits, which is the syntax a double is read from; so the
reader finds an amount exactly when some form occurs and the number times its multiplier is
finite. The sign comes from the model of doubles: reading a decimal, multiplying and dividing
round a value of the signs of their operands, and packing keeps the sign bit, so every double
the reader builds has its sign bit clear, and a finite double with a clear sign bit is not
below zero.
-/

namespace NaturalQuery

open Text Float.Model Float.Model.UnpackedFloat

section Signs

def isNegative : UnpackedFloat.Sign → Bool
  | .negative => true
  | .positive => false

/-- Whether an unpacked double carries the negative sign; not-a-number does not, as the one NaN
the model packs has its sign bit clear. -/
def negativeSign : UnpackedFloat → Bool
  | .infinity s => isNegative s
  | .notANumber => false
  | .zero s => isNegative s
  | .finite s _ _ _ => isNegative s

def SignClear (x : Float) : Prop := negativeSign x.toModel.unpack = false

@[simp] theorem isNegative_mul (s t : UnpackedFloat.Sign) :
    isNegative (s * t) = (isNegative s != isNegative t) := by
  cases s <;> cases t <;> rfl

@[simp] theorem isNegative_div (s t : UnpackedFloat.Sign) :
    isNegative (s / t) = (isNegative s != isNegative t) := by
  cases s <;> cases t <;> rfl

theorem roundWithAccuracy_sign (spec : Format) (s : UnpackedFloat.Sign) (m : Nat) (e : Int)
    (acc : Accuracy) : negativeSign (roundWithAccuracy spec s m e acc) = isNegative s := by
  unfold roundWithAccuracy
  dsimp only
  split <;> rfl

theorem normalize_sign (spec : Format) (n : Nat) (e : Int) :
    negativeSign (UnpackedFloat.normalize spec n e .positive) = false := by
  unfold UnpackedFloat.normalize
  split
  · next below => simp [compare, compareOfLessAndEq] at below
  · rfl
  · exact roundWithAccuracy_sign ..

theorem mul_sign (spec : Format) {a b : UnpackedFloat} (left : negativeSign a = false)
    (right : negativeSign b = false) : negativeSign (UnpackedFloat.mul spec a b) = false := by
  cases a <;> cases b <;> simp only [UnpackedFloat.mul, roundWithAccuracy_sign] <;>
    simp_all [negativeSign]

theorem div_sign (spec : Format) {a b : UnpackedFloat} (left : negativeSign a = false)
    (right : negativeSign b = false) : negativeSign (UnpackedFloat.div spec a b) = false := by
  cases a <;> cases b <;> simp only [UnpackedFloat.div, roundWithAccuracy_sign] <;>
    simp_all [negativeSign]

theorem ofScientific_sign (spec : Format) (m : Nat) (e : Int) :
    negativeSign (UnpackedFloat.ofScientific spec m e) = false := by
  unfold UnpackedFloat.ofScientific
  split
  · rfl
  · split
    · rfl
    · split
      · rfl
      · split
        · exact mul_sign spec rfl rfl
        · exact div_sign spec rfl rfl

theorem unpack_sign {spec : Format} {b : BitVec spec.numBits} (clear : unpackSign b = 0#1) :
    negativeSign (UnpackedFloat.unpack spec b) = false := by
  unfold UnpackedFloat.unpack
  simp only [clear, Sign.ofBitVec]
  split
  · split <;> rfl
  · split
    · split <;> rfl
    · rfl

theorem packComponents_sign (spec : Format) (s : UnpackedFloat.Sign)
    (e : BitVec spec.exponentBits) (m : BitVec spec.mantissaBitsWithoutImplicit) :
    unpackSign (packComponents spec s e m) = s.toBitVec := by
  apply BitVec.eq_of_getLsbD_eq
  intro i within
  obtain rfl : i = 0 := by omega
  simp [unpackSign, packComponents, BitVec.getLsbD_append, BitVec.getElem_append]

theorem pack_sign {spec : Format} {u : UnpackedFloat} (positive : negativeSign u = false) :
    unpackSign (UnpackedFloat.pack spec u) = 0#1 := by
  have sign : ∀ s, isNegative s = false → s.toBitVec = 0#1 := by
    intro s
    cases s <;> simp [isNegative, Sign.toBitVec]
  cases u with
  | notANumber => exact packComponents_sign ..
  | infinity s => exact (packComponents_sign ..).trans (sign s positive)
  | zero s => exact (packComponents_sign ..).trans (sign s positive)
  | finite s m e _ =>
    unfold UnpackedFloat.pack
    dsimp only
    split
    · exact (packComponents_sign ..).trans (sign s positive)
    · split <;> exact (packComponents_sign ..).trans (sign s positive)

theorem signClear_pack {u : UnpackedFloat} (positive : negativeSign u = false) :
    SignClear (Float.ofModel (Float.Model.pack u)) :=
  unpack_sign (pack_sign positive)

theorem SignClear.mul {x y : Float} (left : SignClear x) (right : SignClear y) :
    SignClear (x * y) :=
  signClear_pack (mul_sign _ left right)

theorem SignClear.div {x y : Float} (left : SignClear x) (right : SignClear y) :
    SignClear (x / y) :=
  signClear_pack (div_sign _ left right)

theorem signClear_toFloat (n : UInt64) : SignClear n.toFloat :=
  signClear_pack (normalize_sign _ _ _)

theorem signClear_ofScientific (m : Nat) (s : Bool) (e : Nat) :
    SignClear (Float.ofScientific m s e) := by
  have table : ∀ x ∈ Float.exactlyRepresentablePowersOfTen.toList,
      negativeSign x.toModel.unpack = false := by decide
  have ten : ∀ i (within : i < Float.exactlyRepresentablePowersOfTen.size),
      SignClear Float.exactlyRepresentablePowersOfTen[i] :=
    fun i within => table _ (Array.getElem_mem_toList within)
  unfold Float.ofScientific
  split
  · split
    · exact (signClear_toFloat _).div (ten _ _)
    · exact (signClear_toFloat _).mul (ten _ _)
  · exact signClear_pack (ofScientific_sign _ _ _)

theorem float_le_iff (x y : Float) :
    x ≤ y ↔ (x.toModel.unpack.compare y.toModel.unpack).any (·.isLE) := by
  simp only [LE.le, Float.le, Float.Model.le, UnpackedFloat.le]
  exact decide_eq_true_iff

theorem SignClear.nonneg {x : Float} (clear : SignClear x) (finite : x.isFinite = true) : 0 ≤ x := by
  have zero : (0 : Float).toModel.unpack = .zero .positive := rfl
  rw [float_le_iff, zero]
  simp only [Float.isFinite, Float.Model.isFinite] at finite
  unfold SignClear at clear
  generalize x.toModel.unpack = u at finite clear ⊢
  rcases u with ⟨_ | _⟩ | _ | ⟨_ | _⟩ | ⟨_ | _, m, e, _⟩ <;>
    simp_all [UnpackedFloat.compare, UnpackedFloat.isFinite, negativeSign, isNegative]

end Signs

section Numerals

def Fraction (f : List Char) : Prop :=
  f = [] ∨ ∃ digits, f = '.' :: digits ∧ digits ≠ [] ∧ ∀ c ∈ digits, isDigit c = true

/-- A numeral that a double is read from: at least one decimal digit, then an optional
fraction. -/
def FloatNumeral (cs : List Char) : Prop :=
  ∃ whole fraction, cs = whole ++ fraction ∧ whole ≠ [] ∧ (∀ c ∈ whole, isDigit c = true) ∧
    Fraction fraction

theorem spanFraction_fraction (x : List Char) : Fraction (spanFraction x).1 := by
  rcases spanFraction_cases x with none | ⟨rest, -, digits, fraction⟩
  · exact .inl (by rw [none])
  · rw [fraction]
    exact .inr ⟨_, rfl, digits, fun c member => List.mem_takeWhile_imp member⟩

theorem comma_not_digit : isDigit ',' = false := by
  simp [isDigit_of_ascii]

theorem Fraction.filter_comma {f : List Char} (fraction : Fraction f) :
    f.filter (· ≠ ',') = f := by
  refine List.filter_eq_self.mpr fun c member => ?_
  rcases fraction with rfl | ⟨digits, rfl, -, allDigits⟩
  · cases member
  · rcases List.mem_cons.mp member with rfl | inner
    · decide
    · have digit := allDigits c inner
      simp only [ne_eq, decide_eq_true_eq]
      rintro rfl
      simp [comma_not_digit] at digit

theorem filter_comma_digits {body : List Char} (chars : ∀ c ∈ body, isDigit c = true ∨ c = ',') :
    ∀ c ∈ body.filter (· ≠ ','), isDigit c = true := by
  intro c member
  obtain ⟨inside, kept⟩ := List.mem_filter.mp member
  rcases chars c inside with digit | rfl
  · exact digit
  · simp at kept

theorem FloatNumeral.of_parts {whole body f : List Char} (nonempty : whole ≠ [])
    (digits : ∀ c ∈ whole, isDigit c = true) (chars : ∀ c ∈ body, isDigit c = true ∨ c = ',')
    (fraction : Fraction f) : FloatNumeral ((whole ++ body ++ f).filter (· ≠ ',')) := by
  have wholeKept : whole.filter (· ≠ ',') = whole := by
    refine List.filter_eq_self.mpr fun c member => ?_
    have digit := digits c member
    simp only [ne_eq, decide_eq_true_eq]
    rintro rfl
    simp [comma_not_digit] at digit
  refine ⟨whole ++ body.filter (· ≠ ','), f, ?_, ?_, ?_, fraction⟩
  · rw [List.filter_append, List.filter_append, wholeKept, fraction.filter_comma]
  · exact fun empty => nonempty (List.append_eq_nil_iff.mp empty).1
  · intro c member
    rcases List.mem_append.mp member with inWhole | inBody
    · exact digits c inWhole
    · exact filter_comma_digits chars c inBody

theorem spanNumeral_floatNumeral {cs numeral tail : List Char}
    (spanned : spanNumeral cs = some (numeral, tail)) : FloatNumeral (numeral.filter (· ≠ ',')) := by
  cases cs with
  | nil => cases spanned
  | cons d rest =>
    by_cases digit : isDigit d = true
    · simp only [spanNumeral, digit, ↓reduceIte, Option.some.injEq, Prod.mk.injEq] at spanned
      obtain ⟨rfl, -⟩ := spanned
      have chars : ∀ c ∈ rest.takeWhile (fun c => isDigit c || c == ','), isDigit c = true ∨ c = ',' := by
        intro c member
        simpa using List.mem_takeWhile_imp member
      have parts := FloatNumeral.of_parts (List.cons_ne_nil d []) (by simpa using digit) chars
        (spanFraction_fraction
          (rest.drop (rest.takeWhile fun c => isDigit c || c == ',').length))
      simpa only [List.singleton_append, List.cons_append, List.nil_append] using parts
    · simp [spanNumeral, digit] at spanned

theorem dollarForm_floatNumeral {before : Option Char} {rest numeral : List Char} {thousands : Bool}
    (found : dollarForm before rest = some (numeral, thousands)) :
    FloatNumeral (numeral.filter (· ≠ ',')) := by
  unfold dollarForm at found
  split at found
  · obtain ⟨⟨_, tail⟩, spanned, same⟩ := Option.map_eq_some_iff.mp found
    cases same
    exact spanNumeral_floatNumeral spanned
  · cases found

theorem thousandsForm_floatNumeral {before : Option Char} {rest numeral : List Char}
    (found : thousandsForm before rest = some numeral) :
    FloatNumeral (numeral.filter (· ≠ ',')) := by
  unfold thousandsForm at found
  dsimp only at found
  split at found
  · cases found
  · next nonempty =>
    obtain ⟨_, -, same⟩ := Option.map_eq_some_iff.mp found
    cases same
    have parts := @FloatNumeral.of_parts _ [] _ (by simpa using nonempty)
      (fun c member => List.mem_takeWhile_imp member) (by simp)
      (spanFraction_fraction (rest.drop (rest.takeWhile isDigit).length))
    simpa using parts

theorem spanGroups_chars (fuel : Nat) (cs : List Char) :
    ∀ c ∈ (spanGroups fuel cs).1, isDigit c = true ∨ c = ',' := by
  induction fuel generalizing cs with
  | zero => simp [spanGroups]
  | succ fuel ih =>
    unfold spanGroups
    split
    · next a b c rest =>
      split
      · next digits =>
        simp only [Bool.and_eq_true] at digits
        intro x member
        simp only [List.mem_cons] at member
        rcases member with rfl | rfl | rfl | rfl | more
        · exact .inr rfl
        · exact .inl digits.1.1
        · exact .inl digits.1.2
        · exact .inl digits.2
        · exact ih rest x more
      · simp
    · simp

theorem dollarsForm_floatNumeral {before : Option Char} {rest numeral : List Char}
    (found : dollarsForm before rest = some numeral) :
    FloatNumeral (numeral.filter (· ≠ ',')) := by
  unfold dollarsForm at found
  dsimp only at found
  split at found
  · cases found
  · next nonempty =>
    obtain ⟨_, -, accepted⟩ := Option.bind_eq_some_iff.mp found
    obtain ⟨-, same⟩ := Option.ite_none_right_eq_some.mp accepted
    obtain rfl := Option.some.inj same
    exact FloatNumeral.of_parts (by simpa using nonempty)
      (fun c member => List.mem_takeWhile_imp member) (spanGroups_chars _ _)
      (spanFraction_fraction _)

end Numerals

/-- The numeral and the multiplier of the first form of an amount that a text holds: the dollar
form (a thousand with a `k`, else one), else the thousands form, else the dollars form. -/
def firstAmountForm (cs : List Char) : Option (List Char × Float) :=
  match search dollarForm cs with
  | some (numeral, thousands) => some (numeral, if thousands then 1000.0 else 1.0)
  | none =>
    match search thousandsForm cs with
    | some numeral => some (numeral, 1000.0)
    | none => (search dollarsForm cs).map (·, 1.0)

theorem parseAmount_eq (text : Option String) :
    parseAmount text = (firstAmountForm (text.getD "").toList).bind
      fun (numeral, multiplier) => amountOf numeral multiplier := by
  unfold parseAmount firstAmountForm
  dsimp only
  cases search dollarForm (text.getD "").toList with
  | some found => rfl
  | none =>
    cases search thousandsForm (text.getD "").toList with
    | some numeral => rfl
    | none => cases search dollarsForm (text.getD "").toList <;> rfl

theorem firstAmountForm_spec {cs numeral : List Char} {multiplier : Float}
    (found : firstAmountForm cs = some (numeral, multiplier)) :
    FloatNumeral (numeral.filter (· ≠ ',')) ∧ SignClear multiplier := by
  have thousand : SignClear 1000.0 := signClear_ofScientific _ _ _
  have one : SignClear 1.0 := signClear_ofScientific _ _ _
  unfold firstAmountForm at found
  split at found
  · next thousands dollar =>
    cases found
    obtain ⟨_, _, hit⟩ := searchFrom_sound dollar
    refine ⟨dollarForm_floatNumeral hit, ?_⟩
    split
    · exact thousand
    · exact one
  · split at found
    · next plain =>
      cases found
      obtain ⟨_, _, hit⟩ := searchFrom_sound plain
      exact ⟨thousandsForm_floatNumeral hit, thousand⟩
    · obtain ⟨_, worded, same⟩ := Option.map_eq_some_iff.mp found
      cases same
      obtain ⟨_, _, hit⟩ := searchFrom_sound worded
      exact ⟨dollarsForm_floatNumeral hit, one⟩

theorem amountOf_eq_some_iff {numeral : List Char} {multiplier value : Float} :
    amountOf numeral multiplier = some value ↔
      numeralValue numeral * multiplier = value ∧ value.isFinite = true := by
  unfold amountOf
  dsimp only
  split
  · next finite =>
    rw [Option.some.injEq]
    constructor
    · rintro rfl
      exact ⟨rfl, finite⟩
    · exact fun ⟨same, _⟩ => same
  · next infinite =>
    simp only [reduceCtorEq, false_iff, not_and]
    rintro rfl
    exact infinite

theorem amountOf_eq_none_iff {numeral : List Char} {multiplier : Float} :
    amountOf numeral multiplier = none ↔ (numeralValue numeral * multiplier).isFinite = false := by
  rw [Option.eq_none_iff_forall_ne_some]
  simp only [ne_eq, amountOf_eq_some_iff, not_and, forall_eq', Bool.not_eq_true]

theorem amountOf_nonneg {numeral : List Char} {multiplier value : Float}
    (clear : SignClear multiplier) (found : amountOf numeral multiplier = some value) :
    0 ≤ value := by
  obtain ⟨rfl, finite⟩ := amountOf_eq_some_iff.mp found
  exact ((signClear_ofScientific _ _ _).mul clear).nonneg finite

/-- Reading an amount never fails. Every numeral that one of the three forms captures is, once
its commas are dropped, a run of decimal digits with an optional fraction of a point and digits.
The reader finds nothing exactly when no form occurs or the number of the first form times its
multiplier is not finite, and what it finds is a finite double that is not below zero. -/
theorem parseAmount_total (text : Option String) :
    (∀ before rest numeral thousands, dollarForm before rest = some (numeral, thousands) →
        FloatNumeral (numeral.filter (· ≠ ','))) ∧
      (∀ before rest numeral, thousandsForm before rest = some numeral →
        FloatNumeral (numeral.filter (· ≠ ','))) ∧
      (∀ before rest numeral, dollarsForm before rest = some numeral →
        FloatNumeral (numeral.filter (· ≠ ','))) ∧
      (parseAmount text = none ↔ firstAmountForm (text.getD "").toList = none ∨
        ∃ numeral multiplier, firstAmountForm (text.getD "").toList = some (numeral, multiplier) ∧
          (numeralValue numeral * multiplier).isFinite = false) ∧
      ∀ value, parseAmount text = some value → value.isFinite = true ∧ 0 ≤ value := by
  refine ⟨fun _ _ _ _ => dollarForm_floatNumeral, fun _ _ _ => thousandsForm_floatNumeral,
    fun _ _ _ => dollarsForm_floatNumeral, ?none, ?some⟩
  case none =>
    rw [parseAmount_eq]
    cases form : firstAmountForm (text.getD "").toList with
    | none => simp
    | some pair =>
      obtain ⟨numeral, multiplier⟩ := pair
      simp only [Option.bind_some, reduceCtorEq, Option.some.injEq, Prod.mk.injEq, false_or,
        amountOf_eq_none_iff]
      constructor
      · exact fun infinite => ⟨numeral, multiplier, ⟨rfl, rfl⟩, infinite⟩
      · rintro ⟨_, _, ⟨rfl, rfl⟩, infinite⟩
        exact infinite
  case some =>
    intro value found
    refine ⟨parseAmount_finite found, ?_⟩
    rw [parseAmount_eq] at found
    obtain ⟨⟨numeral, multiplier⟩, form, converted⟩ := Option.bind_eq_some_iff.mp found
    exact amountOf_nonneg (firstAmountForm_spec form).2 converted

end NaturalQuery
