import NaturalQuery.Proofs.AmountTokens

/-!
Reading a range `between a and b`. The bounds a range takes from its two amounts are the smaller
and the larger as `min` and `max` pick them, so read in either order two finite amounts give
bounds that are equal as doubles. Where a text is followed by the `b` of `between` and ends in no
word character, a comparison or a range tried inside it reads only that text: its tokens, words
and marks all stop before the `b`, and no word of the patterns can run across a quiet end into a
`b`.
-/

namespace NaturalQuery


section RangeBounds

open Float.Model

theorem unpackedCompare_self {u : UnpackedFloat} (finite : u.isFinite = true) :
    u.compare u = some .eq := by
  rcases u with ⟨_ | _⟩ | _ | ⟨_ | _⟩ | ⟨_ | _, m, e, _⟩ <;>
    simp_all [UnpackedFloat.compare, UnpackedFloat.isFinite]

theorem unpackedCompare_isSome {u w : UnpackedFloat} (finite : u.isFinite = true)
    (finite' : w.isFinite = true) : (u.compare w).isSome = true := by
  rcases u with ⟨_ | _⟩ | _ | ⟨_ | _⟩ | ⟨_ | _, m, e, _⟩ <;>
  rcases w with ⟨_ | _⟩ | _ | ⟨_ | _⟩ | ⟨_ | _, m', e', _⟩ <;>
    simp_all [UnpackedFloat.compare, UnpackedFloat.isFinite]

theorem float_beq_iff (x y : Float) :
    (x == y) = true ↔ x.toModel.unpack.compare y.toModel.unpack = some .eq := by
  show (x.toModel.unpack.compare y.toModel.unpack == some .eq) = true ↔ _
  exact beq_iff_eq

theorem float_beq_self {x : Float} (finite : x.isFinite = true) : (x == x) = true := by
  rw [float_beq_iff]
  exact unpackedCompare_self finite

theorem float_beq_of_not_lt {x y : Float} (finite : x.isFinite = true) (finite' : y.isFinite = true)
    (notBelow : ¬ x < y) (notAbove : ¬ y < x) : (x == y) = true := by
  rw [float_beq_iff]
  rw [float_lt_iff] at notBelow notAbove
  rw [unpackedCompare_swap] at notAbove
  obtain ⟨order, compared⟩ := Option.isSome_iff_exists.mp (unpackedCompare_isSome finite finite')
  rw [compared] at notBelow notAbove ⊢
  cases order <;> simp_all [Ordering.swap]

theorem amountOf_finite {numeral : List Char} {multiplier value : Float}
    (found : amountOf numeral multiplier = some value) : value.isFinite = true := by
  unfold amountOf at found
  dsimp only at found
  split at found
  · next finite =>
    cases found
    exact finite
  · cases found

theorem parseAmount_finite {text : Option String} {value : Float}
    (found : parseAmount text = some value) : value.isFinite = true := by
  unfold parseAmount at found
  dsimp only at found
  split at found
  · exact amountOf_finite found
  · split at found
    · exact amountOf_finite found
    · split at found
      · exact amountOf_finite found
      · cases found

theorem tokenAmount_finite {token : List Char} {value : Float} (found : tokenAmount token = some value) :
    value.isFinite = true :=
  parseAmount_finite found

/-- The bounds of a range over two amounts read in this order: the first unless the second is
below it, and the first unless the second is above it, as `min` and `max` pick them. -/
def rangeBounds (first second : Float) : Float × Float :=
  (if second < first then second else first, if second > first then second else first)

/-- `lo` and `hi` are among the amounts `x` and `y`, `lo` above neither, `hi` below neither, and
`lo` not above `hi`. -/
def Bounds (x y lo hi : Float) : Prop :=
  (lo = x ∨ lo = y) ∧ (hi = x ∨ hi = y) ∧ ¬ x < lo ∧ ¬ y < lo ∧ ¬ hi < x ∧ ¬ hi < y ∧ ¬ lo > hi

theorem rangeBounds_bounds (x y : Float) : Bounds x y (rangeBounds x y).1 (rangeBounds x y).2 := by
  refine ⟨?_, ?_, ?_, ?_, ?_, ?_, float_least_le_most x y⟩
  all_goals
    by_cases below : y < x
    · have notAbove : ¬ x < y := float_lt_asymm below
      simp [rangeBounds, below, notAbove, float_lt_irrefl]
    · by_cases above : x < y
      · simp [rangeBounds, below, above, float_lt_irrefl]
      · simp [rangeBounds, below, above, float_lt_irrefl]

theorem rangeBounds_swap {x y : Float} (finite : x.isFinite = true) (finite' : y.isFinite = true) :
    ((rangeBounds x y).1 == (rangeBounds y x).1) = true ∧
      ((rangeBounds x y).2 == (rangeBounds y x).2) = true := by
  by_cases below : y < x
  · have notAbove : ¬ x < y := float_lt_asymm below
    simp [rangeBounds, below, notAbove, float_beq_self finite, float_beq_self finite']
  · by_cases above : x < y
    · simp [rangeBounds, below, above, float_beq_self finite, float_beq_self finite']
    · simp [rangeBounds, below, above, float_beq_of_not_lt finite finite' above below]

end RangeBounds


open Text

/-- A text that ends in no word character (an empty text among them). -/
def EndsQuiet (x : List Char) : Prop := ∀ c ∈ x.getLast?, isWordChar c = false

theorem EndsQuiet.of_append {x y : List Char} (quiet : EndsQuiet (x ++ y)) : EndsQuiet y := by
  intro c last
  cases y with
  | nil => cases last
  | cons d y => exact quiet c (by rw [List.getLast?_append_of_ne_nil _ (by simp)]; exact last)

theorem EndsQuiet.of_suffix {x y : List Char} (quiet : EndsQuiet x) (suffix : y <:+ x) :
    EndsQuiet y := by
  obtain ⟨pre, rfl⟩ := suffix
  exact quiet.of_append

section BeforeBetween

variable {rest : List Char}

theorem span_append_stop {p : Char → Bool} {c : Char} (stop : p c = false) (x : List Char) :
    (x ++ c :: rest).takeWhile p = x.takeWhile p ∧
      (x ++ c :: rest).dropWhile p = x.dropWhile p ++ c :: rest := by
  induction x with
  | nil => simp [stop]
  | cons d x ih =>
    by_cases keep : p d = true
    · simp [List.takeWhile_cons_of_pos keep, List.dropWhile_cons_of_pos keep, ih]
    · simp [List.takeWhile_cons_of_neg keep, List.dropWhile_cons_of_neg keep]

theorem spanBlank_append_stop {c : Char} (stop : isBlank c = false) (x : List Char) :
    spanBlank (x ++ c :: rest) = ((spanBlank x).1, (spanBlank x).2 ++ c :: rest) := by
  obtain ⟨taken, dropped⟩ := @span_append_stop rest _ _ stop x
  simp [spanBlank, taken, dropped]

theorem spanFraction_append_stop (x : List Char) :
    spanFraction (x ++ 'b' :: rest) = ((spanFraction x).1, (spanFraction x).2 ++ 'b' :: rest) := by
  have notDigit : isDigit 'b' = false := by simp [isDigit_of_ascii]
  cases x with
  | nil => simp [spanFraction]
  | cons c r =>
    by_cases point : c = '.'
    · subst point
      obtain ⟨taken, -⟩ := @span_append_stop rest _ _ notDigit r
      have shorter : (r.takeWhile isDigit).length ≤ r.length := (List.takeWhile_prefix _).length_le
      by_cases empty : (r.takeWhile isDigit).isEmpty
      · simp [spanFraction, taken, empty]
      · simp [spanFraction, taken, empty, List.drop_append_of_le_length shorter]
    · simp [spanFraction, point]

theorem spanNumeral_append_stop (x : List Char) :
    spanNumeral (x ++ 'b' :: rest) =
      (spanNumeral x).map fun (numeral, tail) => (numeral, tail ++ 'b' :: rest) := by
  cases x with
  | nil => simp [spanNumeral, show isDigit 'b' = false by simp [isDigit_of_ascii]]
  | cons d r =>
    by_cases digit : isDigit d = true
    · have stop : (isDigit 'b' || 'b' == ',') = false := by simp [isDigit_of_ascii]
      obtain ⟨taken, -⟩ := @span_append_stop rest (fun c => isDigit c || c == ',') _ stop r
      have shorter : (r.takeWhile fun c => isDigit c || c == ',').length ≤ r.length :=
        (List.takeWhile_prefix _).length_le
      simp [spanNumeral, digit, taken, List.drop_append_of_le_length shorter,
        spanFraction_append_stop]
    · simp [spanNumeral, digit]

theorem thousandsMark_append_stop {x : List Char} (quiet : EndsQuiet x) :
    thousandsMark (x ++ 'b' :: rest) =
      (thousandsMark x).map fun (mark, after) => (mark, after ++ 'b' :: rest) := by
  have whole := List.takeWhile_append_dropWhile (p := isBlank) (l := x)
  unfold thousandsMark
  rw [spanBlank_append_stop (by simp [isBlank_of_ascii]) x]
  dsimp only [spanBlank] at whole ⊢
  cases left : x.dropWhile isBlank with
  | nil => simp [show letterMatches 'k' 'b' = false by decide]
  | cons k after =>
    cases after with
    | nil =>
      -- the text ends in `k`, which is no word character, so it is no mark
      rw [left] at whole
      have last : isWordChar k = false := quiet k (by rw [← whole]; simp)
      have notMark : letterMatches 'k' k = false := by
        cases mark : letterMatches 'k' k
        · rfl
        · rw [(letterMatches_k mark).2.2.1] at last
          cases last
      simp [notMark]
    | cons d more =>
      simp only [List.cons_append, boundaryAt, List.head?_cons]
      by_cases mark : (letterMatches 'k' k && isWordChar k != isWordChar d) = true <;> simp [mark]
theorem EndsQuiet.numeral_tail {pre r numeral tail : List Char} (quiet : EndsQuiet (pre ++ r))
    (spanned : spanNumeral (spanBlank r).2 = some (numeral, tail)) : EndsQuiet tail := by
  refine quiet.of_suffix ((List.suffix_append numeral tail).trans ?_)
  rw [← (spanNumeral_parts spanned).1]
  exact (List.dropWhile_suffix isBlank).trans (List.suffix_append pre r)

theorem amountToken_append_stop {x : List Char} (quiet : EndsQuiet x) :
    amountToken (x ++ 'b' :: rest) =
      (amountToken x).map fun (token, after) => (token, after ++ 'b' :: rest) := by
  have notBlank : isBlank 'b' = false := by simp [isBlank_of_ascii]
  cases x with
  | nil => simp [amountToken, spanBlank, spanNumeral, notBlank, show isDigit 'b' = false by simp [isDigit_of_ascii]]
  | cons c r =>
    simp only [List.cons_append, amountToken]
    split <;> split
    · next _ after₁ same₁ _ after₂ same₂ =>
      obtain ⟨rfl, rfl⟩ := List.cons.inj same₂
      obtain rfl := (List.cons.inj same₁).2
      dsimp only
      rw [spanBlank_append_stop notBlank, spanNumeral_append_stop]
      cases spanned : spanNumeral (spanBlank r).2 with
      | none => rfl
      | some found =>
        obtain ⟨numeral, tail⟩ := found
        have tailQuiet : EndsQuiet tail := @EndsQuiet.numeral_tail ['$'] _ _ _ quiet spanned
        simp only [Option.map_some, thousandsMark_append_stop tailQuiet]
        cases thousandsMark tail <;> rfl
    · next _ after₁ same₁ _ other =>
      exact absurd (by rw [(List.cons.inj same₁).1]) (other r)
    · next _ other _ after₂ same₂ =>
      exact absurd (by rw [(List.cons.inj same₂).1]) (other (r ++ 'b' :: rest))
    · dsimp only
      rw [← List.cons_append, spanBlank_append_stop notBlank, spanNumeral_append_stop]
      cases spanned : spanNumeral (spanBlank (c :: r)).2 with
      | none => rfl
      | some found =>
        obtain ⟨numeral, tail⟩ := found
        have tailQuiet : EndsQuiet tail := @EndsQuiet.numeral_tail [] _ _ _ quiet spanned
        simp only [Option.map_some, thousandsMark_append_stop tailQuiet]
        cases thousandsMark tail <;> rfl

theorem boundaryAt_append {b : Option Char} {y : List Char} (nonempty : y ≠ []) (t : List Char) :
    boundaryAt b (y ++ t) = boundaryAt b y := by
  cases y with
  | nil => exact absurd rfl nonempty
  | cons c y => rfl

theorem dropFolded_append_of_some {word y after : List Char} (dropped : dropFolded word y = some after)
    (t : List Char) : dropFolded word (y ++ t) = some (after ++ t) := by
  induction word generalizing y with
  | nil => simp_all [dropFolded]
  | cons p ps ih =>
    cases y with
    | nil => simp [dropFolded] at dropped
    | cons c y =>
      simp only [dropFolded] at dropped
      split at dropped
      · next hit => simp [dropFolded, hit, ih dropped]
      · cases dropped

theorem dropFolded_suffix {word y after : List Char} (dropped : dropFolded word y = some after) :
    ∃ pre, y = pre ++ after := by
  induction word generalizing y with
  | nil => exact ⟨[], by simp_all [dropFolded]⟩
  | cons p ps ih =>
    cases y with
    | nil => simp [dropFolded] at dropped
    | cons c y =>
      simp only [dropFolded] at dropped
      split at dropped
      · obtain ⟨pre, rfl⟩ := ih dropped
        exact ⟨c :: pre, rfl⟩
      · cases dropped

theorem dropFolded_append_cases {word y t after : List Char}
    (dropped : dropFolded word (y ++ t) = some after) :
    (∃ after', dropFolded word y = some after' ∧ after = after' ++ t) ∨
      ∃ first second, word = first ++ second ∧ second ≠ [] ∧ dropFolded first y = some [] ∧
        dropFolded second t = some after := by
  induction word generalizing y with
  | nil => exact .inl ⟨y, rfl, by simpa [dropFolded, eq_comm] using dropped⟩
  | cons p ps ih =>
    cases y with
    | nil => exact .inr ⟨[], p :: ps, rfl, by simp, rfl, dropped⟩
    | cons c y =>
      simp only [List.cons_append, dropFolded] at dropped
      split at dropped
      · next hit =>
        rcases ih dropped with ⟨after', dropped', rfl⟩ | ⟨first, second, rfl, nonempty, whole, rest⟩
        · exact .inl ⟨after', by simp [dropFolded, hit, dropped'], rfl⟩
        · exact .inr ⟨p :: first, second, rfl, nonempty, by simp [dropFolded, hit, whole], rest⟩
      · cases dropped

theorem dropFolded_whole {word y : List Char} (whole : dropFolded word y = some []) (nonempty : y ≠ []) :
    ∃ p c, word.getLast? = some p ∧ y.getLast? = some c ∧ letterMatches p c = true := by
  induction word generalizing y with
  | nil =>
    simp only [dropFolded, Option.some.injEq] at whole
    exact absurd whole nonempty
  | cons p ps ih =>
    cases y with
    | nil => exact absurd rfl nonempty
    | cons c y =>
      simp only [dropFolded] at whole
      split at whole
      · next hit =>
        cases y with
        | nil =>
          cases ps with
          | nil => exact ⟨p, c, rfl, rfl, hit⟩
          | cons => simp [dropFolded] at whole
        | cons d y =>
          obtain ⟨q, e, last, last', same⟩ := ih whole (by simp)
          cases ps with
          | nil => simp [dropFolded] at whole
          | cons => exact ⟨q, e, by simpa using last, by simpa using last', same⟩
      · cases whole

/-- No match of the word can run from the quiet end of a text into a `b`: where a character of the
word is no letter, the next one does not match `b`. -/
def Apart (word : List Char) : Prop :=
  word.IsChain fun p q => ('a' ≤ p ∧ p ≤ 'z') ∨ letterMatches q 'b' = false

theorem dropFolded_append_stop {word y : List Char} (apart : Apart word) (nonempty : y ≠ [])
    (quiet : EndsQuiet y) :
    dropFolded word (y ++ 'b' :: rest) = (dropFolded word y).map (· ++ 'b' :: rest) := by
  cases found : dropFolded word y with
  | some after => simp [dropFolded_append_of_some found]
  | none =>
    cases hit : dropFolded word (y ++ 'b' :: rest) with
    | none => rfl
    | some after =>
      exfalso
      rcases dropFolded_append_cases hit with ⟨after', found', -⟩ |
          ⟨first, second, rfl, nonempty', whole, across⟩
      · rw [found] at found'
        cases found'
      · -- the word would run across the end of `y`, which only a letter of it could match
        obtain ⟨p, c, lastP, lastC, same⟩ := dropFolded_whole whole nonempty
        obtain ⟨q, second, rfl⟩ := List.exists_cons_of_ne_nil nonempty'
        have matchB : letterMatches q 'b' = true := by
          simp only [dropFolded] at across
          split at across
          · assumption
          · cases across
        rcases (List.isChain_append.mp apart).2.2 p lastP q rfl with letter | notB
        · have word := isWordChar_of_letterMatches letter same
          rw [quiet c lastC] at word
          cases word
        · rw [notB] at matchB
          cases matchB

theorem amountToken_after_blanks_stop {r : List Char} (quiet : EndsQuiet r) :
    amountToken (spanBlank (r ++ 'b' :: rest)).2 =
      (amountToken (spanBlank r).2).map fun (token, after) => (token, after ++ 'b' :: rest) := by
  rw [spanBlank_append_stop (by simp [isBlank_of_ascii])]
  apply amountToken_append_stop
  rw [← List.takeWhile_append_dropWhile (p := isBlank) (l := r)] at quiet
  exact quiet.of_append

theorem findSome?_congr {α β : Type} {l : List α} {f g : α → Option β}
    (same : ∀ x ∈ l, f x = g x) : l.findSome? f = l.findSome? g := by
  induction l with
  | nil => rfl
  | cons x xs ih =>
    simp only [List.findSome?_cons, same x List.mem_cons_self,
      ih fun y member => same y (List.mem_cons_of_mem x member)]

theorem findSome?_map_congr {α β γ : Type} {l : List α} {f : α → Option β} {g : α → Option γ}
    {h : γ → β} (same : ∀ x ∈ l, f x = (g x).map h) : l.findSome? f = (l.findSome? g).map h := by
  induction l with
  | nil => rfl
  | cons x xs ih =>
    simp only [List.findSome?_cons, same x List.mem_cons_self]
    cases g x with
    | none => exact ih fun y member => same y (List.mem_cons_of_mem x member)
    | some z => rfl

theorem comparison_append_stop {leads : List Lead} {wordEnd : Bool} {b : Option Char} {y : List Char}
    (apart : ∀ lead ∈ leads, Apart lead.text.toList) (nonempty : y ≠ []) (quiet : EndsQuiet y) :
    comparison leads wordEnd b (y ++ 'b' :: rest) = comparison leads wordEnd b y := by
  unfold comparison
  refine findSome?_congr fun lead member => ?_
  rw [boundaryAt_append nonempty, dropFolded_append_stop (apart lead member) nonempty quiet]
  cases dropped : dropFolded lead.text.toList y with
  | none => rfl
  | some after =>
    obtain ⟨pre, rfl⟩ := dropFolded_suffix dropped
    simp only [Option.map_some, Option.bind_some, amountToken_after_blanks_stop quiet.of_append,
      Option.map_map]
    cases after with
    | nil =>
      -- nothing follows the lead in `y`, so no token does either
      have none : amountToken (spanBlank []).2 = none := by simp [amountToken, spanBlank, spanNumeral]
      simp [none]
    | cons d after => rw [boundaryAt_append (List.cons_ne_nil d after)]; rfl

theorem amountToken_split {cs token after : List Char} (found : amountToken cs = some (token, after)) :
    cs = token ++ after := by
  unfold amountToken at found
  split at found
  next _ dollar afterDollar divided =>
  have whole : cs = dollar ++ afterDollar := by
    split at divided
    all_goals
      obtain ⟨rfl, rfl⟩ := Prod.mk.inj divided
      rfl
  dsimp only at found
  obtain ⟨⟨numeral, tail⟩, spanned, made⟩ := Option.map_eq_some_iff.mp found
  have start := (spanNumeral_parts spanned).1
  have blanks := List.takeWhile_append_dropWhile (p := isBlank) (l := afterDollar)
  simp only [spanBlank] at start made
  split at made
  · next mark after' marked =>
    obtain ⟨rfl, rfl⟩ := Prod.mk.inj made
    obtain ⟨-, -, -, -, -, marks⟩ := thousandsMark_some marked
    have parts : afterDollar = afterDollar.takeWhile isBlank ++ (numeral ++ (mark ++ after')) := by
      rw [← marks, ← start, blanks]
    conv_lhs => rw [whole, parts]
    simp
  · obtain ⟨rfl, rfl⟩ := Prod.mk.inj made
    have parts : afterDollar = afterDollar.takeWhile isBlank ++ (numeral ++ tail) := by
      rw [← start, blanks]
    conv_lhs => rw [whole, parts]
    simp

theorem range_append_stop {b : Option Char} {y : List Char} (nonempty : y ≠ []) (quiet : EndsQuiet y) :
    range b (y ++ 'b' :: rest) = range b y := by
  have notBlank : isBlank 'b' = false := by simp [isBlank_of_ascii]
  have apartBetween : Apart "between".toList := by unfold Apart; decide
  have apartJoins : ∀ word ∈ ["and", "to", "-"], Apart word.toList := by unfold Apart; decide
  unfold range
  rw [boundaryAt_append nonempty, dropFolded_append_stop apartBetween nonempty quiet]
  cases dropped : dropFolded "between".toList y with
  | none => rfl
  | some after =>
    obtain ⟨pre, rfl⟩ := dropFolded_suffix dropped
    simp only [Option.map_some, Option.bind_some, amountToken_after_blanks_stop quiet.of_append]
    cases low : amountToken (spanBlank after).2 with
    | none => rfl
    | some found =>
      obtain ⟨lowToken, tail⟩ := found
      simp only [Option.map_some, Option.bind_some]
      -- the join and the high token are read in what follows the low token, inside `y`
      have tailQuiet : EndsQuiet tail := by
        refine quiet.of_suffix ((List.suffix_append lowToken tail).trans ?_)
        rw [← amountToken_split low]
        exact (List.dropWhile_suffix isBlank).trans (List.suffix_append pre after)
      rw [spanBlank_append_stop notBlank]
      cases joined : (spanBlank tail).2 with
      | nil =>
        have noJoin : letterMatches 'a' 'b' = false ∧ letterMatches 't' 'b' = false ∧
            letterMatches '-' 'b' = false := by decide
        simp [dropFolded, noJoin]
      | cons d j =>
        have joinedQuiet : EndsQuiet (d :: j) := by
          rw [← joined]
          exact tailQuiet.of_suffix (List.dropWhile_suffix isBlank)
        dsimp only
        rw [findSome?_map_congr (h := (· ++ 'b' :: rest)) fun word member =>
          dropFolded_append_stop (apartJoins word member) (List.cons_ne_nil d j) joinedQuiet]
        cases found : ["and", "to", "-"].findSome? (fun word => dropFolded word.toList (d :: j)) with
        | none => rfl
        | some more =>
          obtain ⟨word, -, dropped⟩ := List.exists_of_findSome?_eq_some found
          obtain ⟨pre', whole⟩ := dropFolded_suffix dropped
          rw [whole] at joinedQuiet
          simp only [Option.map_some, Option.bind_some,
            amountToken_after_blanks_stop joinedQuiet.of_append, Option.map_map]
          rfl

end BeforeBetween

end NaturalQuery
