import NaturalQuery.Proofs.Cleaning
import NaturalQuery.Amount

/-!
Reading an amount token again. A comparison captures an amount token (an optional `$`, blanks, a
numeral and an optional `k` ending a word) and hands it, trimmed and with a `$` in front, to the
amount reader. The reader then always takes the dollar form, and finds there the numeral and the
mark the comparison captured: a numeral found once is found again, whole, in front of anything
that cannot continue it, and the mark is found again at the end of the text. So the amount of a
comparison is the value of the numeral it captured, times a thousand when it captured the mark.
The first comparison that occurs, in the order over, under, at least, decides the filter.
-/

namespace NaturalQuery

open Text

/-- A text that cannot continue a numeral: it is empty or starts with a character that is no
digit, comma or point. -/
def StopsNumeral (t : List Char) : Prop :=
  ∀ c ∈ t.head?, isDigit c = false ∧ c ≠ ',' ∧ c ≠ '.'

def markOf (tail : List Char) : List Char :=
  ((thousandsMark tail).map Prod.fst).getD []

/-- The numeral an amount token at the front of a text captures, after an optional `$` and blanks,
and whether a `k` ending a word follows it. -/
def amountCapture (cs : List Char) : Option (List Char × Bool) :=
  let afterDollar := match cs with
    | '$' :: rest => rest
    | _ => cs
  (spanNumeral (spanBlank afterDollar).2).map fun (numeral, tail) =>
    (numeral, (thousandsMark tail).isSome)

/-- The text an amount token is read from again: the token trimmed, with a `$` put in front when
it has none. -/
def tokenSpelling (token : List Char) : List Char :=
  let plain := trimBlank token
  if plain.head? == some '$' then plain else '$' :: plain

theorem spanFraction_cases (cs : List Char) :
    spanFraction cs = ([], cs) ∨
      ∃ rest, cs = '.' :: rest ∧ rest.takeWhile isDigit ≠ [] ∧
        spanFraction cs = ('.' :: rest.takeWhile isDigit, rest.drop (rest.takeWhile isDigit).length) := by
  unfold spanFraction
  split
  · next rest =>
    by_cases empty : (rest.takeWhile isDigit).isEmpty
    · exact .inl (by simp [empty])
    · exact .inr ⟨rest, rfl, by simpa using empty, by simp [empty]⟩
  · exact .inl rfl

theorem spanFraction_halts {t : List Char} (halts : StopsNumeral t) : spanFraction t = ([], t) := by
  cases t with
  | nil => rfl
  | cons c rest =>
    have notPoint : c ≠ '.' := (halts c rfl).2.2
    simp [spanFraction, notPoint]

theorem spanFraction_respan (x : List Char) {t : List Char} (halts : StopsNumeral t) :
    spanFraction ((spanFraction x).1 ++ t) = ((spanFraction x).1, t) := by
  -- what follows the fraction starts with no digit
  have noDigit : t.takeWhile isDigit = [] := by
    cases t with
    | nil => rfl
    | cons c rest => exact List.takeWhile_cons_of_neg (by simp [(halts c rfl).1])
  rcases spanFraction_cases x with none | ⟨rest, -, digits, fraction⟩
  · rw [none]
    exact spanFraction_halts halts
  · rw [fraction]
    have allDigits : ∀ c ∈ rest.takeWhile isDigit, isDigit c = true :=
      fun c member => List.mem_takeWhile_imp member
    have again : (rest.takeWhile isDigit ++ t).takeWhile isDigit = rest.takeWhile isDigit := by
      rw [List.takeWhile_append_of_pos allDigits, noDigit, List.append_nil]
    simp [spanFraction, again, digits]

theorem drop_takeWhile_length {α : Type} (p : α → Bool) :
    ∀ l : List α, l.drop (l.takeWhile p).length = l.dropWhile p
  | [] => rfl
  | a :: l => by
    rw [List.takeWhile_cons, List.dropWhile_cons]
    split
    · simp [drop_takeWhile_length p l]
    · simp

theorem spanFraction_append (x : List Char) : (spanFraction x).1 ++ (spanFraction x).2 = x := by
  rcases spanFraction_cases x with none | ⟨rest, point, -, fraction⟩
  · rw [none]
    rfl
  · rw [fraction, point]
    simp [drop_takeWhile_length, List.takeWhile_append_dropWhile]

def NumeralChar (c : Char) : Prop := isDigit c = true ∨ c = ',' ∨ c = '.'

theorem spanFraction_chars (x : List Char) : ∀ c ∈ (spanFraction x).1, NumeralChar c := by
  rcases spanFraction_cases x with none | ⟨rest, -, -, fraction⟩
  · simp [none]
  · rw [fraction]
    intro c member
    rcases List.mem_cons.mp member with rfl | digit
    · exact .inr (.inr rfl)
    · exact .inl (List.mem_takeWhile_imp digit)

theorem spanNumeral_parts {cs numeral tail : List Char}
    (spanned : spanNumeral cs = some (numeral, tail)) :
    cs = numeral ++ tail ∧ (∃ d rest, numeral = d :: rest ∧ isDigit d = true) ∧
      ∀ c ∈ numeral, NumeralChar c := by
  cases cs with
  | nil => cases spanned
  | cons d rest =>
    by_cases digit : isDigit d = true
    · simp only [spanNumeral, digit, ↓reduceIte, Option.some.injEq, Prod.mk.injEq] at spanned
      obtain ⟨rfl, rfl⟩ := spanned
      refine ⟨?_, ⟨d, _, rfl, digit⟩, ?_⟩
      · simp only [List.cons_append, List.append_assoc, spanFraction_append, drop_takeWhile_length,
          List.takeWhile_append_dropWhile]
      · intro c member
        simp only [List.cons_append, List.mem_cons, List.mem_append] at member
        rcases member with rfl | body | fraction
        · exact .inl digit
        · have := List.mem_takeWhile_imp body
          simp only [Bool.or_eq_true, beq_iff_eq] at this
          rcases this with digit | comma
          · exact .inl digit
          · exact .inr (.inl comma)
        · exact spanFraction_chars _ c fraction
    · simp [spanNumeral, digit] at spanned

theorem spanNumeral_respan {cs numeral tail t : List Char}
    (spanned : spanNumeral cs = some (numeral, tail)) (halts : StopsNumeral t) :
    spanNumeral (numeral ++ t) = some (numeral, t) := by
  cases cs with
  | nil => cases spanned
  | cons d rest =>
    by_cases digit : isDigit d = true
    · simp only [spanNumeral, digit, ↓reduceIte, Option.some.injEq, Prod.mk.injEq] at spanned
      obtain ⟨rfl, rfl⟩ := spanned
      -- the body stops where it stopped before: at the point of a fraction, or where `t` starts
      have bodyChars : ∀ c ∈ rest.takeWhile (fun c => isDigit c || c == ','),
          (isDigit c || c == ',') = true := fun c member =>
        @List.mem_takeWhile_imp _ (fun c => isDigit c || c == ',') _ _ member
      have stops : ((spanFraction (rest.drop (rest.takeWhile
          (fun c => isDigit c || c == ',')).length)).1 ++ t).takeWhile
            (fun c => isDigit c || c == ',') = [] := by
        rcases spanFraction_cases (rest.drop (rest.takeWhile
            (fun c => isDigit c || c == ',')).length) with none | ⟨more, -, -, fraction⟩
        · rw [none]
          cases t with
          | nil => rfl
          | cons c after =>
            have := halts c rfl
            exact List.takeWhile_cons_of_neg (by simp [this.1, this.2.1])
        · rw [fraction]
          exact List.takeWhile_cons_of_neg (by simp [isDigit_of_ascii])
      simp only [List.cons_append, List.append_assoc, spanNumeral, digit, ↓reduceIte,
        List.takeWhile_append_of_pos bodyChars, stops, List.append_nil, List.drop_left,
        spanFraction_respan _ halts]
    · simp [spanNumeral, digit] at spanned

theorem NumeralChar.not_blank {c : Char} (numeral : NumeralChar c) : isBlank c = false := by
  rcases numeral with digit | rfl | rfl
  · exact isBlank_of_isDigit digit
  all_goals simp [isBlank_of_ascii]

theorem halts_of_blank {c : Char} (blank : isBlank c = true) (rest : List Char) :
    StopsNumeral (c :: rest) := by
  intro d same
  obtain rfl : c = d := Option.some.inj same
  refine ⟨?_, ?_, ?_⟩
  · cases digit : isDigit c
    · rfl
    · rw [isBlank_of_isDigit digit] at blank
      cases blank
  all_goals
    rintro rfl
    simp [isBlank_of_ascii] at blank

theorem thousandsMark_some {tail mark after : List Char}
    (marked : thousandsMark tail = some (mark, after)) :
    ∃ blanks k, mark = blanks ++ [k] ∧ (∀ b ∈ blanks, isBlank b = true) ∧
      letterMatches 'k' k = true ∧ tail = mark ++ after := by
  unfold thousandsMark spanBlank at marked
  dsimp only at marked
  cases rest : tail.dropWhile isBlank with
  | nil => simp [rest] at marked
  | cons k more =>
    simp only [rest] at marked
    split at marked
    · next accepted =>
      simp only [Option.some.injEq, Prod.mk.injEq] at marked
      obtain ⟨rfl, rfl⟩ := marked
      refine ⟨_, k, rfl, fun b member => List.mem_takeWhile_imp member, ?_, ?_⟩
      · simp only [Bool.and_eq_true] at accepted
        exact accepted.1
      · rw [List.append_assoc, List.singleton_append, ← rest, List.takeWhile_append_dropWhile]
    · cases marked

theorem thousandsMark_at_end {blanks : List Char} {k : Char} (allBlank : ∀ b ∈ blanks, isBlank b = true)
    (mark : letterMatches 'k' k = true) :
    thousandsMark (blanks ++ [k]) = some (blanks ++ [k], []) := by
  obtain ⟨notBlank, -, word, -, -⟩ := letterMatches_k mark
  have kept : [k].takeWhile isBlank = [] := List.takeWhile_cons_of_neg (by simp [notBlank])
  have left : [k].dropWhile isBlank = [k] := List.dropWhile_cons_of_neg (by simp [notBlank])
  simp [thousandsMark, spanBlank, List.takeWhile_append_of_pos allBlank, kept,
    List.dropWhile_append_of_pos allBlank, left, mark, boundaryAt, word]

theorem markOf_cases (tail : List Char) :
    (thousandsMark tail = none ∧ markOf tail = []) ∨
      ∃ blanks k after, thousandsMark tail = some (blanks ++ [k], after) ∧
        markOf tail = blanks ++ [k] ∧ (∀ b ∈ blanks, isBlank b = true) ∧ letterMatches 'k' k = true := by
  cases marked : thousandsMark tail with
  | none => exact .inl ⟨rfl, by simp [markOf, marked]⟩
  | some found =>
    obtain ⟨mark, after⟩ := found
    obtain ⟨blanks, k, rfl, allBlank, letter, -⟩ := thousandsMark_some marked
    exact .inr ⟨blanks, k, after, rfl, by simp [markOf, marked], allBlank, letter⟩

theorem markOf_halts (tail : List Char) : StopsNumeral (markOf tail) := by
  rcases markOf_cases tail with ⟨-, none⟩ | ⟨blanks, k, -, -, mark, allBlank, letter⟩
  · rw [none]
    intro c member
    cases member
  · rw [mark]
    cases blanks with
    | nil =>
      intro c same
      obtain rfl := Option.some.inj same
      obtain ⟨-, digit, -, comma, point⟩ := letterMatches_k letter
      exact ⟨digit, comma, point⟩
    | cons b more => exact halts_of_blank (allBlank b List.mem_cons_self) _

theorem thousandsMark_markOf (tail : List Char) :
    (thousandsMark (markOf tail)).isSome = (thousandsMark tail).isSome := by
  rcases markOf_cases tail with ⟨none, empty⟩ | ⟨blanks, k, after, found, mark, allBlank, letter⟩
  · rw [none, empty]
    rfl
  · rw [found, mark, thousandsMark_at_end allBlank letter]
    rfl

theorem markOf_last (tail : List Char) : ∀ c ∈ (markOf tail).getLast?, isBlank c = false := by
  rcases markOf_cases tail with ⟨-, none⟩ | ⟨blanks, k, -, -, mark, -, letter⟩
  · simp [none]
  · rw [mark, List.getLast?_append_of_ne_nil _ (by simp)]
    intro c same
    obtain rfl := Option.some.inj same
    exact (letterMatches_k letter).1

theorem numeral_mark_last {start numeral tail : List Char}
    (spanned : spanNumeral start = some (numeral, tail)) :
    ∀ c ∈ (numeral ++ markOf tail).getLast?, isBlank c = false := by
  intro c last
  rw [List.getLast?_append] at last
  cases marked : (markOf tail).getLast? with
  | some m =>
    rw [marked] at last
    obtain rfl : m = c := Option.some.inj last
    exact markOf_last tail m marked
  | none =>
    rw [marked, Option.none_or] at last
    exact ((spanNumeral_parts spanned).2.2 c (List.mem_of_getLast? last)).not_blank

theorem dollarForm_reread {blanks start numeral tail : List Char}
    (allBlank : ∀ b ∈ blanks, isBlank b = true) (spanned : spanNumeral start = some (numeral, tail)) :
    search dollarForm ('$' :: (blanks ++ numeral ++ markOf tail)) =
      some (numeral, (thousandsMark tail).isSome) := by
  obtain ⟨-, ⟨d, rest, rfl, digit⟩, -⟩ := spanNumeral_parts spanned
  have skipped : (spanBlank (blanks ++ (d :: rest) ++ markOf tail)).2 = d :: rest ++ markOf tail := by
    rw [spanBlank, List.append_assoc, List.dropWhile_append_of_pos allBlank, List.cons_append,
      List.dropWhile_cons_of_neg (by simp [isBlank_of_isDigit digit])]
  have found : dollarForm none ('$' :: (blanks ++ d :: rest ++ markOf tail)) =
      some (d :: rest, (thousandsMark tail).isSome) := by
    simp only [dollarForm, skipped, spanNumeral_respan spanned (markOf_halts tail), Option.map_some,
      thousandsMark_markOf]
  rw [search, searchFrom, found]

theorem tokenSpelling_dollar {blanks start numeral tail : List Char}
    (spanned : spanNumeral start = some (numeral, tail)) :
    tokenSpelling ('$' :: (blanks ++ numeral ++ markOf tail)) =
      '$' :: (blanks ++ numeral ++ markOf tail) := by
  have last : ∀ c ∈ ('$' :: (blanks ++ numeral ++ markOf tail)).getLast?, isBlank c = false := by
    obtain ⟨-, ⟨d, rest, same, -⟩, -⟩ := spanNumeral_parts spanned
    have split : '$' :: (blanks ++ numeral ++ markOf tail) =
        ('$' :: blanks) ++ (numeral ++ markOf tail) := by simp
    rw [split, List.getLast?_append_of_ne_nil _ (by simp [same])]
    exact numeral_mark_last spanned
  have first : ∀ c ∈ ('$' :: (blanks ++ numeral ++ markOf tail)).head?, isBlank c = false := by
    intro c same
    obtain rfl := Option.some.inj same
    simp [isBlank_of_ascii]
  rw [tokenSpelling, trimBlank_of_ends first last]
  rfl

theorem tokenSpelling_plain {start numeral tail : List Char}
    (spanned : spanNumeral start = some (numeral, tail)) :
    tokenSpelling (numeral ++ markOf tail) = '$' :: (numeral ++ markOf tail) := by
  obtain ⟨-, ⟨d, rest, rfl, digit⟩, -⟩ := spanNumeral_parts spanned
  have first : ∀ c ∈ (d :: rest ++ markOf tail).head?, isBlank c = false := by
    intro c same
    obtain rfl := Option.some.inj same
    exact isBlank_of_isDigit digit
  have notDollar : d ≠ '$' := by
    rintro rfl
    simp [isDigit_of_ascii] at digit
  rw [tokenSpelling, trimBlank_of_ends first (numeral_mark_last spanned)]
  simp [notDollar]

theorem parseAmount_of_dollarForm {cs numeral : List Char} {marked : Bool}
    (found : search dollarForm cs = some (numeral, marked)) :
    parseAmount (some (String.ofList cs)) = amountOf numeral (if marked then 1000.0 else 1.0) := by
  simp [parseAmount, found]

theorem amountToken_reread {cs token rest : List Char} (start : ∀ c ∈ cs.head?, isBlank c = false)
    (found : amountToken cs = some (token, rest)) :
    ∃ numeral marked, amountCapture cs = some (numeral, marked) ∧
      search dollarForm (tokenSpelling token) = some (numeral, marked) ∧
      tokenAmount token = amountOf numeral (if marked then 1000.0 else 1.0) := by
  suffices reread : ∃ numeral marked, amountCapture cs = some (numeral, marked) ∧
      search dollarForm (tokenSpelling token) = some (numeral, marked) by
    obtain ⟨numeral, marked, captured, again⟩ := reread
    exact ⟨numeral, marked, captured, again, parseAmount_of_dollarForm again⟩
  cases cs with
  | nil => simp [amountToken, spanBlank, spanNumeral] at found
  | cons c r =>
    by_cases dollar : c = '$'
    · -- the token keeps its `$` and the blanks after it
      subst dollar
      simp only [amountToken] at found
      obtain ⟨⟨numeral, tail⟩, spanned, made⟩ := Option.map_eq_some_iff.mp found
      dsimp only at made
      have allBlank : ∀ b ∈ (spanBlank r).1, isBlank b = true :=
        fun b member => List.mem_takeWhile_imp member
      have built : token = '$' :: ((spanBlank r).1 ++ numeral ++ markOf tail) := by
        split at made
        · next mark after marked =>
          rw [← (Prod.mk.inj made).1]
          simp [markOf, marked]
        · next missing =>
          rw [← (Prod.mk.inj made).1]
          simp [markOf, missing]
      rw [built, tokenSpelling_dollar spanned]
      exact ⟨numeral, _, by simp [amountCapture, spanned], dollarForm_reread allBlank spanned⟩
    · -- the token starts with its numeral, and a `$` is put in front of it
      have noBlanks : spanBlank (c :: r) = ([], c :: r) := by
        have notBlank := start c rfl
        simp [spanBlank, notBlank]
      simp only [amountToken] at found
      split at found
      · next rest' same => exact absurd (List.cons.inj same).1 dollar
      · dsimp only at found
        rw [noBlanks] at found
        obtain ⟨⟨numeral, tail⟩, spanned, made⟩ := Option.map_eq_some_iff.mp found
        dsimp only at made spanned
        have built : token = numeral ++ markOf tail := by
          split at made
          · next mark after marked =>
            rw [← (Prod.mk.inj made).1]
            simp [markOf, marked]
          · next missing =>
            rw [← (Prod.mk.inj made).1]
            simp [markOf, missing]
        have captured : amountCapture (c :: r) = some (numeral, (thousandsMark tail).isSome) := by
          unfold amountCapture
          split
          · next rest' same => exact absurd (List.cons.inj same).1 dollar
          · dsimp only
            rw [noBlanks]
            simp [spanned]
        rw [built, tokenSpelling_plain spanned]
        exact ⟨numeral, _, captured, by simpa using @dollarForm_reread [] _ _ _ (by simp) spanned⟩

theorem dropWhile_blank_head (l : List Char) : ∀ c ∈ (l.dropWhile isBlank).head?, isBlank c = false := by
  intro c first
  have stopped := List.head?_dropWhile_not isBlank l
  rw [Option.mem_def.mp first] at stopped
  exact stopped

theorem comparison_token {leads : List Lead} {wordEnd : Bool} {before : Option Char}
    {rest token : List Char} (found : comparison leads wordEnd before rest = some token) :
    ∃ cs after, (∀ c ∈ cs.head?, isBlank c = false) ∧ amountToken cs = some (token, after) := by
  obtain ⟨lead, -, hit⟩ := List.exists_of_findSome?_eq_some found
  split at hit
  · cases hit
  · obtain ⟨after, -, hit⟩ := Option.bind_eq_some_iff.mp hit
    split at hit
    · cases hit
    · obtain ⟨⟨token', after'⟩, amount, same⟩ := Option.map_eq_some_iff.mp hit
      obtain rfl : token' = token := same
      exact ⟨_, after', dropWhile_blank_head after, amount⟩

theorem range_tokens {before : Option Char} {rest low high : List Char}
    (found : range before rest = some (low, high)) :
    (∃ cs after, (∀ c ∈ cs.head?, isBlank c = false) ∧ amountToken cs = some (low, after)) ∧
      ∃ cs after, (∀ c ∈ cs.head?, isBlank c = false) ∧ amountToken cs = some (high, after) := by
  unfold range at found
  split at found
  · cases found
  · obtain ⟨after, -, found⟩ := Option.bind_eq_some_iff.mp found
    obtain ⟨⟨low', tail⟩, first, found⟩ := Option.bind_eq_some_iff.mp found
    obtain ⟨more, -, found⟩ := Option.bind_eq_some_iff.mp found
    obtain ⟨⟨high', tail'⟩, second, same⟩ := Option.map_eq_some_iff.mp found
    obtain ⟨rfl, rfl⟩ := Prod.mk.inj same
    exact ⟨⟨_, tail, dropWhile_blank_head after, first⟩, ⟨_, tail', dropWhile_blank_head more, second⟩⟩

theorem searchFrom_sound {α : Type} {attempt : Option Char → List Char → Option α} {x : α} :
    ∀ {before : Option Char} {cs : List Char}, searchFrom attempt before cs = some x →
      ∃ b rest, attempt b rest = some x
  | before, [], found => ⟨before, [], found⟩
  | before, c :: cs, found => by
    unfold searchFrom at found
    split at found
    · next hit same => exact ⟨before, c :: cs, same.trans found⟩
    · exact searchFrom_sound found

def amountComparisons : List (Operator × List Lead × Bool) :=
  [(.gt, overLeads, false), (.lt, underLeads, false), (.gte, atLeastLeads, true)]

def firstComparison (cs : List Char) : Option (Operator × List Char) :=
  amountComparisons.findSome? fun c => (search (comparison c.2.1 c.2.2) cs).map (c.1, ·)

/-- `token` is an amount token that captures `numeral`, and the mark exactly when `marked`. -/
def Captures (token numeral : List Char) (marked : Bool) : Prop :=
  ∃ cs after, amountToken cs = some (token, after) ∧ amountCapture cs = some (numeral, marked)

/-- A token is read back as the number it captured: the re-reading takes the dollar form with
the same numeral and mark, and its amount is that numeral's value, times a thousand when marked. -/
def ReadsBack (token : List Char) : Prop :=
  ∃ numeral marked, Captures token numeral marked ∧
    search dollarForm (tokenSpelling token) = some (numeral, marked) ∧
    tokenAmount token = amountOf numeral (if marked then 1000.0 else 1.0)

theorem readsBack_of_amountToken {cs token after : List Char}
    (start : ∀ c ∈ cs.head?, isBlank c = false) (found : amountToken cs = some (token, after)) :
    ReadsBack token := by
  obtain ⟨numeral, marked, captured, again, value⟩ := amountToken_reread start found
  exact ⟨numeral, marked, ⟨cs, after, found, captured⟩, again, value⟩

theorem detectAmount_of_first {text : String} {entity : Entity} {v : Vocabulary} {field : String}
    {op : Operator} {token : List Char} (has : v.amountField? entity = some field)
    (first : firstComparison text.toList = some (op, token)) :
    (∀ value, tokenAmount token = some value →
        detectAmount text entity v = some <$> Filter.make field op (.float value)) ∧
      (tokenAmount token = none → detectAmount text entity v = .ok none) := by
  unfold detectAmount
  rw [has]
  dsimp only
  split
  · next op' token' found =>
    obtain ⟨rfl, rfl⟩ := Prod.mk.inj (Option.some.inj (found.symm.trans first))
    refine ⟨fun value amount => ?_, fun missing => ?_⟩
    · rw [amount]
    · rw [missing]
  · next missing => cases missing.symm.trans first

theorem amount_tokens_read_back (text : String) (entity : Entity) (v : Vocabulary)
    {field : String} (has : v.amountField? entity = some field) :
    (∀ c ∈ amountComparisons, ∀ token, search (comparison c.2.1 c.2.2) text.toList = some token →
        ReadsBack token) ∧
      (∀ low high, search range text.toList = some (low, high) → ReadsBack low ∧ ReadsBack high) ∧
      ∀ pre op leads wordEnd post token, amountComparisons = pre ++ (op, leads, wordEnd) :: post →
        (∀ c ∈ pre, search (comparison c.2.1 c.2.2) text.toList = none) →
        search (comparison leads wordEnd) text.toList = some token →
        ∃ numeral marked, Captures token numeral marked ∧
          (∀ value, amountOf numeral (if marked then 1000.0 else 1.0) = some value →
            detectAmount text entity v = some <$> Filter.make field op (.float value)) ∧
          (amountOf numeral (if marked then 1000.0 else 1.0) = none →
            detectAmount text entity v = .ok none) := by
  have compared : ∀ leads wordEnd token,
      search (comparison leads wordEnd) text.toList = some token → ReadsBack token := by
    intro leads wordEnd token found
    obtain ⟨before, rest, hit⟩ := searchFrom_sound found
    obtain ⟨cs, after, start, amount⟩ := comparison_token hit
    exact readsBack_of_amountToken start amount
  refine ⟨fun c _ token found => compared _ _ token found, fun low high found => ?_, ?_⟩
  · obtain ⟨before, rest, hit⟩ := searchFrom_sound found
    obtain ⟨⟨cs, after, start, amount⟩, ⟨cs', after', start', amount'⟩⟩ := range_tokens hit
    exact ⟨readsBack_of_amountToken start amount, readsBack_of_amountToken start' amount'⟩
  · intro pre op leads wordEnd post token split earlier found
    -- the comparison is the first that occurs
    have first : firstComparison text.toList = some (op, token) := by
      refine List.findSome?_eq_some_iff.mpr ⟨pre, (op, leads, wordEnd), post, split, by simp [found], ?_⟩
      intro c member
      simp [earlier c member]
    obtain ⟨numeral, marked, captured, -, value⟩ := compared leads wordEnd token found
    obtain ⟨given, missing⟩ := detectAmount_of_first has first
    exact ⟨numeral, marked, captured, fun amount same => given amount (value.trans same),
      fun none => missing (value.trans none)⟩

theorem amount_tokens_read_back_over_five_thousand :
    ∃ numeral marked, Captures "$5k".toList numeral marked ∧
      ∀ value, amountOf numeral (if marked then 1000.0 else 1.0) = some value →
        detectAmount "invoices over $5k" .invoices .standard =
          some <$> Filter.make "amount" .gt (.float value) := by
  obtain ⟨-, -, first⟩ :=
    @amount_tokens_read_back "invoices over $5k" .invoices .standard "amount" rfl
  obtain ⟨numeral, marked, captured, given, -⟩ :=
    first [] .gt overLeads false _ "$5k".toList rfl (by simp) (by decide +kernel)
  exact ⟨numeral, marked, captured, given⟩

end NaturalQuery
