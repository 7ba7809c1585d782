import NaturalQuery.Proofs.AmountRange
import NaturalQuery.Proofs.Detection

/-!
The range law of the amount detector. A written amount token is an optional `$`, a digit, digits
or commas, an optional fraction and an optional `k`; it is read back whole by the token scanner,
and no comparison word can start inside it. After a text that ends in no word character and holds
no comparison and no range, `between`, two written tokens and a join build the range filter of
the smaller and the larger of the two amounts, whichever token comes first. A text that already
holds a range is read by its first range.
-/

namespace NaturalQuery

open Text

section Search

variable {α : Type} {attempt : Option Char → List Char → Option α}

theorem getLast?_cons_or (c : Char) (l : List Char) (before : Option Char) :
    (c :: l).getLast?.or before = l.getLast?.or (some c) := by
  rw [List.getLast?_cons]
  cases l.getLast? <;> rfl

theorem searchFrom_eq_none {before : Option Char} {x : List Char}
    (missed : searchFrom attempt before x = none) :
    ∀ pre v, x = pre ++ v → attempt (pre.getLast?.or before) v = none := by
  induction x generalizing before with
  | nil =>
    intro pre v split
    obtain ⟨rfl, rfl⟩ := List.append_eq_nil_iff.mp split.symm
    exact missed
  | cons c x ih =>
    unfold searchFrom at missed
    split at missed
    · cases missed
    · next first =>
      intro pre v split
      cases pre with
      | nil =>
        rw [List.nil_append] at split
        rw [← split]
        exact first
      | cons d pre =>
        obtain ⟨rfl, rest⟩ := List.cons_eq_cons.mp split
        rw [getLast?_cons_or]
        exact ih missed pre v rest

theorem searchFrom_append {before : Option Char} {x y : List Char}
    (fails : ∀ pre v, x = pre ++ v → v ≠ [] → attempt (pre.getLast?.or before) (v ++ y) = none) :
    searchFrom attempt before (x ++ y) = searchFrom attempt (x.getLast?.or before) y := by
  induction x generalizing before with
  | nil => rfl
  | cons c x ih =>
    have first : attempt before (c :: (x ++ y)) = none := fails [] (c :: x) rfl (List.cons_ne_nil c x)
    rw [List.cons_append, searchFrom, first, getLast?_cons_or]
    dsimp only
    refine ih fun pre v split nonempty => ?_
    have failed := fails (c :: pre) v (by rw [split]; rfl) nonempty
    rwa [getLast?_cons_or] at failed

end Search

/-- An amount token as the range law writes it: an optional `$`, a digit, then digits or commas, an
optional fraction of digits after a point, and an optional `k`, with no blanks. -/
structure WrittenAmount where
  dollar : Bool
  lead : Char
  body : List Char
  fraction : List Char
  mark : Option Char
  lead_digit : isDigit lead = true
  body_chars : ∀ c ∈ body, isDigit c = true ∨ c = ','
  fraction_digits : ∀ c ∈ fraction, isDigit c = true
  mark_k : ∀ k ∈ mark, letterMatches 'k' k = true

namespace WrittenAmount

variable (w : WrittenAmount)

def pointed : List Char := if w.fraction = [] then [] else '.' :: w.fraction

def numeral : List Char := w.lead :: w.body ++ w.pointed

def chars : List Char := (if w.dollar then ['$'] else []) ++ w.numeral ++ w.mark.toList

theorem spanFraction_pointed {t : List Char} (halts : StopsNumeral t) :
    spanFraction (w.pointed ++ t) = (w.pointed, t) := by
  unfold pointed
  split
  · exact spanFraction_halts halts
  · next nonempty =>
    have digits : (w.fraction ++ t).takeWhile isDigit = w.fraction := by
      rw [List.takeWhile_append_of_pos w.fraction_digits]
      cases t with
      | nil => simp
      | cons c t => simp [(halts c rfl).1]
    simp [spanFraction, digits, nonempty]

theorem spanNumeral_numeral {t : List Char} (halts : StopsNumeral t) :
    spanNumeral (w.numeral ++ t) = some (w.numeral, t) := by
  have bodyChars : ∀ c ∈ w.body, (isDigit c || c == ',') = true := by
    intro c member
    rcases w.body_chars c member with digit | rfl
    · simp [digit]
    · simp
  -- the body stops where the fraction or `t` starts
  have stops : (w.pointed ++ t).takeWhile (fun c => isDigit c || c == ',') = [] := by
    unfold pointed
    split
    · cases t with
      | nil => rfl
      | cons c t =>
        obtain ⟨digit, comma, -⟩ := halts c rfl
        simp [digit, comma]
    · exact List.takeWhile_cons_of_neg (by simp [isDigit_of_ascii])
  simp only [numeral, List.cons_append, List.append_assoc, spanNumeral, w.lead_digit, ↓reduceIte,
    List.takeWhile_append_of_pos bodyChars, stops, List.append_nil, List.drop_left,
    w.spanFraction_pointed halts]

end WrittenAmount

/-- What a written token may be followed by: the end of the text, or a space and then a character
that is no blank and does not match `k`. -/
def FollowsToken (follow : List Char) : Prop :=
  follow = [] ∨ ∃ c more, follow = ' ' :: c :: more ∧ isBlank c = false ∧ letterMatches 'k' c = false

namespace WrittenAmount

variable (w : WrittenAmount)

theorem halts_mark {follow : List Char} (follows : FollowsToken follow) :
    StopsNumeral (w.mark.toList ++ follow) := by
  cases found : w.mark with
  | some k =>
    intro c same
    obtain rfl : k = c := Option.some.inj same
    obtain ⟨-, digit, -, comma, point⟩ := letterMatches_k (w.mark_k k found)
    exact ⟨digit, comma, point⟩
  | none =>
    rcases follows with rfl | ⟨c, more, rfl, -, -⟩
    · intro c member
      cases member
    · exact halts_of_blank (by simp [isBlank_of_ascii]) _

theorem thousandsMark_mark {follow : List Char} (follows : FollowsToken follow) :
    thousandsMark (w.mark.toList ++ follow) = w.mark.map fun k => ([k], follow) := by
  cases found : w.mark with
  | some k =>
    obtain ⟨blank, -, word, -, -⟩ := letterMatches_k (w.mark_k k found)
    have ends : boundaryAt (some k) follow = true := by
      rcases follows with rfl | ⟨c, more, rfl, -, -⟩
      · simp [boundaryAt, word]
      · simp [boundaryAt, word, show isWordChar ' ' = false by simp [isWordChar_of_ascii]]
    simp [thousandsMark, spanBlank, blank, w.mark_k k found, ends]
  | none =>
    rcases follows with rfl | ⟨c, more, rfl, blank, notMark⟩
    · rfl
    · have skipped : spanBlank (' ' :: c :: more) = ([' '], c :: more) := by
        simp [spanBlank, blank, show isBlank ' ' = true by simp [isBlank_of_ascii]]
      simp [thousandsMark, skipped, notMark]

theorem amountToken_chars {follow : List Char} (follows : FollowsToken follow) :
    amountToken (w.chars ++ follow) = some (w.chars, follow) := by
  have start : spanBlank (w.numeral ++ (w.mark.toList ++ follow)) =
      ([], w.numeral ++ (w.mark.toList ++ follow)) := by
    simp [spanBlank, numeral, isBlank_of_isDigit w.lead_digit]
  have read : (spanNumeral (w.numeral ++ (w.mark.toList ++ follow))) =
      some (w.numeral, w.mark.toList ++ follow) := w.spanNumeral_numeral (w.halts_mark follows)
  unfold chars amountToken
  split
  next _ dollar afterDollar divided =>
  have notDollar : w.lead ≠ '$' := by
    intro same
    have digit := w.lead_digit
    simp [same, isDigit_of_ascii] at digit
  have parts : dollar = (if w.dollar then ['$'] else []) ∧
      afterDollar = w.numeral ++ (w.mark.toList ++ follow) := by
    cases hd : w.dollar
    · simp only [hd, Bool.false_eq_true, ↓reduceIte, List.nil_append, List.append_assoc] at divided
      split at divided
      · next _ after same =>
        simp only [numeral, List.cons_append, List.cons.injEq] at same
        exact absurd same.1 notDollar
      · obtain ⟨rfl, rfl⟩ := Prod.mk.inj divided
        simp
    · simp only [hd, ↓reduceIte, List.append_assoc, List.cons_append, List.nil_append] at divided
      obtain ⟨rfl, rfl⟩ := Prod.mk.inj divided
      simp
  obtain ⟨rfl, rfl⟩ := parts
  dsimp only
  rw [start]
  dsimp only
  rw [read, Option.map_some, w.thousandsMark_mark follows]
  cases w.mark <;> simp

end WrittenAmount

namespace WrittenAmount

variable (w : WrittenAmount)

theorem char_cases {c : Char} (member : c ∈ w.chars) :
    c = '$' ∨ isDigit c = true ∨ c = ',' ∨ c = '.' ∨ letterMatches 'k' c = true := by
  have parts : c ∈ (if w.dollar then ['$'] else []) ∨ c = w.lead ∨ c ∈ w.body ∨ c ∈ w.pointed ∨
      c ∈ w.mark.toList := by
    simpa only [chars, numeral, List.mem_append, List.mem_cons, or_assoc] using member
  rcases parts with dollar | rfl | body | fraction | mark
  · split at dollar
    · exact .inl (List.mem_singleton.mp dollar)
    · cases dollar
  · exact .inr (.inl w.lead_digit)
  · rcases w.body_chars c body with digit | comma
    · exact .inr (.inl digit)
    · exact .inr (.inr (.inl comma))
  · unfold pointed at fraction
    split at fraction
    · cases fraction
    · rcases List.mem_cons.mp fraction with point | digit
      · exact .inr (.inr (.inr (.inl point)))
      · exact .inr (.inl (w.fraction_digits c digit))
  · exact .inr (.inr (.inr (.inr (w.mark_k c (Option.mem_toList.mp mark)))))

theorem chars_head (t : List Char) : ∀ c ∈ (w.chars ++ t).head?, isBlank c = false := by
  intro c first
  cases hd : w.dollar
  · simp only [chars, numeral, hd, Bool.false_eq_true, ↓reduceIte, List.nil_append, List.cons_append,
      List.head?_cons, Option.mem_def, Option.some.injEq] at first
    rw [← first]
    exact isBlank_of_isDigit w.lead_digit
  · simp only [chars, hd, ↓reduceIte, List.cons_append, List.nil_append, List.head?_cons,
      Option.mem_def, Option.some.injEq] at first
    rw [← first]
    simp [isBlank_of_ascii]

end WrittenAmount


def MissesLeads (c : Char) : Prop :=
  ∀ entry ∈ amountComparisons, ∀ lead ∈ entry.2.1, (lead.text.toList.head?.all fun p => !letterMatches p c) = true

/-- A position where no comparison word can start: within its first characters the position
already differs from the start of every word. -/
def Blocked (leads : List Lead) (v : List Char) : Prop :=
  ∀ lead ∈ leads, dropFolded (lead.text.toList.take v.length) v = none

theorem dropFolded_take {word v t after : List Char} (dropped : dropFolded word (v ++ t) = some after) :
    (dropFolded (word.take v.length) v).isSome = true := by
  induction word generalizing v with
  | nil => simp [dropFolded]
  | cons p ps ih =>
    cases v with
    | nil => simp [dropFolded]
    | cons c v =>
      simp only [List.cons_append, dropFolded] at dropped
      split at dropped
      · next hit => simpa [dropFolded, hit] using ih dropped
      · cases dropped

theorem comparison_none_of_blocked {leads : List Lead} {wordEnd : Bool} {b : Option Char}
    {v : List Char} (blocked : Blocked leads v) (t : List Char) :
    comparison leads wordEnd b (v ++ t) = none := by
  unfold comparison
  rw [List.findSome?_eq_none_iff]
  intro lead member
  split
  · rfl
  · cases dropped : dropFolded lead.text.toList (v ++ t) with
    | none => rfl
    | some after =>
      have reached := dropFolded_take dropped
      rw [blocked lead member] at reached
      cases reached

theorem WrittenAmount.missesLeads (w : WrittenAmount) {c : Char} (member : c ∈ w.chars) :
    MissesLeads c := by
  rcases w.char_cases member with rfl | digit | rfl | rfl | mark
  · unfold MissesLeads
    decide
  · -- a digit matches no comparison word's first character, none of which is a digit
    have starts : ∀ entry ∈ amountComparisons, ∀ lead ∈ entry.2.1, (lead.text.toList.head?.all
        fun p => !decide ('0' ≤ p ∧ p ≤ '9') && decide (0 < p.toNat) && decide (p.toNat < 128)) =
        true := by
      decide
    intro entry listed lead member
    have first := starts entry listed lead member
    cases start : lead.text.toList.head? with
    | none => rfl
    | some p =>
      simp only [start, Option.all_some, Bool.and_eq_true, Bool.not_eq_eq_eq_not, Bool.not_true,
        decide_eq_false_iff_not, decide_eq_true_eq] at first
      obtain ⟨⟨notDigit, low⟩, high⟩ := first
      cases hit : letterMatches p c
      · simp [hit]
      · have digitLead := letterMatches_digit ⟨low, high⟩ digit hit
        rw [isDigit_of_ascii high, decide_eq_true_eq] at digitLead
        exact absurd digitLead notDigit
  · unfold MissesLeads
    decide
  · unfold MissesLeads
    decide
  · -- a character that matches `k` matches no other letter, and no comparison word starts with `k`
    have heads : ∀ entry ∈ amountComparisons, ∀ lead ∈ entry.2.1,
        (lead.text.toList.head?.all fun p => !('k' == p)) = true := by
      decide
    intro entry listed lead leadMember
    simpa only [letterMatches_eq_of_hit (by decide) ⟨by decide, by decide⟩ mark] using
      heads entry listed lead leadMember

theorem WrittenAmount.blocked (w : WrittenAmount) {entry : Operator × List Lead × Bool}
    (listed : entry ∈ amountComparisons) {c : Char} {v : List Char} (member : c ∈ w.chars) :
    Blocked entry.2.1 (c :: v) := by
  have words : ∀ entry ∈ amountComparisons, ∀ lead ∈ entry.2.1, lead.text.toList ≠ [] := by
    decide
  intro lead leadMember
  obtain ⟨p, ps, spelled⟩ := List.exists_cons_of_ne_nil (words entry listed lead leadMember)
  have misses := w.missesLeads member entry listed lead leadMember
  simp only [spelled, List.head?_cons, Option.all_some, Bool.not_eq_eq_eq_not, Bool.not_true] at misses
  simp [spelled, dropFolded, misses]


/-- The words of a range after the text before it: `between`, the low token, the join and the
high token, one space apart. -/
def rangeWords (low : WrittenAmount) (join : String) (high : WrittenAmount) : List Char :=
  "between ".toList ++ (low.chars ++ ((' ' :: (join.toList ++ [' '])) ++ high.chars))

def rangeJoins : List String := ["and", "to", "-"]

section RangeWords

variable {leads : List Lead} {wordEnd : Bool}

theorem comparison_fails_of_blocked {F t : List Char} {before : Option Char}
    (blocked : ∀ v, v <:+ F → v ≠ [] → Blocked leads v) :
    ∀ pre v, F = pre ++ v → v ≠ [] →
      comparison leads wordEnd (pre.getLast?.or before) (v ++ t) = none := by
  intro pre v split nonempty
  exact comparison_none_of_blocked (blocked v ⟨pre, split.symm⟩ nonempty) t

theorem WrittenAmount.blocked_suffix (w : WrittenAmount) {entry : Operator × List Lead × Bool}
    (listed : entry ∈ amountComparisons) :
    ∀ v, v <:+ w.chars → v ≠ [] → Blocked entry.2.1 v := by
  intro v suffix nonempty
  obtain ⟨c, v, rfl⟩ := List.exists_cons_of_ne_nil nonempty
  exact w.blocked listed (suffix.subset List.mem_cons_self)

theorem comparison_missing_in_range {entry : Operator × List Lead × Bool}
    (listed : entry ∈ amountComparisons) (before : Option Char) (low high : WrittenAmount)
    {join : String} (joins : join ∈ rangeJoins) :
    searchFrom (comparison entry.2.1 entry.2.2) before (rangeWords low join high) = none := by
  have opening : ∀ entry ∈ amountComparisons, ∀ v ∈ "between ".toList.tails, v ≠ [] →
      Blocked entry.2.1 v := by
    unfold Blocked
    decide
  have joining : ∀ join ∈ rangeJoins, ∀ entry ∈ amountComparisons,
      ∀ v ∈ (' ' :: (join.toList ++ [' '])).tails, v ≠ [] → Blocked entry.2.1 v := by
    unfold Blocked rangeJoins
    decide
  have words : ∀ entry ∈ amountComparisons, ∀ lead ∈ entry.2.1, lead.text.toList ≠ [] := by
    decide
  -- `rewrite`, not `rw`: closing the goal by `rfl` would run the search
  unfold rangeWords
  rewrite [← List.append_nil high.chars, searchFrom_append (comparison_fails_of_blocked fun v suffix =>
      opening entry listed v ((List.mem_tails v _).mpr suffix)),
    searchFrom_append (comparison_fails_of_blocked (low.blocked_suffix listed)),
    searchFrom_append (comparison_fails_of_blocked fun v suffix =>
      joining join joins entry listed v ((List.mem_tails v _).mpr suffix)),
    searchFrom_append (comparison_fails_of_blocked (high.blocked_suffix listed))]
  -- at the end of the text no word fits
  simp only [searchFrom, comparison, List.findSome?_eq_none_iff]
  intro lead member
  obtain ⟨p, ps, spelled⟩ := List.exists_cons_of_ne_nil (words entry listed lead member)
  simp [spelled, dropFolded]

theorem dropFolded_self {word : List Char} (same : (word.all fun c => letterMatches c c) = true)
    (t : List Char) : dropFolded word (word ++ t) = some t := by
  induction word with
  | nil => rfl
  | cons p ps ih =>
    simp only [List.all_cons, Bool.and_eq_true] at same
    simp only [List.cons_append, dropFolded, same.1, ↓reduceIte]
    exact ih same.2

theorem spanBlank_space {cs : List Char} (first : ∀ c ∈ cs.head?, isBlank c = false) :
    (spanBlank (' ' :: cs)).2 = cs := by
  rw [spanBlank, List.dropWhile_cons_of_pos (by simp [isBlank_of_ascii])]
  exact dropWhile_of_head first

theorem join_start {join : String} (joins : join ∈ rangeJoins) (high : List Char) :
    ∃ c more, join.toList ++ ' ' :: high = c :: more ∧ isBlank c = false ∧
      letterMatches 'k' c = false := by
  unfold rangeJoins at joins
  simp only [List.mem_cons, List.not_mem_nil, or_false] at joins
  rcases joins with rfl | rfl | rfl
  · exact ⟨'a', ['n', 'd'] ++ ' ' :: high, by simp, by simp [isBlank_of_ascii], by decide⟩
  · exact ⟨'t', ['o'] ++ ' ' :: high, by simp, by simp [isBlank_of_ascii], by decide⟩
  · exact ⟨'-', ' ' :: high, by simp, by simp [isBlank_of_ascii], by decide⟩

theorem findSome?_join {join : String} (joins : join ∈ rangeJoins) (t : List Char) :
    ["and", "to", "-"].findSome? (fun word => dropFolded word.toList (join.toList ++ ' ' :: t)) =
      some (' ' :: t) := by
  have misses : letterMatches 'a' 't' = false ∧ letterMatches 'a' '-' = false ∧
      letterMatches 't' '-' = false := by decide
  have hits : letterMatches 'a' 'a' = true ∧ letterMatches 'n' 'n' = true ∧
      letterMatches 'd' 'd' = true ∧ letterMatches 't' 't' = true ∧ letterMatches 'o' 'o' = true ∧
      letterMatches '-' '-' = true := by decide
  unfold rangeJoins at joins
  simp only [List.mem_cons, List.not_mem_nil, or_false] at joins
  rcases joins with rfl | rfl | rfl <;> simp [dropFolded, misses, hits]

theorem range_rangeWords {before : Option Char} (quiet : ∀ c ∈ before, isWordChar c = false)
    (low high : WrittenAmount) {join : String} (joins : join ∈ rangeJoins) :
    range before (rangeWords low join high) = some (low.chars, high.chars) := by
  obtain ⟨c, more, joined, notBlank, notMark⟩ := join_start joins high.chars
  have words : rangeWords low join high =
      "between".toList ++ ' ' :: (low.chars ++ ' ' :: (join.toList ++ ' ' :: high.chars)) := by
    unfold rangeWords
    simp
  have starts : boundaryAt before (rangeWords low join high) = true := by
    have bWord : isWordChar 'b' = true := by simp [isWordChar_of_ascii]
    rw [words]
    cases before with
    | none => simp [boundaryAt, bWord]
    | some d => simp [boundaryAt, bWord, quiet d rfl]
  have between : ("between".toList.all fun c => letterMatches c c) = true := by decide
  have lowRead : amountToken (low.chars ++ ' ' :: (join.toList ++ ' ' :: high.chars)) =
      some (low.chars, ' ' :: (join.toList ++ ' ' :: high.chars)) :=
    low.amountToken_chars (.inr ⟨c, more, by rw [joined], notBlank, notMark⟩)
  have highRead : amountToken high.chars = some (high.chars, []) := by
    simpa using high.amountToken_chars (.inl rfl)
  unfold range
  rw [starts, words]
  simp only [Bool.not_true, Bool.false_eq_true, ↓reduceIte, dropFolded_self between,
    Option.bind_some, spanBlank_space (low.chars_head _), lowRead]
  rw [spanBlank_space (by rw [joined]; simpa using notBlank), findSome?_join joins, Option.bind_some,
    spanBlank_space (by simpa using high.chars_head []), highRead]
  rfl

end RangeWords


/-- The text of the range law: a text, then `between`, the low token, the join and the high token,
one space apart. -/
def betweenText (text : String) (low : WrittenAmount) (join : String) (high : WrittenAmount) : String :=
  String.ofList (text.toList ++ rangeWords low join high)

theorem rangeWords_cons (low : WrittenAmount) (join : String) (high : WrittenAmount) :
    ∃ rest, rangeWords low join high = 'b' :: rest := by
  have opening : "between ".toList = 'b' :: "etween ".toList := by decide
  unfold rangeWords
  rw [opening]
  exact ⟨_, List.cons_append⟩

def rangeFilter (field : String) (first second : Float) : Filter :=
  ⟨Text.trimWhite field, .between, .float (rangeBounds first second).1,
    some (.float (rangeBounds first second).2)⟩

theorem detectAmount_of_range {text : String} {entity : Entity} {v : Vocabulary} {field : String}
    (has : v.amountField? entity = some field) (missing : firstComparison text.toList = none)
    {low high : List Char} (found : search range text.toList = some (low, high)) {first second : Float}
    (lowValue : tokenAmount low = some first) (highValue : tokenAmount high = some second) :
    detectAmount text entity v =
      some <$> Filter.make field .between (.float (rangeBounds first second).1)
        (some (.float (rangeBounds first second).2)) := by
  unfold detectAmount
  rewrite [has]
  dsimp only
  split
  · next op token compared => cases compared.symm.trans missing
  · split
    · next low' high' found' =>
      obtain ⟨rfl, rfl⟩ := Prod.mk.inj (Option.some.inj (found'.symm.trans found))
      rewrite [lowValue, highValue]
      -- the detector names the two bounds `least` and `most`; they are `rangeBounds`
      simp only [rangeBounds]
    · next none => cases none.symm.trans found

section RangeText

variable {text : String} (quiet : EndsQuiet text.toList) (low high : WrittenAmount) {join : String}
  (joins : join ∈ rangeJoins)

include quiet in
theorem searchFrom_before_rangeWords {α : Type} {attempt : Option Char → List Char → Option α}
    (agree : ∀ b v rest, v ≠ [] → EndsQuiet v → attempt b (v ++ 'b' :: rest) = attempt b v)
    (missed : search attempt text.toList = none) :
    search attempt (text.toList ++ rangeWords low join high) =
      searchFrom attempt text.toList.getLast? (rangeWords low join high) := by
  obtain ⟨rest, words⟩ := rangeWords_cons low join high
  unfold search
  rw [searchFrom_append, Option.or_none]
  intro pre v split nonempty
  rw [split] at quiet
  rw [words, agree _ v rest nonempty quiet.of_append]
  exact searchFrom_eq_none missed pre v split

end RangeText


section Law

variable {entity : Entity} {v : Vocabulary} {field : String}

theorem detectAmount_betweenText (has : v.amountField? entity = some field)
    (named : (Text.trimWhite field).isEmpty = false) {text : String} (quiet : EndsQuiet text.toList)
    (noComparison : firstComparison text.toList = none) (noRange : search range text.toList = none)
    (low high : WrittenAmount) {join : String} (joins : join ∈ rangeJoins) {first second : Float}
    (lowValue : tokenAmount low.chars = some first) (highValue : tokenAmount high.chars = some second) :
    detectAmount (betweenText text low join high) entity v = .ok (some (rangeFilter field first second)) := by
  have whole : (betweenText text low join high).toList = text.toList ++ rangeWords low join high :=
    String.toList_ofList
  have apart : ∀ entry ∈ amountComparisons, ∀ lead ∈ entry.2.1, Apart lead.text.toList := by
    unfold Apart
    decide
  -- no comparison occurs: none in the text, none across its end, none in the range words
  have compared : firstComparison (betweenText text low join high).toList = none := by
    rewrite [whole]
    unfold firstComparison
    rewrite [List.findSome?_eq_none_iff]
    intro entry listed
    have missed : search (comparison entry.2.1 entry.2.2) text.toList = none :=
      Option.map_eq_none_iff.mp (List.findSome?_eq_none_iff.mp noComparison entry listed)
    rewrite [searchFrom_before_rangeWords quiet low high
      (fun b v rest nonempty quiet => comparison_append_stop (apart entry listed) nonempty quiet) missed,
      comparison_missing_in_range listed _ low high joins]
    exact rfl
  -- the first range is the one the range words start
  have ranged : search range (betweenText text low join high).toList = some (low.chars, high.chars) := by
    rewrite [whole, searchFrom_before_rangeWords quiet low high
      (fun b v rest nonempty quiet => range_append_stop nonempty quiet) noRange]
    have atStart := range_rangeWords quiet low high joins
    obtain ⟨rest, words⟩ := rangeWords_cons low join high
    rewrite [words] at atStart ⊢
    unfold searchFrom
    rewrite [atStart]
    exact rfl
  rewrite [detectAmount_of_range has compared ranged lowValue highValue,
    Filter.make_ok named (Filter.boundsProblem_floats _ (rangeBounds_bounds first second).2.2.2.2.2.2)]
  exact rfl

end Law


/-- A range filter does not depend on the order of its two amounts. After a text that ends in no
word character and holds no comparison and no range, `between`, two written tokens and a join
build the filter of the smaller and the larger of the two amounts, in either order: the bounds are
the two amounts, neither is outside them, the lower is not above the upper, and the two orders
give equal bounds. -/
theorem between_order_invariant {entity : Entity} {v : Vocabulary} {field : String}
    (filled : v.amountFields.Filled) (has : v.amountField? entity = some field) {p : String}
    (quiet : EndsQuiet p.toList) (noComparison : firstComparison p.toList = none)
    (noRange : search range p.toList = none) {join : String} (joins : join ∈ rangeJoins)
    (a b : WrittenAmount) {va vb : Float} (valueA : tokenAmount a.chars = some va)
    (valueB : tokenAmount b.chars = some vb) :
    detectAmount (betweenText p a join b) entity v = .ok (some (rangeFilter field va vb)) ∧
      detectAmount (betweenText p b join a) entity v = .ok (some (rangeFilter field vb va)) ∧
      Bounds va vb (rangeBounds va vb).1 (rangeBounds va vb).2 ∧
      ((rangeBounds va vb).1 == (rangeBounds vb va).1) = true ∧
      ((rangeBounds va vb).2 == (rangeBounds vb va).2) = true := by
  have named : (Text.trimWhite field).isEmpty = false := Table.lookup_filled filled has
  obtain ⟨sameLow, sameHigh⟩ :=
    rangeBounds_swap (tokenAmount_finite valueA) (tokenAmount_finite valueB)
  exact ⟨detectAmount_betweenText has named quiet noComparison noRange a b joins valueA valueB,
    detectAmount_betweenText has named quiet noComparison noRange b a joins valueB valueA,
    rangeBounds_bounds va vb, sameLow, sameHigh⟩

def fifteenHundred : WrittenAmount where
  dollar := true
  lead := '1'
  body := [',', '5', '0', '0']
  fraction := []
  mark := none
  lead_digit := by simp [isDigit_of_ascii]
  body_chars := by simp [isDigit_of_ascii]
  fraction_digits := by simp
  mark_k := by simp

def twoThousand : WrittenAmount where
  dollar := false
  lead := '2'
  body := []
  fraction := []
  mark := some 'k'
  lead_digit := by simp [isDigit_of_ascii]
  body_chars := by simp
  fraction_digits := by simp
  mark_k k same := by
    obtain rfl := Option.some.inj (Option.mem_def.mp same)
    decide

theorem between_order_invariant_on_invoices :
    ∃ va vb, tokenAmount fifteenHundred.chars = some va ∧ tokenAmount twoThousand.chars = some vb ∧
      detectAmount (betweenText "invoices " fifteenHundred "and" twoThousand) .invoices .standard =
        .ok (some (rangeFilter "amount" va vb)) ∧
      detectAmount (betweenText "invoices " twoThousand "and" fifteenHundred) .invoices .standard =
        .ok (some (rangeFilter "amount" vb va)) ∧
      Bounds va vb (rangeBounds va vb).1 (rangeBounds va vb).2 ∧
      ((rangeBounds va vb).1 == (rangeBounds vb va).1) = true ∧
      ((rangeBounds va vb).2 == (rangeBounds vb va).2) = true := by
  obtain ⟨va, valueA⟩ := Option.isSome_iff_exists.mp
    (show (tokenAmount fifteenHundred.chars).isSome = true by decide +kernel)
  obtain ⟨vb, valueB⟩ := Option.isSome_iff_exists.mp
    (show (tokenAmount twoThousand.chars).isSome = true by decide +kernel)
  have quiet : EndsQuiet "invoices ".toList := by
    simp [EndsQuiet, isWordChar_of_ascii]
  exact ⟨va, vb, valueA, valueB, between_order_invariant Vocabulary.standard_filled.amounts rfl quiet
    (by decide +kernel) (by decide +kernel) (by decide) fifteenHundred twoThousand valueA valueB⟩

/-- The first range of a text decides its filter: after a text that ends in a blank and holds no
comparison but a range of its own, the range words that follow are not read. -/
theorem between_prefix_range_wins :
    EndsQuiet "between 1 and 2 ".toList ∧ firstComparison "between 1 and 2 ".toList = none ∧
      ∃ lo hi, detectAmount "between 1 and 2 between 3 and 4" .invoices .standard =
        .ok (some ⟨"amount", .between, .float lo, some (.float hi)⟩) ∧ hi < 3.0 := by
  obtain ⟨one, valueOne⟩ := Option.isSome_iff_exists.mp
    (show (tokenAmount ['1']).isSome = true by decide +kernel)
  obtain ⟨two, valueTwo⟩ := Option.isSome_iff_exists.mp
    (show (tokenAmount ['2']).isSome = true by decide +kernel)
  have below : ((tokenAmount ['1']).bind fun x => (tokenAmount ['2']).map fun y =>
      decide ((rangeBounds x y).2 < 3.0)) = some true := by
    decide +kernel
  rw [valueOne, valueTwo] at below
  have missing : firstComparison "between 1 and 2 between 3 and 4".toList = none := by
    decide +kernel
  have found : search range "between 1 and 2 between 3 and 4".toList = some (['1'], ['2']) := by
    decide +kernel
  refine ⟨by simp [EndsQuiet, isWordChar_of_ascii], by decide +kernel, ?_⟩
  rw [detectAmount_of_range rfl missing found valueOne valueTwo,
    Filter.make_ok (by decide +kernel)
      (Filter.boundsProblem_floats _ (rangeBounds_bounds one two).2.2.2.2.2.2)]
  have trimmed : Text.trimWhite "amount" = "amount" := by decide +kernel
  refine ⟨(rangeBounds one two).1, (rangeBounds one two).2, ?_, by simpa using below⟩
  rw [trimmed]
  rfl

end NaturalQuery
