import NaturalQuery.Proofs.RangeLaw
import NaturalQuery.Proofs.Cleaning

/-!
Where a text names someone. The detector first looks for the connector form: at the leftmost
position where `for`, `from`, `client`, `named` or `by` starts a word, in any case, followed by
blanks, an optional quote and a capital, it reads the longest name there (a name word, or two with
blanks between them) and drops the quotes at its end. The name goes to the kind's name field,
trimmed, and a field that trims to nothing is refused when the filter is built. When the connector
form occurs nowhere, or the kind has no name field, a kind other than projects looks for the
project form: `project` at the start of a word, blanks, an optional quote and a run of characters
that are neither blanks nor quotes, closed by an optional quote and then a blank or the end. The
leftmost such run names a project. Otherwise nothing is found.

Each form is stated as a relation at one position, without the detector's scanning functions.
`search` finds the leftmost match of any relation its attempt decides, so the proof comes down to
showing that the two attempts decide the two forms.
-/

namespace NaturalQuery

open Text

section Leftmost

variable {α : Type}

/-- `x` is found at the leftmost position of `cs` where `found` holds of anything: after `pre`,
with the character before that position. -/
def Leftmost (found : Option Char → List Char → α → Prop) (cs : List Char) (x : α) : Prop :=
  ∃ pre rest, cs = pre ++ rest ∧ found pre.getLast? rest x ∧
    ∀ pre' rest', cs = pre' ++ rest' → pre'.length < pre.length → ∀ y, ¬ found pre'.getLast? rest' y

def Nowhere (found : Option Char → List Char → α → Prop) (cs : List Char) : Prop :=
  ∀ pre rest, cs = pre ++ rest → ∀ y, ¬ found pre.getLast? rest y

variable {attempt : Option Char → List Char → Option α}

theorem searchFrom_eq_some_iff {before : Option Char} {cs : List Char} {x : α} :
    searchFrom attempt before cs = some x ↔
      ∃ pre rest, cs = pre ++ rest ∧ attempt (pre.getLast?.or before) rest = some x ∧
        ∀ pre' rest', cs = pre' ++ rest' → pre'.length < pre.length →
          attempt (pre'.getLast?.or before) rest' = none := by
  induction cs generalizing before with
  | nil =>
    constructor
    · intro hit
      exact ⟨[], [], rfl, hit, fun _ _ _ shorter => absurd shorter (Nat.not_lt_zero _)⟩
    · rintro ⟨pre, rest, split, hit, -⟩
      obtain ⟨rfl, rfl⟩ := List.append_eq_nil_iff.mp split.symm
      exact hit
  | cons c cs ih =>
    rw [searchFrom]
    cases first : attempt before (c :: cs) with
    | some found =>
      -- the attempt at the start succeeds, and no position lies before it
      constructor
      · intro same
        exact ⟨[], c :: cs, rfl, first.trans same,
          fun _ _ _ shorter => absurd shorter (Nat.not_lt_zero _)⟩
      · rintro ⟨pre, rest, split, hit, earlier⟩
        cases pre with
        | nil =>
          rw [List.nil_append] at split
          subst split
          exact first.symm.trans hit
        | cons d pre =>
          have missed : attempt before (c :: cs) = none :=
            earlier [] (c :: cs) rfl (Nat.succ_pos _)
          rw [first] at missed
          cases missed
    | none =>
      -- the search goes on past the first character, which becomes the one before
      dsimp only
      rw [ih]
      constructor
      · rintro ⟨pre, rest, split, hit, earlier⟩
        refine ⟨c :: pre, rest, by rw [split]; rfl, by rwa [getLast?_cons_or], ?_⟩
        intro pre' rest' split' shorter
        cases pre' with
        | nil =>
          rw [List.nil_append] at split'
          subst split'
          exact first
        | cons d pre' =>
          simp only [List.cons_append, List.cons.injEq] at split'
          obtain ⟨rfl, split'⟩ := split'
          rw [getLast?_cons_or]
          exact earlier pre' rest' split' (by simpa using shorter)
      · rintro ⟨pre, rest, split, hit, earlier⟩
        cases pre with
        | nil =>
          rw [List.nil_append] at split
          subst split
          change attempt before (c :: cs) = some x at hit
          rw [first] at hit
          cases hit
        | cons d pre =>
          simp only [List.cons_append, List.cons.injEq] at split
          obtain ⟨rfl, split⟩ := split
          refine ⟨pre, rest, split, by rwa [getLast?_cons_or] at hit, ?_⟩
          intro pre' rest' split' shorter
          have missed := earlier (c :: pre') rest' (by rw [split']; rfl) (by simpa using shorter)
          rwa [getLast?_cons_or] at missed

variable {found : Option Char → List Char → α → Prop}

theorem search_eq_some_iff (decides : ∀ before rest x, attempt before rest = some x ↔ found before rest x)
    {cs : List Char} {x : α} : search attempt cs = some x ↔ Leftmost found cs x := by
  have missed : ∀ before rest, attempt before rest = none ↔ ∀ y, ¬ found before rest y := by
    intro before rest
    simp only [Option.eq_none_iff_forall_ne_some, ne_eq, decides]
  simp only [search, searchFrom_eq_some_iff, Option.or_none, decides, missed, Leftmost]

theorem search_eq_none_iff (decides : ∀ before rest x, attempt before rest = some x ↔ found before rest x)
    {cs : List Char} : search attempt cs = none ↔ Nowhere found cs := by
  constructor
  · intro missed pre rest split y hit
    have failed := searchFrom_eq_none missed pre rest split
    rw [Option.or_none] at failed
    rw [← decides, failed] at hit
    cases hit
  · intro nowhere
    cases hit : search attempt cs with
    | none => rfl
    | some x =>
      obtain ⟨pre, rest, split, matched, -⟩ := (search_eq_some_iff decides).mp hit
      exact absurd matched (nowhere pre rest split x)

end Leftmost

section Characters

theorem isCapital_iff {c : Char} : isCapital c = true ↔ 65 ≤ c.toNat ∧ c.toNat ≤ 90 := by
  simp [isCapital, Char.le_def, UInt32.le_iff_toNat_le]

theorem isNameChar_iff {c : Char} : isNameChar c = true ↔
    65 ≤ c.toNat ∧ c.toNat ≤ 90 ∨ 97 ≤ c.toNat ∧ c.toNat ≤ 122 ∨ c.toNat = 39 ∨ c.toNat = 45 := by
  simp only [isNameChar, Bool.or_eq_true, Bool.and_eq_true, decide_eq_true_eq, ← Char.toNat_inj,
    Char.le_def, UInt32.le_iff_toNat_le]
  simp
  omega

theorem isQuote_iff {c : Char} : isQuote c = true ↔ c.toNat = 34 ∨ c.toNat = 39 := by
  simp only [isQuote, Bool.or_eq_true, decide_eq_true_eq, ← Char.toNat_inj]
  rfl

theorem isNameChar_of_isCapital {c : Char} (capital : isCapital c = true) : isNameChar c = true := by
  rw [isCapital_iff] at capital
  rw [isNameChar_iff]
  omega

theorem isQuote_of_isCapital {c : Char} (capital : isCapital c = true) : isQuote c = false := by
  rw [isCapital_iff] at capital
  rw [← Bool.not_eq_true, isQuote_iff]
  omega

theorem isBlank_of_isNameChar {c : Char} (name : isNameChar c = true) : isBlank c = false := by
  rw [isNameChar_iff] at name
  rw [isBlank_of_ascii (by omega), decide_eq_false_iff_not]
  omega

theorem isBlank_of_isCapital {c : Char} (capital : isCapital c = true) : isBlank c = false :=
  isBlank_of_isNameChar (isNameChar_of_isCapital capital)

theorem isBlank_of_isQuote {c : Char} (quote : isQuote c = true) : isBlank c = false := by
  rw [isQuote_iff] at quote
  rw [isBlank_of_ascii (by omega), decide_eq_false_iff_not]
  omega

end Characters

section Runs

theorem forall_head?_cons {P : Char → Prop} {c : Char} (l : List Char) (first : P c) :
    ∀ d ∈ (c :: l).head?, P d := by
  intro d member
  obtain rfl : c = d := Option.some.inj member
  exact first

variable {p : Char → Bool}

theorem takeWhile_dropWhile_of_split {w t : List Char} (all : ∀ c ∈ w, p c = true)
    (stop : ∀ c ∈ t.head?, p c = false) : (w ++ t).takeWhile p = w ∧ (w ++ t).dropWhile p = t := by
  rw [List.takeWhile_append_of_pos all, List.dropWhile_append_of_pos all, dropWhile_of_head stop]
  cases t with
  | nil => simp
  | cons c t => simp [List.takeWhile_cons_of_neg (by simpa using stop c rfl)]

theorem prefix_takeWhile {w l : List Char} (pre : w <+: l) (all : ∀ c ∈ w, p c = true) :
    w <+: l.takeWhile p := by
  induction w generalizing l with
  | nil => exact List.nil_prefix
  | cons c w ih =>
    cases l with
    | nil => exact absurd (List.eq_nil_of_prefix_nil pre) (List.cons_ne_nil c w)
    | cons d l =>
      obtain ⟨rfl, rest⟩ := List.cons_prefix_cons.mp pre
      rw [List.takeWhile_cons_of_pos (all c (List.mem_cons_self ..))]
      exact List.cons_prefix_cons.mpr ⟨rfl, ih rest fun x member => all x (List.mem_cons_of_mem c member)⟩

end Runs

section Words

theorem dropFolded_eq_some_iff {word cs after : List Char} :
    dropFolded word cs = some after ↔
      ∃ spelled, cs = spelled ++ after ∧
        List.Forall₂ (fun p c => letterMatches p c = true) word spelled := by
  induction word generalizing cs with
  | nil =>
    simp only [dropFolded, Option.some.injEq, List.forall₂_nil_left_iff, exists_eq_right,
      List.nil_append]
  | cons p ps ih =>
    cases cs with
    | nil => simp [dropFolded]
    | cons c cs =>
      simp only [dropFolded]
      split
      · next hit =>
        rw [ih]
        constructor
        · rintro ⟨spelled, rfl, matched⟩
          exact ⟨c :: spelled, rfl, .cons hit matched⟩
        · rintro ⟨_ | ⟨d, spelled⟩, split, matched⟩
          · cases matched
          · simp only [List.cons_append, List.cons.injEq] at split
            obtain ⟨rfl, split⟩ := split
            exact ⟨spelled, split, (List.forall₂_cons.mp matched).2⟩
      · next miss =>
        simp only [reduceCtorEq, false_iff, not_exists, not_and]
        rintro (_ | ⟨d, spelled⟩) split matched
        · cases matched
        · simp only [List.cons_append, List.cons.injEq] at split
          obtain ⟨rfl, -⟩ := split
          exact miss (List.forall₂_cons.mp matched).1

/-- Two lower-case words that no text can both start with: at the first letter where they part,
the second has an ASCII letter other than `i` and `s`, which only the characters that fold to it
match. -/
def Parted : List Char → List Char → Bool
  | p :: ps, q :: qs =>
    if p = q then Parted ps qs else decide (q.toNat < 128) && q != 'i' && q != 's'
  | _, _ => false

theorem not_both_of_parted {w₁ w₂ s₁ s₂ t₁ t₂ : List Char} (parted : Parted w₁ w₂ = true)
    (first : List.Forall₂ (fun p c => letterMatches p c = true) w₁ s₁)
    (second : List.Forall₂ (fun p c => letterMatches p c = true) w₂ s₂)
    (same : s₁ ++ t₁ = s₂ ++ t₂) : False := by
  induction first generalizing w₂ s₂ with
  | nil => cases w₂ <;> simp [Parted] at parted
  | @cons p c ps cs hit rest ih =>
    cases second with
    | nil => simp [Parted] at parted
    | @cons q d qs ds hit' rest' =>
      simp only [List.cons_append, List.cons.injEq] at same
      obtain ⟨rfl, same⟩ := same
      simp only [Parted] at parted
      split at parted
      · exact ih parted rest' same
      · next differ =>
        -- the character matches `q`, so it folds to `q` and matches no other letter
        simp only [Bool.and_eq_true, decide_eq_true_eq, bne_iff_ne, ne_eq] at parted
        have only := letterMatches_eq_of_hit parted.1.1 ⟨parted.1.2, parted.2⟩ hit' p
        rw [hit, eq_comm, beq_iff_eq] at only
        exact differ only.symm

theorem connectors_parted :
    ∀ w₁ ∈ connectors, ∀ w₂ ∈ connectors, w₁ ≠ w₂ → Parted w₁.toList w₂.toList = true := by
  decide +kernel

end Words

section Introduction

def OptQuote (quote : List Char) : Prop :=
  quote = [] ∨ ∃ q, quote = [q] ∧ isQuote q = true

theorem skipQuote_cases (cs : List Char) : ∃ quote, cs = quote ++ skipQuote cs ∧ OptQuote quote := by
  cases cs with
  | nil => exact ⟨[], rfl, .inl rfl⟩
  | cons c rest =>
    by_cases quoted : isQuote c = true
    · exact ⟨[c], by simp [skipQuote, quoted], .inr ⟨c, rfl, quoted⟩⟩
    · exact ⟨[], by simp [skipQuote, quoted], .inl rfl⟩

theorem skipQuote_of_split {quote body : List Char} (opt : OptQuote quote)
    (first : ∀ c ∈ body.head?, isQuote c = false) : skipQuote (quote ++ body) = body := by
  rcases opt with rfl | ⟨q, rfl, quoted⟩
  · cases body with
    | nil => rfl
    | cons c body => simp [skipQuote, first c rfl]
  · simp [skipQuote, quoted]

/-- At the front of `rest` stand `word`, matched without regard to case, at least one blank, an
optional quote, and then `body`. -/
def Introduces (word : String) (rest body : List Char) : Prop :=
  ∃ spelled blanks quote, rest = spelled ++ blanks ++ quote ++ body ∧
    List.Forall₂ (fun p c => letterMatches p c = true) word.toList spelled ∧
    blanks ≠ [] ∧ (∀ c ∈ blanks, isBlank c = true) ∧ OptQuote quote

theorem introduced_eq_some_iff {β : Type} {read : List Char → Option β}
    (starts : ∀ body y, read body = some y → ∀ c ∈ body.head?, isBlank c = false ∧ isQuote c = false)
    {word : String} {rest : List Char} {y : β} :
    ((dropFolded word.toList rest).bind fun afterWord =>
        if (afterWord.takeWhile isBlank).isEmpty then none
        else read (skipQuote (afterWord.dropWhile isBlank))) = some y ↔
      ∃ body, Introduces word rest body ∧ read body = some y := by
  constructor
  · intro found
    obtain ⟨afterWord, dropped, hit⟩ := Option.bind_eq_some_iff.mp found
    obtain ⟨spelled, rfl, matched⟩ := dropFolded_eq_some_iff.mp dropped
    split at hit
    · cases hit
    · next blanks =>
      obtain ⟨quote, split, opt⟩ := skipQuote_cases (afterWord.dropWhile isBlank)
      refine ⟨_, ⟨spelled, afterWord.takeWhile isBlank, quote, ?_, matched, by simpa using blanks,
        fun c member => List.mem_takeWhile_imp member, opt⟩, hit⟩
      rw [List.append_assoc, List.append_assoc, ← split, List.takeWhile_append_dropWhile]
  · rintro ⟨body, ⟨spelled, blanks, quote, rfl, matched, nonempty, allBlank, opt⟩, hit⟩
    -- after the blanks comes the quote, or the body, and neither is blank
    have next : ∀ c ∈ (quote ++ body).head?, isBlank c = false := by
      rcases opt with rfl | ⟨q, rfl, quoted⟩
      · exact fun c member => (starts body y hit c member).1
      · exact forall_head?_cons body (isBlank_of_isQuote quoted)
    obtain ⟨taken, left⟩ := takeWhile_dropWhile_of_split allBlank next
    have dropped : dropFolded word.toList (spelled ++ blanks ++ quote ++ body) =
        some (blanks ++ quote ++ body) :=
      dropFolded_eq_some_iff.mpr ⟨spelled, by simp, matched⟩
    rw [dropped, Option.bind_some, List.append_assoc, taken, left,
      skipQuote_of_split opt fun c member => (starts body y hit c member).2]
    simpa [nonempty] using hit

end Introduction

section Names

/-- A name word: an ASCII capital, then ASCII letters, apostrophes and hyphens. -/
def NameWord (w : List Char) : Prop :=
  ∃ c more, w = c :: more ∧ isCapital c = true ∧ ∀ d ∈ more, isNameChar d = true

/-- A name as the connector form reads it: a name word, or two with blanks between them. -/
def IsName (s : List Char) : Prop :=
  ∃ first, NameWord first ∧
    (s = first ∨ ∃ gap second, s = first ++ gap ++ second ∧ gap ≠ [] ∧
      (∀ c ∈ gap, isBlank c = true) ∧ NameWord second)

/-- `name` is the longest name at the front of `body`. -/
def LongestName (body name : List Char) : Prop :=
  IsName name ∧ name <+: body ∧ ∀ m, IsName m → m <+: body → m.length ≤ name.length

theorem NameWord.mem {w : List Char} (word : NameWord w) : ∀ c ∈ w, isNameChar c = true := by
  obtain ⟨c, more, rfl, capital, names⟩ := word
  intro d member
  rcases List.mem_cons.mp member with rfl | inner
  · exact isNameChar_of_isCapital capital
  · exact names d inner

theorem nameWord_eq_some_iff {cs w t : List Char} :
    nameWord cs = some (w, t) ↔ cs = w ++ t ∧ NameWord w ∧ ∀ c ∈ t.head?, isNameChar c = false := by
  cases cs with
  | nil =>
    simp only [nameWord, reduceCtorEq, false_iff, not_and]
    rintro split ⟨c, more, rfl, -⟩
    cases split
  | cons c rest =>
    simp only [nameWord]
    split
    · next capital =>
      simp only [Option.some.injEq, Prod.mk.injEq]
      constructor
      · rintro ⟨rfl, rfl⟩
        exact ⟨by simp, ⟨c, _, rfl, capital, fun d member => List.mem_takeWhile_imp member⟩,
          head_dropWhile rest⟩
      · rintro ⟨split, ⟨d, more, rfl, -, names⟩, stop⟩
        simp only [List.cons_append, List.cons.injEq] at split
        obtain ⟨rfl, rfl⟩ := split
        obtain ⟨taken, left⟩ := takeWhile_dropWhile_of_split names stop
        exact ⟨by rw [taken], left⟩
    · next notCapital =>
      simp only [reduceCtorEq, false_iff, not_and]
      rintro split ⟨d, more, rfl, capital, -⟩ -
      simp only [List.cons_append, List.cons.injEq] at split
      obtain ⟨rfl, -⟩ := split
      exact notCapital capital

theorem nameWord_of_prefix {m cs : List Char} (word : NameWord m) (pre : m <+: cs) :
    ∃ first tail, nameWord cs = some (first, tail) ∧ m <+: first := by
  obtain ⟨c, more, rfl, capital, names⟩ := word
  cases cs with
  | nil => exact absurd (List.eq_nil_of_prefix_nil pre) (List.cons_ne_nil c more)
  | cons d rest =>
    obtain ⟨rfl, within⟩ := List.cons_prefix_cons.mp pre
    exact ⟨c :: rest.takeWhile isNameChar, rest.dropWhile isNameChar, by simp [nameWord, capital],
      List.cons_prefix_cons.mpr ⟨rfl, prefix_takeWhile within names⟩⟩

end Names

section Reading

/-- The name the connector form reads at the front of a text, as the detector computes it: a name
word, and a second one when blanks and a capital follow. -/
def readName (body : List Char) : Option (List Char) :=
  (nameWord body).map fun (first, tail) =>
    let (gap, afterGap) := spanBlank tail
    match (if gap.isEmpty then none else nameWord afterGap) with
    | some (second, _) => first ++ gap ++ second
    | none => first

theorem connectorName_eq (before : Option Char) (rest : List Char) :
    connectorName before rest =
      if !boundaryAt before rest then none
      else connectors.findSome? fun word =>
        (dropFolded word.toList rest).bind fun afterWord =>
          if (afterWord.takeWhile isBlank).isEmpty then none
          else readName (skipQuote (afterWord.dropWhile isBlank)) :=
  rfl

theorem readName_sound {body name : List Char} (read : readName body = some name) :
    IsName name ∧ name <+: body := by
  obtain ⟨⟨first, tail⟩, found, rfl⟩ := Option.map_eq_some_iff.mp read
  obtain ⟨rfl, word, -⟩ := nameWord_eq_some_iff.mp found
  dsimp only [spanBlank]
  split
  · next second rest gapped =>
    -- a second word after the blanks
    split at gapped
    · cases gapped
    · next nonempty =>
      obtain ⟨split, word₂, -⟩ := nameWord_eq_some_iff.mp gapped
      refine ⟨⟨first, word, .inr ⟨_, second, rfl, by simpa using nonempty,
        fun c member => List.mem_takeWhile_imp member, word₂⟩⟩, rest, ?_⟩
      conv => rhs; rw [← List.takeWhile_append_dropWhile (p := isBlank) (l := tail), split]
      simp
  · exact ⟨⟨first, word, .inl rfl⟩, List.prefix_append first tail⟩

theorem readName_of_nameWord {body first tail : List Char} (found : nameWord body = some (first, tail)) :
    ∃ name, readName body = some name ∧ first <+: name := by
  refine ⟨_, by rw [readName, found, Option.map_some], ?_⟩
  dsimp only
  split
  · exact List.prefix_append_of_prefix (List.prefix_append first _)
  · exact List.prefix_refl first

theorem readName_of_second {body first gap after second rest : List Char}
    (found : nameWord body = some (first, gap ++ after)) (blanks : ∀ c ∈ gap, isBlank c = true)
    (nonempty : gap ≠ []) (found₂ : nameWord after = some (second, rest)) :
    readName body = some (first ++ gap ++ second) := by
  obtain ⟨rfl, ⟨c, more, rfl, capital, -⟩, -⟩ := nameWord_eq_some_iff.mp found₂
  have next : ∀ d ∈ ((c :: more) ++ rest).head?, isBlank d = false :=
    forall_head?_cons (more ++ rest) (isBlank_of_isCapital capital)
  obtain ⟨taken, left⟩ := takeWhile_dropWhile_of_split blanks next
  rw [readName, found, Option.map_some]
  dsimp only [spanBlank]
  rw [taken, left, found₂]
  simp [nonempty]

theorem readName_complete {body m : List Char} (named : IsName m) (pre : m <+: body) :
    ∃ name, readName body = some name ∧ m.length ≤ name.length := by
  obtain ⟨m₁, word₁, rfl | ⟨gap, m₂, rfl, nonempty, blanks, word₂⟩⟩ := named
  · -- one word: it lies within the first word read
    obtain ⟨first, tail, found, within⟩ := nameWord_of_prefix word₁ pre
    obtain ⟨name, read, longer⟩ := readName_of_nameWord found
    exact ⟨name, read, (within.trans longer).length_le⟩
  · -- two words: the first is exactly the first word read, since a blank follows it, and the
    -- second lies within the second word read
    obtain ⟨z, rfl⟩ := pre
    have stop : ∀ c ∈ (gap ++ m₂ ++ z).head?, isNameChar c = false := by
      obtain ⟨g, gap, rfl⟩ := List.exists_cons_of_ne_nil nonempty
      refine forall_head?_cons (gap ++ m₂ ++ z) ?_
      have blank := blanks g (List.mem_cons_self ..)
      by_contra name
      rw [isBlank_of_isNameChar (by simpa using name)] at blank
      cases blank
    have found : nameWord (m₁ ++ gap ++ m₂ ++ z) = some (m₁, gap ++ (m₂ ++ z)) :=
      nameWord_eq_some_iff.mpr ⟨by simp, word₁, by simpa using stop⟩
    obtain ⟨second, rest, found₂, within⟩ := nameWord_of_prefix word₂ (List.prefix_append m₂ z)
    refine ⟨_, readName_of_second found blanks nonempty found₂, ?_⟩
    simp only [List.length_append]
    have := within.length_le
    omega

theorem readName_eq_some_iff {body name : List Char} : readName body = some name ↔ LongestName body name := by
  constructor
  · intro read
    obtain ⟨named, pre⟩ := readName_sound read
    refine ⟨named, pre, fun m named' pre' => ?_⟩
    obtain ⟨name', read', longer⟩ := readName_complete named' pre'
    rw [read, Option.some.injEq] at read'
    rwa [read']
  · rintro ⟨named, pre, longest⟩
    obtain ⟨name', read, longer⟩ := readName_complete named pre
    obtain ⟨named', pre'⟩ := readName_sound read
    -- two prefixes of one text of one length are the same
    have same : name = name' :=
      (List.prefix_of_prefix_length_le pre pre' longer).eq_of_length
        (le_antisymm longer (longest name' named' pre'))
    rw [read, same]

theorem IsName.head {name : List Char} (named : IsName name) :
    ∃ c rest, name = c :: rest ∧ isCapital c = true := by
  obtain ⟨_, ⟨c, more, rfl, capital, -⟩, rfl | ⟨gap, second, rfl, -⟩⟩ := named
  · exact ⟨c, more, rfl, capital⟩
  · exact ⟨c, more ++ gap ++ second, by simp, capital⟩

theorem readName_head {body name : List Char} (read : readName body = some name) :
    ∀ c ∈ body.head?, isBlank c = false ∧ isQuote c = false := by
  obtain ⟨named, pre⟩ := readName_sound read
  obtain ⟨c, rest, rfl, capital⟩ := named.head
  obtain ⟨z, rfl⟩ := pre
  exact forall_head?_cons (rest ++ z) ⟨isBlank_of_isCapital capital, isQuote_of_isCapital capital⟩

end Reading

section Forms

/-- The connector form at one position: a connector word at the start of a word, blanks, an
optional quote, and the longest name after them. -/
def ConnectorAt (before : Option Char) (rest name : List Char) : Prop :=
  boundaryAt before rest = true ∧ ∃ word ∈ connectors, ∃ body, Introduces word rest body ∧ LongestName body name

def ClosesRun (after : List Char) : Prop :=
  ∃ quote more, after = quote ++ more ∧ OptQuote quote ∧ ∀ c ∈ more.head?, isBlank c = true

/-- The run the project form reads at the front of a text: at least one character, none a blank
or a quote, then what closes it. -/
def ProjectRun (start run : List Char) : Prop :=
  ∃ after, start = run ++ after ∧ run ≠ [] ∧ (∀ c ∈ run, isQuote c = false ∧ isBlank c = false) ∧
    ClosesRun after

/-- The project form at one position: `project` at the start of a word, blanks, an optional quote,
and a project run. -/
def ProjectAt (before : Option Char) (rest run : List Char) : Prop :=
  boundaryAt before rest = true ∧ ∃ body, Introduces "project" rest body ∧ ProjectRun body run

theorem findSome?_eq_some_of_unique {β γ : Type} {l : List β} {f : β → Option γ} {a : β} {b : γ}
    (member : a ∈ l) (hit : f a = some b) (unique : ∀ x ∈ l, (f x).isSome → x = a) :
    l.findSome? f = some b := by
  induction l with
  | nil => cases member
  | cons x xs ih =>
    rw [List.findSome?_cons]
    cases tried : f x with
    | some c =>
      obtain rfl : x = a := unique x List.mem_cons_self (by simp [tried])
      rw [hit] at tried
      exact tried.symm
    | none =>
      -- the hit lies further on
      have later : a ∈ xs := by
        rcases List.mem_cons.mp member with rfl | inner
        · rw [hit] at tried
          cases tried
        · exact inner
      exact ih later fun y inner => unique y (List.mem_cons_of_mem x inner)

theorem connector_unique {w₁ w₂ : String} (member₁ : w₁ ∈ connectors) (member₂ : w₂ ∈ connectors)
    {rest body₁ body₂ : List Char} (first : Introduces w₁ rest body₁) (second : Introduces w₂ rest body₂) :
    w₁ = w₂ := by
  obtain ⟨s₁, blanks₁, quote₁, split₁, matched₁, -⟩ := first
  obtain ⟨s₂, blanks₂, quote₂, split₂, matched₂, -⟩ := second
  have same : s₁ ++ (blanks₁ ++ quote₁ ++ body₁) = s₂ ++ (blanks₂ ++ quote₂ ++ body₂) := by
    simp only [← List.append_assoc, ← split₁, ← split₂]
  by_contra differ
  exact not_both_of_parted (connectors_parted w₁ member₁ w₂ member₂ differ) matched₁ matched₂ same

theorem connectorName_eq_some_iff {before : Option Char} {rest name : List Char} :
    connectorName before rest = some name ↔ ConnectorAt before rest name := by
  rw [connectorName_eq]
  by_cases boundary : boundaryAt before rest = true
  · simp only [boundary, Bool.not_true, Bool.false_eq_true, ↓reduceIte, ConnectorAt, true_and]
    constructor
    · intro found
      obtain ⟨word, member, hit⟩ := List.exists_of_findSome?_eq_some found
      obtain ⟨body, introduced, read⟩ := (introduced_eq_some_iff fun _ _ => readName_head).mp hit
      exact ⟨word, member, body, introduced, readName_eq_some_iff.mp read⟩
    · rintro ⟨word, member, body, introduced, longest⟩
      refine findSome?_eq_some_of_unique member ((introduced_eq_some_iff fun _ _ => readName_head).mpr
        ⟨body, introduced, readName_eq_some_iff.mpr longest⟩) fun other member' tried => ?_
      -- any other word that gives a name is introduced at the same position
      obtain ⟨y, hit⟩ := Option.isSome_iff_exists.mp tried
      obtain ⟨body', introduced', -⟩ := (introduced_eq_some_iff fun _ _ => readName_head).mp hit
      exact connector_unique member' member introduced' introduced
  · simp [boundary, ConnectorAt]

def readProject (start : List Char) : Option (List Char) :=
  let name := start.takeWhile fun c => !isQuote c && !isBlank c
  let tail := skipQuote (start.drop name.length)
  if name.isEmpty then none
  else
    match tail with
    | [] => some name
    | c :: _ => if isBlank c then some name else none

theorem projectName_eq (before : Option Char) (rest : List Char) :
    projectName before rest =
      if !boundaryAt before rest then none
      else (dropFolded "project".toList rest).bind fun afterWord =>
        if (afterWord.takeWhile isBlank).isEmpty then none
        else readProject (skipQuote (afterWord.dropWhile isBlank)) :=
  rfl

theorem readProject_eq_some_iff {start run : List Char} : readProject start = some run ↔ ProjectRun start run := by
  set plain : Char → Bool := fun c => !isQuote c && !isBlank c
  have dropped : start.drop (start.takeWhile plain).length = start.dropWhile plain := by
    have split := @List.drop_left _ (start.takeWhile plain) (start.dropWhile plain)
    rwa [List.takeWhile_append_dropWhile] at split
  unfold readProject
  dsimp only
  rw [dropped]
  constructor
  · intro read
    split at read
    · cases read
    · next nonempty =>
      -- what stops the run is closed by an optional quote and a blank or the end
      obtain ⟨quote, split, opt⟩ := skipQuote_cases (start.dropWhile plain)
      have closes : ClosesRun (start.dropWhile plain) ∧ start.takeWhile plain = run := by
        split at read
        · next empty =>
          exact ⟨⟨quote, [], by rw [split, empty], opt, by simp⟩, Option.some.inj read⟩
        · next c more tail =>
          split at read
          · next blank =>
            exact ⟨⟨quote, c :: more, by rw [split, tail], opt, forall_head?_cons more blank⟩,
              Option.some.inj read⟩
          · cases read
      obtain ⟨closes, rfl⟩ := closes
      rw [List.isEmpty_iff] at nonempty
      refine ⟨_, List.takeWhile_append_dropWhile.symm, nonempty, fun c member => ?_, closes⟩
      have kept := List.mem_takeWhile_imp member
      simp only [plain, Bool.and_eq_true, Bool.not_eq_eq_eq_not, Bool.not_true] at kept
      exact kept
  · rintro ⟨after, rfl, nonempty, chars, quote, more, rfl, opt, blank⟩
    -- the run stops at the quote, or at the blank, or at the end
    have stop : ∀ c ∈ (quote ++ more).head?, plain c = false := by
      rcases opt with rfl | ⟨q, rfl, quoted⟩
      · intro c member
        simp [plain, blank c member]
      · exact forall_head?_cons more (by simp [plain, quoted])
    obtain ⟨taken, left⟩ := takeWhile_dropWhile_of_split (p := plain)
      (fun c member => by simp [plain, chars c member]) stop
    rw [taken, left, skipQuote_of_split opt fun c member => by
      have := blank c member
      by_contra quoted
      rw [isBlank_of_isQuote (by simpa using quoted)] at this
      cases this]
    simp only [List.isEmpty_iff, nonempty, ↓reduceIte]
    cases more with
    | nil => rfl
    | cons c more => simp [blank c rfl]

theorem readProject_head {body run : List Char} (read : readProject body = some run) :
    ∀ c ∈ body.head?, isBlank c = false ∧ isQuote c = false := by
  obtain ⟨after, rfl, nonempty, chars, -⟩ := readProject_eq_some_iff.mp read
  obtain ⟨c, run, rfl⟩ := List.exists_cons_of_ne_nil nonempty
  exact forall_head?_cons (run ++ after) (chars c List.mem_cons_self).symm

theorem projectName_eq_some_iff {before : Option Char} {rest run : List Char} :
    projectName before rest = some run ↔ ProjectAt before rest run := by
  rw [projectName_eq]
  by_cases boundary : boundaryAt before rest = true
  · simp only [boundary, Bool.not_true, Bool.false_eq_true, ↓reduceIte, ProjectAt, true_and]
    rw [introduced_eq_some_iff fun _ _ => readProject_head]
    simp only [readProject_eq_some_iff]
  · simp [boundary, ProjectAt]

end Forms

section Values

/-- A name as the detector gives it: it starts with a capital, holds only name characters and
blanks, and ends in a name character that is no quote. -/
structure NameValue (value : List Char) : Prop where
  capital : ∃ c rest, value = c :: rest ∧ isCapital c = true
  chars : ∀ c ∈ value, isNameChar c = true ∨ isBlank c = true
  last : ∀ c ∈ value.getLast?, isNameChar c = true ∧ isQuote c = false

theorem IsName.chars {name : List Char} (named : IsName name) :
    ∀ c ∈ name, isNameChar c = true ∨ isBlank c = true := by
  obtain ⟨first, word, rfl | ⟨gap, second, rfl, -, blanks, word₂⟩⟩ := named
  · exact fun c member => .inl (word.mem c member)
  · intro c member
    simp only [List.mem_append] at member
    rcases member with (inFirst | inGap) | inSecond
    · exact .inl (word.mem c inFirst)
    · exact .inr (blanks c inGap)
    · exact .inl (word₂.mem c inSecond)

theorem IsName.anchor {name : List Char} (named : IsName name) :
    ∃ pre c more, name = pre ++ c :: more ∧ isCapital c = true ∧ ∀ d ∈ more, isNameChar d = true := by
  obtain ⟨_, ⟨c, more, rfl, capital, names⟩,
    rfl | ⟨gap, _, rfl, -, -, ⟨c₂, more₂, rfl, capital₂, names₂⟩⟩⟩ := named
  · exact ⟨[], c, more, rfl, capital, names⟩
  · exact ⟨c :: more ++ gap, c₂, more₂, by simp, capital₂, names₂⟩

theorem IsName.last {name : List Char} (named : IsName name) :
    ∀ c ∈ name.getLast?, isNameChar c = true := by
  obtain ⟨pre, c, more, rfl, capital, names⟩ := named.anchor
  rw [List.getLast?_append_of_ne_nil _ (List.cons_ne_nil c more)]
  intro d last
  rcases List.mem_cons.mp (List.mem_of_getLast? last) with rfl | inner
  · exact isNameChar_of_isCapital capital
  · exact names d inner

theorem rdropWhile_anchor {p : Char → Bool} {pre more : List Char} {c : Char} (kept : p c = false) :
    (pre ++ c :: more).rdropWhile p = pre ++ c :: more.rdropWhile p := by
  simp only [List.rdropWhile, List.reverse_append, List.reverse_cons, List.append_assoc,
    List.singleton_append]
  rw [List.dropWhile_append]
  split
  · next gone =>
    rw [List.dropWhile_cons_of_neg (by simp [kept]), List.isEmpty_iff.mp gone]
    simp
  · simp

theorem IsName.value {name : List Char} (named : IsName name) : NameValue (name.rdropWhile isQuote) := by
  obtain ⟨pre, c, more, split, capital, names⟩ := named.anchor
  have kept : name.rdropWhile isQuote = pre ++ c :: more.rdropWhile isQuote := by
    rw [split]
    exact rdropWhile_anchor (isQuote_of_isCapital capital)
  have within : name.rdropWhile isQuote <+: name := List.rdropWhile_prefix _ _
  refine ⟨?_, fun d member => named.chars d (within.subset member), fun d last => ⟨?_, ?_⟩⟩
  · -- it starts where the name starts
    obtain ⟨c₀, rest, first, capital₀⟩ := named.head
    have start : name.rdropWhile isQuote <+: c₀ :: rest := by
      rw [← first]
      exact within
    rcases List.prefix_cons_iff.mp start with empty | ⟨t, same, -⟩
    · rw [kept] at empty
      simp at empty
    · exact ⟨c₀, t, same, capital₀⟩
  · rw [kept, List.getLast?_append_of_ne_nil _ (List.cons_ne_nil _ _)] at last
    rcases List.mem_cons.mp (List.mem_of_getLast? last) with rfl | inner
    · exact isNameChar_of_isCapital capital
    · exact names d ((List.rdropWhile_prefix _ _).subset inner)
  · -- the last character is the first of the reversed name that no quote drop took
    rw [List.rdropWhile, List.getLast?_reverse] at last
    exact head_dropWhile _ d last

theorem IsName.strip {name : List Char} (named : IsName name) :
    dropQuotes (trimBlank name) = name.rdropWhile isQuote := by
  have first : ∀ d ∈ name.head?, isBlank d = false ∧ isQuote d = false := by
    obtain ⟨c, rest, rfl, capital⟩ := named.head
    exact forall_head?_cons rest ⟨isBlank_of_isCapital capital, isQuote_of_isCapital capital⟩
  rw [trimBlank_of_ends (fun d member => (first d member).1)
      (fun d member => isBlank_of_isNameChar (named.last d member)),
    dropQuotes, dropWhile_of_head (fun d member => (first d member).2)]
  rfl

theorem NameValue.ends {value : List Char} (named : NameValue value) :
    (∀ c ∈ value.head?, isBlank c = false) ∧ ∀ c ∈ value.getLast?, isBlank c = false := by
  obtain ⟨c, rest, rfl, capital⟩ := named.capital
  exact ⟨forall_head?_cons rest (isBlank_of_isCapital capital),
    fun d member => isBlank_of_isNameChar (named.last d member).1⟩

theorem trimWhite_ofList {cs : List Char} (first : ∀ c ∈ cs.head?, isBlank c = false)
    (last : ∀ c ∈ cs.getLast?, isBlank c = false) : trimWhite (String.ofList cs) = String.ofList cs := by
  have white : ∀ c, isBlank c = false → isWhiteSpace c = false := fun c blank => by
    simp [isWhiteSpace, blank]
  have back : ∀ c ∈ cs.reverse.head?, isWhiteSpace c = false := by
    rw [List.head?_reverse]
    exact fun c member => white c (last c member)
  rw [trimWhite, String.toList_ofList, dropWhile_of_head (fun c member => white c (first c member)),
    dropWhile_of_head back, List.reverse_reverse]

theorem make_contains (field : String) {value : List Char} (first : ∀ c ∈ value.head?, isBlank c = false)
    (last : ∀ c ∈ value.getLast?, isBlank c = false) :
    (some <$> Filter.make field .contains (.text (String.ofList value))) =
      if (trimWhite field).isEmpty then .error (.invalid "QueryFilter" [⟨["field"], tooShort⟩])
      else .ok (some ⟨trimWhite field, .contains, .text (String.ofList value), none⟩) := by
  split
  · next blank =>
    simp only [Filter.make, blank, ↓reduceIte]
    rfl
  · next filled =>
    rw [Filter.make_ok (by simpa using filled) (Filter.boundsProblem_single (by decide)), map_ok,
      FilterValue.trimmed, trimWhite_ofList first last]

end Values

section Detection

variable {text : String} {entity : Entity} {v : Vocabulary}

theorem ConnectorAt.isName {before : Option Char} {rest name : List Char}
    (found : ConnectorAt before rest name) : IsName name := by
  obtain ⟨_, _, _, _, _, longest⟩ := found
  exact longest.1

theorem ProjectAt.plain {before : Option Char} {rest run : List Char} (found : ProjectAt before rest run) :
    ∀ c ∈ run, isQuote c = false ∧ isBlank c = false := by
  obtain ⟨_, _, _, _, _, _, chars, _⟩ := found
  exact chars

theorem Entity.beq_projects_iff (e : Entity) : (e == .projects) = true ↔ e = .projects := by
  cases e <;> decide

theorem detectName_of_connector {name : List Char} {field : String}
    (found : search connectorName text.toList = some name) (known : v.nameField? entity = some field) :
    detectName text entity v =
      some <$> Filter.make field .contains (.text (String.ofList (dropQuotes (trimBlank name)))) := by
  simp only [detectName, found, known, Option.bind_some, Option.map_some]

theorem detectName_of_no_connector
    (missing : search connectorName text.toList = none ∨ v.nameField? entity = none) :
    (entity = .projects → detectName text entity v = .ok none) ∧
      (entity ≠ .projects → ∀ run, search projectName text.toList = some run →
        detectName text entity v =
          some <$> Filter.make "projectName" .contains (.text (String.ofList (trimBlank run)))) ∧
      (entity ≠ .projects → search projectName text.toList = none → detectName text entity v = .ok none) := by
  have unnamed : ((search connectorName text.toList).bind fun name =>
      (v.nameField? entity).map (·, name)) = none := by
    rcases missing with missing | missing <;> simp [missing]
  have other : entity ≠ .projects → (entity == .projects) = false := fun other =>
    Bool.eq_false_iff.mpr fun same => other ((Entity.beq_projects_iff entity).mp same)
  refine ⟨fun projects => ?_, fun kind run found => ?_, fun kind missed => ?_⟩
  · subst projects
    have self : (Entity.projects == Entity.projects) = true := rfl
    simp only [detectName, unnamed, self, ↓reduceIte]
  · simp only [detectName, unnamed, other kind, found, Bool.false_eq_true, ↓reduceIte]
  · simp only [detectName, unnamed, other kind, missed, Bool.false_eq_true, ↓reduceIte]

/-- The name detector, for every text, kind and vocabulary. At the leftmost connector form, with a
name field for the kind, it gives the longest name there without the quotes at its end, a name
that starts with a capital and ends in a letter or a hyphen; the filter is on the trimmed field,
and refused when the field trims to nothing. Otherwise a kind other than projects gets the run of
the leftmost project form, and nothing when there is none. -/
theorem detectName_leftmost (text : String) (entity : Entity) (v : Vocabulary) :
    (∀ name field, Leftmost ConnectorAt text.toList name → v.nameField? entity = some field →
      NameValue (name.rdropWhile isQuote) ∧
        detectName text entity v =
          if (trimWhite field).isEmpty then .error (.invalid "QueryFilter" [⟨["field"], tooShort⟩])
          else .ok (some ⟨trimWhite field, .contains, .text (String.ofList (name.rdropWhile isQuote)), none⟩)) ∧
    (Nowhere ConnectorAt text.toList ∨ v.nameField? entity = none →
      (entity = .projects → detectName text entity v = .ok none) ∧
      (entity ≠ .projects → ∀ run, Leftmost ProjectAt text.toList run →
        detectName text entity v = .ok (some ⟨"projectName", .contains, .text (String.ofList run), none⟩)) ∧
      (entity ≠ .projects → Nowhere ProjectAt text.toList → detectName text entity v = .ok none)) := by
  refine ⟨fun name field leftmost known => ?_, fun missing => ?_⟩
  · -- the search finds the leftmost connector form, and its name is a name
    have found := (search_eq_some_iff fun _ _ _ => connectorName_eq_some_iff).mpr leftmost
    obtain ⟨_, _, _, atName, _⟩ := leftmost
    have named := atName.isName
    rw [detectName_of_connector found known, named.strip,
      make_contains field named.value.ends.1 named.value.ends.2]
    exact ⟨named.value, rfl⟩
  · have missing' : search connectorName text.toList = none ∨ v.nameField? entity = none :=
      missing.imp_left (search_eq_none_iff fun _ _ _ => connectorName_eq_some_iff).mpr
    obtain ⟨projects, project, nothing⟩ := detectName_of_no_connector missing'
    refine ⟨projects, fun other run leftmost => ?_, fun other nowhere =>
      nothing other ((search_eq_none_iff fun _ _ _ => projectName_eq_some_iff).mpr nowhere)⟩
    -- the run holds no blank, so trimming leaves it, and the field is fixed
    have found := (search_eq_some_iff fun _ _ _ => projectName_eq_some_iff).mpr leftmost
    obtain ⟨_, _, _, atRun, _⟩ := leftmost
    have unblank : ∀ c ∈ run, isBlank c = false := fun c member => (atRun.plain c member).2
    have first : ∀ c ∈ run.head?, isBlank c = false :=
      fun c member => unblank c (List.mem_of_mem_head? member)
    have last : ∀ c ∈ run.getLast?, isBlank c = false :=
      fun c member => unblank c (List.mem_of_getLast? member)
    have named : (trimWhite "projectName").isEmpty = false := by
      rw [fixed_fields_trimmed.2]
      rfl
    rw [project other run found, trimBlank_of_ends first last, make_contains _ first last, named,
      fixed_fields_trimmed.2]
    rfl

/-- In `for Ann` the connector form names Ann, and the standard vocabulary files the name under
the client. -/
theorem detectName_leftmost_for_ann :
    Leftmost ConnectorAt "for Ann".toList ['A', 'n', 'n'] ∧
      detectName "for Ann" .invoices .standard = .ok (some ⟨"clientName", .contains, .text "Ann", none⟩) := by
  have leftmost : Leftmost ConnectorAt "for Ann".toList ['A', 'n', 'n'] :=
    (search_eq_some_iff fun _ _ _ => connectorName_eq_some_iff).mp (by decide +kernel)
  have trimmed : trimWhite "clientName" = "clientName" := by decide +kernel
  have stripped : ['A', 'n', 'n'].rdropWhile isQuote = ['A', 'n', 'n'] := by decide
  refine ⟨leftmost, ?_⟩
  rw [((detectName_leftmost "for Ann" .invoices .standard).1 _ "clientName" leftmost rfl).2, trimmed,
    stripped]
  rfl

/-- A kind whose name field is blank gets no name filter from `for Ann`: building it is
refused. -/
theorem detectName_refuses_blank_field :
    detectName "for Ann" .invoices { Vocabulary.standard with nameFields := [(.invoices, "")] } =
      .error (.invalid "QueryFilter" [⟨["field"], tooShort⟩]) := by
  have found : search connectorName "for Ann".toList = some ['A', 'n', 'n'] := by decide +kernel
  have blank : (trimWhite "").isEmpty = true := by decide +kernel
  rw [detectName_of_connector found rfl]
  simp only [Filter.make, blank, ↓reduceIte]
  rfl

end Detection

end NaturalQuery
