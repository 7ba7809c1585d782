import NaturalQuery.Proofs.Characters
import NaturalQuery.Text.Clean

/-!
The normal form of cleaned text. A cleaned text has no blank at either end, each blank in it is
a space standing alone between two characters that are not blank, and it holds none of the six
typographic dashes and quotes. Trimming keeps the characters that are not blank, collapsing keeps
them too, and replacing the typographic characters maps blanks to blanks; so cleaning changes a
text, blanks aside, only by that replacement. A text already in normal form is its own cleaning,
which makes cleaning idempotent.
-/

namespace NaturalQuery.Text

def typographic : List Char := ['—', '–', '‘', '’', '“', '”']

/-- The normal form of cleaned text. -/
structure Cleaned (cs : List Char) : Prop where
  head : ∀ c ∈ cs.head?, isBlank c = false
  last : ∀ c ∈ cs.getLast?, isBlank c = false
  spaces : ∀ c ∈ cs, isBlank c = true → c = ' '
  single : cs.IsChain fun a b => isBlank a = false ∨ isBlank b = false
  plain : ∀ c ∈ cs, c ∉ typographic

section Replacement

theorem mem_typographic {c : Char} :
    c ∈ typographic ↔ c.toNat = 0x2014 ∨ c.toNat = 0x2013 ∨ c.toNat = 0x2018 ∨
      c.toNat = 0x2019 ∨ c.toNat = 0x201C ∨ c.toNat = 0x201D := by
  simp only [typographic, List.mem_cons, List.not_mem_nil, or_false, ← Char.toNat_inj]
  rfl

theorem plainChar_cases (c : Char) :
    (c ∈ typographic ∧ plainChar c ∈ ['-', '\'', '"']) ∨ (c ∉ typographic ∧ plainChar c = c) := by
  rw [mem_typographic]
  unfold plainChar
  split
  · next dash =>
    simp only [Bool.or_eq_true, decide_eq_true_eq] at dash
    exact .inl ⟨by omega, by simp⟩
  · split
    · next single =>
      simp only [Bool.or_eq_true, decide_eq_true_eq] at single
      exact .inl ⟨by omega, by simp⟩
    · split
      · next double =>
        simp only [Bool.or_eq_true, decide_eq_true_eq] at double
        exact .inl ⟨by omega, by simp⟩
      · next dash single double =>
        simp only [Bool.or_eq_true, decide_eq_true_eq, not_or] at dash single double
        exact .inr ⟨by omega, rfl⟩

theorem not_blank_of_typographic {c : Char} (typo : c ∈ typographic) : isBlank c = false := by
  rw [← Bool.not_eq_true]
  intro blank
  obtain ⟨range, member, low, high⟩ := RangeTable.contains_sound blank
  have apart : ∀ r ∈ blankTable.ranges.toList, r.2 < 0x2013 ∨ 0x201D < r.1 := by decide
  rw [mem_typographic] at typo
  rcases apart range member with below | above <;> omega

@[simp] theorem isBlank_plainChar (c : Char) : isBlank (plainChar c) = isBlank c := by
  rcases plainChar_cases c with ⟨typo, plain⟩ | ⟨-, same⟩
  · rw [not_blank_of_typographic typo]
    simp only [List.mem_cons, List.not_mem_nil, or_false] at plain
    rcases plain with same | same | same <;> rw [same] <;> simp [isBlank_of_ascii]
  · rw [same]

theorem plainChar_plain (c : Char) : plainChar c ∉ typographic := by
  rcases plainChar_cases c with ⟨-, plain⟩ | ⟨kept, same⟩
  · simp only [List.mem_cons, List.not_mem_nil, or_false] at plain
    rcases plain with same | same | same <;> rw [same] <;> decide
  · rwa [same]

theorem plainChar_of_plain {c : Char} (kept : c ∉ typographic) : plainChar c = c := by
  rcases plainChar_cases c with ⟨typo, -⟩ | ⟨-, same⟩
  · exact absurd typo kept
  · exact same

end Replacement

section Trimming

theorem dropWhile_of_head {p : Char → Bool} {l : List Char} (first : ∀ c ∈ l.head?, p c = false) :
    l.dropWhile p = l := by
  cases l with
  | nil => rfl
  | cons c rest => exact List.dropWhile_cons_of_neg (by simp [first c rfl])

theorem trimBlank_of_ends {cs : List Char} (first : ∀ c ∈ cs.head?, isBlank c = false)
    (last : ∀ c ∈ cs.getLast?, isBlank c = false) : trimBlank cs = cs := by
  have back : ∀ c ∈ cs.reverse.head?, isBlank c = false := by
    rw [List.head?_reverse]
    exact last
  rw [trimBlank, dropWhile_of_head first, dropWhile_of_head back, List.reverse_reverse]

theorem head_dropWhile {p : Char → Bool} (l : List Char) : ∀ c ∈ (l.dropWhile p).head?, p c = false := by
  intro c member
  have first := List.head?_dropWhile_not p l
  rw [Option.mem_def.mp member] at first
  exact first

theorem getLast?_dropWhile {p : Char → Bool} {l : List Char} (last : ∀ c ∈ l.getLast?, p c = false) :
    (l.dropWhile p).getLast? = l.getLast? := by
  induction l with
  | nil => rfl
  | cons c rest ih =>
    by_cases dropped : p c = true
    · rw [List.dropWhile_cons_of_pos dropped]
      cases rest with
      | nil => simp_all
      | cons d more =>
        rw [List.getLast?_cons_cons] at last ⊢
        exact ih last
    · rw [List.dropWhile_cons_of_neg dropped]

theorem filter_dropWhile (p : Char → Bool) (l : List Char) :
    (l.dropWhile p).filter (fun c => !p c) = l.filter (fun c => !p c) := by
  induction l with
  | nil => rfl
  | cons c rest ih =>
    by_cases dropped : p c = true
    · rw [List.dropWhile_cons_of_pos dropped, ih, List.filter_cons_of_neg (by simp [dropped])]
    · rw [List.dropWhile_cons_of_neg dropped]

theorem trimBlank_head (cs : List Char) : ∀ c ∈ (trimBlank cs).head?, isBlank c = false := by
  -- the front of the trimmed text is the back of the text that the front trim left
  have front := head_dropWhile (p := isBlank) cs
  rw [← List.getLast?_reverse] at front
  rw [trimBlank, List.head?_reverse, getLast?_dropWhile front]
  exact front

theorem trimBlank_last (cs : List Char) : ∀ c ∈ (trimBlank cs).getLast?, isBlank c = false := by
  rw [trimBlank, List.getLast?_reverse]
  exact head_dropWhile _

theorem trimBlank_filter (cs : List Char) :
    (trimBlank cs).filter (fun c => !isBlank c) = cs.filter (fun c => !isBlank c) := by
  rw [trimBlank, List.filter_reverse, filter_dropWhile, ← List.filter_reverse,
    List.reverse_reverse, filter_dropWhile]

end Trimming

section Collapsing

theorem collapseBlank_head (cs : List Char) :
    (collapseBlank cs).head? = cs.head?.map fun c => if isBlank c then ' ' else c := by
  cases cs with
  | nil => simp [collapseBlank]
  | cons c rest =>
    rw [collapseBlank]
    split <;> simp_all

theorem collapseBlank_filter (cs : List Char) :
    (collapseBlank cs).filter (fun c => !isBlank c) = cs.filter (fun c => !isBlank c) := by
  fun_induction collapseBlank cs with
  | case1 => rfl
  | case2 c rest blank ih =>
    have space : isBlank ' ' = true := by simp [isBlank_of_ascii]
    rw [List.filter_cons_of_neg (by simp [space]), ih, filter_dropWhile,
      List.filter_cons_of_neg (by simp [blank])]
  | case3 c rest kept ih =>
    rw [List.filter_cons, List.filter_cons, ih]

theorem collapseBlank_spaces (cs : List Char) : ∀ c ∈ collapseBlank cs, isBlank c = true → c = ' ' := by
  fun_induction collapseBlank cs with
  | case1 => simp
  | case2 c rest blank ih =>
    intro d member
    rcases List.mem_cons.mp member with rfl | inner
    · exact fun _ => rfl
    · exact ih d inner
  | case3 c rest kept ih =>
    intro d member
    rcases List.mem_cons.mp member with rfl | inner
    · simp [kept]
    · exact ih d inner

theorem collapseBlank_single (cs : List Char) :
    (collapseBlank cs).IsChain fun a b => isBlank a = false ∨ isBlank b = false := by
  fun_induction collapseBlank cs with
  | case1 => exact .nil
  | case2 c rest blank ih =>
    refine List.IsChain.cons ih fun d member => .inr ?_
    rw [collapseBlank_head] at member
    obtain ⟨e, first, rfl⟩ := Option.mem_map.mp member
    have kept := head_dropWhile (p := isBlank) rest e first
    simp [kept]
  | case3 c rest kept ih =>
    exact List.IsChain.cons ih fun _ _ => .inl (by simpa using kept)

theorem collapseBlank_last {cs : List Char} (last : ∀ c ∈ cs.getLast?, isBlank c = false) :
    (collapseBlank cs).getLast? = cs.getLast? := by
  fun_induction collapseBlank cs with
  | case1 => rfl
  | case2 c rest blank ih =>
    cases rest with
    | nil => simp_all
    | cons d more =>
      rw [List.getLast?_cons_cons] at last
      have tail : ((d :: more).dropWhile isBlank).getLast? = (d :: more).getLast? :=
        getLast?_dropWhile last
      have inner := ih (by rwa [tail])
      rw [tail] at inner
      rw [List.getLast?_cons, inner, List.getLast?_cons_cons, List.getLast?_cons, Option.getD_some]
  | case3 c rest kept ih =>
    cases rest with
    | nil => simp [collapseBlank]
    | cons d more =>
      rw [List.getLast?_cons_cons] at last ⊢
      rw [List.getLast?_cons, ih last, List.getLast?_cons, Option.getD_some]

theorem collapseBlank_of_single {cs : List Char} (spaces : ∀ c ∈ cs, isBlank c = true → c = ' ')
    (single : cs.IsChain fun a b => isBlank a = false ∨ isBlank b = false) : collapseBlank cs = cs := by
  fun_induction collapseBlank cs with
  | case1 => rfl
  | case2 c rest blank ih =>
    have next : ∀ d ∈ rest.head?, isBlank d = false := by
      intro d first
      cases rest with
      | nil => cases first
      | cons e more =>
        cases Option.some.inj first
        simpa [blank] using (List.isChain_cons_cons.mp single).1
    rw [dropWhile_of_head next] at ih ⊢
    rw [ih (fun d member => spaces d (List.mem_cons_of_mem c member)) single.of_cons,
      spaces c List.mem_cons_self blank]
  | case3 c rest kept ih =>
    rw [ih (fun d member => spaces d (List.mem_cons_of_mem c member)) single.of_cons]

theorem collapseBlank_mem {cs : List Char} {c : Char} (member : c ∈ collapseBlank cs)
    (kept : isBlank c = false) : c ∈ cs := by
  have filtered : c ∈ (collapseBlank cs).filter (fun c => !isBlank c) :=
    List.mem_filter.mpr ⟨member, by simp [kept]⟩
  rw [collapseBlank_filter] at filtered
  exact (List.mem_filter.mp filtered).1

end Collapsing

theorem clean_toList (text : Option String) :
    (clean text).toList = collapseBlank ((trimBlank (text.getD "").toList).map plainChar) := by
  simp [clean]

theorem clean_cleaned (text : Option String) : Cleaned (clean text).toList := by
  rw [clean_toList]
  set trimmed := (trimBlank (text.getD "").toList).map plainChar
  have ends : ∀ c ∈ trimmed.head?, isBlank c = false := by
    simp only [trimmed, List.head?_map, Option.mem_map]
    rintro _ ⟨c, first, rfl⟩
    simpa using trimBlank_head _ c first
  have back : ∀ c ∈ trimmed.getLast?, isBlank c = false := by
    simp only [trimmed, List.getLast?_map, Option.mem_map]
    rintro _ ⟨c, last, rfl⟩
    simpa using trimBlank_last _ c last
  refine ⟨?head, ?last, collapseBlank_spaces _, collapseBlank_single _, ?plain⟩
  case head =>
    rw [collapseBlank_head]
    intro d member
    obtain ⟨c, first, rfl⟩ := Option.mem_map.mp member
    simp [ends c first]
  case last =>
    rw [collapseBlank_last back]
    exact back
  case plain =>
    intro c member typo
    have kept := not_blank_of_typographic typo
    obtain ⟨d, -, rfl⟩ := List.mem_map.mp (collapseBlank_mem member kept)
    exact plainChar_plain d typo

theorem clean_filter (text : Option String) :
    (clean text).toList.filter (fun c => !isBlank c) =
      ((text.getD "").toList.map plainChar).filter (fun c => !isBlank c) := by
  have keeps : ((fun c => !isBlank c) ∘ plainChar) = fun c => !isBlank c := by
    funext c
    simp
  rw [clean_toList, collapseBlank_filter, List.filter_map, List.filter_map, keeps, trimBlank_filter]

theorem clean_of_cleaned {cs : List Char} (form : Cleaned cs) : clean (some (String.ofList cs)) = String.ofList cs := by
  have plain : cs.map plainChar = cs := by
    conv => rhs; rw [← List.map_id cs]
    exact List.map_congr_left fun c member => plainChar_of_plain (form.plain c member)
  rw [clean, Option.getD_some, String.toList_ofList, trimBlank_of_ends form.head form.last, plain,
    collapseBlank_of_single form.spaces form.single]

/-- Cleaning is idempotent and gives the normal form: no blank at either end, each blank a single
space between two characters that are not blank, no typographic dash or quote, and, blanks aside,
the text with those characters replaced. -/
theorem clean_normal_form (text : Option String) :
    clean (some (clean text)) = clean text ∧ Cleaned (clean text).toList ∧
      (clean text).toList.filter (fun c => !isBlank c) =
        ((text.getD "").toList.map plainChar).filter (fun c => !isBlank c) := by
  have form := clean_cleaned text
  refine ⟨?_, form, clean_filter text⟩
  have again := clean_of_cleaned form
  rwa [String.ofList_toList] at again

end NaturalQuery.Text
