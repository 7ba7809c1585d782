import NaturalQuery.Proofs.Checks
import NaturalQuery.Detect.Entity

/-!
Which keyword the entity detector picks. A keyword occurs in a text when it is a run of its
characters, and the scan visits the keywords of the table kind by kind, each kind's list in
order. Of the keywords that occur, the detector picks the first of the longest: every keyword
scanned before it is strictly shorter, and none scanned after it is longer. So a tie in length
goes to the kind that comes first in the table and, within one kind, to the keyword listed first.
It finds nothing exactly when no keyword occurs, and its match is sure exactly when the keyword
starts the text or follows a space.
-/

namespace NaturalQuery

namespace Text

theorem dropExact_eq_some_iff {pattern cs rest : List Char} :
    dropExact pattern cs = some rest ↔ cs = pattern ++ rest := by
  induction pattern generalizing cs with
  | nil => simp [dropExact, eq_comm]
  | cons p ps ih =>
    cases cs with
    | nil => simp [dropExact]
    | cons c cs =>
      by_cases same : p = c
      · subst same
        simp [dropExact, ih]
      · simp [dropExact, same, Ne.symm same]

theorem searchFrom_isSome_iff {α : Type} {attempt : List Char → Option α} (before : Option Char)
    (cs : List Char) :
    (searchFrom (fun _ rest => attempt rest) before cs).isSome ↔
      ∃ pre rest, cs = pre ++ rest ∧ (attempt rest).isSome := by
  induction cs generalizing before with
  | nil => simp [searchFrom]
  | cons c cs ih =>
    unfold searchFrom
    cases found : attempt (c :: cs) with
    | some hit => simpa using ⟨[], c :: cs, rfl, by simp [found]⟩
    | none =>
      simp only [ih]
      constructor
      · rintro ⟨pre, rest, rfl, hit⟩
        exact ⟨c :: pre, rest, rfl, hit⟩
      · rintro ⟨pre, rest, split, hit⟩
        cases pre with
        | nil =>
          -- the attempt at the front already failed
          simp only [List.nil_append] at split
          rw [← split, found] at hit
          cases hit
        | cons d pre =>
          obtain ⟨rfl, rfl⟩ := List.cons_eq_cons.mp split
          exact ⟨pre, rest, rfl, hit⟩

theorem containsText_iff (s part : String) :
    containsText s part = true ↔ part.toList <:+: s.toList := by
  unfold containsText search
  rw [searchFrom_isSome_iff]
  simp only [Option.isSome_map]
  constructor
  · rintro ⟨pre, rest, split, hit⟩
    obtain ⟨after, dropped⟩ := Option.isSome_iff_exists.mp hit
    rw [dropExact_eq_some_iff] at dropped
    exact ⟨pre, after, by rw [split, dropped, List.append_assoc]⟩
  · rintro ⟨pre, after, split⟩
    refine ⟨pre, part.toList ++ after, by rw [← split, List.append_assoc], ?_⟩
    rw [Option.isSome_iff_exists]
    exact ⟨after, dropExact_eq_some_iff.mpr rfl⟩

end Text

def keywordScan (table : Table Entity (List String)) : List (Entity × String) :=
  table.flatMap fun entry => entry.2.map (entry.1, ·)

def keywordHits (lowered : String) (table : Table Entity (List String)) : List (Entity × String) :=
  (keywordScan table).filter fun hit => hit.2.toList <:+: lowered.toList

/-- `pick` is the first of the longest keywords of `hits`: every keyword before it is strictly
shorter, and none after it is longer. -/
def FirstLongest (hits : List (Entity × String)) (pick : Entity × String) : Prop :=
  ∃ pre post, hits = pre ++ pick :: post ∧ (∀ hit ∈ pre, hit.2.length < pick.2.length) ∧
    ∀ hit ∈ post, hit.2.length ≤ pick.2.length

/-- One step of the scan over the keywords that occur: a hit replaces the keyword kept only when
it is strictly longer. -/
def keepLonger (best : Option (Entity × String)) (hit : Entity × String) : Option (Entity × String) :=
  match best with
  | none => some hit
  | some (_, found) => if hit.2.length > found.length then some hit else best

theorem longestKeyword_eq_foldl (lowered : String) (table : Table Entity (List String)) :
    longestKeyword lowered table = (keywordHits lowered table).foldl keepLonger none := by
  have occurs : (keywordScan table).filter (fun hit => Text.containsText lowered hit.2) =
      keywordHits lowered table :=
    List.filter_congr fun hit _ => by
      rw [Bool.eq_iff_iff, Text.containsText_iff, decide_eq_true_iff]
  rw [← occurs, List.foldl_filter, keywordScan, List.foldl_flatMap]
  simp only [List.foldl_map]
  rfl

theorem foldl_keepLonger_some (rest : List (Entity × String)) (b : Entity × String) :
    ∃ r, rest.foldl keepLonger (some b) = some r ∧ FirstLongest (b :: rest) r := by
  induction rest generalizing b with
  | nil => exact ⟨b, rfl, [], [], rfl, by simp, by simp⟩
  | cons x xs ih =>
    by_cases grows : x.2.length > b.2.length
    · -- the hit replaces the keyword kept, and the pick is at least as long as the hit
      obtain ⟨r, found, pre, post, split, shorter, notLonger⟩ := ih x
      have reaches : x.2.length ≤ r.2.length := by
        cases pre with
        | nil =>
          obtain ⟨rfl, -⟩ := List.cons_eq_cons.mp split
          exact Nat.le_refl _
        | cons y pre =>
          obtain ⟨rfl, -⟩ := List.cons_eq_cons.mp split
          exact Nat.le_of_lt (shorter _ List.mem_cons_self)
      refine ⟨r, by simpa [keepLonger, grows] using found, b :: pre, post, by rw [split]; rfl, ?_,
        notLonger⟩
      intro hit member
      rcases List.mem_cons.mp member with rfl | earlier
      · omega
      · exact shorter hit earlier
    · -- the hit is dropped, and it is no longer than the keyword kept
      obtain ⟨r, found, pre, post, split, shorter, notLonger⟩ := ih b
      refine ⟨r, by simpa [keepLonger, grows] using found, ?_⟩
      cases pre with
      | nil =>
        obtain ⟨rfl, rfl⟩ := List.cons_eq_cons.mp split
        refine ⟨[], x :: xs, rfl, by simp, ?_⟩
        intro hit member
        rcases List.mem_cons.mp member with rfl | later
        · omega
        · exact notLonger hit later
      | cons y pre =>
        obtain ⟨rfl, rfl⟩ := List.cons_eq_cons.mp split
        have beaten := shorter b List.mem_cons_self
        refine ⟨b :: x :: pre, post, rfl, ?_, notLonger⟩
        intro hit member
        simp only [List.mem_cons] at member
        rcases member with rfl | rfl | earlier
        · exact beaten
        · omega
        · exact shorter hit (List.mem_cons_of_mem _ earlier)

theorem longestKeyword_spec (lowered : String) (table : Table Entity (List String)) :
    (longestKeyword lowered table = none ↔ keywordHits lowered table = []) ∧
      ∀ pick, longestKeyword lowered table = some pick →
        FirstLongest (keywordHits lowered table) pick := by
  rw [longestKeyword_eq_foldl]
  cases hits : keywordHits lowered table with
  | nil => simp
  | cons b rest =>
    obtain ⟨r, found, first⟩ := foldl_keepLonger_some rest b
    simp only [List.foldl_cons, keepLonger] at found ⊢
    rw [found]
    refine ⟨by simp, fun pick same => ?_⟩
    rwa [← Option.some.inj same]

/-- The entity detector finds nothing exactly when no keyword of the vocabulary occurs in the
lower-cased text. Otherwise it returns the first of the longest keywords that occur, in the
order of the table and of each kind's list, with its kind; the match is sure exactly when the
keyword starts the lower-cased text or follows a space in it. -/
theorem detectEntity_longest (text : String) (v : Vocabulary) :
    (detectEntity text v = none ↔
      ∀ entry ∈ v.entityKeywords, ∀ keyword ∈ entry.2,
        ¬ keyword.toList <:+: (Text.lower text).toList) ∧
    ∀ m, detectEntity text v = some m →
      FirstLongest (keywordHits (Text.lower text) v.entityKeywords) (m.entity, m.keyword) ∧
        m.confidence =
          if m.keyword.toList <+: (Text.lower text).toList ∨
              (' ' :: m.keyword.toList) <:+: (Text.lower text).toList
          then exactConfidence else partialConfidence := by
  obtain ⟨none_iff, found⟩ := longestKeyword_spec (Text.lower text) v.entityKeywords
  refine ⟨?_, fun m detected => ?_⟩
  · -- no hit at all is an empty list of hits
    simp only [detectEntity, Option.map_eq_none_iff, none_iff, keywordHits, keywordScan,
      List.filter_eq_nil_iff, List.mem_flatMap, List.mem_map, decide_eq_true_eq]
    constructor
    · intro none entry member keyword listed
      exact none (entry.1, keyword) ⟨entry, member, keyword, listed, rfl⟩
    · rintro none _ ⟨entry, member, keyword, listed, rfl⟩
      exact none entry member keyword listed
  · obtain ⟨pick, picked, rfl⟩ := Option.map_eq_some_iff.mp detected
    refine ⟨found pick picked, ?_⟩
    have sure : ((Text.lower text).startsWith pick.2 ||
        Text.containsText (Text.lower text) (" " ++ pick.2)) = true ↔
        pick.2.toList <+: (Text.lower text).toList ∨
          (' ' :: pick.2.toList) <:+: (Text.lower text).toList := by
      simp [Text.containsText_iff]
    by_cases exact : pick.2.toList <+: (Text.lower text).toList ∨
        (' ' :: pick.2.toList) <:+: (Text.lower text).toList
    · simp only [if_pos exact, if_pos (sure.mpr exact)]
    · simp only [if_neg exact, if_neg (fun hit => exact (sure.mp hit))]

end NaturalQuery
