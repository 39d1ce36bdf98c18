import Mathlib.Data.List.Chain
import Mathlib.Data.List.Pairwise
import Wikitext.Proofs.Text.Cuts
import Wikitext.Title

/-!
Names in normal form. They have no underscore and no blank but single spaces between other
characters; normalisation gives such a name from every text and changes none of them.
-/
namespace Wikitext
open Text

/-- A name that normalisation leaves as it is. -/
structure NormalName (cs : List Char) : Prop where
  noUnderscore : '_' ∉ cs
  blank : ∀ c ∈ cs, isBlank c = true → c = ' '
  single : cs.IsChain fun first second => first = ' ' → second ≠ ' '
  start : ∀ c ∈ cs.head?, c ≠ ' '
  stop : ∀ c ∈ cs.getLast?, c ≠ ' '

namespace NormalName

theorem nil : NormalName [] where
  noUnderscore := List.not_mem_nil
  blank := by simp
  single := .nil
  start := by simp
  stop := by simp

theorem join {first second : List Char} {c : Char} (before : NormalName first)
    (after : NormalName second) (mark : c ≠ '_') (blank : isBlank c = true → c = ' ')
    (inner : c = ' ' → first ≠ [] ∧ second ≠ []) : NormalName (first ++ c :: second) where
  noUnderscore := by simp [before.noUnderscore, after.noUnderscore, Ne.symm mark]
  blank := by
    intro other member
    rcases List.mem_append.mp member with early | late
    · exact before.blank other early
    · rcases List.mem_cons.mp late with rfl | later
      · exact blank
      · exact after.blank other later
  single := by
    rw [List.isChain_append, List.isChain_cons]
    refine ⟨before.single, ⟨fun next found _ => after.start next found, after.single⟩, ?_⟩
    intro last found next _ space
    exact absurd space (before.stop last found)
  start := by
    intro other found space
    cases first with
    | nil =>
      cases found
      exact (inner space).1 rfl
    | cons head rest => exact before.start other found space
  stop := by
    intro other found space
    cases second with
    | nil =>
      rw [List.getLast?_concat] at found
      cases found
      exact (inner space).2 rfl
    | cons head rest =>
      rw [List.getLast?_append, List.getLast?_cons_cons] at found
      simp only [List.getLast?_cons, Option.some_or] at found
      exact after.stop other (by rw [List.getLast?_cons]; exact found) space

theorem word {cs : List Char} (plain : ∀ c ∈ cs, isBlank c = false ∧ c ≠ '_') :
    NormalName cs where
  noUnderscore member := (plain '_' member).2 rfl
  blank c member blank := by
    rw [(plain c member).1] at blank
    contradiction
  single := by
    apply List.Pairwise.isChain
    apply List.pairwise_of_forall_mem_list
    intro first _ second member _ space
    rw [space] at member
    exact absurd (plain ' ' member).1 (by decide)
  start c found space := by
    have member := List.mem_of_mem_head? found
    rw [space] at member
    exact absurd (plain ' ' member).1 (by decide)
  stop c found space := by
    have member := List.mem_of_mem_getLast? found
    rw [space] at member
    exact absurd (plain ' ' member).1 (by decide)

end NormalName

namespace Text

theorem pieces_congr {test other : Char → Bool} {cs : List Char}
    (same : ∀ c ∈ cs, test c = other c) : pieces test cs = pieces other cs := by
  induction cs with
  | nil => rfl
  | cons c cs ih =>
    rw [pieces, pieces, same c List.mem_cons_self,
      ih fun other member => same other (List.mem_cons_of_mem c member)]

theorem mem_wordsOf {cs word : List Char} (member : word ∈ wordsOf cs) :
    word ≠ [] ∧ ∀ c ∈ word, c ∈ cs ∧ isBlank c = false := by
  obtain ⟨piece, some⟩ := List.mem_filter.mp member
  refine ⟨?_, mem_pieces piece⟩
  rintro rfl
  contradiction

theorem intercalate_ne_nil {mark : Char} {words : List (List Char)} (some : words ≠ [])
    (full : ∀ word ∈ words, word ≠ []) : [mark].intercalate words ≠ [] := by
  obtain ⟨first, rest, rfl⟩ := List.exists_cons_of_ne_nil some
  have front := full first List.mem_cons_self
  by_cases last : rest = []
  · rwa [last, List.intercalate_singleton]
  · rw [List.intercalate_cons_of_ne_nil last]
    simp [front]

theorem normalName_intercalate {words : List (List Char)}
    (plain : ∀ word ∈ words, word ≠ [] ∧ ∀ c ∈ word, isBlank c = false ∧ c ≠ '_') :
    NormalName ([' '].intercalate words) := by
  induction words with
  | nil => exact .nil
  | cons word rest ih =>
    have here := plain word List.mem_cons_self
    have others : ∀ other ∈ rest, other ≠ [] ∧ ∀ c ∈ other, isBlank c = false ∧ c ≠ '_' :=
      fun other member => plain other (List.mem_cons_of_mem word member)
    by_cases last : rest = []
    · rw [last, List.intercalate_singleton]
      exact .word here.2
    · rw [List.intercalate_cons_of_ne_nil last, List.append_assoc]
      refine (NormalName.word here.2).join (ih others) (by decide) (fun _ => rfl) fun _ => ?_
      exact ⟨here.1, intercalate_ne_nil last fun other member => (others other member).1⟩

theorem ne_nil_of_mem_pieces {cs piece : List Char} (some : cs ≠ [])
    (single : cs.IsChain fun first second => first = ' ' → second ≠ ' ')
    (start : ∀ c ∈ cs.head?, c ≠ ' ') (stop : ∀ c ∈ cs.getLast?, c ≠ ' ')
    (member : piece ∈ pieces (· == ' ') cs) : piece ≠ [] := by
  match cs with
  | [] => contradiction
  | [c] =>
    have plain : (c == ' ') = false := by simpa using start
    simp only [pieces, plain, List.mem_singleton] at member
    simp [member]
  | c :: next :: rest =>
    have plain : (c == ' ') = false := by simpa using start
    rw [List.getLast?_cons_cons] at stop
    obtain ⟨apart, tail⟩ := List.isChain_cons_cons.mp single
    by_cases space : next = ' '
    · -- the space ends the first word, and what follows it starts with another one
      subst space
      have more : rest ≠ [] := by
        rintro rfl
        simp at stop
      obtain ⟨second, others, rfl⟩ := List.exists_cons_of_ne_nil more
      obtain ⟨word, tail⟩ := List.isChain_cons_cons.mp tail
      have cut : pieces (· == ' ') (c :: ' ' :: second :: others) =
          [c] :: pieces (· == ' ') (second :: others) := by
        conv_lhs => rw [pieces]
        simp only [plain]
        conv_lhs => rw [pieces]
        simp
      rw [cut] at member
      rcases List.mem_cons.mp member with rfl | later
      · simp
      · rw [List.getLast?_cons_cons] at stop
        exact ne_nil_of_mem_pieces (by simp) tail (by simpa using word rfl) stop later
    · have inner : ∀ other ∈ pieces (· == ' ') (next :: rest), other ≠ [] := fun other found =>
        ne_nil_of_mem_pieces (by simp) tail (by simpa using space) stop found
      obtain ⟨first, others, cut⟩ :=
        List.exists_cons_of_ne_nil (pieces_ne_nil (· == ' ') (next :: rest))
      rw [pieces, cut] at member
      simp only [plain] at member
      rcases List.mem_cons.mp member with rfl | later
      · simp
      · exact inner piece (cut ▸ List.mem_cons_of_mem first later)
termination_by cs.length

end Text

theorem NormalName.wordsOf {cs : List Char} (normal : NormalName cs) :
    [' '].intercalate (wordsOf cs) = cs := by
  cases cs with
  | nil => rfl
  | cons first rest =>
    have blanks : ∀ c ∈ first :: rest, isBlank c = (c == ' ') := by
      intro c member
      by_cases space : c = ' '
      · rw [space]
        rfl
      · have plain : isBlank c = false := by
          rw [Bool.eq_false_iff]
          intro blank
          exact space (normal.blank c member blank)
        simp [plain, space]
    have all : (pieces (· == ' ') (first :: rest)).filter (fun word => !word.isEmpty) =
        pieces (· == ' ') (first :: rest) := by
      rw [List.filter_eq_self]
      intro piece member
      simpa using ne_nil_of_mem_pieces (by simp) normal.single normal.start normal.stop member
    rw [Text.wordsOf, pieces_congr blanks, all, intercalate_pieces]

theorem underscoresToSpaces_eq_self {s : String} (none : '_' ∉ s.toList) :
    underscoresToSpaces s = s := by
  unfold underscoresToSpaces
  have same : s.toList.map (fun c => if c = '_' then ' ' else c) = s.toList.map id := by
    apply List.map_congr_left
    intro c member
    have other : c ≠ '_' := fun mark => none (mark ▸ member)
    rw [if_neg other, id]
  rw [same, List.map_id, String.ofList_toList]

theorem not_mem_underscoresToSpaces (s : String) : '_' ∉ (underscoresToSpaces s).toList := by
  rw [underscoresToSpaces, String.toList_ofList, List.mem_map]
  rintro ⟨c, _, same⟩
  split at same
  · contradiction
  · contradiction

theorem toList_normalizeName (name : String) : (normalizeName name).toList =
    [' '].intercalate (wordsOf (underscoresToSpaces name).toList) := by
  rw [normalizeName, collapse, String.toList_ofList]

theorem normalName_normalizeName (name : String) : NormalName (normalizeName name).toList := by
  rw [toList_normalizeName]
  apply normalName_intercalate
  intro word member
  obtain ⟨some, inside⟩ := mem_wordsOf member
  refine ⟨some, fun c found => ⟨(inside c found).2, ?_⟩⟩
  rintro rfl
  exact not_mem_underscoresToSpaces name (inside '_' found).1

theorem normalizeName_eq_self {name : String} (normal : NormalName name.toList) :
    normalizeName name = name := by
  apply String.ext
  rw [toList_normalizeName, underscoresToSpaces_eq_self normal.noUnderscore, normal.wordsOf]

theorem normalizeName_normalizeName (name : String) :
    normalizeName (normalizeName name) = normalizeName name :=
  normalizeName_eq_self (normalName_normalizeName name)

theorem mem_normalizeName {name : String} {c : Char} (member : c ∈ (normalizeName name).toList) :
    c = ' ' ∨ c ∈ name.toList := by
  rw [toList_normalizeName] at member
  rcases mem_intercalate member with space | ⟨word, found, inside⟩
  · exact .inl space
  · have held := ((mem_wordsOf found).2 c inside).1
    rw [underscoresToSpaces, String.toList_ofList] at held
    obtain ⟨other, listed, same⟩ := List.mem_map.mp held
    split at same
    · exact .inl same.symm
    · exact .inr (same ▸ listed)

end Wikitext
