import Wikitext.Proofs.Titles.Names

/-!
Names normalised from left to right. Gaps at the start of a name vanish; any other character stays,
and a gap behind it becomes one space if more of the name follows.
-/
namespace Wikitext
open Text

def isGap (c : Char) : Bool := c == '_' || isBlank c

def normalChars (cs : List Char) : List Char := (normalizeName (String.ofList cs)).toList

def spaceBefore (cs : List Char) : List Char :=
  if cs.head?.any isGap = true ∧ normalChars cs ≠ [] then [' '] else []

theorem isGap_space : isGap ' ' = true := by decide

theorem isGap_colon : isGap ':' = false := by decide

theorem toList_normalizeName_eq (name : String) :
    (normalizeName name).toList = normalChars name.toList := by
  rw [normalChars, String.ofList_toList]

theorem normalChars_eq (cs : List Char) : normalChars cs =
    [' '].intercalate (wordsOf (cs.map fun c => if c = '_' then ' ' else c)) := by
  rw [normalChars, toList_normalizeName, underscoresToSpaces, String.toList_ofList,
    String.toList_ofList]

theorem isBlank_of_isGap {c : Char} (gap : isGap c = true) :
    isBlank (if c = '_' then ' ' else c) = true := by
  split
  · rfl
  · rename_i other
    simpa [isGap, other] using gap

theorem of_not_isGap {c : Char} (plain : isGap c = false) :
    (if c = '_' then ' ' else c) = c ∧ isBlank c = false := by
  rw [isGap, Bool.or_eq_false_iff, beq_eq_false_iff_ne] at plain
  exact ⟨if_neg plain.1, plain.2⟩

theorem isGap_iff {c : Char} : isGap c = true ↔ isBlank (if c = '_' then ' ' else c) = true := by
  constructor
  · exact isBlank_of_isGap
  · intro blank
    by_contra plain
    obtain ⟨same, solid⟩ := of_not_isGap (Bool.eq_false_iff.mpr plain)
    rw [same, solid] at blank
    contradiction

theorem normalChars_gap {c : Char} (gap : isGap c = true) (cs : List Char) :
    normalChars (c :: cs) = normalChars cs := by
  rw [normalChars_eq, normalChars_eq, List.map_cons, wordsOf, pieces, isBlank_of_isGap gap]
  rfl

theorem normalChars_nil : normalChars [] = [] := rfl

theorem normalChars_plain {c : Char} (plain : isGap c = false) (cs : List Char) :
    normalChars (c :: cs) = c :: (spaceBefore cs ++ normalChars cs) := by
  obtain ⟨same, solid⟩ := of_not_isGap plain
  cases cs with
  | nil => simp [normalChars_eq, spaceBefore, wordsOf, pieces, same, solid]
  | cons d ds =>
    by_cases gap : isGap d = true
    · -- the gap ends the first word, and the words behind it are those of the other text
      rw [spaceBefore, normalChars_gap gap, List.head?_cons, Option.any_some]
      generalize words : wordsOf (ds.map fun c => if c = '_' then ' ' else c) = others
      have first : normalChars (c :: d :: ds) = [' '].intercalate ([c] :: others) := by
        simp [normalChars_eq, wordsOf, pieces, same, solid, isBlank_of_isGap gap, ← words]
      rw [first, normalChars_eq, words]
      by_cases none : others = []
      · simp [none]
      · have some : [' '].intercalate others ≠ [] :=
          intercalate_ne_nil none fun word member => (mem_wordsOf (words ▸ member)).1
        rw [List.intercalate_cons_of_ne_nil none, if_pos ⟨gap, some⟩]
        rfl
    · have inner : isGap d = false := by simpa using gap
      obtain ⟨sameNext, solidNext⟩ := of_not_isGap inner
      obtain ⟨piece, more, cut⟩ := List.exists_cons_of_ne_nil
        (pieces_ne_nil isBlank (ds.map fun c => if c = '_' then ' ' else c))
      have close : spaceBefore (d :: ds) = [] := by simp [spaceBefore, inner]
      rw [close, List.nil_append, normalChars_eq, normalChars_eq]
      simp only [List.map_cons, same, sameNext, wordsOf, pieces, solid, solidNext, cut,
        List.filter_cons, List.isEmpty_cons, Bool.not_false, if_true]
      exact List.intercalate_cons_cons_left ..

theorem normalChars_normalChars (cs : List Char) :
    normalChars (normalChars cs) = normalChars cs := by
  rw [normalChars, normalChars, String.ofList_toList, normalizeName_normalizeName]

theorem normalChars_spaced (cs : List Char) :
    normalChars (spaceBefore cs ++ normalChars cs) = normalChars cs := by
  rw [spaceBefore]
  split
  · rw [List.singleton_append, normalChars_gap isGap_space, normalChars_normalChars]
  · rw [List.nil_append, normalChars_normalChars]

theorem length_normalChars_le (cs : List Char) : (normalChars cs).length ≤ cs.length := by
  have inner : (spaceBefore cs ++ normalChars cs).length ≤ cs.length := by
    induction cs with
    | nil => simp [spaceBefore, normalChars_nil]
    | cons c cs ih =>
      cases gap : isGap c with
      | true =>
        have space : (spaceBefore (c :: cs)).length ≤ 1 := by
          rw [spaceBefore]
          split <;> simp
        rw [List.length_append] at ih ⊢
        rw [normalChars_gap gap, List.length_cons]
        omega
      | false =>
        have close : spaceBefore (c :: cs) = [] := by simp [spaceBefore, gap]
        rw [close, List.nil_append, normalChars_plain gap, List.length_cons, List.length_cons]
        omega
  rw [List.length_append] at inner
  omega

/-- The name in front of a mark and the text behind it are normalised apart from each other; only
a space may stand before the mark. -/
theorem normalChars_mark {mark : Char} (plain : isGap mark = false) (first second : List Char) :
    ∃ before, (before = [] ∨ before = [' '] ∧ normalChars first ≠ []) ∧
      normalChars (first ++ mark :: second) =
        normalChars first ++ (before ++ mark :: (spaceBefore second ++ normalChars second)) := by
  induction first with
  | nil => exact ⟨[], .inl rfl, normalChars_plain plain second⟩
  | cons c cs ih =>
    obtain ⟨before, space, whole⟩ := ih
    cases gap : isGap c with
    | true =>
      rw [List.cons_append, normalChars_gap gap, normalChars_gap gap]
      exact ⟨before, space, whole⟩
    | false =>
      rw [List.cons_append, normalChars_plain gap, normalChars_plain gap, whole]
      by_cases empty : normalChars cs = []
      · -- the gap behind `c` reaches to the mark
        refine ⟨spaceBefore (cs ++ mark :: second), ?_, ?_⟩
        · rw [spaceBefore]
          split
          · exact .inr ⟨rfl, by simp⟩
          · exact .inl rfl
        · have close : spaceBefore cs = [] := by simp [spaceBefore, empty]
          have none : before = [] := space.resolve_right fun held => held.2 empty
          rw [close, none, empty]
          rfl
      · have some : cs ≠ [] := by
          rintro rfl
          exact empty normalChars_nil
        have same : spaceBefore (cs ++ mark :: second) = spaceBefore cs := by
          rw [spaceBefore, spaceBefore, List.head?_append_of_ne_nil cs some, whole]
          simp [empty]
        refine ⟨before, space.imp_right fun held => ⟨held.1, by simp⟩, ?_⟩
        rw [same]
        simp

end Wikitext
