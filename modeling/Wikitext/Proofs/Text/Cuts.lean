import Mathlib.Data.List.TakeWhile
import Wikitext.Text.Blank

/-!
Cutting text and joining it again.
-/
namespace Wikitext.Text

theorem intercalate_pieces (mark : Char) (cs : List Char) :
    [mark].intercalate (pieces (· == mark) cs) = cs := by
  induction cs with
  | nil => rfl
  | cons c cs ih =>
    obtain ⟨piece, more, cut⟩ := List.exists_cons_of_ne_nil (pieces_ne_nil (· == mark) cs)
    rw [cut] at ih
    rw [pieces, cut]
    by_cases same : c = mark
    · simp only [same, beq_self_eq_true]
      rw [List.intercalate_cons_cons, ih]
      rfl
    · simp only [beq_false_of_ne same]
      rw [List.intercalate_cons_cons_left, ih]

theorem mem_pieces {separator : Char → Bool} {cs piece : List Char}
    (member : piece ∈ pieces separator cs) :
    ∀ c ∈ piece, c ∈ cs ∧ separator c = false := by
  induction cs generalizing piece with
  | nil => simp_all [pieces]
  | cons first rest ih =>
    intro c inside
    rw [pieces] at member
    split at member
    · rcases List.mem_cons.mp member with rfl | later
      · simp at inside
      · obtain ⟨found, passes⟩ := ih later c inside
        exact ⟨List.mem_cons_of_mem first found, passes⟩
    · rename_i none
      exact absurd none (pieces_ne_nil separator rest)
    · rename_i plain cut
      rcases List.mem_cons.mp member with rfl | later
      · rcases List.mem_cons.mp inside with rfl | deeper
        · exact ⟨List.mem_cons_self, plain⟩
        · obtain ⟨found, passes⟩ := ih (cut ▸ List.mem_cons_self) c deeper
          exact ⟨List.mem_cons_of_mem first found, passes⟩
      · obtain ⟨found, passes⟩ := ih (cut ▸ List.mem_cons_of_mem _ later) c inside
        exact ⟨List.mem_cons_of_mem first found, passes⟩

theorem mem_intercalate {α : Type} {mark c : α} {words : List (List α)}
    (member : c ∈ [mark].intercalate words) : c = mark ∨ ∃ word ∈ words, c ∈ word := by
  induction words with
  | nil => simp at member
  | cons word rest ih =>
    by_cases last : rest = []
    · rw [last, List.intercalate_singleton] at member
      exact .inr ⟨word, List.mem_cons_self, member⟩
    · rw [List.intercalate_cons_of_ne_nil last] at member
      rcases List.mem_append.mp member with front | later
      · rcases List.mem_append.mp front with here | between
        · exact .inr ⟨word, List.mem_cons_self, here⟩
        · exact .inl (List.mem_singleton.mp between)
      · rcases ih later with same | ⟨other, found, inside⟩
        · exact .inl same
        · exact .inr ⟨other, List.mem_cons_of_mem word found, inside⟩

theorem takeWhile_stop {test : Char → Bool} {stop : Char} (fails : test stop = false)
    (cs rest : List Char) : (cs ++ stop :: rest).takeWhile test = cs.takeWhile test := by
  induction cs with
  | nil => simp [fails]
  | cons c cs ih =>
    rw [List.cons_append, List.takeWhile_cons, List.takeWhile_cons, ih]

theorem dropWhile_stop {test : Char → Bool} {stop : Char} (fails : test stop = false)
    (cs rest : List Char) :
    (cs ++ stop :: rest).dropWhile test = cs.dropWhile test ++ stop :: rest := by
  induction cs with
  | nil => simp [fails]
  | cons c cs ih =>
    rw [List.cons_append, List.dropWhile_cons, List.dropWhile_cons, ih]
    split <;> rfl

theorem cutFirst_eq_none {mark : Char} {cs : List Char} : cutFirst mark cs = none ↔ mark ∉ cs := by
  have passed : cs.dropWhile (· != mark) = [] ↔ mark ∉ cs := by
    rw [List.dropWhile_eq_nil_iff]
    constructor
    · intro others member
      exact bne_iff_ne.mp (others mark member) rfl
    · intro absent c member
      rw [bne_iff_ne]
      rintro rfl
      exact absent member
  rw [← passed, cutFirst]
  split
  · rename_i none
    simp [none]
  · rename_i some
    simp [some]

theorem exists_cutFirst {mark : Char} {cs : List Char} (member : mark ∈ cs) :
    ∃ before after, cutFirst mark cs = some (before, after) := by
  cases cut : cutFirst mark cs with
  | none => exact absurd member (cutFirst_eq_none.mp cut)
  | some parts => exact ⟨parts.1, parts.2, rfl⟩

theorem cutFirst_append {mark : Char} {before : List Char} (none : mark ∉ before)
    (after : List Char) : cutFirst mark (before ++ mark :: after) = some (before, after) := by
  have passes : ∀ c ∈ before, (c != mark) = true := by
    intro c member
    rw [bne_iff_ne]
    rintro rfl
    exact none member
  rw [cutFirst, List.dropWhile_append_of_pos passes, List.takeWhile_append_of_pos passes]
  simp

theorem takeWhile_apart {test : Char → Bool} {cs rest : List Char}
    (inside : ∀ c ∈ cs, test c = true) (apart : ∀ c ∈ rest.head?, test c = false) :
    (cs ++ rest).takeWhile test = cs := by
  have stop : rest.takeWhile test = [] := by
    cases rest with
    | nil => rfl
    | cons c rest => exact List.takeWhile_cons_of_neg (by simp [apart c rfl])
  rw [List.takeWhile_append_of_pos inside, stop, List.append_nil]

theorem dropWhile_apart {test : Char → Bool} {cs rest : List Char}
    (inside : ∀ c ∈ cs, test c = true) (apart : ∀ c ∈ rest.head?, test c = false) :
    (cs ++ rest).dropWhile test = rest := by
  rw [List.dropWhile_append_of_pos inside]
  cases rest with
  | nil => rfl
  | cons c rest => exact List.dropWhile_cons_of_neg (by simp [apart c rfl])

theorem not_mem_of_cutFirst {mark : Char} {cs before after : List Char}
    (cut : cutFirst mark cs = some (before, after)) : mark ∉ before := by
  rw [cutFirst] at cut
  split at cut
  · cases cut
  · cases cut
    intro member
    simpa using List.mem_takeWhile_imp member

theorem cutLast_eq_none {mark : Char} {cs : List Char} : cutLast mark cs = none ↔ mark ∉ cs := by
  rw [cutLast, Option.map_eq_none_iff, cutFirst_eq_none, List.mem_reverse]

theorem exists_cutLast {mark : Char} {cs : List Char} (member : mark ∈ cs) :
    ∃ before after, cutLast mark cs = some (before, after) := by
  obtain ⟨before, after, cut⟩ := exists_cutFirst (List.mem_reverse.mpr member)
  exact ⟨after.reverse, before.reverse, by rw [cutLast, cut, Option.map_some]⟩

theorem cutLast_eq {mark : Char} {cs before after : List Char}
    (cut : cutLast mark cs = some (before, after)) : cs = before ++ mark :: after := by
  obtain ⟨turned, found, same⟩ := Option.map_eq_some_iff.mp cut
  cases same
  rw [← List.reverse_inj, cutFirst_eq found]
  simp

theorem not_mem_of_cutLast {mark : Char} {cs before after : List Char}
    (cut : cutLast mark cs = some (before, after)) : mark ∉ after := by
  obtain ⟨turned, found, same⟩ := Option.map_eq_some_iff.mp cut
  cases same
  exact fun member => not_mem_of_cutFirst found (List.mem_reverse.mp member)

theorem first_cut_before {mark : Char} {front rest before after : List Char}
    (same : front ++ mark :: rest = before ++ mark :: after) (first : mark ∉ front) :
    before = front ∨ ∃ between, before = front ++ mark :: between := by
  rcases List.append_eq_append_iff.mp same with ⟨more, longer, tail⟩ | ⟨more, shorter, tail⟩
  · cases more with
    | nil => exact .inl (by rw [longer, List.append_nil])
    | cons c between =>
      cases tail
      exact .inr ⟨between, longer⟩
  · cases more with
    | nil => exact .inl (by rw [shorter, List.append_nil])
    | cons c between =>
      cases tail
      exact absurd (shorter ▸ List.mem_append_right before List.mem_cons_self) first

end Wikitext.Text
