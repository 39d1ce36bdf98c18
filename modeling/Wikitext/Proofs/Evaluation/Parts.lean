import Wikitext.Proofs.Evaluation.Joining

/-!
Computations made of others. When the whole has a result, so have the computations it is made of,
and it records exactly the names that they record.
-/
namespace Wikitext

namespace WordSet

instance : HasSubset WordSet := ⟨fun first second => ∀ word, word ∈ first → word ∈ second⟩

theorem subset_refl (set : WordSet) : set ⊆ set := fun _ member => member

theorem subset_trans {first second third : WordSet} (start : first ⊆ second)
    (rest : second ⊆ third) : first ⊆ third :=
  fun word member => rest word (start word member)

theorem subset_union_left (first second : WordSet) : first ⊆ first ∪ second :=
  fun _ member => mem_union.mpr (.inl member)

theorem subset_union_right (first second : WordSet) : second ⊆ first ∪ second :=
  fun _ member => mem_union.mpr (.inr member)

theorem mem_singleton {word other : String} : word ∈ ({other} : WordSet) ↔ word = other :=
  List.mem_singleton

end WordSet

namespace Evaluating
variable {α β γ : Type}

theorem eq_done_of_toOption {outcome : Evaluating α} {value : α} {words : WordSet}
    (result : outcome.toOption = some (value, words)) : outcome = done value words := by
  cases outcome with
  | error error => cases result
  | ok pair => cases result; rfl

theorem fail_bind (error : EvaluationError) (next : α → Evaluating β) :
    fail error >>= next = fail error := rfl

theorem done_bind_fail {value : α} {words : WordSet} {next : α → Evaluating β}
    {error : EvaluationError} (rest : next value = fail error) :
    done value words >>= next = fail error := by
  change Evaluating.bind (done value words) next = _
  simp only [Evaluating.bind, done]
  rw [rest]
  rfl

theorem bind_eq_done {first : Evaluating α} {next : α → Evaluating β} {result : β}
    {words : WordSet} :
    first >>= next = done result words ↔
      ∃ value before after, first = done value before ∧ next value = done result after ∧
        words = before ∪ after := by
  constructor
  · intro whole
    rcases done_or_fail first with ⟨value, before, rfl⟩ | ⟨error, rfl⟩
    · rcases done_or_fail (next value) with ⟨other, after, rest⟩ | ⟨error, rest⟩
      · rw [done_bind_done rest] at whole
        cases whole
        exact ⟨value, before, after, rfl, rest, rfl⟩
      · rw [done_bind_fail rest] at whole
        cases whole
    · rw [fail_bind] at whole
      cases whole
  · rintro ⟨value, before, after, rfl, rest, rfl⟩
    exact done_bind_done rest

theorem bind_congr_done {first : Evaluating α} {next other : α → Evaluating β}
    (same : ∀ value words, first = done value words → next value = other value) :
    first >>= next = first >>= other := by
  rcases done_or_fail first with ⟨value, words, rfl⟩ | ⟨error, rfl⟩
  · rcases done_or_fail (other value) with ⟨result, more, rest⟩ | ⟨error, rest⟩
    · rw [done_bind_done rest, done_bind_done ((same value words rfl).trans rest)]
    · rw [done_bind_fail rest, done_bind_fail ((same value words rfl).trans rest)]
  · rfl

protected theorem pure_bind (value : α) (next : α → Evaluating β) :
    Pure.pure value >>= next = next value := by
  rw [pure_eq]
  rcases done_or_fail (next value) with ⟨result, words, rest⟩ | ⟨error, rest⟩
  · rw [done_bind_done rest, rest, WordSet.empty_union]
  · rw [done_bind_fail rest, rest]

protected theorem bind_assoc (first : Evaluating α) (next : α → Evaluating β)
    (last : β → Evaluating γ) :
    first >>= next >>= last = first >>= fun value => next value >>= last := by
  rcases done_or_fail first with ⟨value, words, rfl⟩ | ⟨error, rfl⟩
  · rcases done_or_fail (next value) with ⟨other, more, middle⟩ | ⟨error, middle⟩
    · have inner : next value >>= last = done other more >>= last := by rw [middle]
      rcases done_or_fail (last other) with ⟨result, most, rest⟩ | ⟨error, rest⟩
      · rw [done_bind_done middle, done_bind_done rest, WordSet.union_assoc]
        exact (done_bind_done (inner.trans (done_bind_done rest))).symm
      · rw [done_bind_done middle, done_bind_fail rest]
        exact (done_bind_fail (inner.trans (done_bind_fail rest))).symm
    · have inner : next value >>= last = fail error := by rw [middle, fail_bind]
      rw [done_bind_fail middle, fail_bind]
      exact (done_bind_fail inner).symm
  · rw [fail_bind, fail_bind, fail_bind]

instance : LawfulMonad Evaluating :=
  LawfulMonad.mk' Evaluating
    (fun outcome => by
      rcases done_or_fail outcome with ⟨value, words, rfl⟩ | ⟨error, rfl⟩
      · rfl
      · rfl)
    Evaluating.pure_bind Evaluating.bind_assoc

/-- When the whole has a result, the part has one, and what it records the whole records too. -/
def PartOf (part : Evaluating α) (whole : Evaluating β) : Prop :=
  ∀ result words, whole = done result words → ∃ value fewer, part = done value fewer ∧ fewer ⊆ words

theorem PartOf.refl (whole : Evaluating α) : PartOf whole whole :=
  fun result words run => ⟨result, words, run, WordSet.subset_refl words⟩

theorem PartOf.trans {part : Evaluating α} {middle : Evaluating β} {whole : Evaluating γ}
    (inside : PartOf part middle) (around : PartOf middle whole) : PartOf part whole := by
  intro result words run
  obtain ⟨_, more, middleRun, included⟩ := around result words run
  obtain ⟨value, fewer, partRun, within⟩ := inside _ more middleRun
  exact ⟨value, fewer, partRun, WordSet.subset_trans within included⟩

theorem partOf_bind (first : Evaluating α) (next : α → Evaluating β) :
    PartOf first (first >>= next) := by
  intro result words run
  obtain ⟨value, before, after, start, _, rfl⟩ := bind_eq_done.mp run
  exact ⟨value, before, start, WordSet.subset_union_left before after⟩

theorem partOf_bind_next {first : Evaluating α} {next : α → Evaluating β} {part : Evaluating γ}
    (within : ∀ value words, first = done value words → PartOf part (next value)) :
    PartOf part (first >>= next) := by
  intro result words run
  obtain ⟨value, before, after, start, rest, rfl⟩ := bind_eq_done.mp run
  obtain ⟨other, fewer, partRun, included⟩ := within value before start _ after rest
  exact ⟨other, fewer, partRun,
    WordSet.subset_trans included (WordSet.subset_union_right before after)⟩

def Records (outcome : Evaluating α) (word : String) : Prop :=
  ∃ value words, outcome = done value words ∧ word ∈ words

theorem not_records_pure (value : α) (word : String) :
    ¬Records (Pure.pure value : Evaluating α) word := by
  rintro ⟨result, words, run, member⟩
  cases run
  exact WordSet.not_mem_empty word member

theorem records_bind {first : Evaluating α} {next : α → Evaluating β} {word : String}
    (recorded : Records (first >>= next) word) :
    Records first word ∨ ∃ value words, first = done value words ∧ Records (next value) word := by
  obtain ⟨result, words, run, member⟩ := recorded
  obtain ⟨value, before, after, start, rest, rfl⟩ := bind_eq_done.mp run
  rcases WordSet.mem_union.mp member with early | late
  · exact .inl ⟨value, before, start, early⟩
  · exact .inr ⟨value, before, start, result, after, rest, late⟩

end Evaluating

end Wikitext
