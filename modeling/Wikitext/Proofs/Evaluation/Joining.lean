import Mathlib.Data.List.Sort
import Wikitext.Evaluation
import Wikitext.Proofs.Markup.Headings

/-!
Evaluations one after the other. The texts are joined, the recorded names come together, and the
first error stays; nodes evaluate to the product of what each of them evaluates to.
-/
namespace Wikitext
open Markup

namespace WordSet

@[ext]
theorem ext {first second : WordSet} (same : ∀ word, word ∈ first ↔ word ∈ second) :
    first = second := by
  obtain ⟨words, ordered⟩ := first
  obtain ⟨others, otherOrdered⟩ := second
  have equal : words = others := ordered.eq_of_mem_iff otherOrdered same
  subst equal
  rfl

theorem union_empty (first : WordSet) : first ∪ ∅ = first := rfl

theorem not_mem_empty (word : String) : word ∉ (∅ : WordSet) := List.not_mem_nil

theorem empty_union (first : WordSet) : ∅ ∪ first = first := by
  ext word
  rw [mem_union]
  simp [not_mem_empty]

theorem union_assoc (first second third : WordSet) :
    first ∪ second ∪ third = first ∪ (second ∪ third) := by
  ext word
  simp only [mem_union, or_assoc]

end WordSet

namespace Evaluating
variable {α β : Type}

def done (value : α) (words : WordSet) : Evaluating α := .ok (value, words)

theorem done_or_fail (outcome : Evaluating α) :
    (∃ value words, outcome = done value words) ∨ ∃ error, outcome = fail error := by
  cases outcome with
  | ok result => exact .inl ⟨result.1, result.2, rfl⟩
  | error error => exact .inr ⟨error, rfl⟩

theorem pure_eq (value : α) : (Pure.pure value : Evaluating α) = done value ∅ := rfl

theorem done_bind_done {value : α} {words more : WordSet} {next : α → Evaluating β} {result : β}
    (rest : next value = done result more) :
    done value words >>= next = done result (words ∪ more) := by
  change Evaluating.bind (done value words) next = _
  unfold Evaluating.bind
  simp only [done] at rest ⊢
  rw [rest]

def join (first second : Evaluating String) : Evaluating String := do
  let text ← first
  let more ← second
  return text ++ more

theorem join_done (first second : String) (words more : WordSet) :
    join (done first words) (done second more) = done (first ++ second) (words ∪ more) := rfl

theorem join_fail (error : EvaluationError) (second : Evaluating String) :
    join (fail error) second = fail error := rfl

theorem join_done_fail (first : String) (words : WordSet) (error : EvaluationError) :
    join (done first words) (fail error) = fail error := rfl

theorem join_assoc (first second third : Evaluating String) :
    join (join first second) third = join first (join second third) := by
  rcases done_or_fail first with ⟨one, words, rfl⟩ | ⟨error, rfl⟩
  · rcases done_or_fail second with ⟨two, more, rfl⟩ | ⟨error, rfl⟩
    · rcases done_or_fail third with ⟨three, most, rfl⟩ | ⟨error, rfl⟩
      · rw [join_done, join_done, join_done, join_done, String.append_assoc, WordSet.union_assoc]
      · rw [join_done, join_done_fail, join_done_fail, join_done_fail]
    · rw [join_done_fail, join_fail, join_done_fail]
  · rw [join_fail, join_fail, join_fail]

instance : Monoid (Evaluating String) where
  one := done "" ∅
  mul := join
  mul_assoc := join_assoc
  one_mul outcome := by
    change join (done "" ∅) outcome = outcome
    rcases done_or_fail outcome with ⟨text, words, rfl⟩ | ⟨error, rfl⟩
    · rw [join_done, String.empty_append, WordSet.empty_union]
    · rw [join_done_fail]
  mul_one outcome := by
    change join outcome (done "" ∅) = outcome
    rcases done_or_fail outcome with ⟨text, words, rfl⟩ | ⟨error, rfl⟩
    · rw [join_done, String.append_empty, WordSet.union_empty]
    · rw [join_fail]

theorem done_mul_done (first second : String) (words more : WordSet) :
    done first words * done second more = done (first ++ second) (words ∪ more) := rfl

end Evaluating
open Evaluating

theorem evaluateNodes_eq_prod (registry : Registry) (setting : Setting) (frame : Frame)
    (list : List Node) :
    evaluateNodes registry setting frame list =
      (list.map (evaluateNode registry setting frame)).prod := by
  induction list with
  | nil => rw [evaluateNodes]; rfl
  | cons node rest ih =>
    rw [evaluateNodes, List.map_cons, List.prod_cons, ← ih]
    rfl

section
variable {registry : Registry} {setting : Setting} {frame : Frame}

theorem evaluateNodes_cons (node : Node) (rest : List Node) :
    evaluateNodes registry setting frame (node :: rest) =
      evaluateNode registry setting frame node * evaluateNodes registry setting frame rest := by
  rw [evaluateNodes_eq_prod, evaluateNodes_eq_prod, List.map_cons, List.prod_cons]

theorem evaluateNodes_append (first second : List Node) :
    evaluateNodes registry setting frame (first ++ second) =
      evaluateNodes registry setting frame first * evaluateNodes registry setting frame second := by
  rw [evaluateNodes_eq_prod, evaluateNodes_eq_prod, evaluateNodes_eq_prod, List.map_append,
    List.prod_append]

theorem evaluateNodes_single (node : Node) :
    evaluateNodes registry setting frame [node] = evaluateNode registry setting frame node := by
  rw [evaluateNodes_eq_prod, List.map_singleton, List.prod_singleton]

end

def evaluation (registry : Registry) (setting : Setting) (frame : Frame) :
    Reading (Evaluating String) where
  node := evaluateNode registry setting frame
  text_empty := by
    rw [evaluateNode]
    rfl
  text_append first second := by
    rw [evaluateNode, evaluateNode, evaluateNode, pure_eq, pure_eq, pure_eq, done_mul_done,
      WordSet.union_empty]
  header level title trailing := by
    rw [← evaluateNodes_eq_prod, ← evaluateNodes_eq_prod, evaluateNode, evaluateNode]
    rcases done_or_fail (evaluateNodes registry setting frame title) with
      ⟨inside, words, whole⟩ | ⟨error, whole⟩
    · rw [whole]
      rcases done_or_fail (evaluateNodes registry setting frame trailing) with
        ⟨after, more, rest⟩ | ⟨error, rest⟩
      · rw [rest, pure_eq, done_mul_done, done_mul_done, done_mul_done, WordSet.union_empty,
          WordSet.empty_union]
        rfl
      · rw [rest]
        rfl
    · rw [whole]
      rfl

theorem evaluation_nodes (registry : Registry) (setting : Setting) (frame : Frame)
    (list : List Node) :
    (evaluation registry setting frame).nodes list = evaluateNodes registry setting frame list :=
  (evaluateNodes_eq_prod registry setting frame list).symm

end Wikitext
