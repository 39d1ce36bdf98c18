import Wikitext.Proofs.Evaluation.Success
import Wikitext.Proofs.Markup.Seam
import Wikitext.Site.Standard

/-!
Evaluation line by line. Where nothing is left open in front of a newline, a page evaluates to what
the part before the newline and the part behind it evaluate to.
-/
namespace Wikitext
open Markup Evaluating

theorem evaluation_newline (registry : Registry) (setting : Setting) (frame : Frame) :
    (evaluation registry setting frame).node newline = done "\n" ∅ := by
  change evaluateNode registry setting frame newline = _
  unfold newline
  rw [evaluateNode]
  rfl

/-- The texts are joined by the newline, and the names that nothing answered to come together. -/
theorem evaluateText_newline (context : Context) {first : String} (closed : ClosedAtEnd first)
    (second : String) :
    ∃ before after, context.evaluateText first = .ok before ∧
      context.evaluateText second = .ok after ∧
      context.evaluateText (first ++ "\n" ++ second) =
        .ok ⟨before.text ++ "\n" ++ after.text, before.unhandled ∪ after.unhandled⟩ := by
  obtain ⟨text, words, start, answer⟩ := evaluateText_succeeds context first
  obtain ⟨more, others, rest, reply⟩ := evaluateText_succeeds context second
  refine ⟨⟨text, words⟩, ⟨more, others⟩, answer, reply, ?_⟩
  have whole := (evaluation context.registry context.surroundings .root).nodes_parse_newline
    context.site.tags closed second
  rw [evaluation_nodes, evaluation_nodes, evaluation_nodes, start, rest, evaluation_newline,
    done_mul_done, done_mul_done, WordSet.empty_union] at whole
  rw [Context.evaluateText_eq, Context.evaluate, whole, String.append_assoc]
  rfl

theorem evaluateText_heading :
    let context : Context := ⟨.blank, .empty, none, none⟩
    let first := "==a==\n{{b|[[c]]}}" ++ run '}' 1
    let second := run '}' 2 ++ "==d"
    ClosedAtEnd first ∧ ∃ before after,
      context.evaluateText first = .ok before ∧ context.evaluateText second = .ok after ∧
        context.evaluateText (first ++ "\n" ++ second) =
          .ok ⟨before.text ++ "\n" ++ after.text, before.unhandled ∪ after.unhandled⟩ :=
  ⟨closedAtEnd_heading, evaluateText_newline _ closedAtEnd_heading _⟩

end Wikitext
