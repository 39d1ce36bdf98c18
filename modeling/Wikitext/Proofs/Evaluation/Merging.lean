import Wikitext.Proofs.Evaluation.Parts
import Wikitext.Proofs.Markup.Merging
import Wikitext.Proofs.Markup.RoundTrip
import Wikitext.Site.Standard

/-!
Lists of nodes that evaluate alike. A list evaluates to what its pieces evaluate to one after the
other, so nodes that come to nothing may stand anywhere in it and its texts may be merged.
-/
namespace Wikitext
open Markup Evaluating

namespace Markup

inductive Node.Silent : Node → Prop
  | comment (body : Comment) : Silent (.comment body)
  | ignored (marker : String) : Silent (.ignored marker)
  | empty : Silent (.text "")

/-- The second list is the first with silent nodes put in at any places. -/
inductive Padded : List Node → List Node → Prop
  | nil : Padded [] []
  | keep (node : Node) {nodes padded : List Node} (rest : Padded nodes padded) :
    Padded (node :: nodes) (node :: padded)
  | pad {node : Node} {nodes padded : List Node} (silent : node.Silent)
    (rest : Padded nodes padded) : Padded nodes (node :: padded)

end Markup

section
variable {registry : Registry} {setting : Setting} {frame : Frame}

theorem evaluateNode_silent {node : Node} (silent : node.Silent) :
    evaluateNode registry setting frame node = 1 := by
  cases silent with
  | comment body => rw [evaluateNode]; rfl
  | ignored marker => rw [evaluateNode]; rfl
  | empty => rw [evaluateNode]; rfl

theorem evaluateNodes_padded {nodes padded : List Node} (more : Padded nodes padded) :
    evaluateNodes registry setting frame padded = evaluateNodes registry setting frame nodes := by
  induction more with
  | nil => rfl
  | keep node _ ih => rw [evaluateNodes_cons, evaluateNodes_cons, ih]
  | pad silent _ ih => rw [evaluateNodes_cons, evaluateNode_silent silent, one_mul, ih]

theorem evaluateNodes_mergeText (nodes : List Node) :
    evaluateNodes registry setting frame (mergeText nodes) =
      evaluateNodes registry setting frame nodes := by
  rw [← evaluation_nodes, ← evaluation_nodes, Reading.nodes_mergeText]

end

/-- A list behind another fails with the first error of the two, and otherwise their texts are
joined and their names come together. Silent nodes and the merging of texts change no evaluation.
What is merged renders to the same markup, has no empty text and no two texts side by side, keeps
the other nodes in order, and stays as it is. -/
theorem evaluateNodes_joins (registry : Registry) (setting : Setting) (frame : Frame)
    (nodes : List Node) :
    (∀ behind, evaluateNodes registry setting frame (nodes ++ behind) =
      match evaluateNodes registry setting frame nodes,
        evaluateNodes registry setting frame behind with
      | .error error, _ => .error error
      | .ok _, .error error => .error error
      | .ok (text, words), .ok (more, others) => .ok (text ++ more, words ∪ others)) ∧
    (∀ padded, Padded nodes padded →
      evaluateNodes registry setting frame padded = evaluateNodes registry setting frame nodes) ∧
    evaluateNodes registry setting frame (mergeText nodes) =
      evaluateNodes registry setting frame nodes ∧
    sourceOf (mergeText nodes) = sourceOf nodes ∧ Merged (mergeText nodes) ∧
    nonTexts (mergeText nodes) = nonTexts nodes ∧
    mergeText (mergeText nodes) = mergeText nodes := by
  refine ⟨?append, fun _ => evaluateNodes_padded, evaluateNodes_mergeText nodes,
    sourceOf_mergeText nodes, merged_mergeText nodes, nonTexts_mergeText nodes,
    mergeText_of_merged (merged_mergeText nodes)⟩
  case append =>
    intro behind
    rw [evaluateNodes_append]
    rcases done_or_fail (evaluateNodes registry setting frame nodes) with
      ⟨text, words, front⟩ | ⟨error, front⟩
    · rcases done_or_fail (evaluateNodes registry setting frame behind) with
        ⟨more, others, back⟩ | ⟨error, back⟩
      · rw [front, back, done_mul_done]
        rfl
      · rw [front, back]
        rfl
    · rw [front]
      rfl

theorem evaluateNodes_joins_comment :
    let setting : Setting := ⟨.blank, none, none, fun _ _ => none⟩
    let nodes := [Node.text "a", .template [.text "b"] []]
    let padded := [Node.text "a", .text "", .comment ⟨"c", true⟩, .template [.text "b"] [],
      .ignored "<noinclude>"]
    Padded nodes padded ∧
      evaluateNodes .empty setting .root nodes = done "a{{b}}" {"b"} ∧
      evaluateNodes .empty setting .root padded = done "a{{b}}" {"b"} ∧
      evaluateNodes .empty setting .root (nodes ++ [.parameter (.positional [])]) =
        fail .looseParameter := by
  intro setting nodes padded
  have more : Padded nodes padded :=
    .keep _ (.pad .empty (.pad (.comment _) (.keep _ (.pad (.ignored _) .nil))))
  have run : evaluateNodes .empty setting .root nodes = done "a{{b}}" {"b"} :=
    eq_done_of_toOption (by decide +kernel)
  have loose : evaluateNodes .empty setting .root [.parameter (.positional [])] =
      fail .looseParameter := by
    rw [evaluateNodes_single, evaluateNode]
  obtain ⟨joins, pads, _⟩ := evaluateNodes_joins .empty setting .root nodes
  refine ⟨more, run, (pads padded more).trans run, ?_⟩
  rw [joins, run, loose]
  rfl

end Wikitext
