import Wikitext.Proofs.Evaluation.Dispatch
import Wikitext.Proofs.Evaluation.Success
import Wikitext.Proofs.Markup.Merging
import Wikitext.Proofs.Markup.RoundTrip
import Wikitext.Site.Standard

/-!
Markup that evaluation leaves as it is. A call that is not answered comes to its own markup, and
what its name and parameters evaluate to is given up; a heading is put together from the texts of
its parts. A page of texts, calls and headings of these is its own text where no handler answers.
-/
namespace Wikitext
open Text Markup Evaluating

namespace Markup.Node

def isPlain : Node → Bool
  | .text _ => true
  | .template _ _ => true
  | _ => false

def isVerbatim : Node → Bool
  | .header _ title trailing => title.all isPlain && trailing.all isText
  | node => node.isPlain

theorem isPlain_of_isText {node : Node} (text : node.isText = true) : node.isPlain = true := by
  cases node with
  | text written => rfl
  | _ => cases text

end Markup.Node

def Yields {α : Type} (outcome : Evaluating α) (value : α) : Prop :=
  ∀ result words, outcome = done result words → result = value

theorem yields_pure {α : Type} (value : α) : Yields (Pure.pure value : Evaluating α) value := by
  intro result words run
  cases run
  rfl

theorem yields_bind {α β : Type} {first : Evaluating α} {next : α → Evaluating β} {value : β}
    (rest : ∀ start words, first = done start words → Yields (next start) value) :
    Yields (first >>= next) value := by
  intro result words run
  obtain ⟨start, before, after, here, later, _⟩ := bind_eq_done.mp run
  exact rest start before here result after later

variable {registry : Registry} {setting : Setting} {frame : Frame}

theorem evaluateNodes_yields {nodes : List Node}
    (each : ∀ node ∈ nodes, Yields (evaluateNode registry setting frame node) node.source) :
    Yields (evaluateNodes registry setting frame nodes) (sourceOf nodes) := by
  induction nodes with
  | nil =>
    rw [evaluateNodes]
    exact yields_pure ""
  | cons node rest ih =>
    rw [evaluateNodes, sourceOf]
    apply yields_bind
    intro first words here
    apply yields_bind
    intro others more later
    have start : first = node.source := each node List.mem_cons_self first words here
    have tail : others = sourceOf rest :=
      ih (fun other member => each other (List.mem_cons_of_mem node member)) others more later
    rw [start, tail]
    exact yields_pure _

section
variable (silent : ∀ call, (registry.answer setting (frame.child call)).1 = none)
include silent

theorem evaluateNode_isPlain {node : Node} (plain : node.isPlain = true) :
    Yields (evaluateNode registry setting frame node) node.source := by
  cases node with
  | text written =>
    rw [evaluateNode, Node.source]
    exact yields_pure written
  | template name parameters =>
    rw [evaluateNode_template]
    apply yields_bind
    intro call words _ result more run
    cases run
    rw [silent call, Option.getD_none]
  | _ => cases plain

theorem evaluateNode_isVerbatim {node : Node} (verbatim : node.isVerbatim = true) :
    Yields (evaluateNode registry setting frame node) node.source := by
  cases node with
  | header level title trailing =>
    obtain ⟨inside, after⟩ := Bool.and_eq_true_iff.mp verbatim
    have heading : Yields (evaluateNodes registry setting frame title) (sourceOf title) :=
      evaluateNodes_yields fun part member =>
        evaluateNode_isPlain silent (List.all_eq_true.mp inside part member)
    have behind : Yields (evaluateNodes registry setting frame trailing) (sourceOf trailing) :=
      evaluateNodes_yields fun part member =>
        evaluateNode_isPlain silent
          (Node.isPlain_of_isText (List.all_eq_true.mp after part member))
    rw [evaluateNode, Node.source]
    apply yields_bind
    intro text words here
    apply yields_bind
    intro more others later
    rw [heading text words here, behind more others later]
    exact yields_pure _
  | _ => exact evaluateNode_isPlain silent verbatim

end

/-- Where no handler answers, a page of texts, calls and headings of these evaluates to itself,
whatever stands inside the calls. -/
theorem evaluateText_unanswered (context : Context) {source : String}
    (bare : context.registry.handlers = [])
    (verbatim : ∀ node ∈ parse context.site.tags source, node.isVerbatim = true) :
    ∃ words, context.evaluateText source = .ok ⟨source, words⟩ := by
  obtain ⟨text, words, whole, answer⟩ := evaluateText_succeeds context source
  have silent : ∀ call,
      (context.registry.answer context.surroundings (Frame.root.child call)).1 = none := by
    intro call
    apply Registry.answer_eq_none
    rw [bare]
    intro handler member
    cases member
  have kept : text = sourceOf (parse context.site.tags source) :=
    evaluateNodes_yields (fun node member => evaluateNode_isVerbatim silent (verbatim node member))
      text words whole
  rw [sourceOf_parse] at kept
  exact ⟨words, kept ▸ answer⟩

theorem evaluateText_unanswered_heading :
    let source := "==a " ++ run '{' 2 ++ "b|c = <!--d--> " ++ run '}' 2 ++
      "== \n{{e|[[f|g]]}}" ++ run '}' 1
    Registry.empty.handlers = [] ∧
      (∀ node ∈ parse .standard source, node.isVerbatim = true) ∧
      ∃ words, Context.evaluateText ⟨.blank, .empty, none, none⟩ source = .ok ⟨source, words⟩ := by
  intro source
  have verbatim : ∀ node ∈ parse .standard source, node.isVerbatim = true := by
    rw [parse_eq]
    decide +kernel
  exact ⟨rfl, verbatim, evaluateText_unanswered ⟨.blank, .empty, none, none⟩ rfl verbatim⟩

end Wikitext
