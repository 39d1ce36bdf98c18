import Wikitext.Proofs.Evaluation.Agreement
import Wikitext.Proofs.Evaluation.Success
import Wikitext.Proofs.Markup.Layers

/-!
Parts that are replaced. What a list evaluates to goes into the nodes around it, its markup only
into the templates around it that no handler answers. Where there are none of these, a part may be
replaced by any other that evaluates alike, and so by its own text.
-/
namespace Wikitext
open Text Markup Evaluating

section
variable (registry : Registry) (setting : Setting) (frame : Frame)

def Markup.AroundParameter.Open : AroundParameter → Prop
  | .inPositional => True
  | .inName _ => True
  | .inNamed name => Succeeds (evaluateNodes registry setting frame name)

/-- Evaluation of the node comes to the list that is left out, since what it evaluates before has a
result. A fallback is evaluated only where nothing is bound, and the target of a link never. -/
def Markup.Around.Open : Around → Prop
  | .inTitle _ _ => True
  | .inTrailing _ title => Succeeds (evaluateNodes registry setting frame title)
  | .inTarget _ => False
  | .inCaption _ => True
  | .inArgumentName _ => True
  | .inFallback name =>
    ∃ key words, evaluateNodes registry setting frame name = done key words ∧
      frame.call.parameters.find? (trim key) = none
  | .inTemplateName _ => True
  | .inPassed name earlier around _ =>
    Succeeds (evaluateNodes registry setting frame name) ∧
      Succeeds (passAll (evaluateNodes registry setting frame) earlier) ∧
      around.Open registry setting frame
  | .inLoose _ => False

/-- Evaluation comes to a template of the layers, and no handler answers the call it makes. -/
inductive FallsBack : List Layer → List Node → Prop where
  | here {layer : Layer} {layers : List Layer} {inner name : List Node}
    {parameters : List Parameter} {call : Call} {words : WordSet}
    (before : Succeeds (evaluateNodes registry setting frame layer.before))
    (template : layer.around.fill (fillAll layers inner) = .template name parameters)
    (made : callOf registry setting frame name parameters = done call words)
    (unanswered : (registry.answer setting (frame.child call)).1 = none) :
    FallsBack (layer :: layers) inner
  | inside {layer : Layer} {layers : List Layer} {inner : List Node}
    (before : Succeeds (evaluateNodes registry setting frame layer.before))
    (opened : layer.around.Open registry setting frame) (deeper : FallsBack layers inner) :
    FallsBack (layer :: layers) inner

end

variable {registry : Registry} {setting : Setting} {frame : Frame}

theorem mul_congr_succeeds {first second third : Evaluating String}
    (same : Succeeds first → second = third) : first * second = first * third := by
  rcases done_or_fail first with ⟨text, words, rfl⟩ | ⟨error, rfl⟩
  · rw [same ⟨text, words, rfl⟩]
  · rfl

theorem evaluateNodes_text (written : String) :
    evaluateNodes registry setting frame [.text written] = done written ∅ := by
  rw [evaluateNodes_single, evaluateNode, pure_eq]

theorem passAll_replace {evaluate : List Node → Evaluating String} {earlier later : List Parameter}
    {parameter other : Parameter}
    (same : Succeeds (passAll evaluate earlier) →
      Parameter.pass evaluate parameter = Parameter.pass evaluate other) :
    passAll evaluate (earlier ++ parameter :: later) =
      passAll evaluate (earlier ++ other :: later) := by
  induction earlier with
  | nil =>
    rw [List.nil_append, List.nil_append, passAll, passAll, same (succeeds_pure [])]
  | cons first rest ih =>
    rw [List.cons_append, List.cons_append, passAll, passAll]
    apply bind_congr_done
    intro value words here
    have later : Succeeds (passAll evaluate rest) →
        Succeeds (passAll evaluate (first :: rest)) := by
      intro passed
      rw [passAll]
      apply succeeds_bind ⟨value, words, here⟩
      intro value words _
      apply succeeds_bind passed
      intro values more _
      exact succeeds_pure _
    rw [ih fun passed => same (later passed)]

theorem pass_fill {around : AroundParameter} {first second : List Node}
    (same : around.Open registry setting frame →
      evaluateNodes registry setting frame first = evaluateNodes registry setting frame second) :
    Parameter.pass (evaluateNodes registry setting frame) (around.fill first) =
      Parameter.pass (evaluateNodes registry setting frame) (around.fill second) := by
  cases around with
  | inPositional =>
    rw [AroundParameter.fill, AroundParameter.fill, Parameter.pass, Parameter.pass, same trivial]
  | inName value =>
    rw [AroundParameter.fill, AroundParameter.fill, Parameter.pass, Parameter.pass, same trivial]
  | inNamed name =>
    rw [AroundParameter.fill, AroundParameter.fill, Parameter.pass, Parameter.pass]
    apply bind_congr_done
    intro key words named
    rw [same ⟨key, words, named⟩]

theorem evaluateNode_template_congr {name other : List Node} {parameters others : List Parameter}
    (same : callOf registry setting frame name parameters =
      callOf registry setting frame other others)
    (answered : ∀ call words, callOf registry setting frame name parameters = done call words →
      (registry.answer setting (frame.child call)).1 ≠ none) :
    evaluateNode registry setting frame (.template name parameters) =
      evaluateNode registry setting frame (.template other others) := by
  rw [evaluateNode_template, evaluateNode_template, ← same]
  apply bind_congr_done
  intro call words made
  obtain ⟨text, given⟩ := Option.ne_none_iff_exists'.mp (answered call words made)
  simp only [reply, given, Option.getD_some]

theorem evaluateNode_fill {around : Around} {first second : List Node}
    (same : around.Open registry setting frame →
      evaluateNodes registry setting frame first = evaluateNodes registry setting frame second)
    (answered : ∀ name parameters call words, around.fill first = .template name parameters →
      callOf registry setting frame name parameters = done call words →
      (registry.answer setting (frame.child call)).1 ≠ none) :
    evaluateNode registry setting frame (around.fill first) =
      evaluateNode registry setting frame (around.fill second) := by
  cases around with
  | inTitle level trailing =>
    rw [Around.fill, Around.fill, evaluateNode, evaluateNode, same trivial]
  | inTrailing level title =>
    rw [Around.fill, Around.fill, evaluateNode, evaluateNode]
    apply bind_congr_done
    intro text words inside
    rw [same ⟨text, words, inside⟩]
  | inTarget caption =>
    cases caption with
    | none => rw [Around.fill, Around.fill, evaluateNode, evaluateNode]
    | some list => rw [Around.fill, Around.fill, evaluateNode, evaluateNode]
  | inCaption target =>
    rw [Around.fill, Around.fill, evaluateNode, evaluateNode, same trivial]
  | inArgumentName fallback =>
    cases fallback with
    | none => rw [Around.fill, Around.fill, evaluateNode, evaluateNode, same trivial]
    | some list => rw [Around.fill, Around.fill, evaluateNode, evaluateNode, same trivial]
  | inFallback name =>
    rw [Around.fill, Around.fill, evaluateNode, evaluateNode]
    apply bind_congr_done
    intro key words named
    cases found : frame.call.parameters.find? (trim key) with
    | some value => rfl
    | none => exact same ⟨key, words, named, found⟩
  | inTemplateName parameters =>
    apply evaluateNode_template_congr
    · rw [callOf, callOf, Call.ofTemplate, Call.ofTemplate, same trivial]
    · intro call words made
      exact answered _ _ call words rfl made
  | inPassed name earlier around later =>
    apply evaluateNode_template_congr
    · rw [callOf, callOf, Call.ofTemplate, Call.ofTemplate]
      apply bind_congr_done
      intro invocation words named
      rw [passAll_replace fun passed => pass_fill fun opened =>
        same ⟨⟨invocation, words, named⟩, passed, opened⟩]
    · intro call words made
      exact answered _ _ call words rfl made
  | inLoose around => rw [Around.fill, Around.fill, evaluateNode, evaluateNode]

/-- The list matters only through what it evaluates to: by induction from the outermost layer, since
evaluation either stops before a layer or goes on in it, and takes no markup from an answered
template. -/
theorem evaluateNodes_fillAll {layers : List Layer} {first second : List Node}
    (same : evaluateNodes registry setting frame first =
      evaluateNodes registry setting frame second)
    (answered : ¬FallsBack registry setting frame layers first) :
    evaluateNodes registry setting frame (fillAll layers first) =
      evaluateNodes registry setting frame (fillAll layers second) := by
  induction layers with
  | nil => exact same
  | cons layer rest ih =>
    rw [fillAll_cons, fillAll_cons, Layer.fill, Layer.fill, evaluateNodes_append,
      evaluateNodes_append, evaluateNodes_cons, evaluateNodes_cons]
    -- where the nodes in front of it fail, evaluation does not come to the layer
    apply mul_congr_succeeds
    intro before
    have node : evaluateNode registry setting frame (layer.around.fill (fillAll rest first)) =
        evaluateNode registry setting frame (layer.around.fill (fillAll rest second)) := by
      apply evaluateNode_fill
      · intro opened
        exact ih fun deeper => answered (.inside before opened deeper)
      · intro name parameters call words template made unanswered
        exact answered (.here before template made unanswered)
    rw [node]

theorem evaluateNode_answered {name : List Node} {parameters : List Parameter} {call : Call}
    {words : WordSet} {answer : String}
    (made : callOf registry setting frame name parameters = done call words)
    (answered : (registry.answer setting (frame.child call)).1 = some answer) :
    evaluateNode registry setting frame (.template name parameters) =
      done answer (words ∪ (registry.answer setting (frame.child call)).2) := by
  rw [evaluateNode_template, made]
  apply done_bind_done
  rw [reply, answered, Option.getD_some]

theorem evaluateNode_bound {name : List Node} {fallback : Option (List Node)} {key value : String}
    {words : WordSet} (named : evaluateNodes registry setting frame name = done key words)
    (bound : frame.call.parameters.find? (trim key) = some value) :
    evaluateNode registry setting frame (.argument name fallback) = done value (words ∪ ∅) := by
  cases fallback with
  | none =>
    rw [evaluateNode, named]
    apply done_bind_done
    rw [bound, Option.getD_some, pure_eq]
  | some list =>
    rw [evaluateNode, named]
    apply done_bind_done
    simp only [bound, pure_eq]

/-- Where every template around a part that evaluation comes to is answered, the part may be
replaced by any other with the same text and names: the whole has the same text and names then, or
the same error. A part that records no name may be replaced by its text, so the answer to a call
and the value of an argument stay as they are, whatever markup they look like. -/
theorem evaluateNodes_replace {layers : List Layer} {part : List Node} {text : String}
    {words : WordSet} (run : evaluateNodes registry setting frame part = done text words)
    (answered : ¬FallsBack registry setting frame layers part) :
    (∀ other, evaluateNodes registry setting frame other = done text words →
      evaluateNodes registry setting frame (fillAll layers part) =
        evaluateNodes registry setting frame (fillAll layers other)) ∧
      (words = ∅ →
        evaluateNodes registry setting frame (fillAll layers part) =
          evaluateNodes registry setting frame (fillAll layers [.text text])) ∧
      (∀ name parameters call more answer, part = [.template name parameters] →
        callOf registry setting frame name parameters = done call more →
        (registry.answer setting (frame.child call)).1 = some answer → text = answer) ∧
      ∀ name fallback key more value, part = [.argument name fallback] →
        evaluateNodes registry setting frame name = done key more →
        frame.call.parameters.find? (trim key) = some value → text = value := by
  refine ⟨?_, ?_, ?_, ?_⟩
  · intro other same
    exact evaluateNodes_fillAll (run.trans same.symm) answered
  · rintro rfl
    exact evaluateNodes_fillAll (run.trans (evaluateNodes_text text).symm) answered
  · rintro name parameters call more answer rfl made given
    rw [evaluateNodes_single, evaluateNode_answered made given] at run
    cases run
    rfl
  · rintro name fallback key more value rfl named bound
    rw [evaluateNodes_single, evaluateNode_bound named bound] at run
    cases run
    rfl

theorem evaluateNodes_replace_answer :
    let registry := (Registry.empty.registerTemplate .blank "Echo" Builtin.firstPositional)
      |>.registerTemplate .blank "Wrap" fun _ _ => some "{{Echo}}"
    let setting : Setting := ⟨.blank, none, none, fun _ _ => none⟩
    let layers : List Layer :=
      [⟨[], .inTitle 2 [], []⟩,
        ⟨[.text "a"], .inPassed [.text "Echo"] [] .inPositional [], [.text "b"]⟩]
    let part := [Node.template [.text "Wrap"] []]
    evaluateNodes registry setting .root part = done "{{Echo}}" ∅ ∧
      ¬FallsBack registry setting .root layers part ∧
      evaluateNodes registry setting .root (fillAll layers part) =
        done "==a{{Echo}}b==" ∅ ∧
      evaluateNodes registry setting .root (fillAll layers part) =
        evaluateNodes registry setting .root
          (fillAll layers [.text "{{Echo}}"]) := by
  intro registry setting layers part
  have run : evaluateNodes registry setting .root part = done "{{Echo}}" ∅ :=
    eq_done_of_toOption (by decide +kernel)
  have echoed :
      (callOf registry setting .root [.text "Echo"] [.positional part]).toOption.map
          (fun made => (registry.answer setting (Frame.root.child made.1)).1) =
        some (some "{{Echo}}") := by
    decide +kernel
  have answered : ¬FallsBack registry setting .root layers part := by
    intro whole
    change FallsBack registry setting .root [_, _] part at whole
    cases whole with
    | here before template made unanswered => cases template
    | inside before opened deeper =>
      cases deeper with
      | here before template made unanswered =>
        cases template
        rw [List.nil_append, AroundParameter.fill, fillAll_nil] at made
        rw [made] at echoed
        cases unanswered.symm.trans (Option.some.inj echoed)
      | inside before opened none => cases none
  exact ⟨run, answered, eq_done_of_toOption (by decide +kernel),
    (evaluateNodes_replace run answered).2.1 rfl⟩

end Wikitext
