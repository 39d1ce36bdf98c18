import Wikitext.Builtin
import Wikitext.Proofs.Evaluation.Dispatch
import Wikitext.Proofs.Evaluation.Reached
import Wikitext.Site.Standard

/-!
Evaluations that agree. What a list evaluates to depends on its frame only through the values of
arguments, and on the registry only through its answers to the calls that evaluation comes to; all
of these are made from that one frame, however deep they stand in the list.
-/
namespace Wikitext
open Text Markup Evaluating

section
variable {evaluate other : List Node → Evaluating String}

theorem pass_congr {parameter : Parameter}
    (same : ∀ inner ∈ Parameter.parts parameter, evaluate inner = other inner) :
    Parameter.pass evaluate parameter = Parameter.pass other parameter := by
  cases parameter with
  | positional value =>
    rw [Parameter.pass, Parameter.pass, same value (List.mem_singleton_self value)]
  | named name value =>
    rw [Parameter.pass, Parameter.pass, same name List.mem_cons_self,
      same value (List.mem_cons_of_mem name (List.mem_singleton_self value))]

theorem passAll_congr {parameters : List Parameter}
    (same : ∀ parameter ∈ parameters,
      Parameter.pass evaluate parameter = Parameter.pass other parameter) :
    passAll evaluate parameters = passAll other parameters := by
  induction parameters with
  | nil => rfl
  | cons first rest ih =>
    rw [passAll, passAll, same first List.mem_cons_self]
    have later : passAll evaluate rest = passAll other rest :=
      ih fun parameter passed => same parameter (List.mem_cons_of_mem first passed)
    rw [later]

end

variable {registry other : Registry} {setting second : Setting} {frame another : Frame}

section
variable (lookups : ∀ key, frame.call.parameters.find? key = another.call.parameters.find? key)
include lookups

theorem evaluateNode_congr {node : Node}
    (parts : ∀ inner, Part registry setting frame node inner →
      evaluateNodes registry setting frame inner = evaluateNodes other second another inner)
    (own : ∀ name parameters call words, node = .template name parameters →
      callOf registry setting frame name parameters = done call words →
      registry.answer setting (frame.child call) = other.answer second (another.child call)) :
    evaluateNode registry setting frame node = evaluateNode other second another node := by
  cases node with
  | text written => rw [evaluateNode, evaluateNode]
  | comment body => rw [evaluateNode, evaluateNode]
  | ignored marker => rw [evaluateNode, evaluateNode]
  | tag element => rw [evaluateNode, evaluateNode]
  | parameter content => rw [evaluateNode, evaluateNode]
  | header level title trailing =>
    rw [evaluateNode, evaluateNode, parts title .title, parts trailing .trailing]
  | link target caption =>
    cases caption with
    | none => rw [evaluateNode, evaluateNode]
    | some list => rw [evaluateNode, evaluateNode, parts list .caption]
  | argument name fallback =>
    cases fallback with
    | none =>
      rw [evaluateNode, evaluateNode, ← parts name .argumentName]
      apply bind_congr_done
      intro key words _
      rw [lookups]
    | some list =>
      rw [evaluateNode, evaluateNode, ← parts name .argumentName]
      apply bind_congr_done
      intro key words named
      cases found : frame.call.parameters.find? (trim key) with
      | some value => rw [← lookups, found]
      | none => rw [← lookups, found, parts list (.fallback named found)]
  | template name parameters =>
    have same : callOf registry setting frame name parameters =
        callOf other second another name parameters := by
      rw [callOf, callOf, Call.ofTemplate, Call.ofTemplate, parts name .templateName,
        passAll_congr fun parameter passed =>
          pass_congr fun inner within => parts inner (.parameter passed within)]
    rw [evaluateNode_template, evaluateNode_template, ← same]
    apply bind_congr_done
    intro call words made
    rw [reply, reply, own name parameters call words rfl made]

/-- Evaluation depends on the frame only through the values of arguments, and on the registry only
through the answers to the calls that it comes to. -/
theorem evaluateNodes_congr {nodes : List Node}
    (answers : ∀ name parameters call words,
      Reached registry setting frame nodes (.template name parameters) →
      callOf registry setting frame name parameters = done call words →
      registry.answer setting (frame.child call) = other.answer second (another.child call)) :
    evaluateNodes registry setting frame nodes = evaluateNodes other second another nodes := by
  induction nodes using nodes_induction registry setting frame with
  | nil => rw [evaluateNodes, evaluateNodes]
  | cons node rest parts ih =>
    have here : evaluateNode registry setting frame node =
        evaluateNode other second another node := by
      apply evaluateNode_congr lookups
      · intro inner part
        apply parts inner part
        intro name parameters call words reached made
        exact answers name parameters call words (.inside List.mem_cons_self part reached) made
      · rintro name parameters call words rfl made
        exact answers name parameters call words (.member List.mem_cons_self) made
    have later : evaluateNodes registry setting frame rest =
        evaluateNodes other second another rest := by
      apply ih
      intro name parameters call words reached made
      exact answers name parameters call words (reached.cons node) made
    rw [evaluateNodes, evaluateNodes, here, later]

end

/-- Two frames that give arguments the same values, under registries that answer the calls from
these frames alike, evaluate every list alike, to the same text and names or to the same error.
A template at any depth of the list is called from the frame itself, and a registry that differs
only on other calls makes no difference. -/
theorem evaluateNodes_eq_of_children
    (lookups : ∀ key, frame.call.parameters.find? key = another.call.parameters.find? key)
    (children : ∀ call,
      registry.answer setting (frame.child call) = other.answer second (another.child call))
    (nodes : List Node) :
    evaluateNodes registry setting frame nodes = evaluateNodes other second another nodes ∧
      (∀ text words, evaluateNodes registry setting frame nodes = done text words →
        ∀ name parameters, Reached registry setting frame nodes (.template name parameters) →
          ∃ callee more, callOf registry setting frame name parameters = done callee.call more ∧
            callee.parent? = some frame ∧ callee.depth = frame.depth + 1 ∧
            evaluateNode registry setting frame (.template name parameters) =
              done ((registry.answer setting callee).1.getD (Node.template name parameters).source)
                (more ∪ (registry.answer setting callee).2)) ∧
      ∀ rival : Registry,
        (∀ callee : Frame, callee.parent? = some frame → callee.depth = frame.depth + 1 →
          rival.answer setting callee = registry.answer setting callee) →
        evaluateNodes rival setting frame nodes = evaluateNodes registry setting frame nodes := by
  refine ⟨?_, ?_, ?_⟩
  · apply evaluateNodes_congr lookups
    intro name parameters call words _ _
    exact children call
  · intro text words run name parameters reached
    obtain ⟨call, more, made, here, _⟩ := reached.answered run
    exact ⟨frame.child call, more, made, rfl, rfl, here⟩
  · intro rival agrees
    apply evaluateNodes_congr fun key => rfl
    intro name parameters call words _ _
    exact agrees (frame.child call) rfl rfl

theorem evaluateNodes_echo :
    let registry := Registry.empty.registerTemplate .blank "Echo" Builtin.firstPositional
    let frame := Frame.root.child ⟨"Page", none, .ofList [("x", "a"), ("y", "b")]⟩
    let another := frame.child ⟨"Part", some "c", .ofList [("y", "b"), ("x", "a")]⟩
    let setting : Setting := ⟨.blank, none, none, fun _ _ => none⟩
    let second : Setting := ⟨.blank, some ⟨"Page", none⟩, none, fun _ _ => none⟩
    let inner := Node.template [.text "Echo"] [.positional [.argument [.text "x"] none]]
    let nodes := [Node.template [.text "Echo"] [.positional [.argument [.text "y"] none, inner]]]
    (∀ key, frame.call.parameters.find? key = another.call.parameters.find? key) ∧
      (∀ call, registry.answer setting (frame.child call) =
        registry.answer second (another.child call)) ∧
      evaluateNodes registry setting frame nodes = evaluateNodes registry second another nodes := by
  intro registry frame another setting second inner nodes
  have lookups : ∀ key, frame.call.parameters.find? key = another.call.parameters.find? key := by
    intro key
    change (Bindings.ofList [("x", "a"), ("y", "b")]).find? key =
      (Bindings.ofList [("y", "b"), ("x", "a")]).find? key
    simp only [Bindings.ofList, List.foldl_cons, List.foldl_nil, Bindings.find?_insert]
    by_cases isX : key = "x"
    · simp [isX]
    · simp [isX]
  have children : ∀ call, registry.answer setting (frame.child call) =
      registry.answer second (another.child call) := by
    intro call
    apply Registry.answer_congr
    · rfl
    · rfl
    · intro handler handled
      rw [Registry.handler_of_registerTemplate handled]
      rfl
  exact ⟨lookups, children, (evaluateNodes_eq_of_children lookups children nodes).1⟩

end Wikitext
