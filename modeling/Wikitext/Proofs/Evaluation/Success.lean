import Wikitext.Proofs.Evaluation.Reached

/-!
Where evaluation cannot fail. The only error is a parameter that stands outside a template; nodes
without one evaluate to a text in every frame, whatever the handlers answer.
-/
namespace Wikitext
open Text Markup Evaluating

def Settled (nodes : List Node) : Prop := ∀ content, .parameter content ∉ nodes

theorem settled_append {first second : List Node} :
    Settled (first ++ second) ↔ Settled first ∧ Settled second := by
  unfold Settled
  constructor
  · intro whole
    constructor
    · intro content member
      exact whole content (List.mem_append_left _ member)
    · intro content member
      exact whole content (List.mem_append_right _ member)
  · rintro ⟨left, right⟩ content member
    rcases List.mem_append.mp member with here | later
    · exact left content here
    · exact right content later

def Succeeds {α : Type} (outcome : Evaluating α) : Prop := ∃ value words, outcome = done value words

theorem succeeds_bind {α β : Type} {first : Evaluating α} {next : α → Evaluating β}
    (start : Succeeds first)
    (rest : ∀ value words, first = done value words → Succeeds (next value)) :
    Succeeds (first >>= next) := by
  obtain ⟨value, words, rfl⟩ := start
  obtain ⟨result, more, whole⟩ := rest value words rfl
  exact ⟨result, words ∪ more, done_bind_done whole⟩

theorem succeeds_pure {α : Type} (value : α) : Succeeds (Pure.pure value : Evaluating α) :=
  ⟨value, ∅, rfl⟩

section
variable {evaluate : List Node → Evaluating String} {parameter : Parameter}
  {parameters : List Parameter}

theorem succeeds_pass
    (parts : ∀ inner ∈ Parameter.parts parameter, Succeeds (evaluate inner)) :
    Succeeds (Parameter.pass evaluate parameter) := by
  cases parameter with
  | positional value =>
    apply succeeds_bind (parts value (List.mem_singleton_self value))
    intro text words _
    exact succeeds_pure _
  | named name value =>
    apply succeeds_bind (parts name List.mem_cons_self)
    intro key words _
    apply succeeds_bind (parts value (List.mem_cons_of_mem name (List.mem_singleton_self value)))
    intro text more _
    exact succeeds_pure _

theorem succeeds_passAll
    (each : ∀ parameter ∈ parameters, Succeeds (Parameter.pass evaluate parameter)) :
    Succeeds (passAll evaluate parameters) := by
  induction parameters with
  | nil => exact succeeds_pure _
  | cons first rest ih =>
    rw [passAll]
    apply succeeds_bind (each first List.mem_cons_self)
    intro value words _
    have later : Succeeds (passAll evaluate rest) :=
      ih fun parameter passed => each parameter (List.mem_cons_of_mem first passed)
    apply succeeds_bind later
    intro values more _
    exact succeeds_pure _

end

variable (registry : Registry) (setting : Setting) (frame : Frame)

/-- A node fails only in a part of it, unless it is a parameter outside a template. -/
theorem evaluateNode_succeeds {node : Node} (proper : ∀ content, node ≠ .parameter content)
    (parts : ∀ inner, Part registry setting frame node inner →
      Succeeds (evaluateNodes registry setting frame inner)) :
    Succeeds (evaluateNode registry setting frame node) := by
  cases node with
  | text written => rw [evaluateNode]; exact succeeds_pure _
  | comment body => rw [evaluateNode]; exact succeeds_pure _
  | ignored marker => rw [evaluateNode]; exact succeeds_pure _
  | tag element => rw [evaluateNode]; exact succeeds_pure _
  | parameter content => exact absurd rfl (proper content)
  | header level title trailing =>
    rw [evaluateNode]
    apply succeeds_bind (parts title .title)
    intro text words _
    apply succeeds_bind (parts trailing .trailing)
    intro more others _
    exact succeeds_pure _
  | link target caption =>
    cases caption with
    | none => rw [evaluateNode]; exact succeeds_pure _
    | some list => rw [evaluateNode]; exact parts list .caption
  | argument name fallback =>
    cases fallback with
    | none =>
      rw [evaluateNode]
      apply succeeds_bind (parts name .argumentName)
      intro key words _
      exact succeeds_pure _
    | some list =>
      rw [evaluateNode]
      apply succeeds_bind (parts name .argumentName)
      intro key words named
      cases found : frame.call.parameters.find? (trim key) with
      | some value => exact succeeds_pure _
      | none => exact parts list (.fallback named found)
  | template name parameters =>
    rw [evaluateNode_template]
    refine succeeds_bind ?_ fun call words _ => ⟨_, _, rfl⟩
    apply succeeds_bind (parts name .templateName)
    intro invocation words _
    refine succeeds_bind ?_ fun passed more _ => succeeds_pure _
    apply succeeds_passAll
    intro parameter passed
    exact succeeds_pass fun inner within => parts inner (.parameter passed within)

theorem evaluateNodes_succeeds (nodes : List Node) (settled : Settled (walk nodes)) :
    Succeeds (evaluateNodes registry setting frame nodes) := by
  induction nodes using nodes_induction registry setting frame with
  | nil => rw [evaluateNodes]; exact succeeds_pure _
  | cons node rest parts ih =>
    rw [walk] at settled
    obtain ⟨here, later⟩ := settled_append.mp settled
    rw [evaluateNodes]
    apply succeeds_bind
    · apply evaluateNode_succeeds
      · rintro content rfl
        exact here content (Node.mem_walk _)
      · intro inner part
        exact parts inner part fun content member => here content (part.mem_walk member)
    · intro first words _
      apply succeeds_bind (ih later)
      intro others more _
      exact succeeds_pure _

theorem evaluateNodes_parse (tags : TagSet) (source : String) :
    Succeeds (evaluateNodes registry setting frame (parse tags source)) :=
  evaluateNodes_succeeds registry setting frame _ (parameter_not_mem_parse tags source)

/-- Empty markup evaluates like its tree, although it is not read. -/
theorem Context.evaluateText_eq (context : Context) (source : String) :
    context.evaluateText source = context.evaluate .root (parse context.site.tags source) := by
  rw [Context.evaluateText]
  split
  · rename_i empty
    rw [String.isEmpty_iff.mp empty, parse_empty, Context.evaluate, evaluateNodes]
    rfl
  · rfl

theorem evaluateText_succeeds (context : Context) (source : String) :
    ∃ text words,
      evaluateNodes context.registry context.surroundings .root (parse context.site.tags source) =
          done text words ∧
        context.evaluateText source = .ok ⟨text, words⟩ := by
  obtain ⟨text, words, whole⟩ :=
    evaluateNodes_parse context.registry context.surroundings .root context.site.tags source
  refine ⟨text, words, whole, ?_⟩
  rw [Context.evaluateText_eq, Context.evaluate, whole]
  rfl

end Wikitext
