import Wikitext.Proofs.Evaluation.Parts
import Wikitext.Proofs.Markup.Walk

/-!
Where evaluation comes. A node is evaluated by way of the lists that are its parts: the fallback of
an argument is one only where it is taken, and the target of a link never is. Where the whole has a
result, so has each template on the way, and every recorded name comes from the answer to one.
-/
namespace Wikitext
open Text Markup Evaluating

def Parameter.parts : Markup.Parameter → List (List Node)
  | .positional value => [value]
  | .named name value => [name, value]

section
variable (registry : Registry) (setting : Setting) (frame : Frame)

inductive Part : Node → List Node → Prop where
  | title {level : Nat} {title trailing : List Node} : Part (.header level title trailing) title
  | trailing {level : Nat} {title trailing : List Node} :
    Part (.header level title trailing) trailing
  | caption {target caption : List Node} : Part (.link target (some caption)) caption
  | argumentName {name : List Node} {fallback : Option (List Node)} :
    Part (.argument name fallback) name
  | fallback {name fallback : List Node} {key : String} {words : WordSet}
    (named : evaluateNodes registry setting frame name = done key words)
    (unbound : frame.call.parameters.find? (trim key) = none) :
    Part (.argument name (some fallback)) fallback
  | templateName {name : List Node} {parameters : List Parameter} :
    Part (.template name parameters) name
  | parameter {name inner : List Node} {parameter : Parameter} {parameters : List Parameter}
    (passed : parameter ∈ parameters) (within : inner ∈ Parameter.parts parameter) :
    Part (.template name parameters) inner

/-- The nodes that evaluation of a list comes to. -/
inductive Reached : List Node → Node → Prop where
  | member {nodes : List Node} {node : Node} (member : node ∈ nodes) : Reached nodes node
  | inside {nodes inner : List Node} {outer node : Node} (member : outer ∈ nodes)
    (part : Part registry setting frame outer inner) (deeper : Reached inner node) :
    Reached nodes node

def callOf (name : List Node) (parameters : List Parameter) : Evaluating Call :=
  Call.ofTemplate (evaluateNodes registry setting frame) name parameters

def reply (call : Call) (node : Node) : Evaluating String :=
  let answer := registry.answer setting (frame.child call)
  done (answer.1.getD node.source) answer.2

end

variable {registry : Registry} {setting : Setting} {frame : Frame}

theorem evaluateNode_template (name : List Node) (parameters : List Parameter) :
    evaluateNode registry setting frame (.template name parameters) =
      callOf registry setting frame name parameters >>= fun call =>
        reply registry setting frame call (.template name parameters) := by
  rw [evaluateNode, evaluateParameters_eq]
  simp only [callOf, Call.ofTemplate, bind_assoc, pure_bind]
  rfl

theorem Parameter.sizeOf_parts {parameter : Markup.Parameter} {inner : List Node}
    (within : inner ∈ Parameter.parts parameter) : sizeOf inner < sizeOf parameter := by
  cases parameter with
  | positional value =>
    rw [List.mem_singleton.mp within, Markup.Parameter.positional.sizeOf_spec]
    omega
  | named name value =>
    rw [Markup.Parameter.named.sizeOf_spec]
    rcases List.mem_cons.mp within with rfl | later
    · omega
    · rw [List.mem_singleton.mp later]
      omega

theorem Part.sizeOf_lt {node : Node} {inner : List Node}
    (part : Part registry setting frame node inner) : sizeOf inner < sizeOf node := by
  cases part with
  | title => simp +arith
  | trailing => simp +arith
  | caption => simp +arith
  | argumentName => simp +arith
  | fallback named unbound => simp +arith
  | templateName => simp +arith
  | parameter passed within =>
    have listed := List.sizeOf_lt_of_mem passed
    have held := Parameter.sizeOf_parts within
    rw [Node.template.sizeOf_spec]
    omega

/-- Induction along evaluation: a list follows from the parts of its first node and its rest. -/
theorem nodes_induction (registry : Registry) (setting : Setting) (frame : Frame)
    {motive : List Node → Prop}
    (nil : motive [])
    (cons : ∀ node rest, (∀ inner, Part registry setting frame node inner → motive inner) →
      motive rest → motive (node :: rest)) (nodes : List Node) : motive nodes := by
  match nodes with
  | [] => exact nil
  | node :: rest =>
    apply cons
    · intro inner part
      have smaller := part.sizeOf_lt
      exact nodes_induction registry setting frame nil cons inner
    · exact nodes_induction registry setting frame nil cons rest
termination_by sizeOf nodes
decreasing_by
  · rw [List.cons.sizeOf_spec]
    omega
  · rw [List.cons.sizeOf_spec]
    omega

section
variable {evaluate : List Node → Evaluating String} {parameter : Parameter}
  {parameters : List Parameter}

theorem partOf_pass {inner : List Node} (within : inner ∈ Parameter.parts parameter) :
    PartOf (evaluate inner) (Parameter.pass evaluate parameter) := by
  cases parameter with
  | positional value =>
    rw [List.mem_singleton.mp within]
    exact partOf_bind _ _
  | named name value =>
    rcases List.mem_cons.mp within with rfl | later
    · exact partOf_bind _ _
    · rw [List.mem_singleton.mp later]
      apply partOf_bind_next
      intro key words _
      exact partOf_bind _ _

theorem partOf_passAll (passed : parameter ∈ parameters) :
    PartOf (Parameter.pass evaluate parameter) (passAll evaluate parameters) := by
  induction parameters with
  | nil => simp at passed
  | cons first rest ih =>
    rw [passAll]
    rcases List.mem_cons.mp passed with rfl | later
    · exact partOf_bind _ _
    · apply partOf_bind_next
      intro value words _
      exact (ih later).trans (partOf_bind _ _)

theorem records_pass {word : String} (recorded : Records (Parameter.pass evaluate parameter) word) :
    ∃ inner ∈ Parameter.parts parameter, Records (evaluate inner) word := by
  cases parameter with
  | positional value =>
    rcases records_bind recorded with early | ⟨text, words, _, late⟩
    · exact ⟨value, List.mem_singleton_self value, early⟩
    · exact absurd late (not_records_pure _ word)
  | named name value =>
    rcases records_bind recorded with early | ⟨key, words, _, late⟩
    · exact ⟨name, List.mem_cons_self, early⟩
    · rcases records_bind late with next | ⟨text, more, _, last⟩
      · exact ⟨value, List.mem_cons_of_mem name (List.mem_singleton_self value), next⟩
      · exact absurd last (not_records_pure _ word)

theorem records_passAll {word : String} (recorded : Records (passAll evaluate parameters) word) :
    ∃ parameter ∈ parameters, Records (Parameter.pass evaluate parameter) word := by
  induction parameters with
  | nil => exact absurd recorded (not_records_pure _ word)
  | cons first rest ih =>
    rw [passAll] at recorded
    rcases records_bind recorded with early | ⟨value, words, _, late⟩
    · exact ⟨first, List.mem_cons_self, early⟩
    · rcases records_bind late with next | ⟨values, more, _, last⟩
      · obtain ⟨parameter, passed, found⟩ := ih next
        exact ⟨parameter, List.mem_cons_of_mem first passed, found⟩
      · exact absurd last (not_records_pure _ word)

end

theorem callOf_name (name : List Node) (parameters : List Parameter) :
    PartOf (evaluateNodes registry setting frame name)
      (callOf registry setting frame name parameters) :=
  partOf_bind _ _

theorem callOf_parameter {name : List Node} {parameter : Parameter} {parameters : List Parameter}
    (passed : parameter ∈ parameters) :
    PartOf (Parameter.pass (evaluateNodes registry setting frame) parameter)
      (callOf registry setting frame name parameters) := by
  apply partOf_bind_next
  intro invocation words _
  exact (partOf_passAll passed).trans (partOf_bind _ _)

theorem Part.partOf {node : Node} {inner : List Node}
    (part : Part registry setting frame node inner) :
    PartOf (evaluateNodes registry setting frame inner)
      (evaluateNode registry setting frame node) := by
  cases part with
  | title =>
    rw [evaluateNode]
    exact partOf_bind _ _
  | trailing =>
    rw [evaluateNode]
    apply partOf_bind_next
    intro text words _
    exact partOf_bind _ _
  | caption =>
    rw [evaluateNode]
    exact PartOf.refl _
  | @argumentName name fallback =>
    cases fallback with
    | none => rw [evaluateNode]; exact partOf_bind _ _
    | some list => rw [evaluateNode]; exact partOf_bind _ _
  | fallback named unbound =>
    rw [evaluateNode]
    apply partOf_bind_next
    intro key words run
    cases named.symm.trans run
    rw [unbound]
    exact PartOf.refl _
  | templateName =>
    rw [evaluateNode_template]
    exact (callOf_name _ _).trans (partOf_bind _ _)
  | parameter passed within =>
    rw [evaluateNode_template]
    exact ((partOf_pass within).trans (callOf_parameter passed)).trans (partOf_bind _ _)

theorem partOf_evaluateNodes {node : Node} {nodes : List Node} (member : node ∈ nodes) :
    PartOf (evaluateNode registry setting frame node)
      (evaluateNodes registry setting frame nodes) := by
  induction nodes with
  | nil => simp at member
  | cons first rest ih =>
    rw [evaluateNodes]
    rcases List.mem_cons.mp member with rfl | later
    · exact partOf_bind _ _
    · apply partOf_bind_next
      intro text words _
      exact (ih later).trans (partOf_bind _ _)

theorem Reached.cons {nodes : List Node} {node : Node}
    (reached : Reached registry setting frame nodes node) (first : Node) :
    Reached registry setting frame (first :: nodes) node := by
  cases reached with
  | member member => exact .member (List.mem_cons_of_mem first member)
  | inside member part deeper => exact .inside (List.mem_cons_of_mem first member) part deeper

theorem Reached.partOf {nodes : List Node} {node : Node}
    (reached : Reached registry setting frame nodes node) :
    PartOf (evaluateNode registry setting frame node)
      (evaluateNodes registry setting frame nodes) := by
  induction reached with
  | member member => exact partOf_evaluateNodes member
  | inside member part deeper ih => exact (ih.trans part.partOf).trans (partOf_evaluateNodes member)

/-- Each template that evaluation comes to makes a call from the frame, is evaluated to the answer
to it, and what the answer records stays. -/
theorem Reached.answered {nodes : List Node} {text : String} {words : WordSet} {name : List Node}
    {parameters : List Parameter}
    (reached : Reached registry setting frame nodes (.template name parameters))
    (run : evaluateNodes registry setting frame nodes = done text words) :
    ∃ call more, callOf registry setting frame name parameters = done call more ∧
      evaluateNode registry setting frame (.template name parameters) =
        done ((registry.answer setting (frame.child call)).1.getD
          (Node.template name parameters).source)
          (more ∪ (registry.answer setting (frame.child call)).2) ∧
      (registry.answer setting (frame.child call)).2 ⊆ words := by
  obtain ⟨value, fewer, here, included⟩ := reached.partOf text words run
  have whole := here
  rw [evaluateNode_template] at whole
  obtain ⟨call, more, own, made, answer, rfl⟩ := bind_eq_done.mp whole
  cases answer
  exact ⟨call, more, made, here,
    WordSet.subset_trans (WordSet.subset_union_right more _) included⟩

theorem Part.mem_walk {outer node : Node} {inner : List Node}
    (part : Part registry setting frame outer inner) (member : node ∈ walk inner) :
    node ∈ outer.walk := by
  cases part with
  | title =>
    rw [Node.walk]
    exact List.mem_cons_of_mem _ (List.mem_append_left _ member)
  | trailing =>
    rw [Node.walk]
    exact List.mem_cons_of_mem _ (List.mem_append_right _ member)
  | caption =>
    rw [Node.walk]
    exact List.mem_cons_of_mem _ (List.mem_append_right _ member)
  | @argumentName name fallback =>
    cases fallback with
    | none =>
      rw [Node.walk]
      exact List.mem_cons_of_mem _ member
    | some list =>
      rw [Node.walk]
      exact List.mem_cons_of_mem _ (List.mem_append_left _ member)
  | fallback named unbound =>
    rw [Node.walk]
    exact List.mem_cons_of_mem _ (List.mem_append_right _ member)
  | templateName =>
    rw [Node.walk]
    exact List.mem_cons_of_mem _ (List.mem_append_left _ member)
  | @parameter name inner parameter parameters passed within =>
    have held : node ∈ parameter.walk := by
      cases parameter with
      | positional value =>
        rw [List.mem_singleton.mp within] at member
        rwa [Parameter.walk]
      | named key value =>
        rw [Parameter.walk]
        rcases List.mem_cons.mp within with rfl | later
        · exact List.mem_append_left _ member
        · rw [List.mem_singleton.mp later] at member
          exact List.mem_append_right _ member
    rw [Node.walk, walkParameters_eq_flatMap]
    exact List.mem_cons_of_mem _
      (List.mem_append_right _ (List.mem_flatMap.mpr ⟨parameter, passed, held⟩))

theorem Reached.mem_walk {nodes : List Node} {node : Node}
    (reached : Reached registry setting frame nodes node) : node ∈ walk nodes := by
  induction reached with
  | @member nodes node member =>
    rw [walk_eq_flatMap]
    exact List.mem_flatMap.mpr ⟨node, member, node.mem_walk⟩
  | @inside nodes inner outer node member part deeper ih =>
    rw [walk_eq_flatMap]
    exact List.mem_flatMap.mpr ⟨outer, member, part.mem_walk ih⟩

theorem records_evaluateNode {node : Node} {word : String}
    (recorded : Records (evaluateNode registry setting frame node) word) :
    (∃ inner, Part registry setting frame node inner ∧
      Records (evaluateNodes registry setting frame inner) word) ∨
    ∃ name parameters call words, node = .template name parameters ∧
      callOf registry setting frame name parameters = done call words ∧
      word ∈ (registry.answer setting (frame.child call)).2 := by
  cases node with
  | text written => rw [evaluateNode] at recorded; exact absurd recorded (not_records_pure _ word)
  | comment body => rw [evaluateNode] at recorded; exact absurd recorded (not_records_pure _ word)
  | ignored marker => rw [evaluateNode] at recorded; exact absurd recorded (not_records_pure _ word)
  | tag element => rw [evaluateNode] at recorded; exact absurd recorded (not_records_pure _ word)
  | parameter content =>
    rw [evaluateNode] at recorded
    obtain ⟨value, words, run, _⟩ := recorded
    cases run
  | header level title trailing =>
    rw [evaluateNode] at recorded
    rcases records_bind recorded with early | ⟨text, words, _, late⟩
    · exact .inl ⟨title, .title, early⟩
    · rcases records_bind late with next | ⟨more, others, _, last⟩
      · exact .inl ⟨trailing, .trailing, next⟩
      · exact absurd last (not_records_pure _ word)
  | link target caption =>
    cases caption with
    | none => rw [evaluateNode] at recorded; exact absurd recorded (not_records_pure _ word)
    | some list =>
      rw [evaluateNode] at recorded
      exact .inl ⟨list, .caption, recorded⟩
  | argument name fallback =>
    cases fallback with
    | none =>
      rw [evaluateNode] at recorded
      rcases records_bind recorded with early | ⟨key, words, _, late⟩
      · exact .inl ⟨name, .argumentName, early⟩
      · exact absurd late (not_records_pure _ word)
    | some list =>
      rw [evaluateNode] at recorded
      rcases records_bind recorded with early | ⟨key, words, named, late⟩
      · exact .inl ⟨name, .argumentName, early⟩
      · cases found : frame.call.parameters.find? (trim key) with
        | some value =>
          rw [found] at late
          exact absurd late (not_records_pure _ word)
        | none =>
          rw [found] at late
          exact .inl ⟨list, .fallback named found, late⟩
  | template name parameters =>
    rw [evaluateNode_template] at recorded
    rcases records_bind recorded with early | ⟨call, words, made, late⟩
    · rcases records_bind early with first | ⟨invocation, more, _, next⟩
      · exact .inl ⟨name, .templateName, first⟩
      · rcases records_bind next with passing | ⟨passed, most, _, last⟩
        · obtain ⟨parameter, passed, one⟩ := records_passAll passing
          obtain ⟨inner, within, found⟩ := records_pass one
          exact .inl ⟨inner, .parameter passed within, found⟩
        · exact absurd last (not_records_pure _ word)
    · obtain ⟨text, more, run, member⟩ := late
      cases run
      exact .inr ⟨name, parameters, call, words, rfl, made, member⟩

/-- Each name that is recorded is recorded by a call that evaluation comes to. -/
theorem records_evaluateNodes {nodes : List Node} {word : String}
    (recorded : Records (evaluateNodes registry setting frame nodes) word) :
    ∃ name parameters call words, Reached registry setting frame nodes (.template name parameters) ∧
      callOf registry setting frame name parameters = done call words ∧
      word ∈ (registry.answer setting (frame.child call)).2 := by
  induction nodes using nodes_induction registry setting frame with
  | nil =>
    rw [evaluateNodes] at recorded
    exact absurd recorded (not_records_pure _ word)
  | cons node rest parts ih =>
    rw [evaluateNodes] at recorded
    rcases records_bind recorded with early | ⟨text, words, _, late⟩
    · rcases records_evaluateNode early with
        ⟨inner, part, inside⟩ | ⟨name, parameters, call, words, rfl, made, member⟩
      · obtain ⟨name, parameters, call, words, reached, found⟩ := parts inner part inside
        exact ⟨name, parameters, call, words, .inside List.mem_cons_self part reached, found⟩
      · exact ⟨name, parameters, call, words, .member List.mem_cons_self, made, member⟩
    · rcases records_bind late with next | ⟨more, others, _, last⟩
      · obtain ⟨name, parameters, call, words, reached, found⟩ := ih next
        exact ⟨name, parameters, call, words, reached.cons node, found⟩
      · exact absurd last (not_records_pure _ word)

end Wikitext
