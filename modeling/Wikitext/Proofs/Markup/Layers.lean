import Wikitext.Proofs.Markup.NormalForm

/-!
Places in a tree. The way to a list at some depth is the layers around it, and each list of a tree
has its layers.
-/
namespace Wikitext.Markup

inductive AroundParameter where
  | inPositional
  | inName (value : List Node)
  | inNamed (name : List Node)

inductive Around where
  | inTitle (level : Nat) (trailing : List Node)
  | inTrailing (level : Nat) (title : List Node)
  | inTarget (caption : Option (List Node))
  | inCaption (target : List Node)
  | inArgumentName (fallback : Option (List Node))
  | inFallback (name : List Node)
  | inTemplateName (parameters : List Parameter)
  | inPassed (name : List Node) (earlier : List Parameter) (around : AroundParameter)
    (later : List Parameter)
  | inLoose (around : AroundParameter)

/-- A list in which one list of one node is left out. -/
structure Layer where
  before : List Node
  around : Around
  after : List Node

def AroundParameter.fill : AroundParameter → List Node → Parameter
  | .inPositional, inner => .positional inner
  | .inName value, inner => .named inner value
  | .inNamed name, inner => .named name inner

def Around.fill : Around → List Node → Node
  | .inTitle level trailing, inner => .header level inner trailing
  | .inTrailing level title, inner => .header level title inner
  | .inTarget caption, inner => .link inner caption
  | .inCaption target, inner => .link target (some inner)
  | .inArgumentName fallback, inner => .argument inner fallback
  | .inFallback name, inner => .argument name (some inner)
  | .inTemplateName parameters, inner => .template inner parameters
  | .inPassed name earlier around later, inner =>
    .template name (earlier ++ around.fill inner :: later)
  | .inLoose around, inner => .parameter (around.fill inner)

def Layer.fill (layer : Layer) (inner : List Node) : List Node :=
  layer.before ++ layer.around.fill inner :: layer.after

def fillAll (layers : List Layer) (inner : List Node) : List Node := layers.foldr Layer.fill inner

theorem fillAll_nil (inner : List Node) : fillAll [] inner = inner := rfl

theorem fillAll_cons (layer : Layer) (layers : List Layer) (inner : List Node) :
    fillAll (layer :: layers) inner = layer.fill (fillAll layers inner) := rfl

theorem exists_aroundParameter {parameter : Parameter} {part : Place × List Node}
    (listed : part ∈ parameter.lists) :
    ∃ around : AroundParameter, around.fill part.2 = parameter := by
  cases parameter with
  | positional value =>
    rw [List.mem_singleton.mp listed]
    exact ⟨.inPositional, rfl⟩
  | named name value =>
    rcases List.mem_cons.mp listed with rfl | second
    · exact ⟨.inName value, rfl⟩
    · rw [List.mem_singleton.mp second]
      exact ⟨.inNamed name, rfl⟩

theorem exists_around {node : Node} {part : Place × List Node} (listed : part ∈ node.lists) :
    ∃ around : Around, around.fill part.2 = node := by
  cases node with
  | header level title trailing =>
    rcases List.mem_cons.mp listed with rfl | second
    · exact ⟨.inTitle level trailing, rfl⟩
    · rw [List.mem_singleton.mp second]
      exact ⟨.inTrailing level title, rfl⟩
  | link target caption =>
    rcases List.mem_cons.mp listed with rfl | second
    · exact ⟨.inTarget caption, rfl⟩
    · obtain ⟨list, given, rfl⟩ := List.mem_map.mp second
      rw [Option.mem_toList.mp given]
      exact ⟨.inCaption target, rfl⟩
  | argument name fallback =>
    rcases List.mem_cons.mp listed with rfl | second
    · exact ⟨.inArgumentName fallback, rfl⟩
    · obtain ⟨list, given, rfl⟩ := List.mem_map.mp second
      rw [Option.mem_toList.mp given]
      exact ⟨.inFallback name, rfl⟩
  | template name parameters =>
    rcases List.mem_cons.mp listed with rfl | second
    · exact ⟨.inTemplateName parameters, rfl⟩
    · obtain ⟨parameter, passed, within⟩ := List.mem_flatMap.mp second
      obtain ⟨earlier, later, rfl⟩ := List.append_of_mem passed
      obtain ⟨around, rfl⟩ := exists_aroundParameter within
      exact ⟨.inPassed name earlier around later, rfl⟩
  | parameter content =>
    obtain ⟨around, rfl⟩ := exists_aroundParameter listed
    exact ⟨.inLoose around, rfl⟩
  | _ => cases listed

theorem exists_layer {nodes : List Node} {node : Node} {part : Place × List Node}
    (member : node ∈ nodes) (listed : part ∈ node.lists) :
    ∃ layer : Layer, layer.fill part.2 = nodes := by
  obtain ⟨before, after, rfl⟩ := List.append_of_mem member
  obtain ⟨around, rfl⟩ := exists_around listed
  exact ⟨⟨before, around, after⟩, rfl⟩

theorem AroundParameter.sizeOf_lt (around : AroundParameter) (inner : List Node) :
    sizeOf inner < sizeOf (around.fill inner) := by
  cases around <;> simp +arith [fill]

theorem Around.sizeOf_lt (around : Around) (inner : List Node) :
    sizeOf inner < sizeOf (around.fill inner) := by
  cases around with
  | inPassed name earlier around later =>
    have held := around.sizeOf_lt inner
    have listed : sizeOf (around.fill inner) < sizeOf (earlier ++ around.fill inner :: later) :=
      List.sizeOf_lt_of_mem (List.mem_append_right earlier List.mem_cons_self)
    rw [fill, Node.template.sizeOf_spec]
    omega
  | inLoose around =>
    have held := around.sizeOf_lt inner
    rw [fill, Node.parameter.sizeOf_spec]
    omega
  | _ => simp +arith [fill]

theorem exists_layers (nodes : List Node) {node : Node} {part : Place × List Node}
    (member : node ∈ walk nodes) (listed : part ∈ node.lists) :
    ∃ layers, fillAll layers part.2 = nodes := by
  rw [walk_eq_flatMap] at member
  obtain ⟨top, first, inside⟩ := List.mem_flatMap.mp member
  rw [Node.walk_eq_lists] at inside
  rcases List.mem_cons.mp inside with rfl | deeper
  · obtain ⟨layer, filled⟩ := exists_layer first listed
    exact ⟨[layer], filled⟩
  · obtain ⟨outer, between, below⟩ := List.mem_flatMap.mp deeper
    have smaller := List.sizeOf_lt_of_mem first
    have held : sizeOf outer.2 < sizeOf top := by
      obtain ⟨around, filled⟩ := exists_around between
      exact filled ▸ around.sizeOf_lt outer.2
    obtain ⟨layers, inner⟩ := exists_layers outer.2 below listed
    obtain ⟨layer, filled⟩ := exists_layer first between
    exact ⟨layer :: layers, by rw [fillAll_cons, inner, filled]⟩
termination_by sizeOf nodes

end Wikitext.Markup
