import Mathlib.Algebra.FreeMonoid.Basic
import Wikitext.Proofs.Markup.Constructs
import Wikitext.Proofs.Markup.Nesting

/-!
Walks over the tree of a page. A walk meets every node before the nodes inside it and these in the
order of the text. It meets the constructs that the tokens of the page start, each once and with
the content of its token, and no parameter outside a template.
-/
namespace Wikitext.Markup

mutual

def Node.walk : Node → List Node
  | .header level title trailing =>
    .header level title trailing :: (walk title ++ walk trailing)
  | .link target none => .link target none :: walk target
  | .link target (some caption) => .link target (some caption) :: (walk target ++ walk caption)
  | .template name parameters =>
    .template name parameters :: (walk name ++ walkParameters parameters)
  | .argument name none => .argument name none :: walk name
  | .argument name (some fallback) =>
    .argument name (some fallback) :: (walk name ++ walk fallback)
  | .parameter content => .parameter content :: content.walk
  | .text written => [.text written]
  | .comment body => [.comment body]
  | .ignored marker => [.ignored marker]
  | .tag element => [.tag element]

def walk : List Node → List Node
  | [] => []
  | node :: rest => node.walk ++ walk rest

def Parameter.walk : Parameter → List Node
  | .positional value => Markup.walk value
  | .named name value => Markup.walk name ++ Markup.walk value

def walkParameters : List Parameter → List Node
  | [] => []
  | parameter :: rest => parameter.walk ++ walkParameters rest

end

theorem walk_eq_flatMap (nodes : List Node) : walk nodes = nodes.flatMap Node.walk := by
  induction nodes with
  | nil => rfl
  | cons node rest ih => rw [walk, List.flatMap_cons, ih]

theorem walkParameters_eq_flatMap (parameters : List Parameter) :
    walkParameters parameters = parameters.flatMap Parameter.walk := by
  induction parameters with
  | nil => rfl
  | cons parameter rest ih => rw [walkParameters, List.flatMap_cons, ih]

theorem Node.mem_walk (node : Node) : node ∈ node.walk := by
  cases node with
  | link target caption => cases caption <;> simp [Node.walk]
  | argument name fallback => cases fallback <;> simp [Node.walk]
  | _ => simp [Node.walk]

/-- A test that finds at most one thing at a node. It finds nothing at texts and headings, and at
all constructs of a kind the same. -/
structure Finder (α : Type) where
  find : Node → Option α
  kind : Bracket → Option α
  text : ∀ written, find (.text written) = none
  header : ∀ level title trailing, find (.header level title trailing) = none
  template : ∀ name parameters, find (.template name parameters) = kind .template
  argument : ∀ name fallback, find (.argument name fallback) = kind .argument
  link : ∀ target caption, find (.link target caption) = kind .link

namespace Finder
variable {α : Type} (finder : Finder α)

def found (nodes : List Node) : FreeMonoid α := FreeMonoid.ofList (nodes.filterMap finder.find)

theorem found_nil : finder.found [] = 1 := rfl

theorem found_append (first second : List Node) :
    finder.found (first ++ second) = finder.found first * finder.found second := by
  unfold found
  rw [List.filterMap_append, FreeMonoid.ofList_append]

theorem found_cons (node : Node) (rest : List Node) :
    finder.found (node :: rest) =
      FreeMonoid.ofList (finder.find node).toList * finder.found rest := by
  unfold found
  rw [← FreeMonoid.ofList_append]
  cases here : finder.find node <;> simp [here]

theorem found_text (written : String) : finder.found (Node.text written).walk = 1 := by
  rw [Node.walk, found_cons, finder.text]
  rfl

theorem found_walk (list : List Node) :
    (list.map fun node => finder.found node.walk).prod = finder.found (walk list) := by
  induction list with
  | nil => rfl
  | cons node rest ih => rw [walk, found_append, ← ih, List.map_cons, List.prod_cons]

def reading : Reading (FreeMonoid α) where
  node node := finder.found node.walk
  text_empty := finder.found_text ""
  text_append first second := by rw [found_text, found_text, found_text, mul_one]
  header level title trailing := by
    have inside : (Node.header level title trailing).walk =
        .header level title trailing :: (walk title ++ walk trailing) := by rw [Node.walk]
    rw [found_walk, found_walk, found_text, inside, found_cons, finder.header, found_append,
      one_mul, mul_one]
    exact one_mul _

theorem reading_text (written : String) : finder.reading.node (.text written) = 1 :=
  finder.found_text written

theorem reading_nodes (list : List Node) : finder.reading.nodes list = finder.found (walk list) :=
  finder.found_walk list

theorem reading_parameter (parameter : Parameter) :
    finder.reading.parameter parameter = finder.found parameter.walk := by
  cases parameter with
  | positional value => rw [Reading.parameter, reading_nodes, Parameter.walk]
  | named name value =>
    rw [Reading.parameter, reading_nodes, reading_nodes, reading_text, mul_one, Parameter.walk,
      found_append]

theorem reading_parameters (list : List Parameter) :
    finder.reading.parameters list = finder.found (walkParameters list) := by
  apply Reading.parameters_eq_of
  · rfl
  · intro parameter rest
    rw [reading_parameter, reading_text, one_mul, walkParameters, found_append]

theorem reading_behindPipe (part : Option (List Node)) :
    finder.reading.behindPipe part = finder.found (part.elim [] walk) := by
  cases part with
  | none => rfl
  | some list => rw [Reading.behindPipe, reading_text, one_mul, reading_nodes, Option.elim_some]

def bracketed : BracketReading (FreeMonoid α) where
  toReading := finder.reading
  opening bracket := FreeMonoid.ofList (finder.kind bracket).toList
  closing _ := 1
  template name parameters := by
    change finder.found (Node.template name parameters).walk = _
    rw [reading_nodes, reading_parameters, mul_one, Node.walk, found_cons, finder.template,
      found_append]
  argument name fallback := by
    change finder.found (Node.argument name fallback).walk = _
    rw [reading_nodes, reading_behindPipe, mul_one, ← found_append]
    cases fallback with
    | none => rw [Node.walk, found_cons, finder.argument, Option.elim_none, List.append_nil]
    | some list => rw [Node.walk, found_cons, finder.argument, Option.elim_some]
  link target caption := by
    change finder.found (Node.link target caption).walk = _
    rw [reading_nodes, reading_behindPipe, mul_one, ← found_append]
    cases caption with
    | none => rw [Node.walk, found_cons, finder.link, Option.elim_none, List.append_nil]
    | some list => rw [Node.walk, found_cons, finder.link, Option.elim_some]

def atToken : Token → Option α
  | .opens bracket => finder.kind bracket
  | .closes _ => none
  | .leaf content => finder.find (Item.ofLeaf content).asNode

theorem bracketed_token (token : Token) :
    finder.bracketed.token token = FreeMonoid.ofList (finder.atToken token).toList := by
  have leaf : ∀ content : Leaf, (Item.ofLeaf content).asNode.walk =
      [(Item.ofLeaf content).asNode] := by
    intro content
    cases content <;> rfl
  cases token with
  | opens bracket => rfl
  | closes bracket => rfl
  | leaf content =>
    change finder.found (Item.ofLeaf content).asNode.walk = _
    rw [leaf, found_cons, found_nil, mul_one]
    rfl

theorem bracketed_tokens (word : List Token) :
    finder.bracketed.tokens word = FreeMonoid.ofList (word.filterMap finder.atToken) := by
  induction word with
  | nil => rfl
  | cons token word ih =>
    rw [BracketReading.tokens_cons, ih, bracketed_token, ← FreeMonoid.ofList_append]
    cases here : finder.atToken token <;> simp [here]

theorem find_parse (tags : TagSet) (source : String) :
    (walk (parse tags source)).filterMap finder.find =
      (tokens tags source).filterMap finder.atToken := by
  have read := finder.bracketed.nodes_parse tags source
  rw [bracketed_tokens] at read
  exact FreeMonoid.ofList.injective ((finder.reading_nodes _).symm.trans read)

end Finder

/-- A construct as it is met: by its kind, and if it is a leaf also by its content. -/
inductive Landmark where
  | construct (bracket : Bracket)
  | comment (body : Comment)
  | tag (element : Tag)
  | marker (written : String)
deriving DecidableEq

def Node.landmark? : Node → Option Landmark
  | .template _ _ => some (.construct .template)
  | .argument _ _ => some (.construct .argument)
  | .link _ _ => some (.construct .link)
  | .comment body => some (.comment body)
  | .tag element => some (.tag element)
  | .ignored marker => some (.marker marker)
  | .text _ | .header _ _ _ | .parameter _ => none

def Token.landmark? : Token → Option Landmark
  | .opens bracket => some (.construct bracket)
  | .leaf (.comment body) => some (.comment body)
  | .leaf (.tag element) => some (.tag element)
  | .leaf (.marker written) => some (.marker written)
  | .closes _ | .leaf .pipe | .leaf (.equals _) | .leaf .newline | .leaf (.text _) => none

def landmarks : Finder Landmark where
  find := Node.landmark?
  kind bracket := some (.construct bracket)
  text _ := rfl
  header _ _ _ := rfl
  template _ _ := rfl
  argument _ _ := rfl
  link _ _ := rfl

/-- A walk over the tree of a page meets the constructs that its tokens start, in their order and
with their contents: none of them has become text, and none was added. -/
theorem walk_parse_landmarks (tags : TagSet) (source : String) :
    (walk (parse tags source)).filterMap Node.landmark? =
      ((lex tags source).map Prod.fst).filterMap Token.landmark? := by
  have atToken : landmarks.atToken = Token.landmark? := by
    funext token
    cases token with
    | opens bracket => rfl
    | closes bracket => rfl
    | leaf content => cases content <;> rfl
  have met := landmarks.find_parse tags source
  rw [atToken] at met
  rw [map_fst_lex]
  exact met

def looseParameters : Finder Parameter where
  find
    | .parameter content => some content
    | _ => none
  kind _ := none
  text _ := rfl
  header _ _ _ := rfl
  template _ _ := rfl
  argument _ _ := rfl
  link _ _ := rfl

theorem parameter_not_mem_parse (tags : TagSet) (source : String) (content : Parameter) :
    .parameter content ∉ walk (parse tags source) := by
  intro member
  have met := looseParameters.find_parse tags source
  have atToken : ∀ token, looseParameters.atToken token = none := by
    intro token
    cases token with
    | opens bracket => rfl
    | closes bracket => rfl
    | leaf content => cases content <;> rfl
  have none : (tokens tags source).filterMap looseParameters.atToken = [] := by
    simp [atToken]
  rw [none, List.filterMap_eq_nil_iff] at met
  exact Option.some_ne_none content (met _ member)

end Wikitext.Markup
