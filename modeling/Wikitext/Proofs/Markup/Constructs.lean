import Wikitext.Proofs.Markup.Grammar
import Wikitext.Proofs.Markup.Headings
import Wikitext.Proofs.Markup.Tokens

/-!
Readings of a page that follow its tokens. Where a construct reads as its opening, its parts with
the marks between them and its closing, the tree of a page reads as the tokens of the page do, one
after the other: each paired construct is one node, and nothing is lost, added or moved.
-/
namespace Wikitext.Markup

namespace Reading
variable {M : Type} [Monoid M] (reading : Reading M)

def behindPipe : Option (List Node) → M
  | none => 1
  | some list => reading.node (.text "|") * reading.nodes list

def parameter : Parameter → M
  | .positional value => reading.nodes value
  | .named name value => reading.nodes name * reading.node (.text "=") * reading.nodes value

def parameters (list : List Parameter) : M :=
  (list.map fun parameter => reading.node (.text "|") * reading.parameter parameter).prod

def items (list : List Item) : M := (list.map fun item => reading.node item.asNode).prod

end Reading

/-- A reading that takes each construct as its delimiters with its parts between them. -/
structure BracketReading (M : Type) [Monoid M] extends Reading M where
  opening : Bracket → M
  closing : Bracket → M
  template : ∀ name parameters, node (.template name parameters) = opening .template *
    (toReading.nodes name * toReading.parameters parameters) * closing .template
  argument : ∀ name fallback, node (.argument name fallback) = opening .argument *
    (toReading.nodes name * toReading.behindPipe fallback) * closing .argument
  link : ∀ target caption, node (.link target caption) = opening .link *
    (toReading.nodes target * toReading.behindPipe caption) * closing .link

def Item.Counted : Item → Prop
  | .equals count => 0 < count
  | _ => True

namespace Reading
variable {M : Type} [Monoid M] (reading : Reading M)

theorem parameters_eq_of {other : List Parameter → M} (nil : other [] = 1)
    (cons : ∀ parameter rest, other (parameter :: rest) =
      reading.node (.text "|") * reading.parameter parameter * other rest)
    (list : List Parameter) : reading.parameters list = other list := by
  induction list with
  | nil => exact nil.symm
  | cons parameter rest ih =>
    rw [cons, ← ih]
    simp [parameters]

theorem items_cons (item : Item) (rest : List Item) :
    reading.items (item :: rest) = reading.node item.asNode * reading.items rest := by
  simp [items]

theorem items_append (first second : List Item) :
    reading.items (first ++ second) = reading.items first * reading.items second := by
  simp [items]

theorem nodes_nodesOf (list : List Item) : reading.nodes (nodesOf list) = reading.items list := by
  unfold nodesOf
  rw [nodes_mergeText]
  simp [nodes, items, Function.comp_def]

theorem node_pipe {item : Item} (pipe : item.isPipe = true) :
    reading.node item.asNode = reading.node (.text "|") := by
  cases item with
  | pipe => rfl
  | equals count => simp [Item.isPipe] at pipe
  | node content => simp [Item.isPipe] at pipe

theorem items_segments (list : List Item) :
    reading.items list = reading.items (segments list).1 *
      ((segments list).2.map fun part => reading.node (.text "|") * reading.items part).prod := by
  induction list with
  | nil => simp [segments, items]
  | cons item rest ih =>
    rw [items_cons, ih, segments]
    split
    · rename_i pipe
      rw [node_pipe reading pipe]
      simp [items, mul_assoc]
    · rw [items_cons, mul_assoc]

theorem items_cutPipe (list : List Item) :
    reading.nodes (cutPipe list).1 * reading.behindPipe (cutPipe list).2 = reading.items list := by
  have whole : list.takeWhile (fun item => !item.isPipe) ++
      list.dropWhile (fun item => !item.isPipe) =
      list := List.takeWhile_append_dropWhile
  unfold cutPipe
  simp only
  split
  · rename_i none
    rw [none, List.append_nil] at whole
    rw [whole, nodes_nodesOf, behindPipe, mul_one]
  · rename_i item rest found
    have pipe : item.isPipe = true := by
      have stop := List.head?_dropWhile_not (fun item : Item => !item.isPipe) list
      simpa [found] using stop
    conv_rhs => rw [← whole, found]
    rw [behindPipe, nodes_nodesOf, nodes_nodesOf, items_append, items_cons, node_pipe reading pipe]

theorem parameter_parameterOf {list : List Item} (counted : ∀ item ∈ list, item.Counted) :
    reading.parameter (parameterOf list) = reading.items list := by
  have whole : list.takeWhile (fun item => !item.isEquals) ++
      list.dropWhile (fun item => !item.isEquals) = list := List.takeWhile_append_dropWhile
  unfold parameterOf
  split
  · rename_i count rest found
    have member : Item.equals count ∈ list := by
      rw [← whole, found]
      simp
    have positive : 0 < count := counted _ member
    have marks : reading.node (.text (run '=' count)) =
        reading.node (.text "=") * reading.node (.text (run '=' (count - 1))) := by
      obtain ⟨less, rfl⟩ := Nat.exists_eq_succ_of_ne_zero (Nat.pos_iff_ne_zero.mp positive)
      rw [← text_append]
      exact congrArg (fun written => reading.node (.text written)) (run_succ '=' less)
    conv_rhs => rw [← whole, found]
    rw [parameter, nodes_mergeText, nodes_cons, nodes_nodesOf, nodes_nodesOf, items_append,
      items_cons, Item.asNode, marks]
    simp only [mul_assoc]
  · exact nodes_nodesOf reading list

theorem mem_segments {list : List Item} {item : Item} :
    item ∈ (segments list).1 ∨ (∃ part ∈ (segments list).2, item ∈ part) → item ∈ list := by
  induction list with
  | nil => simp [segments]
  | cons first rest ih =>
    rw [segments]
    split
    · rintro (inside | ⟨part, found, inside⟩)
      · simp at inside
      · rcases List.mem_cons.mp found with same | later
        · exact List.mem_cons_of_mem _ (ih (.inl (same ▸ inside)))
        · exact List.mem_cons_of_mem _ (ih (.inr ⟨part, later, inside⟩))
    · rintro (inside | ⟨part, found, inside⟩)
      · rcases List.mem_cons.mp inside with same | later
        · exact same ▸ List.mem_cons_self
        · exact List.mem_cons_of_mem _ (ih (.inl later))
      · exact List.mem_cons_of_mem _ (ih (.inr ⟨part, found, inside⟩))

end Reading

namespace BracketReading
variable {M : Type} [Monoid M] (reading : BracketReading M)

def token : Token → M
  | .opens bracket => reading.opening bracket
  | .closes bracket => reading.closing bracket
  | .leaf content => reading.node (Item.ofLeaf content).asNode

def tokens (word : List Token) : M := (word.map reading.token).prod

theorem tokens_append (first second : List Token) :
    reading.tokens (first ++ second) = reading.tokens first * reading.tokens second := by
  simp [tokens]

theorem tokens_cons (token : Token) (word : List Token) :
    reading.tokens (token :: word) = reading.token token * reading.tokens word := by
  simp [tokens]

theorem node_construct (bracket : Bracket) {list : List Item}
    (counted : ∀ item ∈ list, item.Counted) :
    reading.node (construct bracket list) =
      reading.opening bracket * reading.items list * reading.closing bracket := by
  cases bracket with
  | template =>
    have parts : reading.parameters ((segments list).2.map parameterOf) =
        ((segments list).2.map fun part => reading.node (.text "|") * reading.items part).prod := by
      unfold Reading.parameters
      rw [List.map_map]
      congr 1
      apply List.map_congr_left
      intro part found
      rw [Function.comp_apply, Reading.parameter_parameterOf]
      intro item inside
      exact counted item (Reading.mem_segments (.inr ⟨part, found, inside⟩))
    rw [construct, template, Reading.nodes_nodesOf, parts, ← Reading.items_segments]
  | argument => rw [construct, argument, Reading.items_cutPipe]
  | link => rw [construct, link, Reading.items_cutPipe]

theorem counted_itemsOf {pieces : List (Nested Bracket Leaf)}
    (counted : ∀ count, .leaf (.equals count) ∈ tokensOf pieces → 0 < count) :
    ∀ item ∈ itemsOf pieces, item.Counted := by
  induction pieces with
  | nil => simp [itemsOf]
  | cons piece rest ih =>
    intro item member
    rw [itemsOf] at member
    rcases List.mem_cons.mp member with here | later
    · rw [here]
      cases piece with
      | group bracket body => trivial
      | leaf content =>
        cases content with
        | equals count =>
          apply counted
          simp [tokensOf, Nested.tokens]
        | _ => trivial
    · refine ih (fun count inside => counted count ?_) item later
      rw [tokensOf]
      exact List.mem_append_right _ inside

mutual

theorem node_itemOf (piece : Nested Bracket Leaf)
    (counted : ∀ count, .leaf (.equals count) ∈ piece.tokens → 0 < count) :
    reading.node (itemOf piece).asNode = reading.tokens piece.tokens := by
  cases piece with
  | leaf content => simp [itemOf, Nested.tokens, tokens, token]
  | group bracket body =>
    have inner : ∀ count, .leaf (.equals count) ∈ tokensOf body → 0 < count := by
      intro count inside
      apply counted
      simp [Nested.tokens, inside]
    have whole := items_itemsOf body inner
    rw [itemOf, Item.asNode, node_construct reading bracket (counted_itemsOf inner), whole,
      Nested.tokens, tokens_cons, tokens_append, mul_assoc]
    simp [tokens, token]

theorem items_itemsOf (pieces : List (Nested Bracket Leaf))
    (counted : ∀ count, .leaf (.equals count) ∈ tokensOf pieces → 0 < count) :
    reading.items (itemsOf pieces) = reading.tokens (tokensOf pieces) := by
  cases pieces with
  | nil => rfl
  | cons piece rest =>
    have here := node_itemOf piece fun count inside =>
      counted count (by rw [tokensOf]; exact List.mem_append_left _ inside)
    have later := items_itemsOf rest fun count inside =>
      counted count (by rw [tokensOf]; exact List.mem_append_right _ inside)
    rw [itemsOf, Reading.items_cons, here, later, tokensOf, tokens_append]

end

/-- The tree of a page reads as the tokens of the page do. -/
theorem nodes_parse (tags : TagSet) (source : String) :
    reading.nodes (parse tags source) = reading.tokens (Markup.tokens tags source) := by
  rw [parse_eq, Reading.nodes_withHeadings, Reading.nodes_nodesOf]
  exact items_itemsOf reading _ fun _ => equals_counted

end BracketReading

end Wikitext.Markup
