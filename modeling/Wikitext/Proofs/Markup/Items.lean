import Wikitext.Markup.Node
import Wikitext.Proofs.Markup.Outline

/-!
Constructs as nodes. Every construct of an outline becomes one node, and every mark that separates
nothing in its place becomes text.
-/
namespace Wikitext.Markup

/-- A finished node, or a mark that may still separate the parts of the construct around it. -/
inductive Item where
  | pipe
  | equals (count : Nat)
  | node (content : Node)

def Item.asNode : Item → Node
  | .pipe => .text "|"
  | .equals count => .text (run '=' count)
  | .node content => content

def Item.isPipe : Item → Bool
  | .pipe => true
  | _ => false

def Item.isEquals : Item → Bool
  | .equals _ => true
  | _ => false

def Item.ofLeaf : Leaf → Item
  | .pipe => .pipe
  | .equals count => .equals count
  | .newline => .node (.text "\n")
  | .comment body => .node (.comment body)
  | .tag element => .node (.tag element)
  | .marker written => .node (.ignored written)
  | .text written => .node (.text written)

def nodesOf (items : List Item) : List Node := mergeText (items.map Item.asNode)

def segments : List Item → List Item × List (List Item)
  | [] => ([], [])
  | item :: rest =>
    let parts := segments rest
    if item.isPipe then ([], parts.1 :: parts.2) else (item :: parts.1, parts.2)

/-- A parameter is named when it has an equals sign of its own. Of a run of them the first one
separates the name, and the others start the value. -/
def parameterOf (items : List Item) : Parameter :=
  match items.dropWhile (fun item => !item.isEquals) with
  | .equals count :: rest =>
    .named (nodesOf (items.takeWhile fun item => !item.isEquals))
      (mergeText (.text (run '=' (count - 1)) :: nodesOf rest))
  | _ => .positional (nodesOf items)

def cutPipe (items : List Item) : List Node × Option (List Node) :=
  (nodesOf (items.takeWhile fun item => !item.isPipe),
    match items.dropWhile fun item => !item.isPipe with
    | [] => none
    | _ :: rest => some (nodesOf rest))

def construct (bracket : Bracket) (items : List Item) : Node :=
  match bracket with
  | .template =>
    let parts := segments items
    .template (nodesOf parts.1) (parts.2.map parameterOf)
  | .argument =>
    let parts := cutPipe items
    .argument parts.1 parts.2
  | .link =>
    let parts := cutPipe items
    .link parts.1 parts.2

mutual

def itemOf : Nested Bracket Leaf → Item
  | .leaf content => .ofLeaf content
  | .group bracket body => .node (construct bracket (itemsOf body))

def itemsOf : List (Nested Bracket Leaf) → List Item
  | [] => []
  | piece :: rest => itemOf piece :: itemsOf rest

end

end Wikitext.Markup
