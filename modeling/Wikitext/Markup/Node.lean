import Wikitext.Markup.Token

/-!
The tree of a page. Every node renders to the markup it stands for; `mergeText` joins the texts of
a list that touch, which changes no rendering.
-/
namespace Wikitext.Markup

mutual

inductive Node where
  | text (written : String)
  | comment (body : Comment)
  | header (level : Nat) (title trailing : List Node)
  | ignored (marker : String)
  | link (target : List Node) (caption : Option (List Node))
  | template (name : List Node) (parameters : List Parameter)
  | argument (name : List Node) (fallback : Option (List Node))
  | parameter (content : Parameter)
  | tag (element : Tag)

inductive Parameter where
  | positional (value : List Node)
  | named (name value : List Node)

end

mutual

def Node.source : Node → String
  | .text written => written
  | .comment body => body.source
  | .header level title trailing =>
    run '=' level ++ sourceOf title ++ run '=' level ++ sourceOf trailing
  | .ignored marker => marker
  | .link target none => "[[" ++ sourceOf target ++ "]]"
  | .link target (some caption) => "[[" ++ sourceOf target ++ "|" ++ sourceOf caption ++ "]]"
  | .template name parameters =>
    run '{' 2 ++ sourceOf name ++ parametersSource parameters ++ run '}' 2
  | .argument name none => run '{' 3 ++ sourceOf name ++ run '}' 3
  | .argument name (some fallback) =>
    run '{' 3 ++ sourceOf name ++ "|" ++ sourceOf fallback ++ run '}' 3
  | .parameter content => content.source
  | .tag element => element.source

def sourceOf : List Node → String
  | [] => ""
  | node :: rest => node.source ++ sourceOf rest

def Parameter.source : Parameter → String
  | .positional value => sourceOf value
  | .named name value => sourceOf name ++ "=" ++ sourceOf value

def parametersSource : List Parameter → String
  | [] => ""
  | parameter :: rest => "|" ++ parameter.source ++ parametersSource rest

end

/-- Puts a node in front of a list; a text joins the text behind it, and an empty one vanishes. -/
def joinText (node : Node) (rest : List Node) : List Node :=
  match node, rest with
  | .text written, .text next :: rest => .text (written ++ next) :: rest
  | .text written, rest => if written = "" then rest else .text written :: rest
  | node, rest => node :: rest

def mergeText (nodes : List Node) : List Node := nodes.foldr joinText []

end Wikitext.Markup
