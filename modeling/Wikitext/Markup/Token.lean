/-!
The tokens of wiki markup. A token is the opening or closing of a bracket construct or a leaf, and
every token renders to the exact text it stands for, so the place of each one follows from the
sizes of those before it.
-/
namespace Wikitext.Markup

def run (c : Char) (count : Nat) : String := String.ofList (List.replicate count c)

inductive Bracket where
  | template
  | argument
  | link
deriving DecidableEq

def Bracket.opening : Bracket → String
  | .template => run '{' 2
  | .argument => run '{' 3
  | .link => "[["

def Bracket.closing : Bracket → String
  | .template => run '}' 2
  | .argument => run '}' 3
  | .link => "]]"

/-- A comment that is not closed runs to the end of the text. -/
structure Comment where
  content : String
  closed : Bool
deriving DecidableEq

def Comment.source (comment : Comment) : String :=
  "<!--" ++ comment.content ++ if comment.closed then "-->" else ""

/-- An element whose content is kept as it is written. A self-closing one has no inner text. -/
structure Tag where
  name : String
  opening : String
  inner : Option String
  closing : String
deriving DecidableEq

def Tag.innerText (tag : Tag) : String := tag.inner.getD ""

def Tag.source (tag : Tag) : String := tag.opening ++ tag.innerText ++ tag.closing

inductive Leaf where
  | pipe
  | equals (run : Nat)
  | newline
  | comment (body : Comment)
  | tag (element : Tag)
  | marker (written : String)
  | text (written : String)
deriving DecidableEq

def Leaf.source : Leaf → String
  | .pipe => "|"
  | .equals count => run '=' count
  | .newline => "\n"
  | .comment body => body.source
  | .tag element => element.source
  | .marker written => written
  | .text written => written

inductive Token where
  | opens (bracket : Bracket)
  | closes (bracket : Bracket)
  | leaf (content : Leaf)
deriving DecidableEq

def Token.source : Token → String
  | .opens bracket => bracket.opening
  | .closes bracket => bracket.closing
  | .leaf content => content.source

/-- A stretch of text, in bytes of its encoding; `stop` is not part of it. -/
structure Span where
  start : Nat
  stop : Nat
deriving DecidableEq

def place (start : Nat) : List Token → List (Token × Span)
  | [] => []
  | token :: rest =>
    let stop := start + token.source.utf8ByteSize
    (token, ⟨start, stop⟩) :: place stop rest

end Wikitext.Markup
