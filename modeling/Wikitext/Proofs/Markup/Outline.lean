import Wikitext.Markup.Links

/-!
The outline of a text: its constructs as they stand inside each other. Braces are paired first and
then the link brackets of each level, so every delimiter has its partner by construction; braces
and brackets that find none are text.
-/
namespace Wikitext.Markup

inductive Nested (β α : Type) where
  | leaf (content : α)
  | group (bracket : β) (body : List (Nested β α))

/-- A run of opening braces that still waits for a partner, and what stands before it, last
piece first. -/
structure WaitingRun where
  braces : Nat
  before : List (Nested Brace Atom)

structure BraceState where
  runs : List WaitingRun
  inner : List (Nested Brace Atom)

def leftover (c : Char) (count : Nat) : List (Nested Brace Atom) :=
  if count = 0 then [] else [.leaf (.leaf (.text (run c count)))]

def BraceState.add (state : BraceState) (piece : Nested Brace Atom) : BraceState :=
  { state with inner := piece :: state.inner }

def BraceState.opening (state : BraceState) (count : Nat) : BraceState :=
  if count < 2 then { state with inner := leftover '{' count ++ state.inner }
  else ⟨⟨count, state.inner⟩ :: state.runs, []⟩

def BraceState.pair (innermost : WaitingRun) (outer : List WaitingRun)
    (inner : List (Nested Brace Atom)) (brace : Brace) : BraceState :=
  let rest := innermost.braces - brace.width
  let piece := Nested.group brace inner.reverse
  if rest < 2 then ⟨outer, piece :: leftover '{' rest ++ innermost.before⟩
  else ⟨⟨rest, innermost.before⟩ :: outer, [piece]⟩

def BraceState.closing (state : BraceState) (count : Nat) : BraceState :=
  match state.runs with
  | [] => { state with inner := leftover '}' count ++ state.inner }
  | innermost :: outer =>
    if count < 2 then { state with inner := leftover '}' count ++ state.inner }
    else
      let brace := widest count innermost.braces
      (BraceState.pair innermost outer state.inner brace).closing (count - brace.width)
termination_by count
decreasing_by
  have := two_le_width (widest count innermost.braces)
  omega

def BraceState.finish (state : BraceState) : List (Nested Brace Atom) :=
  (state.runs.foldl (fun inner innermost =>
    inner ++ leftover '{' innermost.braces ++ innermost.before) state.inner).reverse

def BraceState.step (state : BraceState) : Lexeme → BraceState
  | .openBraces count => state.opening count
  | .closeBraces count => state.closing count
  | .atom content => state.add (.leaf content)

def pairBraces (lexemes : List Lexeme) : List (Nested Brace Atom) :=
  (lexemes.foldl BraceState.step ⟨[], []⟩).finish

/-- The pieces of one level read so far: what stands before each open link, innermost first, and
what follows the innermost one, last piece first. -/
structure LinkState where
  outer : List (List (Nested Bracket Leaf))
  inner : List (Nested Bracket Leaf)

def LinkState.add (state : LinkState) (piece : Nested Bracket Leaf) : LinkState :=
  { state with inner := piece :: state.inner }

def LinkState.step (state : LinkState) : Atom → LinkState
  | .openLink => ⟨state.inner :: state.outer, []⟩
  | .closeLink =>
    match state.outer with
    | [] => state.add (.leaf (.text Bracket.link.closing))
    | before :: outer => ⟨outer, .group .link state.inner.reverse :: before⟩
  | .leaf content => state.add (.leaf content)

def LinkState.finish (state : LinkState) : List (Nested Bracket Leaf) :=
  (state.outer.foldl (fun inner before =>
    inner ++ .leaf (.text Bracket.link.opening) :: before) state.inner).reverse

mutual

def linkPiece (state : LinkState) : Nested Brace Atom → LinkState
  | .leaf content => state.step content
  | .group brace body => state.add (.group brace.bracket (linkPieces ⟨[], []⟩ body).finish)

def linkPieces (state : LinkState) : List (Nested Brace Atom) → LinkState
  | [] => state
  | piece :: rest => linkPieces (linkPiece state piece) rest

end

/-- Each level pairs its own link brackets, so no link leaves the construct it starts in. -/
def pairLinks (pieces : List (Nested Brace Atom)) : List (Nested Bracket Leaf) :=
  (linkPieces ⟨[], []⟩ pieces).finish

def outline (tags : TagSet) (source : String) : List (Nested Bracket Leaf) :=
  pairLinks (pairBraces (scan tags source.toList))

mutual

def Nested.tokens : Nested Bracket Leaf → List Token
  | .leaf content => [.leaf content]
  | .group bracket body => .opens bracket :: (tokensOf body ++ [.closes bracket])

def tokensOf : List (Nested Bracket Leaf) → List Token
  | [] => []
  | piece :: rest => piece.tokens ++ tokensOf rest

end

def tokens (tags : TagSet) (source : String) : List Token := tokensOf (outline tags source)

mutual

def Nested.words : Nested Brace Atom → List Token
  | .leaf content => [content.token]
  | .group brace body => brace.opens :: (wordsOf body ++ [brace.closes])

def wordsOf : List (Nested Brace Atom) → List Token
  | [] => []
  | piece :: rest => piece.words ++ wordsOf rest

end

end Wikitext.Markup
