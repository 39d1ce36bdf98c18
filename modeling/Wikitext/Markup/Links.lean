import Wikitext.Markup.Braces

/-!
Link brackets are paired inside the template or argument that they stand in. A bracket without a
partner is text, so that no link starts that does not end.
-/
namespace Wikitext.Markup

/-- What has been opened and not closed: a template or argument, or a link and its place. -/
inductive Scope where
  | braces
  | link (index : Nat)

def Scope.link? : Scope → Option Nat
  | .braces => none
  | .link index => some index

/-- The open scopes, innermost first, and the places of the brackets that stay without a partner. -/
structure LinkScan where
  scopes : List Scope
  unpaired : List Nat

namespace LinkScan

def empty : LinkScan := ⟨[], []⟩

/-- Links that are still open where a template or argument ends die with it. -/
def leave (unpaired : List Nat) : List Scope → LinkScan
  | [] => ⟨[], unpaired⟩
  | .braces :: outer => ⟨outer, unpaired⟩
  | .link index :: outer => leave (index :: unpaired) outer

def step (scan : LinkScan) (indexed : Token × Nat) : LinkScan :=
  match indexed.1 with
  | .opens .link => { scan with scopes := .link indexed.2 :: scan.scopes }
  | .opens _ => { scan with scopes := .braces :: scan.scopes }
  | .closes .link =>
    match scan.scopes with
    | .link _ :: outer => { scan with scopes := outer }
    | _ => { scan with unpaired := indexed.2 :: scan.unpaired }
  | .closes _ => leave scan.unpaired scan.scopes
  | .leaf _ => scan

def finish (scan : LinkScan) : List Nat :=
  scan.scopes.filterMap Scope.link? ++ scan.unpaired

end LinkScan

def unpairedLinks (tokens : List Token) : List Nat :=
  (tokens.zipIdx.foldl LinkScan.step .empty).finish

def Token.asText (token : Token) : Token := .leaf (.text token.source)

def keepAsText (placed : List (Token × Span)) (index : Nat) : List (Token × Span) :=
  placed.modify index fun (token, span) => (token.asText, span)

def pairLinkTokens (placed : List (Token × Span)) : List (Token × Span) :=
  (unpairedLinks (placed.map Prod.fst)).foldl keepAsText placed

def lex (tags : TagSet) (source : String) : List (Token × Span) :=
  pairLinkTokens (balanceBraces (placeLexemes 0 (scan tags source.toList)))

end Wikitext.Markup
