import Wikitext.Markup.Lexeme

/-!
Runs of braces become the delimiters of templates and arguments. A closing run takes its partners
from the innermost opening run that has two braces left, and an opening run is written out when
everything behind it has been read. Braces that find no partner are text.
-/
namespace Wikitext.Markup

inductive Brace where
  | double
  | triple
deriving DecidableEq

def Brace.width : Brace → Nat
  | .double => 2
  | .triple => 3

def Brace.bracket : Brace → Bracket
  | .double => .template
  | .triple => .argument

/-- Both runs give three braces if both have them, else two. -/
def widest (closing opening : Nat) : Brace :=
  if 3 ≤ closing ∧ 3 ≤ opening then .triple else .double

theorem two_le_width (brace : Brace) : 2 ≤ brace.width := by
  cases brace <;> decide

def Brace.opens (brace : Brace) : Token := .opens brace.bracket

def Brace.closes (brace : Brace) : Token := .closes brace.bracket

def Atom.token : Atom → Token
  | .openLink => .opens .link
  | .closeLink => .closes .link
  | .leaf content => .leaf content

def placeLexemes (start : Nat) : List Lexeme → List (Lexeme × Span)
  | [] => []
  | lexeme :: rest =>
    let stop := start + lexeme.source.utf8ByteSize
    (lexeme, ⟨start, stop⟩) :: placeLexemes stop rest

def placeLeftover (c : Char) (start count : Nat) : List (Token × Span) :=
  if count = 0 then [] else [(.leaf (.text (run c count)), ⟨start, start + count⟩)]

def placeOpenings (start : Nat) : List Brace → List (Token × Span)
  | [] => []
  | brace :: rest =>
    let stop := start + brace.width
    (brace.opens, ⟨start, stop⟩) :: placeOpenings stop rest

/-- An opening run: its place, the braces that have no partner yet, and the delimiters that the
others make, outermost first. -/
structure OpenRun where
  start : Nat
  remaining : Nat
  delimiters : List Brace

/-- One more partner takes its braces from the end of those that remain. -/
def OpenRun.pair (opened : OpenRun) (brace : Brace) : OpenRun :=
  { opened with
    remaining := opened.remaining - brace.width
    delimiters := brace :: opened.delimiters }

def OpenRun.tokens (opened : OpenRun) : List (Token × Span) :=
  placeLeftover '{' opened.start opened.remaining ++
    placeOpenings (opened.start + opened.remaining) opened.delimiters

inductive Slot where
  | token (placed : Token × Span)
  | openRun (index : Nat)

/-- What has been read: the slots, last one first, the opening runs in order, and which of them
have two braces left, innermost first. -/
structure BraceScan where
  slots : List Slot
  runs : Array OpenRun
  stack : List Nat

namespace BraceScan

def empty : BraceScan := ⟨[], #[], []⟩

def add (scan : BraceScan) (placed : List (Token × Span)) : BraceScan :=
  { scan with slots := placed.reverse.map .token ++ scan.slots }

def opening (scan : BraceScan) (start count : Nat) : BraceScan where
  slots := .openRun scan.runs.size :: scan.slots
  runs := scan.runs.push ⟨start, count, []⟩
  stack := if 2 ≤ count then scan.runs.size :: scan.stack else scan.stack

def innermost? (scan : BraceScan) : Option (Nat × OpenRun) :=
  match scan.stack with
  | [] => none
  | index :: _ => scan.runs[index]?.map fun opened => (index, opened)

def pair (scan : BraceScan) (index : Nat) (opened : OpenRun) (brace : Brace) : BraceScan where
  slots := scan.slots
  runs := scan.runs.setIfInBounds index (opened.pair brace)
  stack := if (opened.pair brace).remaining < 2 then scan.stack.tail else scan.stack

def closing (scan : BraceScan) (start count : Nat) : BraceScan :=
  match scan.innermost? with
  | none => scan.add (placeLeftover '}' start count)
  | some (index, opened) =>
    if count < 2 then scan.add (placeLeftover '}' start count)
    else
      let brace := widest count opened.remaining
      let stop := start + brace.width
      let paired := (scan.pair index opened brace).add [(brace.closes, ⟨start, stop⟩)]
      paired.closing stop (count - brace.width)
termination_by count
decreasing_by
  have := two_le_width (widest count opened.remaining)
  omega

def step (scan : BraceScan) (placed : Lexeme × Span) : BraceScan :=
  match placed.1 with
  | .openBraces count => scan.opening placed.2.start count
  | .closeBraces count => scan.closing placed.2.start count
  | .atom content => scan.add [(content.token, placed.2)]

def slotTokens (runs : Array OpenRun) : Slot → List (Token × Span)
  | .token placed => [placed]
  | .openRun index => (runs[index]?.map OpenRun.tokens).getD []

def tokens (scan : BraceScan) : List (Token × Span) :=
  scan.slots.reverse.flatMap (slotTokens scan.runs)

end BraceScan

def balanceBraces (lexemes : List (Lexeme × Span)) : List (Token × Span) :=
  (lexemes.foldl BraceScan.step .empty).tokens

end Wikitext.Markup
