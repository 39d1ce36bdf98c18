import Wikitext.Evaluation

/-!
Comparison of markup by the text it evaluates to. Equal markup has equal keys.
-/
namespace Wikitext
open Text Markup

inductive TextComparison where
  | ordinal
  | ignoreCase
deriving DecidableEq

def TextComparison.equals : TextComparison → String → String → Bool
  | .ordinal, first, second => first == second
  | .ignoreCase, first, second => lower first == lower second

/-- The form of a text that stands for all texts it compares as equal to. -/
def TextComparison.fold : TextComparison → String → String
  | .ordinal, text => text
  | .ignoreCase, text => lower text

def TextComparison.name : TextComparison → String
  | .ordinal => "Ordinal"
  | .ignoreCase => "IgnoreCase"

inductive Content where
  | text (source : String)
  | nodes (nodes : List Node)

structure Comparer where
  context : Context
  normalizer : Option (String → String)
  comparison : TextComparison

namespace Comparer

def evaluate (comparer : Comparer) : Content → Except EvaluationError Evaluation
  | .text source => comparer.context.evaluateText source
  | .nodes nodes => comparer.context.evaluate .root nodes

def flatten (comparer : Comparer) (content : Content) : Except EvaluationError String :=
  (comparer.evaluate content).map fun evaluation =>
    (comparer.normalizer.getD id) evaluation.text

def key (comparer : Comparer) (content : Content) : Except EvaluationError String :=
  (comparer.flatten content).map comparer.comparison.fold

/-- Content that is absent equals only absent content, and the other side is not evaluated. -/
def equals (comparer : Comparer) :
    Option Content → Option Content → Except EvaluationError Bool
  | none, none => .ok true
  | none, some _ => .ok false
  | some _, none => .ok false
  | some first, some second => do
    let left ← comparer.flatten first
    let right ← comparer.flatten second
    return comparer.comparison.equals left right

def summary (comparer : Comparer) : String :=
  braced "FlatteningComparer" <|
    "normalizer: " ++ (if comparer.normalizer.isSome then "true" else "false") ++
    ", comparison: " ++ comparer.comparison.name

end Comparer

end Wikitext
