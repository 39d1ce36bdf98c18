import Wikitext.Markup.Heading

/-!
The grammar of tokens. Wherever a construct may stand it is tried first; a token that starts none,
or whose construct does not close, is kept as text.
-/
namespace Wikitext.Markup

/-- What the front of some tokens gives, and the tokens behind it. -/
structure Parsed (α : Type) (bound : Nat) where
  value : α
  rest : List Token
  shorter : rest.length < bound

def Token.isPipe : Token → Bool
  | .leaf .pipe => true
  | _ => false

def Token.isEquals : Token → Bool
  | .leaf (.equals _) => true
  | _ => false

def endsPart (bracket : Bracket) (token : Token) : Bool := token == .closes bracket

def endsName (bracket : Bracket) (token : Token) : Bool := token.isPipe || endsPart bracket token

def endsParameterName (token : Token) : Bool := endsName .template token || token.isEquals

/-- The value of a parameter keeps the equals signs behind the first one. -/
def withSurplusEquals (count : Nat) (value : List Node) : List Node :=
  mergeText (if 1 < count then .text (run '=' (count - 1)) :: value else value)

def close (bracket : Bracket) (node : Node) {bound : Nat} :
    (tokens : List Token) → tokens.length < bound → Option (Parsed Node bound)
  | [], _ => none
  | token :: rest, shorter =>
    if token = .closes bracket then some ⟨node, rest, Nat.lt_of_succ_lt shorter⟩ else none

mutual

def element : (tokens : List Token) → Option (Parsed Node tokens.length)
  | .opens .template :: rest =>
    match inline (endsName .template) rest with
    | ⟨name, afterName, shorter⟩ =>
      match parameters afterName with
      | ⟨passed, afterPassed, shortest⟩ =>
        close .template (.template name passed) afterPassed (Nat.lt_of_lt_of_le shortest shorter)
  | .opens .argument :: rest =>
    match inline (endsName .argument) rest with
    | ⟨name, afterName, shorter⟩ =>
      match behindPipe (endsPart .argument) afterName with
      | ⟨fallback, afterFallback, shortest⟩ =>
        close .argument (.argument name fallback) afterFallback
          (Nat.lt_of_lt_of_le shortest shorter)
  | .opens .link :: rest =>
    match inline (endsName .link) rest with
    | ⟨target, afterTarget, shorter⟩ =>
      match behindPipe (endsPart .link) afterTarget with
      | ⟨caption, afterCaption, shortest⟩ =>
        close .link (.link target caption) afterCaption (Nat.lt_of_lt_of_le shortest shorter)
  | .leaf (.comment body) :: rest => some ⟨.comment body, rest, Nat.lt_succ_self _⟩
  | .leaf (.tag element) :: rest => some ⟨.tag element, rest, Nat.lt_succ_self _⟩
  | .leaf (.marker written) :: rest => some ⟨.ignored written, rest, Nat.lt_succ_self _⟩
  | _ => none
termination_by tokens => (tokens.length, 0)
decreasing_by all_goals exact Prod.Lex.left _ _ (by simp only [List.length_cons]; omega)

def nodesUntil (stop : Token → Bool) (tokens : List Token) :
    Parsed (List Node) (tokens.length + 1) :=
  match element tokens with
  | some ⟨first, rest, shorter⟩ =>
    match nodesUntil stop rest with
    | ⟨others, after, shortest⟩ =>
      ⟨first :: others, after, Nat.lt_succ_of_lt (Nat.lt_of_lt_of_le shortest shorter)⟩
  | none =>
    match tokens with
    | [] => ⟨[], [], Nat.lt_succ_self _⟩
    | token :: rest =>
      if stop token then ⟨[], token :: rest, Nat.lt_succ_self _⟩
      else
        match nodesUntil stop rest with
        | ⟨others, after, shorter⟩ =>
          ⟨.text token.source :: others, after, Nat.lt_succ_of_lt shorter⟩
termination_by (tokens.length, 1)
decreasing_by
  · exact Prod.Lex.right _ Nat.zero_lt_one
  · exact Prod.Lex.left _ _ shorter
  · exact Prod.Lex.left _ _ (Nat.lt_succ_self _)

def inline (stop : Token → Bool) (tokens : List Token) : Parsed (List Node) (tokens.length + 1) :=
  match nodesUntil stop tokens with
  | ⟨nodes, rest, shorter⟩ => ⟨mergeText nodes, rest, shorter⟩
termination_by (tokens.length, 2)
decreasing_by exact Prod.Lex.right _ Nat.one_lt_two

def behindPipe (stop : Token → Bool) :
    (tokens : List Token) → Parsed (Option (List Node)) (tokens.length + 1)
  | .leaf .pipe :: rest =>
    match inline stop rest with
    | ⟨part, after, shorter⟩ => ⟨some part, after, Nat.lt_succ_of_lt shorter⟩
  | tokens => ⟨none, tokens, Nat.lt_succ_self _⟩
termination_by tokens => (tokens.length, 0)
decreasing_by exact Prod.Lex.left _ _ (Nat.lt_succ_self _)

def parameterValue : (tokens : List Token) → Option (Nat × Parsed (List Node) tokens.length)
  | .leaf (.equals count) :: rest => some (count, inline (endsName .template) rest)
  | _ => none
termination_by tokens => (tokens.length, 0)
decreasing_by exact Prod.Lex.left _ _ (Nat.lt_succ_self _)

def parameter (tokens : List Token) : Parsed Parameter (tokens.length + 1) :=
  match inline endsParameterName tokens with
  | ⟨name, afterName, shorter⟩ =>
    match parameterValue afterName with
    | some (count, ⟨value, afterValue, shortest⟩) =>
      ⟨.named name (withSurplusEquals count value), afterValue, Nat.lt_trans shortest shorter⟩
    | none => ⟨.positional name, afterName, shorter⟩
termination_by (tokens.length, 3)
decreasing_by
  · exact Prod.Lex.right _ (by decide)
  · rcases Nat.lt_or_eq_of_le (Nat.le_of_lt_succ shorter) with less | same
    · exact Prod.Lex.left _ _ less
    · rw [same]
      exact Prod.Lex.right _ (by decide)

def parameters : (tokens : List Token) → Parsed (List Parameter) (tokens.length + 1)
  | .leaf .pipe :: rest =>
    match parameter rest with
    | ⟨first, afterFirst, shorter⟩ =>
      match parameters afterFirst with
      | ⟨others, after, shortest⟩ =>
        ⟨first :: others, after, Nat.lt_succ_of_lt (Nat.lt_of_lt_of_le shortest shorter)⟩
  | tokens => ⟨[], tokens, Nat.lt_succ_self _⟩
termination_by tokens => (tokens.length, 0)
decreasing_by
  · exact Prod.Lex.left _ _ (Nat.lt_succ_self _)
  · exact Prod.Lex.left _ _ shorter

end

/-- The nodes of a whole page, if all of its tokens can be read. -/
def document (tokens : List Token) : Option (List Node) :=
  match inline (fun _ => false) tokens with
  | ⟨nodes, [], _⟩ => some (withHeadings nodes)
  | _ => none

end Wikitext.Markup
