import Wikitext.Markup.Parse
import Wikitext.Markup.Unexpected
import Wikitext.Registry

/-!
Evaluation of markup. Texts stand for themselves, comments and markers for nothing, and a call that
no handler answers for its own markup; its name is recorded when nothing answers to it.
-/
namespace Wikitext
open Text Markup

inductive EvaluationError where
  | looseParameter
  | malformed (errors : List Unexpected)

def EvaluationError.message : EvaluationError → String
  | .looseParameter => "parameter node visited outside of a template"
  | .malformed errors => "parse errors: " ++ "; ".intercalate (errors.map Unexpected.display)

/-- A computation that may fail and records names on its way. -/
def Evaluating (α : Type) : Type := Except EvaluationError (α × WordSet)

namespace Evaluating

def pure {α : Type} (value : α) : Evaluating α := .ok (value, ∅)

def bind {α β : Type} (first : Evaluating α) (next : α → Evaluating β) : Evaluating β :=
  match first with
  | .error error => .error error
  | .ok (value, words) =>
    match next value with
    | .error error => .error error
    | .ok (result, more) => .ok (result, words ∪ more)

instance : Monad Evaluating where
  pure := pure
  bind := bind

def fail {α : Type} (error : EvaluationError) : Evaluating α := .error error

end Evaluating

mutual

def evaluateNode (registry : Registry) (setting : Setting) (frame : Frame) :
    Node → Evaluating String
  | .text written => pure written
  | .comment _ => pure ""
  | .ignored _ => pure ""
  | .tag element => pure element.innerText
  | .parameter _ => .fail .looseParameter
  | .header level title trailing => do
    let inside ← evaluateNodes registry setting frame title
    let after ← evaluateNodes registry setting frame trailing
    return run '=' level ++ inside ++ run '=' level ++ after
  | .link _ none => pure ""
  | .link _ (some caption) => evaluateNodes registry setting frame caption
  | .argument name none => do
    let key ← evaluateNodes registry setting frame name
    return (frame.call.parameters.find? (trim key)).getD ""
  | .argument name (some fallback) => do
    let key ← evaluateNodes registry setting frame name
    match frame.call.parameters.find? (trim key) with
    | some value => return value
    | none => evaluateNodes registry setting frame fallback
  | .template name parameters => do
    let invocation ← evaluateNodes registry setting frame name
    let passed ← evaluateParameters registry setting frame parameters
    let reply := registry.answer setting (frame.child (.ofInvocation invocation passed))
    .ok (reply.1.getD (Node.template name parameters).source, reply.2)

def evaluateNodes (registry : Registry) (setting : Setting) (frame : Frame) :
    List Node → Evaluating String
  | [] => pure ""
  | node :: rest => do
    let first ← evaluateNode registry setting frame node
    let others ← evaluateNodes registry setting frame rest
    return first ++ others

def evaluateParameter (registry : Registry) (setting : Setting) (frame : Frame) :
    Parameter → Evaluating Passed
  | .positional value => do
    return .positional (← evaluateNodes registry setting frame value)
  | .named name value => do
    let key ← evaluateNodes registry setting frame name
    return .named key (← evaluateNodes registry setting frame value)

def evaluateParameters (registry : Registry) (setting : Setting) (frame : Frame) :
    List Parameter → Evaluating (List Passed)
  | [] => pure []
  | parameter :: rest => do
    let first ← evaluateParameter registry setting frame parameter
    let others ← evaluateParameters registry setting frame rest
    return first :: others

end

theorem evaluateParameter_eq (registry : Registry) (setting : Setting) (frame : Frame)
    (parameter : Parameter) :
    evaluateParameter registry setting frame parameter =
      Parameter.pass (evaluateNodes registry setting frame) parameter := by
  cases parameter <;> rw [evaluateParameter, Parameter.pass]

theorem evaluateParameters_eq (registry : Registry) (setting : Setting) (frame : Frame)
    (parameters : List Parameter) :
    evaluateParameters registry setting frame parameters =
      passAll (evaluateNodes registry setting frame) parameters := by
  induction parameters with
  | nil => rw [evaluateParameters, passAll]
  | cons parameter rest ih => rw [evaluateParameters, passAll, evaluateParameter_eq, ih]

def Evaluating.evaluation (outcome : Evaluating String) : Except EvaluationError Evaluation :=
  match outcome with
  | .ok (text, words) => .ok ⟨text, words⟩
  | .error error => .error error

structure Context where
  site : Site
  registry : Registry
  page : Option Page
  title : Option Title

namespace Context

/-- The surroundings of an evaluation in which handlers may evaluate markup themselves, `depth`
times inside each other. -/
def setting (context : Context) (depth : Nat) : Setting where
  site := context.site
  page := context.page
  title := context.title
  expand := fun nodes frame =>
    match depth with
    | 0 => none
    | depth + 1 =>
      (evaluateNodes context.registry (context.setting depth) frame nodes).evaluation.toOption

def expansionLimit : Nat := 1000

def surroundings (context : Context) : Setting := context.setting expansionLimit

def evaluate (context : Context) (frame : Frame) (nodes : List Node) :
    Except EvaluationError Evaluation :=
  (evaluateNodes context.registry context.surroundings frame nodes).evaluation

/-- Markup is read with the site's extension tags and evaluated as a page of its own; without any
markup there is nothing to read. -/
def evaluateText (context : Context) (source : String) : Except EvaluationError Evaluation :=
  if source.isEmpty then .ok ⟨"", ∅⟩
  else context.evaluate .root (parse context.site.tags source)

def evaluatePage (context : Context) : Except EvaluationError Evaluation :=
  match context.page.bind (·.content) with
  | some content => context.evaluateText content
  | none => .ok ⟨"", ∅⟩

end Context

end Wikitext
