import Wikitext.Bindings
import Wikitext.Markup.Node
import Wikitext.Text.Blank

/-!
Calls of templates and magic words. A frame is a call together with the calls that led to it.
-/
namespace Wikitext
open Text Markup

/-- A call by name, with the argument after the first colon of its invocation, if there is one. -/
structure Call where
  name : String
  firstArgument : Option String
  parameters : Bindings String

def Call.ofPage : Call := ⟨"", none, .empty⟩

def Call.invocation (call : Call) : String :=
  match call.firstArgument with
  | some argument => call.name ++ ":" ++ argument
  | none => call.name

def Call.mayBeVariable (call : Call) : Bool :=
  call.firstArgument.isNone && call.parameters.isEmpty

def Call.positional? (call : Call) (position : Nat) : Option String :=
  call.parameters.find? (toString position)

inductive Passed where
  | positional (value : String)
  | named (name value : String)

/-- Binds what is passed, in order. Positional parameters are numbered among themselves and keep
their blanks; named ones lose the blanks around name and value. -/
def bindPassed (parameters : Bindings String) (position : Nat) :
    List Passed → Bindings String
  | [] => parameters
  | .positional value :: rest =>
    bindPassed (parameters.insert (toString position) value) (position + 1) rest
  | .named name value :: rest =>
    bindPassed (parameters.insert (trim name) (trim value)) position rest

def Call.ofInvocation (invocation : String) (passed : List Passed) : Call :=
  let parameters := bindPassed .empty 1 passed
  match cutFirst ':' invocation.toList with
  | none => ⟨trim invocation, none, parameters⟩
  | some (name, argument) =>
    ⟨String.ofList (trimChars name), some (String.ofList (trimChars argument)), parameters⟩

def Parameter.pass {m : Type → Type} [Monad m] (evaluate : List Node → m String) :
    Parameter → m Passed
  | .positional value => do
    return .positional (← evaluate value)
  | .named name value => do
    let key ← evaluate name
    return .named key (← evaluate value)

def passAll {m : Type → Type} [Monad m] (evaluate : List Node → m String) :
    List Parameter → m (List Passed)
  | [] => pure []
  | parameter :: rest => do
    let first ← Parameter.pass evaluate parameter
    let others ← passAll evaluate rest
    return first :: others

def Call.ofTemplate {m : Type → Type} [Monad m] (evaluate : List Node → m String)
    (name : List Node) (parameters : List Parameter) : m Call := do
  let invocation ← evaluate name
  let passed ← passAll evaluate parameters
  return .ofInvocation invocation passed

structure Frame where
  call : Call
  callers : List Call

namespace Frame

def root : Frame := ⟨.ofPage, []⟩

def child (frame : Frame) (call : Call) : Frame := ⟨call, frame.call :: frame.callers⟩

def parent? (frame : Frame) : Option Frame :=
  match frame.callers with
  | [] => none
  | caller :: callers => some ⟨caller, callers⟩

def depth (frame : Frame) : Nat := frame.callers.length

end Frame

end Wikitext
