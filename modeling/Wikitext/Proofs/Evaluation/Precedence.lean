import Wikitext.Proofs.Evaluation.Dispatch
import Wikitext.Proofs.Evaluation.Reached
import Wikitext.Proofs.Text.Trimming
import Wikitext.Proofs.Titles.Normal
import Wikitext.Site.Standard

/-!
What a call in markup comes to. Its name is read from the invocation, the steps that may decide it
are tried in their order, and the template it is left to is the page of that name in the template
namespace.
-/
namespace Wikitext
open Text Markup Evaluating

def calledName (invocation : String) : String :=
  trim (String.ofList (invocation.toList.takeWhile (· != ':')))

theorem isEmpty_insert (bindings : Bindings String) (name value : String) :
    (bindings.insert name value).isEmpty = false := by
  change (Bindings.bindIn name value bindings.entries).isEmpty = false
  cases bindings.entries with
  | nil => rfl
  | cons entry rest =>
    rw [Bindings.bindIn]
    split <;> rfl

theorem isEmpty_bindPassed (passed : List Passed) (parameters : Bindings String) (position : Nat) :
    (bindPassed parameters position passed).isEmpty = (parameters.isEmpty && passed.isEmpty) := by
  induction passed generalizing parameters position with
  | nil => rw [bindPassed, List.isEmpty_nil, Bool.and_true]
  | cons first rest ih =>
    cases first with
    | positional value => simp [bindPassed, ih, isEmpty_insert]
    | named name value => simp [bindPassed, ih, isEmpty_insert]

theorem isEmpty_of_evaluateParameters {registry : Registry} {setting : Setting} {frame : Frame}
    {parameters : List Parameter} {passed : List Passed} {words : WordSet}
    (given : evaluateParameters registry setting frame parameters = done passed words) :
    passed.isEmpty = parameters.isEmpty := by
  cases parameters with
  | nil =>
    rw [evaluateParameters] at given
    cases given
    rfl
  | cons parameter rest =>
    rw [evaluateParameters] at given
    obtain ⟨first, _, _, _, others, _⟩ := bind_eq_done.mp given
    obtain ⟨values, _, _, _, last, _⟩ := bind_eq_done.mp others
    cases last
    rfl

theorem firstArgument_ofInvocation (invocation : String) (passed : List Passed) :
    (Call.ofInvocation invocation passed).firstArgument.isSome =
      invocation.toList.contains ':' := by
  have colon : cutFirst ':' invocation.toList = none ↔ ':' ∉ invocation.toList := cutFirst_eq_none
  rw [Call.ofInvocation]
  cases cut : cutFirst ':' invocation.toList with
  | none =>
    rw [cut, eq_self, true_iff] at colon
    simp [colon]
  | some parts =>
    rw [cut] at colon
    simp only [reduceCtorEq, false_iff, not_not] at colon
    simp [colon]

theorem parameters_ofInvocation (invocation : String) (passed : List Passed) :
    (Call.ofInvocation invocation passed).parameters = bindPassed .empty 1 passed := by
  rw [Call.ofInvocation]
  cases cutFirst ':' invocation.toList with
  | none => rfl
  | some parts => rfl

theorem mayBeVariable_ofInvocation (invocation : String) (passed : List Passed) :
    (Call.ofInvocation invocation passed).mayBeVariable =
      (!invocation.toList.contains ':' && passed.isEmpty) := by
  rw [Call.mayBeVariable, ← Option.not_isSome, firstArgument_ofInvocation, parameters_ofInvocation,
    isEmpty_bindPassed]
  rfl

/-- A name without a colon is the template of that name: it cannot lead to another namespace. -/
theorem templateKey_calledName (site : Site) (invocation : String) :
    templateKey site (calledName invocation) =
      (Title.inNamespace site templateNamespace (calledName invocation)).fullName := by
  have noColon : ':' ∉ (calledName invocation).toList := by
    rw [calledName, ← name_ofInvocation invocation []]
    exact colon_not_mem_name invocation []
  rw [templateKey, Title.parse_of_no_colon noColon]

namespace Registry
variable (registry : Registry) (site : Site)

/-- The steps that may decide a call in markup, in their order. A step that applies says which
handler is asked, if any; the others leave the call to the steps behind them. -/
def steps (invocation : String) (parameters : List Parameter) : List (Option (Option Handler)) :=
  let name := calledName invocation
  let colon := invocation.toList.contains ':'
  let template := (Title.inNamespace site templateNamespace name).fullName
  [if name ∈ ["subst", "safesubst"] then some none else none,
    (if !colon && parameters.isEmpty then registry.variableNamed? name else none).map some,
    if name ∈ ["msg", "msgnw", "raw"] then some none else none,
    (if colon then registry.functionNamed? name else none).map some,
    (registry.templateTable.find? template).map some]

theorem steps_ofInvocation {invocation : String} {parameters : List Parameter}
    {passed : List Passed} (same : passed.isEmpty = parameters.isEmpty) :
    let call := Call.ofInvocation invocation passed
    registry.steps site invocation parameters =
      [if call.name ∈ substitutions then some none else none,
        (if call.mayBeVariable then registry.variableNamed? call.name else none).map some,
        if call.name ∈ otherTransclusions then some none else none,
        (call.firstArgument.bind fun _ => registry.functionNamed? call.name).map some,
        (registry.templateNamed? site call.name).map some] := by
  intro call
  have name : call.name = calledName invocation := name_ofInvocation invocation passed
  have colon : call.firstArgument.isSome = _ := firstArgument_ofInvocation invocation passed
  have bare : call.mayBeVariable = _ := mayBeVariable_ofInvocation invocation passed
  have argument : (call.firstArgument.bind fun _ => registry.functionNamed? call.name) =
      if call.firstArgument.isSome then registry.functionNamed? call.name else none := by
    cases call.firstArgument with
    | none => rfl
    | some text => rfl
  rw [argument, name, colon, bare, same, templateNamed?, templateKey_calledName]
  rfl

theorem dispatch_ofInvocation {invocation : String} {parameters : List Parameter}
    {passed : List Passed} (same : passed.isEmpty = parameters.isEmpty) :
    registry.dispatch site (.ofInvocation invocation passed) =
      match (registry.steps site invocation parameters).findSome? id with
      | some (some handler) => .handled handler
      | some none => .kept
      | none => .unknown := by
  rw [registry.steps_ofInvocation site same]
  generalize Call.ofInvocation invocation passed = call
  have decided : Decided registry site call (registry.dispatch site call) := decided_iff.mpr rfl
  generalize registry.dispatch site call = outcome at decided
  cases decided with
  | substitution member => simp [member]
  | asVariable plain bare found => simp [plain, bare, found]
  | transclusion plain noVariable member => simp [plain, noVariable.lookup, member]
  | asFunction plain noVariable other argument found =>
    obtain ⟨text, given⟩ := Option.ne_none_iff_exists'.mp argument
    simp [plain, noVariable.lookup, other, given, found]
  | asTemplate plain noVariable other noFunction found =>
    simp [plain, noVariable.lookup, other, noFunction.lookup, found]
  | unknown plain noVariable other noFunction noTemplate =>
    simp [plain, noVariable.lookup, other, noFunction.lookup, noTemplate]

theorem steps_registerTemplate {other : Site} {title : String} (added : Handler)
    {invocation : String} (parameters : List Parameter)
    (apart : (Title.parse other title templateNamespace).fullName ≠
      (Title.inNamespace site templateNamespace (calledName invocation)).fullName) :
    (registry.registerTemplate other title added).steps site invocation parameters =
      registry.steps site invocation parameters := by
  have unchanged := (registry.templateTable.find?_insert (templateKey other title)
    (Title.inNamespace site templateNamespace (calledName invocation)).fullName added).trans
      (if_neg (Ne.symm apart))
  unfold steps
  simp only [registerTemplate, unchanged]
  rfl

end Registry

/-- A template whose name and parameters evaluate comes to what the first step that applies makes of
the call: the answer of its handler, or its own markup where no handler is asked or the handler
declines. Its name is recorded only where no step applies, and a template under another title than
that of the name makes no difference. -/
theorem evaluateNode_template_steps {registry : Registry} {setting : Setting} {frame : Frame}
    {name : List Node} {parameters : List Parameter} {invocation : String} {passed : List Passed}
    {early late : WordSet}
    (named : evaluateNodes registry setting frame name = done invocation early)
    (given : evaluateParameters registry setting frame parameters = done passed late) :
    let node := Node.template name parameters
    let child := frame.child (.ofInvocation invocation passed)
    let template :=
      (Title.inNamespace setting.site templateNamespace (calledName invocation)).fullName
    child.call.name = calledName invocation ∧
      evaluateNode registry setting frame node =
        (match (registry.steps setting.site invocation parameters).findSome? id with
        | some (some handler) => done ((handler setting child).getD node.source) (early ∪ late)
        | some none => done node.source (early ∪ late)
        | none => done node.source (early ∪ late ∪ {calledName invocation})) ∧
      ∀ (other : Site) (title : String) (added : Handler),
        (Title.parse other title templateNamespace).fullName ≠ template →
          (registry.registerTemplate other title added).answer setting child =
            registry.answer setting child := by
  intro node child template
  have childName : child.call.name = calledName invocation := name_ofInvocation invocation passed
  have given' : passAll (evaluateNodes registry setting frame) parameters = done passed late := by
    rw [← evaluateParameters_eq, given]
  have made : callOf registry setting frame name parameters =
      done (.ofInvocation invocation passed) (early ∪ late) := by
    rw [callOf, Call.ofTemplate, named]
    apply done_bind_done
    rw [given']
    exact done_bind_done rfl
  have nothing : passed.isEmpty = parameters.isEmpty := isEmpty_of_evaluateParameters given
  refine ⟨childName, ?reply, ?others⟩
  case reply =>
    have answered : evaluateNode registry setting frame node =
        done ((registry.answer setting child).1.getD node.source)
          (early ∪ late ∪ (registry.answer setting child).2) := by
      rw [evaluateNode_template, made]
      exact done_bind_done rfl
    have decided : registry.dispatch setting.site child.call = _ :=
      registry.dispatch_ofInvocation setting.site nothing
    rw [answered, Registry.answer, decided, childName]
    cases (registry.steps setting.site invocation parameters).findSome? id with
    | none => rfl
    | some step =>
      cases step with
      | none => rfl
      | some handler => rfl
  case others =>
    intro other title added apart
    have sameSteps := registry.steps_registerTemplate setting.site added parameters apart
    have sameDispatch : (registry.registerTemplate other title added).dispatch setting.site
        (.ofInvocation invocation passed) =
          registry.dispatch setting.site (.ofInvocation invocation passed) := by
      rw [Registry.dispatch_ofInvocation _ _ nothing, sameSteps,
        Registry.dispatch_ofInvocation _ _ nothing]
    exact Registry.answer_congr rfl sameDispatch fun handler _ => rfl

theorem evaluateNode_template_steps_colon :
    let registry := Registry.empty.registerTemplate .blank "A" fun _ _ => some "a"
    let setting : Setting := ⟨.blank, none, none, fun _ _ => none⟩
    let name := [Node.text " a :", .template [.text "B"] []]
    let parameters := [Parameter.positional [.text "x"]]
    evaluateNodes registry setting .root name = done " a :{{B}}" {"B"} ∧
      evaluateParameters registry setting .root parameters = done [.positional "x"] ∅ ∧
      evaluateNode registry setting .root (.template name parameters) = done "a" {"B"} := by
  intro registry setting name parameters
  have named : evaluateNodes registry setting .root name =
      done " a :{{B}}" {"B"} := eq_done_of_toOption (by decide +kernel)
  have given : evaluateParameters registry setting .root parameters = done [.positional "x"] ∅ := by
    rfl
  refine ⟨named, given, ?_⟩
  rw [(evaluateNode_template_steps named given).2.1]
  exact eq_done_of_toOption (by decide +kernel)

end Wikitext
