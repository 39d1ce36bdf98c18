import Wikitext.Proofs.Evaluation.Parts

/-!
What a registry answers to a call. The ways to decide a call are tried one after the other, those
of templates last, and its name is recorded exactly where all of them fail.
-/
namespace Wikitext

theorem Bindings.mem_values {α : Type} {bindings : Bindings α} {name : String} {value : α}
    (found : bindings.find? name = some value) : value ∈ bindings.values :=
  List.mem_map.mpr ⟨(name, value), mem_of_find? found, rfl⟩

namespace AliasTable

def handlers (table : AliasTable) : List Handler := table.exact.values ++ table.folded.values

theorem mem_handlers {table : AliasTable} {name : String} {handler : Handler}
    (found : table.find? name = some handler) : handler ∈ table.handlers := by
  rw [find?, Option.orElse_eq_orElse, Option.orElse_eq_or, Option.or_eq_some_iff] at found
  rcases found with exact | ⟨_, folded⟩
  · exact List.mem_append_left _ (Bindings.mem_values exact)
  · exact List.mem_append_right _ (Bindings.mem_values folded)

end AliasTable

namespace Registry
variable (registry : Registry) (site : Site) (call : Call)

def NoVariable : Prop := call.mayBeVariable = true → registry.variableNamed? call.name = none

def NoFunction : Prop := call.firstArgument ≠ none → registry.functionNamed? call.name = none

/-- The ways to decide a call, each open only where those before it do not apply. -/
inductive Decided : Dispatch → Prop where
  | substitution (member : call.name ∈ substitutions) : Decided .kept
  | asVariable {handler : Handler} (plain : call.name ∉ substitutions)
    (bare : call.mayBeVariable = true) (found : registry.variableNamed? call.name = some handler) :
    Decided (.handled handler)
  | transclusion (plain : call.name ∉ substitutions) (noVariable : registry.NoVariable call)
    (member : call.name ∈ otherTransclusions) : Decided .kept
  | asFunction {handler : Handler} (plain : call.name ∉ substitutions)
    (noVariable : registry.NoVariable call) (other : call.name ∉ otherTransclusions)
    (argument : call.firstArgument ≠ none)
    (found : registry.functionNamed? call.name = some handler) : Decided (.handled handler)
  | asTemplate {handler : Handler} (plain : call.name ∉ substitutions)
    (noVariable : registry.NoVariable call) (other : call.name ∉ otherTransclusions)
    (noFunction : registry.NoFunction call)
    (found : registry.templateNamed? site call.name = some handler) : Decided (.handled handler)
  | unknown (plain : call.name ∉ substitutions) (noVariable : registry.NoVariable call)
    (other : call.name ∉ otherTransclusions) (noFunction : registry.NoFunction call)
    (noTemplate : registry.templateNamed? site call.name = none) : Decided .unknown

theorem exists_decided : ∃ outcome, Decided registry site call outcome := by
  by_cases plain : call.name ∉ substitutions
  · by_cases noVariable : registry.NoVariable call
    · by_cases other : call.name ∉ otherTransclusions
      · by_cases noFunction : registry.NoFunction call
        · cases found : registry.templateNamed? site call.name with
          | some handler => exact ⟨_, .asTemplate plain noVariable other noFunction found⟩
          | none => exact ⟨_, .unknown plain noVariable other noFunction found⟩
        · obtain ⟨argument, some⟩ := Classical.not_imp.mp noFunction
          obtain ⟨handler, found⟩ := Option.ne_none_iff_exists'.mp some
          exact ⟨_, .asFunction plain noVariable other argument found⟩
      · exact ⟨_, .transclusion plain noVariable (not_not.mp other)⟩
    · obtain ⟨bare, some⟩ := Classical.not_imp.mp noVariable
      obtain ⟨handler, found⟩ := Option.ne_none_iff_exists'.mp some
      exact ⟨_, .asVariable plain bare found⟩
  · exact ⟨_, .substitution (not_not.mp plain)⟩

variable {registry site call}

theorem NoVariable.lookup (noVariable : registry.NoVariable call) :
    (if call.mayBeVariable then registry.variableNamed? call.name else none) = none := by
  split
  · rename_i bare
    exact noVariable bare
  · rfl

theorem NoFunction.lookup (noFunction : registry.NoFunction call) :
    (call.firstArgument.bind fun _ => registry.functionNamed? call.name) = none := by
  cases argument : call.firstArgument with
  | none => rfl
  | some text => exact noFunction (by simp [argument])

theorem Decided.dispatch_eq {outcome : Dispatch} (decided : Decided registry site call outcome) :
    registry.dispatch site call = outcome := by
  unfold dispatch
  cases decided with
  | substitution member => simp [member]
  | asVariable plain bare found => simp [plain, bare, found]
  | transclusion plain noVariable member => simp [plain, noVariable.lookup, member]
  | asFunction plain noVariable other argument found =>
    obtain ⟨text, given⟩ := Option.ne_none_iff_exists'.mp argument
    simp [plain, noVariable.lookup, other, given, found]
  | asTemplate plain noVariable other noFunction found =>
    simp [plain, noVariable.lookup, other, noFunction.lookup, found]
  | unknown plain noVariable other noFunction noTemplate =>
    simp [plain, noVariable.lookup, other, noFunction.lookup, noTemplate]

theorem decided_iff {outcome : Dispatch} :
    Decided registry site call outcome ↔ registry.dispatch site call = outcome := by
  constructor
  · exact Decided.dispatch_eq
  · rintro rfl
    obtain ⟨outcome, decided⟩ := exists_decided registry site call
    rwa [decided.dispatch_eq]

theorem found_of_handled {handler : Handler}
    (handled : registry.dispatch site call = .handled handler) :
    registry.variableNamed? call.name = some handler ∨
      registry.functionNamed? call.name = some handler ∨
      registry.templateNamed? site call.name = some handler := by
  cases decided_iff.mpr handled with
  | asVariable plain bare found => exact .inl found
  | asFunction plain noVariable other argument found => exact .inr (.inl found)
  | asTemplate plain noVariable other noFunction found => exact .inr (.inr found)

def handlers (registry : Registry) : List Handler :=
  registry.variableTable.handlers ++ registry.functionTable.handlers ++
    registry.templateTable.values

theorem mem_handlers {handler : Handler}
    (handled : registry.dispatch site call = .handled handler) : handler ∈ registry.handlers := by
  unfold handlers
  rcases found_of_handled handled with named | named | named
  · exact List.mem_append_left _ (List.mem_append_left _ (AliasTable.mem_handlers named))
  · exact List.mem_append_left _ (List.mem_append_right _ (AliasTable.mem_handlers named))
  · exact List.mem_append_right _ (Bindings.mem_values named)

theorem answer_eq_none {setting : Setting} {frame : Frame}
    (declined : ∀ handler ∈ registry.handlers, handler setting frame = none) :
    (registry.answer setting frame).1 = none := by
  unfold answer
  cases outcome : registry.dispatch setting.site frame.call with
  | handled handler => exact declined handler (mem_handlers outcome)
  | kept => rfl
  | unknown => rfl

theorem templateNamed?_registerTemplate (registry : Registry) (site : Site) (name other : String)
    (added : Handler) :
    (registry.registerTemplate site name added).templateNamed? site other =
      if templateKey site other = templateKey site name then some added
      else registry.templateNamed? site other :=
  Bindings.find?_insert _ _ _ _

theorem handler_of_registerTemplate {other : Site} {name : String} {added handler : Handler}
    (handled : (Registry.empty.registerTemplate other name added).dispatch site call =
      .handled handler) : handler = added := by
  rcases found_of_handled handled with named | named | named
  · cases named
  · cases named
  · rw [templateNamed?, registerTemplate, Bindings.find?_insert] at named
    split at named
    · exact (Option.some.inj named).symm
    · cases named

/-- A template under a new title changes no call that was decided without it, nor any call that
names another title. -/
theorem dispatch_registerTemplate {name : String} (added : Handler)
    (absent : registry.templateNamed? site name = none)
    (apart : registry.dispatch site call = .unknown →
      templateKey site call.name ≠ templateKey site name) :
    (registry.registerTemplate site name added).dispatch site call =
      registry.dispatch site call := by
  have decided : Decided registry site call (registry.dispatch site call) := decided_iff.mpr rfl
  generalize registry.dispatch site call = outcome at decided apart
  apply Decided.dispatch_eq
  have unchanged : templateKey site call.name ≠ templateKey site name →
      (registry.registerTemplate site name added).templateNamed? site call.name =
        registry.templateNamed? site call.name := by
    intro different
    rw [templateNamed?_registerTemplate, if_neg different]
  cases decided with
  | substitution member => exact .substitution member
  | asVariable plain bare found => exact .asVariable plain bare found
  | transclusion plain noVariable member => exact .transclusion plain noVariable member
  | asFunction plain noVariable other argument found =>
    exact .asFunction plain noVariable other argument found
  | asTemplate plain noVariable other noFunction found =>
    have different : templateKey site call.name ≠ templateKey site name := by
      intro same
      rw [templateNamed?, same] at found
      exact Option.some_ne_none _ (found.symm.trans absent)
    exact .asTemplate plain noVariable other noFunction ((unchanged different).trans found)
  | unknown plain noVariable other noFunction noTemplate =>
    exact .unknown plain noVariable other noFunction ((unchanged (apart rfl)).trans noTemplate)

theorem mem_answer {setting : Setting} {frame : Frame} {word : String} :
    word ∈ (registry.answer setting frame).2 ↔
      registry.dispatch setting.site frame.call = .unknown ∧ word = frame.call.name := by
  unfold answer
  cases registry.dispatch setting.site frame.call with
  | handled handler => simp [WordSet.not_mem_empty]
  | kept => simp [WordSet.not_mem_empty]
  | unknown => simp [WordSet.mem_singleton]

theorem answer_congr {other : Registry} {setting second : Setting} {frame another : Frame}
    (name : frame.call.name = another.call.name)
    (same : registry.dispatch setting.site frame.call = other.dispatch second.site another.call)
    (replies : ∀ handler, registry.dispatch setting.site frame.call = .handled handler →
      handler setting frame = handler second another) :
    registry.answer setting frame = other.answer second another := by
  unfold answer
  rw [← same]
  cases outcome : registry.dispatch setting.site frame.call with
  | handled handler => simp only [replies handler outcome]
  | kept => rfl
  | unknown => rw [name]

end Registry

end Wikitext
