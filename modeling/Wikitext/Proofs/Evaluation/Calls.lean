import Mathlib.Data.List.Induction
import Wikitext.Proofs.Evaluation.Precedence
import Wikitext.Proofs.Evaluation.Replacement
import Wikitext.Proofs.Text.Cuts

/-!
The call that a template makes. Its parts are evaluated from left to right; what they come to is
bound in that order, a name keeps the place of its first binding and the value of its last one, and
an argument that asks for a bound name gets that value.
-/
namespace Wikitext
open Text Markup Evaluating

namespace Bindings
variable {α : Type}

theorem ofList_concat (entries : List (String × α)) (last : String × α) :
    ofList (entries ++ [last]) = (ofList entries).insert last.1 last.2 := by
  unfold ofList
  rw [List.foldl_append, List.foldl_cons, List.foldl_nil]

theorem find?_ofList (entries : List (String × α)) (name : String) :
    (ofList entries).find? name = entries.reverse.lookup name := by
  induction entries using List.reverseRecOn with
  | nil => rfl
  | append_singleton entries last ih =>
    rw [ofList_concat, find?_insert, ih, List.reverse_append, List.reverse_singleton,
      List.singleton_append, List.lookup_cons]
    by_cases here : name = last.1
    · simp [here]
    · simp [here, beq_false_of_ne here]

theorem names_insert (bindings : Bindings α) (name : String) (value : α) :
    (bindings.insert name value).names =
      if name ∈ bindings.names then bindings.names else bindings.names ++ [name] := by
  change (bindIn name value bindings.entries).map Prod.fst =
    if name ∈ bindings.entries.map Prod.fst then bindings.entries.map Prod.fst
    else bindings.entries.map Prod.fst ++ [name]
  induction bindings.entries with
  | nil => rfl
  | cons entry rest ih =>
    rw [bindIn]
    by_cases here : entry.1 = name
    · simp [here]
    · simp only [here, if_false, List.map_cons, ih, List.mem_cons, Ne.symm here, false_or]
      split
      · rfl
      · rfl

theorem names_ofList (entries : List (String × α)) :
    (ofList entries).names = (entries.map Prod.fst).eraseDups := by
  induction entries using List.reverseRecOn with
  | nil => rfl
  | append_singleton entries last ih =>
    rw [ofList_concat, names_insert, ih, List.map_append, List.map_singleton,
      List.eraseDups_append]
    by_cases known : last.1 ∈ entries.map Prod.fst
    · simp [known, List.removeAll]
    · simp [known, List.removeAll, List.eraseDups_cons]

end Bindings

namespace Passed

def isPositional : Passed → Bool
  | .positional _ => true
  | .named _ _ => false

def binding (number : Nat) : Passed → String × String
  | .positional value => (toString number, value)
  | .named name value => (trim name, trim value)

end Passed

/-- What is bound one after the other: each positional parameter has the number of those up to it
for its name. -/
def bindingsOf (passed : List Passed) : List (String × String) :=
  passed.mapIdx fun index parameter =>
    parameter.binding ((passed.take (index + 1)).countP Passed.isPositional)

theorem bindPassed_eq (passed : List Passed) (parameters : Bindings String) (before : Nat) :
    bindPassed parameters (before + 1) passed =
      (passed.mapIdx fun index parameter =>
        parameter.binding (before + (passed.take (index + 1)).countP Passed.isPositional)).foldl
          (fun bindings entry => bindings.insert entry.1 entry.2) parameters := by
  induction passed generalizing parameters before with
  | nil => rfl
  | cons first rest ih =>
    rw [List.mapIdx_cons, List.foldl_cons]
    cases first with
    | positional value =>
      have shift : ∀ index, before + ((Passed.positional value :: rest).take (index + 1)).countP
          Passed.isPositional = before + 1 + (rest.take index).countP Passed.isPositional := by
        intro index
        rw [List.take_succ_cons, List.countP_cons_of_pos rfl]
        omega
      simp only [shift]
      exact ih _ _
    | named name value =>
      have shift : ∀ index, ((Passed.named name value :: rest).take (index + 1)).countP
          Passed.isPositional = (rest.take index).countP Passed.isPositional := by
        intro index
        rw [List.take_succ_cons, List.countP_cons_of_neg Bool.false_ne_true]
      simp only [shift]
      exact ih _ _

theorem parameters_eq_ofList (invocation : String) (passed : List Passed) :
    (Call.ofInvocation invocation passed).parameters = .ofList (bindingsOf passed) := by
  have bound := bindPassed_eq passed .empty 0
  simp only [Nat.zero_add] at bound
  rw [parameters_ofInvocation, bound]
  rfl

theorem isBlank_of_isDigit {c : Char} (digit : c.isDigit = true) : isBlank c = false := by
  have low : 48 ≤ c.toNat ∧ c.toNat ≤ 57 := by
    simpa [Char.isDigit, UInt32.le_iff_toNat_le] using digit
  simp only [isBlank, Bool.or_eq_false_iff, Bool.and_eq_false_iff, decide_eq_false_iff_not,
    beq_eq_false_iff_ne]
  omega

theorem trim_of_no_blank {s : String} (plain : ∀ c ∈ s.toList, isBlank c = false) :
    trim s = s := by
  have front : s.toList.dropWhile isBlank = s.toList := by
    rw [List.dropWhile_eq_self_iff]
    intro some
    simp [plain]
  have back : s.toList.reverse.dropWhile isBlank = s.toList.reverse := by
    rw [List.dropWhile_eq_self_iff]
    intro some
    simp [plain]
  rw [trim, trimChars, front, dropEndWhile, back, List.reverse_reverse, String.ofList_toList]

theorem trim_toString (number : Nat) : trim (toString number) = toString number := by
  apply trim_of_no_blank
  intro c member
  rw [Nat.toString_eq_repr, Nat.repr, String.toList_ofList] at member
  exact isBlank_of_isDigit (Nat.isDigit_of_mem_toDigits (by decide) (by decide) member)

theorem trim_of_mem_bindingsOf {passed : List Passed} {entry : String × String}
    (member : entry ∈ bindingsOf passed) : trim entry.1 = entry.1 := by
  obtain ⟨index, inside, rfl⟩ := List.mem_mapIdx.mp member
  cases passed[index] with
  | positional value => exact trim_toString _
  | named name value => exact trim_trim name

section
variable {σ ε : Type} {evaluate : List Node → StateT σ (Except ε) String}

/-- What parameters come to when their parts are evaluated one after the other: the first one starts
in the first state, and each part in the state that the one before it leaves. -/
inductive PassesTo (evaluate : List Node → StateT σ (Except ε) String) :
    σ → List Parameter → List Passed → σ → Prop where
  | nil (state : σ) : PassesTo evaluate state [] [] state
  | positional {first second last : σ} {value : List Node} {text : String}
      {parameters : List Parameter} {passed : List Passed}
      (run : evaluate value first = .ok (text, second))
      (rest : PassesTo evaluate second parameters passed last) :
      PassesTo evaluate first (.positional value :: parameters) (.positional text :: passed) last
  | named {first second third last : σ} {name value : List Node} {key text : String}
      {parameters : List Parameter} {passed : List Passed}
      (called : evaluate name first = .ok (key, second))
      (run : evaluate value second = .ok (text, third))
      (rest : PassesTo evaluate third parameters passed last) :
      PassesTo evaluate first (.named name value :: parameters) (.named key text :: passed) last

theorem bind_run {α β : Type} {first : StateT σ (Except ε) α} {next : α → StateT σ (Except ε) β}
    {state middle : σ} {value : α} (run : first state = .ok (value, middle)) :
    (first >>= next) state = next value middle := by
  change (first state >>= fun result => next result.1 result.2) = _
  rw [run]
  rfl

theorem PassesTo.passAll_run {start last : σ} {parameters : List Parameter} {passed : List Passed}
    (passes : PassesTo evaluate start parameters passed last) :
    passAll evaluate parameters start = .ok (passed, last) := by
  induction passes with
  | nil state => rfl
  | positional run rest ih =>
    rw [passAll, Parameter.pass, bind_run (bind_run run), bind_run ih]
    rfl
  | named called run rest ih =>
    rw [passAll, Parameter.pass, bind_run ((bind_run called).trans (bind_run run)), bind_run ih]
    rfl

theorem exists_passesTo {parameters : List Parameter}
    (succeeds : ∀ part ∈ parameters.flatMap Parameter.parts, ∀ state,
      ∃ text next, evaluate part state = .ok (text, next)) (start : σ) :
    ∃ passed last, PassesTo evaluate start parameters passed last := by
  induction parameters generalizing start with
  | nil => exact ⟨[], start, .nil start⟩
  | cons parameter rest ih =>
    have later : ∀ part ∈ rest.flatMap Parameter.parts, ∀ state,
        ∃ text next, evaluate part state = .ok (text, next) := by
      intro part member
      exact succeeds part (List.mem_append_right _ member)
    cases parameter with
    | positional value =>
      obtain ⟨text, second, run⟩ := succeeds value List.mem_cons_self start
      obtain ⟨passed, last, passes⟩ := ih later second
      exact ⟨_, last, .positional run passes⟩
    | named name value =>
      obtain ⟨key, second, named⟩ := succeeds name List.mem_cons_self start
      obtain ⟨text, third, run⟩ :=
        succeeds value (List.mem_cons_of_mem name List.mem_cons_self) second
      obtain ⟨passed, last, passes⟩ := ih later third
      exact ⟨_, last, .named named run passes⟩

/-- A template whose parts evaluate makes a call. The first colon of what its name comes to ends
the name of the call, and what it passes is bound in order: the names are those bound, each in the
place of its first binding and with the value of its last one. In the frame of the call an argument
of a bound name is its value, with a fallback or without. -/
theorem Call.ofTemplate_binds {name : List Node} {parameters : List Parameter}
    (succeeds : ∀ part ∈ name :: parameters.flatMap Parameter.parts, ∀ state,
      ∃ text next, evaluate part state = .ok (text, next)) (start : σ) :
    ∃ invocation middle passed last call,
      evaluate name start = .ok (invocation, middle) ∧
      PassesTo evaluate middle parameters passed last ∧
      Call.ofTemplate evaluate name parameters start = .ok (call, last) ∧
      (':' ∉ invocation.toList → call.name = trim invocation ∧ call.firstArgument = none) ∧
      (∀ before after, invocation = before ++ ":" ++ after → ':' ∉ before.toList →
        call.name = trim before ∧ call.firstArgument = some (trim after)) ∧
      call.parameters.names.Nodup ∧
      call.parameters.names = ((bindingsOf passed).map Prod.fst).eraseDups ∧
      (∀ key, call.parameters.find? key = (bindingsOf passed).reverse.lookup key) ∧
      ∀ key value, call.parameters.find? key = some value →
        ∀ registry setting (frame : Frame) fallback,
          evaluateNode registry setting (frame.child call) (.argument [.text key] fallback) =
            done value ∅ := by
  obtain ⟨invocation, middle, called⟩ := succeeds name List.mem_cons_self start
  obtain ⟨passed, last, passes⟩ := exists_passesTo
    (fun part member => succeeds part (List.mem_cons_of_mem name member)) middle
  have bound := parameters_eq_ofList invocation passed
  refine ⟨invocation, middle, passed, last, .ofInvocation invocation passed, called, passes,
    ?made, ?plain, ?colon, Bindings.distinct _, ?names, ?values, ?arguments⟩
  case made =>
    rw [Call.ofTemplate, bind_run called, bind_run passes.passAll_run]
    rfl
  case plain =>
    intro absent
    rw [Call.ofInvocation, cutFirst_eq_none.mpr absent]
    exact ⟨rfl, rfl⟩
  case colon =>
    rintro before after rfl absent
    have cut : cutFirst ':' (before ++ ":" ++ after).toList =
        some (before.toList, after.toList) := by
      simpa using cutFirst_append absent after.toList
    rw [Call.ofInvocation, cut]
    exact ⟨rfl, rfl⟩
  case names => rw [bound, Bindings.names_ofList]
  case values =>
    intro key
    rw [bound, Bindings.find?_ofList]
  case arguments =>
    intro key value found registry setting frame fallback
    rw [bound, Bindings.find?_ofList] at found
    have entry : (key, value) ∈ bindingsOf passed := by
      obtain ⟨before, after, whole, _⟩ := List.lookup_eq_some_iff.mp found
      rw [← List.mem_reverse, whole]
      exact List.mem_append_right before List.mem_cons_self
    apply evaluateNode_bound (evaluateNodes_text key)
    rw [trim_of_mem_bindingsOf entry]
    change (Call.ofInvocation invocation passed).parameters.find? key = some value
    rw [bound, Bindings.find?_ofList, found]

end

theorem Call.ofTemplate_binds_numbers :
    let evaluate : List Node → StateT Nat (Except String) String :=
      fun nodes count => .ok (sourceOf nodes, count + 1)
    let name := [Node.text " a : b: "]
    let parameters : List Parameter :=
      [.named [.text " 2 "] [.text "x"], .positional [.text " y "], .positional [.text "z\n"],
        .named [.text "1"] [.text " w"]]
    (∀ part ∈ name :: parameters.flatMap Parameter.parts, ∀ state,
      ∃ text next, evaluate part state = .ok (text, next)) ∧
    ∃ call, Call.ofTemplate evaluate name parameters 0 = .ok (call, 7) ∧
      call.name = "a" ∧ call.firstArgument = some "b:" ∧ call.parameters.names = ["2", "1"] ∧
      call.parameters.find? "2" = some "z\n" ∧ call.parameters.find? "1" = some "w" ∧
      ∀ registry setting (frame : Frame) fallback,
        evaluateNode registry setting (frame.child call) (.argument [.text "2"] fallback) =
          done "z\n" ∅ := by
  intro evaluate name parameters
  have succeeds : ∀ part ∈ name :: parameters.flatMap Parameter.parts, ∀ state,
      ∃ text next, evaluate part state = .ok (text, next) := fun part _ state => ⟨_, _, rfl⟩
  obtain ⟨invocation, middle, passed, last, call, called, passes, made, _, colon, _, names, values,
    arguments⟩ := Call.ofTemplate_binds succeeds 0
  cases called
  have run : passAll evaluate parameters 1 = .ok (passed, last) := passes.passAll_run
  cases run
  obtain ⟨called, argument⟩ := colon " a " " b: " (by decide) (by decide)
  have second : call.parameters.find? "2" = some "z\n" := by
    rw [values]
    decide +kernel
  refine ⟨succeeds, call, made, ?_, ?_, ?_, second, ?_, arguments "2" "z\n" second⟩
  · rw [called]
    decide
  · rw [argument]
    decide
  · rw [names]
    decide +kernel
  · rw [values]
    decide +kernel

end Wikitext
