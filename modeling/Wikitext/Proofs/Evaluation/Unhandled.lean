import Wikitext.Proofs.Evaluation.Agreement
import Wikitext.Proofs.Evaluation.Dispatch
import Wikitext.Proofs.Text.Trimming

/-!
The names that an evaluation records. They are the names of the calls that it comes to and that
nothing answers to, no more and no fewer. So a template under a title that none of them means
changes no evaluation.
-/
namespace Wikitext
open Text Markup Evaluating

variable {registry : Registry} {setting : Setting} {frame : Frame} {nodes : List Node}
  {text : String} {words : WordSet}

theorem exists_invocation {name : List Node} {parameters : List Parameter} {call : Call}
    {more : WordSet} (made : callOf registry setting frame name parameters = done call more) :
    ∃ invocation passed fewer, evaluateNodes registry setting frame name = done invocation fewer ∧
      call = .ofInvocation invocation passed := by
  obtain ⟨invocation, fewer, _, named, rest, _⟩ := bind_eq_done.mp made
  obtain ⟨passed, _, _, _, last, _⟩ := bind_eq_done.mp rest
  cases last
  exact ⟨invocation, passed, fewer, named, rfl⟩

theorem exists_unanswered (run : evaluateNodes registry setting frame nodes = done text words)
    {word : String} (member : word ∈ words) :
    ∃ name parameters call more,
      Reached registry setting frame nodes (.template name parameters) ∧
        callOf registry setting frame name parameters = done call more ∧
        registry.dispatch setting.site call = .unknown ∧ word = call.name := by
  obtain ⟨name, parameters, call, more, reached, made, recorded⟩ :=
    records_evaluateNodes ⟨text, words, run, member⟩
  obtain ⟨unknown, same⟩ := Registry.mem_answer.mp recorded
  exact ⟨name, parameters, call, more, reached, made, unknown, same⟩

theorem Reached.records_name (run : evaluateNodes registry setting frame nodes = done text words)
    {name : List Node} {parameters : List Parameter}
    (reached : Reached registry setting frame nodes (.template name parameters)) :
    ∃ call more, callOf registry setting frame name parameters = done call more ∧
      (registry.dispatch setting.site call = .unknown → call.name ∈ words) := by
  obtain ⟨call, more, made, _, included⟩ := reached.answered run
  refine ⟨call, more, made, ?_⟩
  intro unknown
  exact included call.name (Registry.mem_answer.mpr ⟨unknown, rfl⟩)

/-- The recorded names are trimmed, have no colon, are none of the names that are never expanded and
name no template; each is the name of a template of the tree. No call that evaluation comes to and
that nothing answers to is left out. -/
theorem evaluateNodes_unhandled
    (run : evaluateNodes registry setting frame nodes = done text words) :
    (∀ word ∈ words,
      ':' ∉ word.toList ∧ trim word = word ∧
        word ∉ ["subst", "safesubst", "msg", "msgnw", "raw"] ∧
        registry.templateNamed? setting.site word = none ∧
        ∃ name parameters invocation more,
          Reached registry setting frame nodes (.template name parameters) ∧
            .template name parameters ∈ walk nodes ∧
            evaluateNodes registry setting frame name = done invocation more ∧
            word = trim (String.ofList (invocation.toList.takeWhile (· != ':')))) ∧
      ∀ name parameters, Reached registry setting frame nodes (.template name parameters) →
        ∃ call more, callOf registry setting frame name parameters = done call more ∧
          (registry.dispatch setting.site call = .unknown → call.name ∈ words) := by
  constructor
  · intro word member
    obtain ⟨name, parameters, call, more, reached, made, unknown, rfl⟩ :=
      exists_unanswered run member
    obtain ⟨invocation, passed, fewer, named, rfl⟩ := exists_invocation made
    cases Registry.decided_iff.mpr unknown with
    | unknown plain noVariable other noFunction noTemplate =>
      refine ⟨colon_not_mem_name invocation passed, trim_name_ofInvocation invocation passed, ?_,
        noTemplate, name, parameters, invocation, fewer, reached, reached.mem_walk, named,
        name_ofInvocation invocation passed⟩
      intro listed
      rcases List.mem_append.mp (show _ ∈ substitutions ++ otherTransclusions from listed) with
        early | late
      · exact plain early
      · exact other late
  · intro name parameters reached
    exact reached.records_name run

theorem evaluateNodes_unhandled_fallback :
    let call := Node.template [.argument [.text "1"] (some [.text " Foo : bar"])] []
    let setting : Setting := ⟨.blank, none, none, fun _ _ => none⟩
    evaluateNodes .empty setting .root [.header 2 [call] []] =
        done "=={{{{{1| Foo : bar}}}}}==" {"Foo"} ∧
      trim "Foo" = "Foo" ∧ Registry.empty.templateNamed? .blank "Foo" = none ∧
      ∃ made more,
        callOf .empty setting .root [.argument [.text "1"] (some [.text " Foo : bar"])] [] =
          done made more ∧
        (Registry.empty.dispatch .blank made = .unknown → made.name ∈ ({"Foo"} : WordSet)) := by
  intro call setting
  have run : evaluateNodes .empty setting .root [.header 2 [call] []] =
      done "=={{{{{1| Foo : bar}}}}}==" {"Foo"} :=
    eq_done_of_toOption (by decide +kernel)
  obtain ⟨sound, complete⟩ := evaluateNodes_unhandled run
  obtain ⟨_, trimmed, _, noTemplate, _⟩ := sound "Foo" (WordSet.mem_singleton.mpr rfl)
  have reached : Reached .empty setting .root [.header 2 [call] []] call :=
    .inside List.mem_cons_self .title (.member List.mem_cons_self)
  exact ⟨run, trimmed, noTemplate, complete _ _ reached⟩

/-- A template under a new title that no recorded name means changes no evaluation. -/
theorem evaluateNodes_registerTemplate {second : Setting} {name : String} (added : Handler)
    (sameSite : second.site = setting.site)
    (absent : registry.templateNamed? setting.site name = none)
    (steady : ∀ call handler, registry.dispatch setting.site call = .handled handler →
      handler setting (frame.child call) = handler second (frame.child call))
    (run : evaluateNodes registry setting frame nodes = done text words)
    (apart : ∀ word ∈ words, templateKey setting.site word ≠ templateKey setting.site name) :
    evaluateNodes (registry.registerTemplate setting.site name added) second frame nodes =
      done text words := by
  have same : evaluateNodes registry setting frame nodes =
      evaluateNodes (registry.registerTemplate setting.site name added) second frame nodes := by
    apply evaluateNodes_congr fun key => rfl
    intro called parameters call more reached made
    apply Registry.answer_congr rfl
    · rw [sameSite]
      refine (Registry.dispatch_registerTemplate added absent ?_).symm
      intro unknown
      obtain ⟨again, others, remade, recorded⟩ := reached.records_name run
      cases made.symm.trans remade
      exact apart call.name (recorded unknown)
    · intro handler handled
      exact steady call handler handled
  rw [← same, run]

theorem evaluateNodes_registerTemplate_other :
    let registry := Registry.empty.registerTemplate .blank "A" fun _ _ => some "a"
    let added : Handler := fun _ _ => some "c"
    let setting : Setting := ⟨.blank, none, none, fun _ _ => none⟩
    let second : Setting := ⟨.blank, some ⟨"Page", none⟩, none, fun _ _ => none⟩
    let extended := registry.registerTemplate setting.site "C" added
    let nodes := [Node.template [.text "A"] [.positional [.template [.text "B"] []]]]
    registry.templateNamed? setting.site "C" = none ∧
      (∀ call handler, registry.dispatch setting.site call = .handled handler →
        handler setting (Frame.root.child call) = handler second (Frame.root.child call)) ∧
      evaluateNodes registry setting .root nodes = done "a" {"B"} ∧
      (∀ word ∈ ({"B"} : WordSet), templateKey setting.site word ≠ templateKey setting.site "C") ∧
      evaluateNodes extended second .root nodes = done "a" {"B"} := by
  intro registry added setting second extended nodes
  have absent : registry.templateNamed? setting.site "C" = none := by
    have different : templateKey .blank "C" ≠ templateKey .blank "A" := by decide +kernel
    exact (Registry.templateNamed?_registerTemplate _ _ _ _ _).trans (if_neg different)
  have steady : ∀ call handler, registry.dispatch setting.site call = .handled handler →
      handler setting (Frame.root.child call) = handler second (Frame.root.child call) := by
    intro call handler handled
    rw [Registry.handler_of_registerTemplate handled]
  have run : evaluateNodes registry setting .root nodes = done "a" {"B"} :=
    eq_done_of_toOption (by decide +kernel)
  have apart : ∀ word ∈ ({"B"} : WordSet),
      templateKey setting.site word ≠ templateKey setting.site "C" := by
    intro word member
    rw [WordSet.mem_singleton.mp member]
    decide +kernel
  exact ⟨absent, steady, run, apart,
    evaluateNodes_registerTemplate added rfl absent steady run apart⟩

end Wikitext
