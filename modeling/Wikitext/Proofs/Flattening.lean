import Wikitext.Flatten
import Wikitext.Proofs.Evaluation.Success

/-!
When pages can be flattened. The built-in handlers need fourteen words of the site's catalog; with
all of them every page is flattened, and otherwise none is.
-/
namespace Wikitext
open Markup Evaluating

namespace Builtin

def titleWords : List String :=
  ["fullpagename", "pagename", "namespace", "basepagename", "rootpagename", "subpagename",
    "talkpagename"]

def otherWords : List String :=
  ["!", "lc", "uc", "lcfirst", "ucfirst", "defaultsort", "displaytitle"]

/-- The words that the built-in handlers are registered under, in the order of registration. -/
def words : List String := titleWords ++ otherWords

theorem registered_words :
    registrations.map (fun entry => entry.2.1) =
      titleWords.flatMap (fun word => [word, word]) ++ otherWords := rfl

end Builtin

theorem find?_twice {α : Type} (test : α → Bool) (list : List α) :
    (list.flatMap fun element => [element, element]).find? test = list.find? test := by
  induction list with
  | nil => rfl
  | cons first rest ih =>
    rw [List.flatMap_cons, List.find?_append, ih]
    by_cases passes : test first = true
    · simp [passes]
    · simp [passes]

def Site.lacks (site : Site) (word : String) : Bool := (site.magicWord? word).isNone

theorem Builtin.find?_registrations (test : String → Bool) :
    (registrations.find? fun entry => test entry.2.1).map (fun entry => entry.2.1) =
      words.find? test := by
  calc (registrations.find? fun entry => test entry.2.1).map (fun entry => entry.2.1)
      = (registrations.map fun entry => entry.2.1).find? test := List.find?_map.symm
    _ = words.find? test := by
      rw [registered_words, words, List.find?_append, List.find?_append, find?_twice]

namespace Registry

theorem registerAll_error (registry : Registry) (site : Site)
    (entries : List (WordKind × String × Handler)) :
    (registry.registerAll site entries).2 =
      ((entries.find? fun entry => site.lacks entry.2.1).map fun entry => entry.2.1).map
        .unknownWord := by
  induction entries generalizing registry with
  | nil => rfl
  | cons entry rest ih =>
    obtain ⟨kind, word, handler⟩ := entry
    cases found : site.magicWord? word with
    | none => simp [registerAll, registerWord, Site.lacks, found]
    | some magic =>
      cases kind <;> simp [registerAll, registerWord, Site.lacks, found, ih]

theorem withDefaults_eq (site : Site) :
    withDefaults site =
      match Builtin.words.find? site.lacks with
      | some word => .error (.unknownWord word)
      | none => .ok (Registry.empty.registerDefaults site).1 := by
  have outcome := registerAll_error .empty site Builtin.registrations
  rw [Builtin.find?_registrations] at outcome
  unfold withDefaults registerDefaults
  generalize Registry.empty.registerAll site Builtin.registrations = result at outcome
  obtain ⟨registry, error⟩ := result
  simp only at outcome
  rw [outcome]
  cases Builtin.words.find? site.lacks <;> rfl

end Registry

theorem flatten_eq_error {site : Site} {word : String}
    (missing : Builtin.words.find? site.lacks = some word) (title : Option String)
    (source : String) : flatten site title source = .error (.registry (.unknownWord word)) := by
  unfold flatten
  rw [Registry.withDefaults_eq, missing]
  rfl

theorem flatten_succeeds {site : Site} (complete : Builtin.words.find? site.lacks = none)
    (title : Option String) (source : String) :
    ∃ evaluation, flatten site title source = .ok evaluation := by
  obtain ⟨text, words, _, answer⟩ := evaluateText_succeeds
    ⟨site, (Registry.empty.registerDefaults site).1, none,
      title.map fun text => .parse site text mainNamespace⟩ source
  refine ⟨⟨text, words⟩, ?_⟩
  unfold flatten
  rw [Registry.withDefaults_eq, complete]
  change (Context.evaluateText _ source).mapError _ = _
  rw [answer]
  rfl

/-- A page can be flattened exactly where the catalog has all words of the built-in handlers;
otherwise the first one missing is told. Evaluation itself cannot fail but at a parameter outside
a template, and no markup has one. -/
theorem flatten_outcome (site : Site) (title : Option String) (source : String) :
    ((∃ evaluation, flatten site title source = .ok evaluation) ↔
        ∀ word ∈ Builtin.words, site.magicWord? word ≠ none) ∧
      (∀ word, Builtin.words.find? (fun word => (site.magicWord? word).isNone) = some word →
        flatten site title source = .error (.registry (.unknownWord word))) ∧
      (∀ error, flatten site title source ≠ .error (.evaluation error)) ∧
      (∀ registry setting frame nodes, (∀ content, .parameter content ∉ walk nodes) →
        Succeeds (evaluateNodes registry setting frame nodes)) ∧
      ∀ tags source content, .parameter content ∉ walk (parse tags source) := by
  refine ⟨?_, ?_, ?_, evaluateNodes_succeeds, parameter_not_mem_parse⟩
  · constructor
    · rintro ⟨evaluation, flattened⟩ word member
      cases missing : Builtin.words.find? site.lacks with
      | some first =>
        rw [flatten_eq_error missing] at flattened
        cases flattened
      | none =>
        have present := List.find?_eq_none.mp missing word member
        simpa [Site.lacks] using present
    · intro complete
      apply flatten_succeeds
      rw [List.find?_eq_none]
      intro word member
      simpa [Site.lacks] using complete word member
  · intro word missing
    exact flatten_eq_error missing title source
  · intro error failed
    cases missing : Builtin.words.find? site.lacks with
    | some word =>
      rw [flatten_eq_error missing] at failed
      cases failed
    | none =>
      obtain ⟨evaluation, flattened⟩ := flatten_succeeds missing title source
      rw [flattened] at failed
      cases failed

example : ∀ word ∈ Builtin.words, Site.standard.magicWord? word ≠ none := by decide +kernel

example : Builtin.words.find? Site.blank.lacks = some "fullpagename" := by rfl

end Wikitext
