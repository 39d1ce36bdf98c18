import Mathlib.Algebra.FreeMonoid.Basic
import Wikitext.Proofs.Markup.Constructs

/-!
The markup of a page can be got back from its tree, character for character.
-/
namespace Wikitext.Markup

def written (text : String) : FreeMonoid Char := FreeMonoid.ofList text.toList

theorem written_append (first second : String) :
    written (first ++ second) = written first * written second := by
  unfold written
  rw [String.toList_append, FreeMonoid.ofList_append]

theorem written_injective {first second : String} (same : written first = written second) :
    first = second :=
  String.ext (FreeMonoid.ofList.injective same)

theorem written_sourceOf (list : List Node) :
    (list.map fun node => written node.source).prod = written (sourceOf list) := by
  induction list with
  | nil => rfl
  | cons node rest ih => rw [sourceOf, written_append, ← ih, List.map_cons, List.prod_cons]

def sourceReading : Reading (FreeMonoid Char) where
  node node := written node.source
  text_empty := rfl
  text_append := written_append
  header level title trailing := by
    rw [written_sourceOf, written_sourceOf, ← written_append, ← written_append, ← written_append]
    exact congrArg written (by rw [Node.source]; rfl)

namespace sourceReading

theorem nodes_eq (list : List Node) : sourceReading.nodes list = written (sourceOf list) :=
  written_sourceOf list

theorem parameter_eq (parameter : Parameter) :
    sourceReading.parameter parameter = written parameter.source := by
  cases parameter with
  | positional value => rw [Reading.parameter, nodes_eq, Parameter.source]
  | named name value =>
    rw [Reading.parameter, nodes_eq, nodes_eq, Parameter.source, written_append, written_append]
    rfl

theorem parameters_eq (list : List Parameter) :
    sourceReading.parameters list = written (parametersSource list) := by
  apply Reading.parameters_eq_of
  · rfl
  · intro parameter rest
    rw [parameter_eq, parametersSource, written_append, written_append]
    rfl

theorem behindPipe_eq (part : Option (List Node)) :
    sourceReading.behindPipe part = written (part.elim "" fun list => "|" ++ sourceOf list) := by
  cases part with
  | none => rfl
  | some list =>
    rw [Reading.behindPipe, nodes_eq, Option.elim_some, written_append]
    rfl

def bracketed : BracketReading (FreeMonoid Char) where
  toReading := sourceReading
  opening bracket := written bracket.opening
  closing bracket := written bracket.closing
  template name parameters := by
    rw [nodes_eq, parameters_eq, ← written_append, ← written_append, ← written_append,
      ← String.append_assoc]
    exact congrArg written (by rw [Node.source]; rfl)
  argument name fallback := by
    rw [nodes_eq, behindPipe_eq, ← written_append, ← written_append, ← written_append]
    cases fallback with
    | none => exact congrArg written (by simp [Node.source, Bracket.opening, Bracket.closing])
    | some list =>
      exact congrArg written
        (by simp [Node.source, Bracket.opening, Bracket.closing, String.append_assoc])
  link target caption := by
    rw [nodes_eq, behindPipe_eq, ← written_append, ← written_append, ← written_append]
    cases caption with
    | none => exact congrArg written (by simp [Node.source, Bracket.opening, Bracket.closing])
    | some list =>
      exact congrArg written
        (by simp [Node.source, Bracket.opening, Bracket.closing, String.append_assoc])

theorem token_eq (token : Token) : bracketed.token token = written token.source := by
  cases token with
  | opens bracket => rfl
  | closes bracket => rfl
  | leaf content => cases content <;> rfl

theorem tokens_eq (word : List Token) :
    bracketed.tokens word = FreeMonoid.ofList (textOf word) := by
  induction word with
  | nil => rfl
  | cons token word ih =>
    rw [BracketReading.tokens_cons, ih, token_eq]
    rfl

end sourceReading

theorem sourceOf_mergeText (nodes : List Node) : sourceOf (mergeText nodes) = sourceOf nodes := by
  apply written_injective
  rw [← sourceReading.nodes_eq, ← sourceReading.nodes_eq, Reading.nodes_mergeText]

theorem sourceOf_parse (tags : TagSet) (source : String) :
    sourceOf (parse tags source) = source := by
  have read := sourceReading.bracketed.nodes_parse tags source
  rw [sourceReading.tokens_eq, textOf_tokens] at read
  exact written_injective ((sourceReading.nodes_eq _).symm.trans read)

/-- The grammar takes every text, and rendering the tree of a page gives its markup back. -/
theorem readPage_sourceOf (tags : TagSet) (source : String) :
    readPage tags source = some (parse tags source) ∧ sourceOf (parse tags source) = source := by
  refine ⟨(Option.some_get _).symm, ?_⟩
  exact sourceOf_parse tags source

end Wikitext.Markup
