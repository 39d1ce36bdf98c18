import Wikitext.Markup.Grammar
import Wikitext.Markup.Links

/-!
From markup to its tree. There is no markup that cannot be read: where nothing stops it, the
grammar takes every token.
-/
namespace Wikitext.Markup

theorem rest_nodesUntil_never (tokens : List Token) :
    (nodesUntil (fun _ => false) tokens).rest = [] := by
  rw [nodesUntil.eq_def]
  split
  · rename_i first rest shorter _
    exact rest_nodesUntil_never rest
  · cases tokens with
    | nil => rfl
    | cons token rest => exact rest_nodesUntil_never rest
termination_by tokens.length
decreasing_by
  · assumption
  · exact Nat.lt_succ_self _

theorem document_isSome (tokens : List Token) : (document tokens).isSome = true := by
  have last := rest_nodesUntil_never tokens
  unfold document
  rw [inline]
  split
  · rfl
  · rename_i other
    cases whole : nodesUntil (fun _ => false) tokens with
    | mk nodes rest shorter =>
      rw [whole] at last other
      subst last
      exact absurd rfl (other _ _)

def readPage (tags : TagSet) (source : String) : Option (List Node) :=
  document ((lex tags source).map Prod.fst)

def parse (tags : TagSet) (source : String) : List Node :=
  (readPage tags source).get (document_isSome _)

end Wikitext.Markup
