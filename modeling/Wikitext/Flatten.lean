import Wikitext.Builtin
import Wikitext.Evaluation
import Wikitext.Site.Description
import Wikitext.Site.Standard

/-!
Flattening: a page's markup becomes text by way of the built-in handlers.
-/
namespace Wikitext

inductive FlattenError where
  | site (error : SiteError)
  | registry (error : RegistryError)
  | evaluation (error : EvaluationError)

def FlattenError.message : FlattenError → String
  | .site error => "site error: " ++ error.message
  | .registry error => "registry error: " ++ error.message
  | .evaluation error => error.message

/-- The text of markup on a site, where the magic words speak of the page with the given title. -/
def flatten (site : Site) (title : Option String) (source : String) :
    Except FlattenError Evaluation := do
  let registry ← (Registry.withDefaults site).mapError .registry
  let context : Context :=
    ⟨site, registry, none, title.map fun text => .parse site text mainNamespace⟩
  (context.evaluateText source).mapError .evaluation

end Wikitext
