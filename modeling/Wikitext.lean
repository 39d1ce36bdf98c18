import Wikitext.Comparison
import Wikitext.Main
import Wikitext.Proofs.Evaluation.Newline
import Wikitext.Proofs.Evaluation.Unhandled
import Wikitext.Proofs.Flattening
import Wikitext.Proofs.Markup.RoundTrip
import Wikitext.Proofs.Registrations
import Wikitext.Proofs.Text.LetterCase
import Wikitext.Proofs.Titles.Names
import Wikitext.Proofs.Titles.Normal
import Wikitext.Proofs.Evaluation.Precedence
import Wikitext.Proofs.Titles.RoundTrip
import Wikitext.Proofs.Markup.Marks
import Wikitext.Proofs.Markup.Merging
import Wikitext.Proofs.Markup.NormalForm
import Wikitext.Proofs.Markup.Tiling
import Wikitext.Proofs.Evaluation.Verbatim
import Wikitext.Proofs.Evaluation.Replacement
import Wikitext.Proofs.Comparison
import Wikitext.Proofs.Namespaces
import Wikitext.Proofs.Evaluation.Calls
import Wikitext.Proofs.Markup.HeadingLines
import Wikitext.Proofs.Markup.Leftovers
import Wikitext.Proofs.Markup.Tags
import Wikitext.Proofs.Markup.Angles
import Wikitext.Proofs.Evaluation.Elements
import Wikitext.Proofs.Titles.Prefixes
import Wikitext.Proofs.Titles.Talk
import Wikitext.Proofs.Titles.Parts
import Wikitext.Proofs.NamespaceNames
import Wikitext.Proofs.Spellings
import Wikitext.Proofs.Evaluation.Merging
