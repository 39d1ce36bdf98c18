import Wikitext.Markup.Token
import Wikitext.Text.Quoted

/-!
Reports of a token in a place where markup does not allow it.
-/
namespace Wikitext.Markup
open Text

/-- The token that was found, or nothing at the end of the text, and its place. -/
structure Unexpected where
  found : Option Token
  span : Span
deriving DecidableEq

def Token.description : Token → String
  | .leaf (.text written) => "text " ++ quoted written
  | .leaf (.comment _) => "comment"
  | .leaf (.tag element) => "tag <" ++ element.name ++ ">"
  | .leaf (.marker written) => "marker " ++ written
  | .leaf .newline => "newline"
  | token => "'" ++ token.source ++ "'"

namespace Unexpected

def message (report : Unexpected) : String :=
  "Unexpected " ++ (report.found.map Token.description).getD "end of input"

def display (report : Unexpected) : String :=
  "Parse error at " ++ toString report.span.start ++ ".." ++ toString report.span.stop ++ ": " ++
    report.message

end Unexpected

end Wikitext.Markup
