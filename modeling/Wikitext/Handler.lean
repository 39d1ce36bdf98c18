import Wikitext.Frame
import Wikitext.Title
import Wikitext.WordSet

/-!
Handlers and what they may consult. A handler answers a call with text or declines it.
-/
namespace Wikitext
open Markup

structure Page where
  title : String
  content : Option String
deriving DecidableEq

/-- The text of evaluated markup, and the names in it that nothing answered to. -/
structure Evaluation where
  text : String
  unhandled : WordSet

/-- The surroundings of an evaluation: the site, the page or an explicit title, and a way to
evaluate further markup in a frame, which may fail. -/
structure Setting where
  site : Site
  page : Option Page
  title : Option Title
  expand : List Node → Frame → Option Evaluation

def Setting.currentTitle? (setting : Setting) : Option Title :=
  setting.title <|> setting.page.map fun page => .parse setting.site page.title mainNamespace

abbrev Handler := Setting → Frame → Option String

end Wikitext
