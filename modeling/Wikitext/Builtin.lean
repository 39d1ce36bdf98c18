import Wikitext.Registry

/-!
The built-in handlers: parameters by position, parts of the page title, letter case, and words that
leave nothing behind.
-/
namespace Wikitext
open Text

namespace Builtin

def firstPositional : Handler := fun _ frame => some ((frame.call.positional? 1).getD "")

def secondPositional : Handler := fun _ frame => some ((frame.call.positional? 2).getD "")

def secondOrFirstPositional : Handler := fun _ frame =>
  some ((frame.call.positional? 2 <|> frame.call.positional? 1).getD "")

def ignore : Handler := fun _ _ => some ""

def pipe : Handler := fun _ _ => some "|"

/-- A part of the title that the first argument names, or of the current title without one. -/
def titlePart (part : Site → Title → String) : Handler := fun setting frame =>
  match frame.call.firstArgument with
  | some "" => some ""
  | some argument => some (part setting.site (.parse setting.site argument mainNamespace))
  | none => setting.currentTitle?.map (part setting.site)

def fullPageName : Handler := titlePart fun _ title => title.fullName

def pageName : Handler := titlePart fun _ title => title.page

def namespaceName : Handler := titlePart fun _ title => title.namespaceName

def basePageName : Handler := titlePart fun _ title => title.basePage

def rootPageName : Handler := titlePart fun _ title => title.rootPage

def subPageName : Handler := titlePart fun _ title => title.subPage

def talkPageName : Handler :=
  titlePart fun site title => ((title.talk? site).map Title.fullName).getD ""

def convert (change : String → String) : Handler := fun _ frame =>
  some ((frame.call.firstArgument.map change).getD "")

def lowerCase : Handler := convert lower

def upperCase : Handler := convert upper

def lowerCaseFirst : Handler := convert lowerFirst

def upperCaseFirst : Handler := convert upperFirst

def registrations : List (WordKind × String × Handler) :=
  [("fullpagename", fullPageName), ("pagename", pageName), ("namespace", namespaceName),
    ("basepagename", basePageName), ("rootpagename", rootPageName), ("subpagename", subPageName),
    ("talkpagename", talkPageName)].flatMap (fun entry =>
      [(.variable, entry.1, entry.2), (.function, entry.1, entry.2)]) ++
  [(.variable, "!", pipe), (.function, "lc", lowerCase), (.function, "uc", upperCase),
    (.function, "lcfirst", lowerCaseFirst), (.function, "ucfirst", upperCaseFirst),
    (.function, "defaultsort", ignore), (.function, "displaytitle", ignore)]

end Builtin

/-- Registers handlers until one of the words is unknown; the registry keeps what came before. -/
def Registry.registerAll (registry : Registry) (site : Site) :
    List (WordKind × String × Handler) → Registry × Option RegistryError
  | [] => (registry, none)
  | (kind, word, handler) :: rest =>
    match registry.registerWord site kind word handler with
    | .ok next => next.registerAll site rest
    | .error error => (registry, some error)

def Registry.registerDefaults (registry : Registry) (site : Site) :
    Registry × Option RegistryError :=
  registry.registerAll site Builtin.registrations

def Registry.withDefaults (site : Site) : Except RegistryError Registry :=
  match Registry.empty.registerDefaults site with
  | (registry, none) => .ok registry
  | (_, some error) => .error error

end Wikitext
