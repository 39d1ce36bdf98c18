import Wikitext.Site.Basic

/-!
Page titles. A title is a namespace and a page name in normal form: no underscores, one space
between words, and a capital first letter where the namespace asks for it.
-/
namespace Wikitext
open Text

structure Title where
  namespaceId : Int
  namespaceName : String
  page : String
  subpages : Bool
deriving DecidableEq

def normalizeName (name : String) : String := collapse (underscoresToSpaces name)

namespace Title

def inNamespace (site : Site) (id : Int) (name : String) : Title :=
  let page := normalizeName name
  match site.namespace? id with
  | some ns => ⟨id, ns.name, if ns.caseSensitive then page else upperFirst page, ns.subpages⟩
  | none => ⟨id, "", upperFirst page, false⟩

def ofNormal (site : Site) (text : List Char) (fallback : Int) : Title :=
  let whole := inNamespace site fallback (String.ofList text)
  match cutFirst ':' text with
  | none => whole
  | some (before, rest) =>
    match site.namespaceNamed? (String.ofList before) with
    | some ns => inNamespace site ns.id (String.ofList rest)
    | none => whole

/-- The title that a text names. Without the name of a namespace it is in `fallback`, and colons
in front of it put it into the main namespace unless a name follows them. -/
def parse (site : Site) (text : String) (fallback : Int) : Title :=
  let normal := (normalizeName text).toList
  if normal.head? = some ':' then
    ofNormal site (normal.dropWhile fun c => c == ':' || c == ' ') mainNamespace
  else ofNormal site normal fallback

def fullName (title : Title) : String :=
  if title.namespaceName = "" then title.page else title.namespaceName ++ ":" ++ title.page

def component (title : Title) (part : List Char → Option (List Char)) : String :=
  match title.subpages, part title.page.toList with
  | true, some cs => String.ofList cs
  | _, _ => title.page

def basePage (title : Title) : String :=
  title.component fun cs => (cutLast '/' cs).map Prod.fst

def rootPage (title : Title) : String :=
  title.component fun cs => (cutFirst '/' cs).map Prod.fst

def subPage (title : Title) : String :=
  title.component fun cs => (cutLast '/' cs).map Prod.snd

def talkId (id : Int) : Int := if id % 2 = 0 then id + 1 else id

/-- The talk page of a title; namespaces with negative ids hold no pages and have none. -/
def talk? (title : Title) (site : Site) : Option Title :=
  if title.namespaceId < 0 then none
  else some (inNamespace site (talkId title.namespaceId) title.page)

end Title

end Wikitext
