import Wikitext.Bindings
import Wikitext.Markup.Lexeme
import Wikitext.Text.Quoted

/-!
A wiki's site: its namespaces, magic words and extension tags. A description becomes a site only
if no two namespaces share an id or a name and the main and template namespaces are there.
-/
namespace Wikitext
open Text Markup

structure Namespace where
  id : Int
  /-- The name shown in titles; the main namespace has an empty one. -/
  name : String
  canonical : Option String
  aliases : List String
  /-- Page names keep the case of their first letter. -/
  caseSensitive : Bool
  subpages : Bool
deriving DecidableEq

def Namespace.names (ns : Namespace) : List String :=
  ns.name :: (ns.canonical.toList ++ ns.aliases)

def mainNamespace : Int := 0

def templateNamespace : Int := 10

structure MagicWord where
  caseSensitive : Bool
  aliases : List String
deriving DecidableEq

inductive SiteError where
  | unreadable (reason : String)
  | malformed
  | duplicateId (id : Int)
  | sharedName (name : String) (first second : Int)
  | missingNamespace (id : Int)
deriving DecidableEq

/-- What is wrong with a site; the place in a malformed description is not told. -/
def SiteError.message : SiteError → String
  | .unreadable reason => "Failed to read site file: " ++ reason
  | .malformed => "Failed to parse site TOML: the text does not describe a site"
  | .duplicateId id => "duplicate namespace id " ++ toString id
  | .sharedName name first second =>
    "namespace name " ++ quoted name ++ " is used by both " ++ toString first ++ " and " ++
      toString second
  | .missingNamespace id => "site does not define namespace " ++ toString id

structure SiteDescription where
  name : Option String
  /-- The elements whose content is kept as it is; without a list, the standard ones. -/
  tags : Option (List String)
  namespaces : List Namespace
  words : List (String × MagicWord)

structure Site where
  name : Option String
  namespaces : List Namespace
  /-- Which namespace each name stands for; the names are folded. -/
  owners : Bindings Int
  words : Bindings MagicWord
  tags : TagSet

def underscoresToSpaces (s : String) : String :=
  String.ofList (s.toList.map fun c => if c = '_' then ' ' else c)

def foldName (name : String) : String := lower (trim (underscoresToSpaces name))

def claimName (id : Int) (owners : Bindings Int) (name : String) :
    Except SiteError (Bindings Int) :=
  match owners.find? (foldName name) with
  | some first =>
    if first = id then .ok owners else .error (.sharedName name first id)
  | none => .ok (owners.insert (foldName name) id)

def insertById (ns : Namespace) : List Namespace → List Namespace
  | [] => [ns]
  | other :: rest =>
    if ns.id < other.id then ns :: other :: rest else other :: insertById ns rest

structure NamespaceTable where
  namespaces : List Namespace
  owners : Bindings Int

def NamespaceTable.empty : NamespaceTable := ⟨[], .empty⟩

/-- A name that another namespace has is found before a repeated id. -/
def NamespaceTable.add (table : NamespaceTable) (ns : Namespace) :
    Except SiteError NamespaceTable := do
  let owners ← ns.names.foldlM (claimName ns.id) table.owners
  if table.namespaces.any (·.id == ns.id) then .error (.duplicateId ns.id)
  else return ⟨insertById ns table.namespaces, owners⟩

def requireNamespace (table : NamespaceTable) (id : Int) : Except SiteError Unit :=
  if table.namespaces.any (·.id == id) then .ok () else .error (.missingNamespace id)

def SiteDescription.site (description : SiteDescription) : Except SiteError Site := do
  let table ← description.namespaces.foldlM NamespaceTable.add .empty
  requireNamespace table mainNamespace
  requireNamespace table templateNamespace
  return {
    name := description.name
    namespaces := table.namespaces
    owners := table.owners
    words := .ofList description.words
    tags := match description.tags with
      | none => .standard
      | some names => .ofNames names }

namespace Site

def magicWord? (site : Site) (word : String) : Option MagicWord := site.words.find? word

def namespace? (site : Site) (id : Int) : Option Namespace :=
  site.namespaces.find? (·.id == id)

def namespaceNamed? (site : Site) (name : String) : Option Namespace :=
  if trim name = "" then none
  else (site.owners.find? (foldName name)).bind site.namespace?

end Site

end Wikitext
