import Wikitext.Handler

/-!
Registries of handlers. Variables and functions are found under the aliases of the site's magic
words, templates under their full titles.
-/
namespace Wikitext
open Text

inductive WordKind where
  | variable
  | function
deriving DecidableEq

/-- Handlers by alias: as the alias is written, and in lower case for words that ignore case. -/
structure AliasTable where
  exact : Bindings Handler
  folded : Bindings Handler

def aliasName (spelling : String) : String :=
  String.ofList (dropEndWhile (· == ':') spelling.toList)

namespace AliasTable

def empty : AliasTable := ⟨.empty, .empty⟩

def addAlias (caseSensitive : Bool) (handler : Handler) (table : AliasTable)
    (spelling : String) : AliasTable :=
  let name := aliasName spelling
  ⟨table.exact.insert name handler,
    if caseSensitive then table.folded else table.folded.insert (lower name) handler⟩

def add (table : AliasTable) (word : MagicWord) (handler : Handler) : AliasTable :=
  word.aliases.foldl (addAlias word.caseSensitive handler) table

/-- The handler of a name; the exact spelling comes before the one that ignores case. -/
def find? (table : AliasTable) (name : String) : Option Handler :=
  table.exact.find? name <|> table.folded.find? (lower name)

end AliasTable

structure Registry where
  variableTable : AliasTable
  functionTable : AliasTable
  templateTable : Bindings Handler

inductive RegistryError where
  | unknownWord (word : String)
deriving DecidableEq

def RegistryError.message : RegistryError → String
  | .unknownWord word => "magic word not found in site catalog: " ++ word

/-- What becomes of a call: a handler is asked, it is left as it is on purpose, or nothing
answers to its name. -/
inductive Dispatch where
  | handled (handler : Handler)
  | kept
  | unknown

def substitutions : List String := ["subst", "safesubst"]

def otherTransclusions : List String := ["msg", "msgnw", "raw"]

def templateKey (site : Site) (name : String) : String :=
  (Title.parse site name templateNamespace).fullName

namespace Registry

def empty : Registry := ⟨.empty, .empty, .empty⟩

def registerWord (registry : Registry) (site : Site) (kind : WordKind) (word : String)
    (handler : Handler) : Except RegistryError Registry :=
  match site.magicWord? word, kind with
  | none, _ => .error (.unknownWord word)
  | some entry, .variable =>
    .ok { registry with variableTable := registry.variableTable.add entry handler }
  | some entry, .function =>
    .ok { registry with functionTable := registry.functionTable.add entry handler }

def registerTemplate (registry : Registry) (site : Site) (name : String) (handler : Handler) :
    Registry :=
  { registry with templateTable := registry.templateTable.insert (templateKey site name) handler }

def variableNamed? (registry : Registry) (name : String) : Option Handler :=
  registry.variableTable.find? name

def functionNamed? (registry : Registry) (name : String) : Option Handler :=
  registry.functionTable.find? name

def templateNamed? (registry : Registry) (site : Site) (name : String) : Option Handler :=
  registry.templateTable.find? (templateKey site name)

/-- The handler for a call. Substitutions have none; then come variables, the other ways of
transclusion, functions and templates. -/
def dispatch (registry : Registry) (site : Site) (call : Call) : Dispatch :=
  let asTemplate := match registry.templateNamed? site call.name with
    | some handler => .handled handler
    | none => Dispatch.unknown
  let asFunction :=
    match call.firstArgument.bind fun _ => registry.functionNamed? call.name with
    | some handler => .handled handler
    | none => asTemplate
  let asVariable := if call.mayBeVariable then registry.variableNamed? call.name else none
  if substitutions.contains call.name then .kept
  else
    match asVariable with
    | some handler => .handled handler
    | none => if otherTransclusions.contains call.name then .kept else asFunction

def answer (registry : Registry) (setting : Setting) (frame : Frame) : Option String × WordSet :=
  match registry.dispatch setting.site frame.call with
  | .handled handler => (handler setting frame, ∅)
  | .kept => (none, ∅)
  | .unknown => (none, {frame.call.name})

def quotedList (names : List String) : String :=
  "[" ++ ", ".intercalate ((WordSet.empty.insertAll names).toList.map quoted) ++ "]"

def summary (registry : Registry) : String :=
  braced "HandlerRegistry" <|
    "variables: " ++ quotedList registry.variableTable.exact.names ++
    ", functions: " ++ quotedList registry.functionTable.exact.names ++
    ", templates: " ++ quotedList registry.templateTable.names

end Registry

end Wikitext
