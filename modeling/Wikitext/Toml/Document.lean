import Wikitext.Toml.Scalar

/-!
TOML documents. Statements are read one after the other and build a tree of tables, in which it is
remembered how each table came to be: that decides which later statements may add to it.
-/
namespace Wikitext.Toml
open Reader

/-- How a table came to be: by its own header or braces, on the way to another table's header, or
by a key with dots. -/
inductive Origin where
  | declared
  | passed
  | dotted
deriving DecidableEq

inductive Item where
  | value (content : Value)
  | table (origin : Origin) (entries : List (String × Item))
  | tables (elements : List (List (String × Item)))

structure Table where
  origin : Origin
  entries : List (String × Item)

mutual

def Item.toValue : Item → Value
  | .value content => content
  | .table _ entries => .table (entryValues entries)
  | .tables elements => .array (elementValues elements)

def entryValues : List (String × Item) → List (String × Value)
  | [] => []
  | (key, item) :: rest => (key, item.toValue) :: entryValues rest

def elementValues : List (List (String × Item)) → List Value
  | [] => []
  | entries :: rest => .table (entryValues entries) :: elementValues rest

end

def replaceEntry (key : String) (item : Item) (entries : List (String × Item)) :
    List (String × Item) :=
  if (entries.lookup key).isSome then
    entries.map fun entry => if entry.1 = key then (key, item) else entry
  else entries ++ [(key, item)]

/-- Changes the table at the end of a path. Tables that are missing on the way are made; a key
with dots may not pass through a table that has a header. -/
def alterAt (change : Table → Option Table) (dots : Bool) : List String → Table → Option Table
  | [], table => change table
  | key :: path, table => do
    let item ← match table.entries.lookup key with
      | none => do
        let origin := if dots then Origin.dotted else .passed
        let inner ← alterAt change dots path ⟨origin, []⟩
        pure (Item.table inner.origin inner.entries)
      | some (.value _) => none
      | some (.table origin entries) =>
        if dots && origin == .declared then none
        else do
          let inner ← alterAt change dots path ⟨origin, entries⟩
          pure (.table inner.origin inner.entries)
      | some (.tables elements) =>
        match elements.reverse with
        | [] => none
        | last :: before => do
          let inner ← alterAt change dots path ⟨.declared, last⟩
          pure (.tables (before.reverse ++ [inner.entries]))
    return { table with entries := replaceEntry key item table.entries }

/-- A new key; with dots in front of it, its table has to be one that such keys made. -/
def setKey (key : List String × String) (value : Value) (table : Table) : Option Table :=
  alterAt (fun table =>
    if (table.origin == .dotted) == key.1.isEmpty then none
    else if (table.entries.lookup key.2).isSome then none
    else some { table with entries := table.entries ++ [(key.2, .value value)] })
    (!key.1.isEmpty) key.1 table

/-- A table's own header: it is new, or has only been passed so far. -/
def declareTable (key : List String × String) (root : Table) : Option Table :=
  alterAt (fun table =>
    match table.entries.lookup key.2 with
    | none => some { table with entries := table.entries ++ [(key.2, .table .declared [])] }
    | some (.table .passed entries) =>
      some { table with entries := replaceEntry key.2 (.table .declared entries) table.entries }
    | some _ => none) false key.1 root

def declareElement (key : List String × String) (root : Table) : Option Table :=
  alterAt (fun table =>
    match table.entries.lookup key.2 with
    | none => some { table with entries := table.entries ++ [(key.2, .tables [[]])] }
    | some (.tables elements) =>
      some { table with entries := replaceEntry key.2 (.tables (elements ++ [[]])) table.entries }
    | some _ => none) false key.1 root

def array (element : Reader Value) : Reader Value := do
  word "["
  gap
  let elements ← optional (separated (gap *> word "," *> gap) element)
  gap
  discard (optional (if elements.isSome then word "," *> gap else failure))
  word "]"
  return .array (elements.getD [])

def keyValue (value : Reader Value) : Reader ((List String × String) × Value) := do
  let key ← key
  spaces
  word "="
  spaces
  return (key, ← value)

def tableOf (pairs : List ((List String × String) × Value)) : Option Table :=
  pairs.foldlM (fun table pair => setKey pair.1 pair.2 table) ⟨.declared, []⟩

/-- A table in braces; it stands on one line and has no comma at its end. -/
def inlineTable (value : Reader Value) : Reader Value := do
  exactly ['{']
  spaces
  let pairs ← optional (separated (spaces *> word "," *> spaces) (keyValue value))
  spaces
  exactly ['}']
  match tableOf (pairs.getD []) with
  | some table => return .table (entryValues table.entries)
  | none => failure

def valueWithin : Nat → Reader Value
  | 0 => failure
  | 1 => scalar
  | depth + 1 =>
    array (valueWithin depth) <|> inlineTable (valueWithin depth) <|> scalar

def value : Reader Value := valueWithin nestingLimit

inductive Statement where
  | blank
  | element (key : List String × String)
  | header (key : List String × String)
  | pair (key : List String × String) (value : Value)

def headed (before after : String) : Reader (List String × String) := do
  word before
  spaces
  let key ← key
  spaces
  word after
  return key

def statement : Reader Statement := do
  spaces
  let content ← (.element <$> headed "[[" "]]") <|> (.header <$> headed "[" "]") <|>
    ((fun pair => .pair pair.1 pair.2) <$> keyValue value) <|> pure .blank
  lineEnd
  return content

structure Draft where
  root : Table
  current : List String

def Draft.add (draft : Draft) : Statement → Option Draft
  | .blank => some draft
  | .element key => do
    return ⟨← declareElement key draft.root, key.1 ++ [key.2]⟩
  | .header key => do
    return ⟨← declareTable key draft.root, key.1 ++ [key.2]⟩
  | .pair key value => do
    return { draft with root := ← alterAt (setKey key value) false draft.current draft.root }

def statements : Reader (List Statement) := do
  let content ← many do
    if (← get).isEmpty then failure else statement
  ended
  return content

/-- The entries of a document, or nothing if it is not well formed. A byte order mark may stand in
front of it. -/
def read (text : String) : Option (List (String × Value)) := do
  let cs := text.toList
  let body := if cs.head? = some '\uFEFF' then cs.drop 1 else cs
  let (content, _) ← statements.run body
  let draft ← content.foldlM Draft.add ⟨⟨.declared, []⟩, []⟩
  return entryValues draft.root.entries

end Wikitext.Toml
