/-!
Readers: each takes the text from the front and gives a value and what is left, or refuses. After
a refusal the next alternative starts where the first one did.
-/
namespace Wikitext.Toml

abbrev Reader := StateT (List Char) Option

namespace Reader

def sees (test : Char → Bool) : Reader Bool := do
  match ← get with
  | c :: _ => return test c
  | [] => return false

def one (test : Char → Bool) : Reader Char := do
  match ← get with
  | c :: rest =>
    if test c then
      set rest
      return c
    else failure
  | [] => failure

def exactly (cs : List Char) : Reader Unit := do
  match cs.isPrefixOf? (← get) with
  | some rest => set rest
  | none => failure

def word (s : String) : Reader Unit := exactly s.toList

def spanWhile (test : Char → Bool) : Reader (List Char) := do
  let text ← get
  set (text.dropWhile test)
  return text.takeWhile test

def spanWhile1 (test : Char → Bool) : Reader (List Char) := do
  return (← one test) :: (← spanWhile test)

def ended : Reader Unit := do
  match ← get with
  | [] => return ()
  | _ => failure

def upTo {α : Type} (limit : Nat) (item : Reader α) : Reader (List α) :=
  match limit with
  | 0 => pure []
  | limit + 1 => do
    match ← optional item with
    | some first => return first :: (← upTo limit item)
    | none => return []

/-- As many items as there are, where each takes at least one character. -/
def many {α : Type} (item : Reader α) : Reader (List α) := do
  upTo (← get).length item

def separated {α : Type} (separator : Reader Unit) (item : Reader α) : Reader (List α) := do
  return (← item) :: (← many (separator *> item))

end Reader

end Wikitext.Toml
