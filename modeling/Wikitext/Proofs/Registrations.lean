import Mathlib.Data.List.Induction
import Wikitext.Registry

/-!
Registries as the outcome of registrations. What a registry finds under a name is the handler that
was last registered for it; a word that ignores case also answers to other spellings of its aliases,
but only where no word is spelled exactly like the name.
-/
namespace Wikitext
open Text

inductive Registration where
  | word (site : Site) (kind : WordKind) (id : String) (handler : Handler)
  | template (site : Site) (title : String) (handler : Handler)

namespace Registration

def handler : Registration → Handler
  | .word _ _ _ handler => handler
  | .template _ _ handler => handler

def succeeds : Registration → Bool
  | .word site _ id _ => (site.magicWord? id).isSome
  | .template _ _ _ => true

def wordOf? (kind : WordKind) : Registration → Option MagicWord
  | .word site other id _ => if other = kind then site.magicWord? id else none
  | .template _ _ _ => none

def spells (kind : WordKind) (name : String) (registration : Registration) : Bool :=
  (registration.wordOf? kind).any fun entry =>
    entry.aliases.any fun spelling => aliasName spelling == name

/-- The word ignores case, and an alias of it is the name but for case. -/
def folds (kind : WordKind) (name : String) (registration : Registration) : Bool :=
  (registration.wordOf? kind).any fun entry =>
    !entry.caseSensitive && entry.aliases.any fun spelling =>
      lower (aliasName spelling) == lower name

end Registration

def latest (test : Registration → Bool) (history : List Registration) : Option Handler :=
  (history.filter test).getLast?.map Registration.handler

theorem latest_concat (test : Registration → Bool) (history : List Registration)
    (last : Registration) :
    latest test (history ++ [last]) =
      if test last then some last.handler else latest test history := by
  unfold latest
  by_cases passes : test last = true
  · simp [passes]
  · simp [passes]

namespace AliasTable

theorem find?_exact_add (table : AliasTable) (word : MagicWord) (handler : Handler)
    (name : String) :
    (table.add word handler).exact.find? name =
      if word.aliases.any fun spelling => aliasName spelling == name then some handler
      else table.exact.find? name := by
  unfold add
  induction word.aliases generalizing table with
  | nil => rfl
  | cons spelling rest ih =>
    rw [List.foldl_cons, ih, addAlias, Bindings.find?_insert, List.any_cons]
    by_cases here : aliasName spelling = name
    · simp [here]
    · simp [here, Ne.symm here]

theorem find?_folded_add (table : AliasTable) (word : MagicWord) (handler : Handler)
    (name : String) :
    (table.add word handler).folded.find? name =
      if !word.caseSensitive && word.aliases.any fun spelling => lower (aliasName spelling) == name
      then some handler else table.folded.find? name := by
  unfold add
  induction word.aliases generalizing table with
  | nil => simp
  | cons spelling rest ih =>
    rw [List.foldl_cons, ih, addAlias, List.any_cons]
    cases word.caseSensitive with
    | true => simp
    | false =>
      simp only [Bool.false_eq_true, if_false, Bindings.find?_insert]
      by_cases here : lower (aliasName spelling) = name
      · simp [here]
      · simp [here, Ne.symm here]

end AliasTable

namespace Registry

def register (registry : Registry) : Registration → Except RegistryError Registry
  | .word site kind id handler => registry.registerWord site kind id handler
  | .template site title handler => .ok (registry.registerTemplate site title handler)

def after (registry : Registry) (registration : Registration) : Registry :=
  (registry.register registration).toOption.getD registry

def ofHistory (history : List Registration) : Registry := history.foldl after empty

def table (registry : Registry) : WordKind → AliasTable
  | .variable => registry.variableTable
  | .function => registry.functionTable

theorem ofHistory_concat (history : List Registration) (last : Registration) :
    ofHistory (history ++ [last]) = (ofHistory history).after last := by
  unfold ofHistory
  rw [List.foldl_append, List.foldl_cons, List.foldl_nil]

theorem table_after (registry : Registry) (registration : Registration) (kind : WordKind) :
    (registry.after registration).table kind =
      match registration.wordOf? kind with
      | some entry => (registry.table kind).add entry registration.handler
      | none => registry.table kind := by
  cases registration with
  | template site title handler => cases kind <;> rfl
  | word site other id handler =>
    simp only [after, register, registerWord, Registration.wordOf?]
    cases found : site.magicWord? id with
    | none => simp [Except.toOption]
    | some entry => cases kind <;> cases other <;> rfl

theorem find?_exact_ofHistory (history : List Registration) (kind : WordKind) (name : String) :
    ((ofHistory history).table kind).exact.find? name =
      latest (Registration.spells kind name) history := by
  induction history using List.reverseRecOn with
  | nil => cases kind <;> rfl
  | append_singleton history last ih =>
    rw [ofHistory_concat, latest_concat, table_after, ← ih, Registration.spells]
    cases last.wordOf? kind with
    | none => rfl
    | some entry => exact AliasTable.find?_exact_add _ _ _ _

theorem find?_folded_ofHistory (history : List Registration) (kind : WordKind) (name : String) :
    ((ofHistory history).table kind).folded.find? (lower name) =
      latest (Registration.folds kind name) history := by
  induction history using List.reverseRecOn with
  | nil => cases kind <;> rfl
  | append_singleton history last ih =>
    rw [ofHistory_concat, latest_concat, table_after, ← ih, Registration.folds]
    cases last.wordOf? kind with
    | none => rfl
    | some entry => exact AliasTable.find?_folded_add _ _ _ _

theorem find?_table_ofHistory (history : List Registration) (kind : WordKind) (name : String) :
    ((ofHistory history).table kind).find? name =
      (latest (Registration.spells kind name) history <|>
        latest (Registration.folds kind name) history) := by
  rw [AliasTable.find?, find?_exact_ofHistory, find?_folded_ofHistory]

end Registry

end Wikitext
