/-!
Values bound to names. Each name is bound once, the names keep the order in which they were first
bound, and a later binding of a name takes the place of the earlier one.
-/
namespace Wikitext

structure Bindings (α : Type) where
  entries : List (String × α)
  distinct : (entries.map Prod.fst).Nodup

namespace Bindings
variable {α : Type}

def empty : Bindings α := ⟨[], List.nodup_nil⟩

def names (bindings : Bindings α) : List String := bindings.entries.map Prod.fst

def values (bindings : Bindings α) : List α := bindings.entries.map Prod.snd

def find? (bindings : Bindings α) (name : String) : Option α := bindings.entries.lookup name

def contains (bindings : Bindings α) (name : String) : Bool := (bindings.find? name).isSome

def size (bindings : Bindings α) : Nat := bindings.entries.length

def isEmpty (bindings : Bindings α) : Bool := bindings.entries.isEmpty

/-- Binds the name where it stands, or at the end if it is new. -/
def bindIn (name : String) (value : α) : List (String × α) → List (String × α)
  | [] => [(name, value)]
  | entry :: rest =>
    if entry.1 = name then (name, value) :: rest else entry :: bindIn name value rest

theorem mem_names_bindIn {name other : String} {value : α} {entries : List (String × α)} :
    other ∈ (bindIn name value entries).map Prod.fst ↔
      other = name ∨ other ∈ entries.map Prod.fst := by
  induction entries with
  | nil => simp [bindIn]
  | cons entry rest ih =>
    rw [bindIn]
    split
    · rename_i same
      simp [same]
    · rw [List.map_cons, List.mem_cons, ih, List.map_cons, List.mem_cons]
      exact or_left_comm

theorem nodup_bindIn (name : String) (value : α) {entries : List (String × α)}
    (distinct : (entries.map Prod.fst).Nodup) :
    ((bindIn name value entries).map Prod.fst).Nodup := by
  induction entries with
  | nil => simp [bindIn]
  | cons entry rest ih =>
    rw [List.map_cons, List.nodup_cons] at distinct
    rw [bindIn]
    split
    · rename_i same
      rw [List.map_cons, List.nodup_cons]
      exact ⟨same ▸ distinct.1, distinct.2⟩
    · rename_i other
      rw [List.map_cons, List.nodup_cons, mem_names_bindIn, not_or]
      exact ⟨⟨other, distinct.1⟩, ih distinct.2⟩

theorem lookup_bindIn (name other : String) (value : α) (entries : List (String × α)) :
    (bindIn name value entries).lookup other =
      if other = name then some value else entries.lookup other := by
  induction entries with
  | nil =>
    by_cases same : other = name
    · simp [bindIn, same]
    · simp [bindIn, List.lookup_cons, beq_false_of_ne same, same]
  | cons entry rest ih =>
    obtain ⟨key, old⟩ := entry
    rw [bindIn]
    split
    · rename_i same
      by_cases here : other = name
      · simp [here]
      · simp only at same
        simp [List.lookup_cons, same, beq_false_of_ne here, here]
    · rename_i different
      by_cases here : other = name
      · subst here
        simp [List.lookup_cons, beq_false_of_ne (Ne.symm different), ih]
      · simp [List.lookup_cons, ih, here]

def insert (bindings : Bindings α) (name : String) (value : α) : Bindings α :=
  ⟨bindIn name value bindings.entries, nodup_bindIn name value bindings.distinct⟩

def ofList (entries : List (String × α)) : Bindings α :=
  entries.foldl (fun bindings entry => bindings.insert entry.1 entry.2) empty

theorem find?_insert (bindings : Bindings α) (name other : String) (value : α) :
    (bindings.insert name value).find? other =
      if other = name then some value else bindings.find? other :=
  lookup_bindIn name other value bindings.entries

theorem find?_empty (name : String) : (empty : Bindings α).find? name = none := rfl

theorem mem_of_find? {bindings : Bindings α} {name : String} {value : α}
    (found : bindings.find? name = some value) : (name, value) ∈ bindings.entries := by
  obtain ⟨before, after, whole, _⟩ := List.lookup_eq_some_iff.mp found
  rw [whole]
  exact List.mem_append_right before List.mem_cons_self

end Bindings

end Wikitext
