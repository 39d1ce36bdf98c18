/-!
Sets of words, kept in the order of their characters, so a set has one list of words.
-/
namespace Wikitext

structure WordSet where
  words : List String
  ordered : words.Pairwise (· < ·)
deriving DecidableEq

namespace WordSet

def empty : WordSet := ⟨[], .nil⟩

def toList (set : WordSet) : List String := set.words

def size (set : WordSet) : Nat := set.words.length

def isEmpty (set : WordSet) : Bool := set.words.isEmpty

def contains (set : WordSet) (word : String) : Bool := set.words.contains word

def insertIn (word : String) : List String → List String
  | [] => [word]
  | other :: rest =>
    if word < other then word :: other :: rest
    else if word = other then other :: rest
    else other :: insertIn word rest

theorem mem_insertIn {word other : String} {words : List String} :
    other ∈ insertIn word words ↔ other = word ∨ other ∈ words := by
  induction words with
  | nil => simp [insertIn]
  | cons first rest ih =>
    rw [insertIn]
    split
    · simp
    split
    · rename_i same
      simp [same]
    · rw [List.mem_cons, ih, List.mem_cons]
      exact or_left_comm

theorem ordered_insertIn (word : String) {words : List String}
    (ordered : words.Pairwise (· < ·)) : (insertIn word words).Pairwise (· < ·) := by
  induction words with
  | nil => simp [insertIn]
  | cons first rest ih =>
    rw [List.pairwise_cons] at ordered
    rw [insertIn]
    split
    · rename_i less
      refine List.pairwise_cons.mpr ⟨fun other member => ?_, List.pairwise_cons.mpr ordered⟩
      rcases List.mem_cons.mp member with same | inRest
      · exact same ▸ less
      · exact String.lt_trans less (ordered.1 other inRest)
    split
    · exact List.pairwise_cons.mpr ordered
    · rename_i notLess different
      refine List.pairwise_cons.mpr ⟨fun other member => ?_, ih ordered.2⟩
      rcases mem_insertIn.mp member with same | inRest
      · exact same ▸ Std.lt_of_le_of_ne (Std.not_lt.mp notLess) (Ne.symm different)
      · exact ordered.1 other inRest

def insert (word : String) (set : WordSet) : WordSet :=
  ⟨insertIn word set.words, ordered_insertIn word set.ordered⟩

def insertAll (set : WordSet) (words : List String) : WordSet :=
  words.foldl (fun set word => set.insert word) set

def union (first second : WordSet) : WordSet := first.insertAll second.words

instance : Union WordSet := ⟨union⟩

instance : EmptyCollection WordSet := ⟨empty⟩

instance : Singleton String WordSet := ⟨fun word => empty.insert word⟩

instance : Membership String WordSet := ⟨fun set word => word ∈ set.words⟩

theorem mem_insert {word other : String} {set : WordSet} :
    other ∈ set.insert word ↔ other = word ∨ other ∈ set :=
  mem_insertIn

theorem mem_insertAll {word : String} {set : WordSet} {words : List String} :
    word ∈ set.insertAll words ↔ word ∈ set ∨ word ∈ words := by
  induction words generalizing set with
  | nil => simp [insertAll]
  | cons first rest ih =>
    have step : set.insertAll (first :: rest) = (set.insert first).insertAll rest := rfl
    rw [step, ih, mem_insert, List.mem_cons, or_assoc, or_left_comm]

theorem mem_union {word : String} {first second : WordSet} :
    word ∈ first ∪ second ↔ word ∈ first ∨ word ∈ second :=
  mem_insertAll

end WordSet

end Wikitext
