import Mathlib.Data.List.DropRight
import Wikitext.Frame

/-!
Trimmed text. Trimming takes away nothing but blanks at the ends and leaves none there, and the
name of a call is the trimmed text in front of the first colon.
-/
namespace Wikitext
open Text

namespace Text

theorem dropWhile_of_prefix {test : Char → Bool} {cs more : List Char} (start : cs <+: more)
    (stopped : more.dropWhile test = more) : cs.dropWhile test = cs := by
  rw [List.dropWhile_eq_self_iff] at stopped ⊢
  intro nonempty
  have longer := start.length_le
  rw [start.getElem nonempty]
  exact stopped (by omega)

theorem trimChars_trimChars (cs : List Char) : trimChars (trimChars cs) = trimChars cs := by
  have front : (trimChars cs).dropWhile isBlank = trimChars cs :=
    dropWhile_of_prefix (List.rdropWhile_prefix isBlank _) (List.dropWhile_idempotent isBlank cs)
  calc trimChars (trimChars cs)
      = dropEndWhile isBlank (trimChars cs) := by rw [trimChars, front]
    _ = trimChars cs := List.rdropWhile_idempotent isBlank _

theorem trimChars_sublist (cs : List Char) : (trimChars cs).Sublist cs :=
  (List.rdropWhile_prefix isBlank _).sublist.trans (List.dropWhile_sublist isBlank)

theorem trimChars_concat {c : Char} (blank : isBlank c = true) (cs : List Char) :
    trimChars (cs ++ [c]) = trimChars cs := by
  rw [trimChars, trimChars, List.dropWhile_append]
  split
  · rename_i none
    rw [List.isEmpty_iff.mp none]
    simp [blank]
  · exact List.rdropWhile_concat_pos isBlank _ c blank

theorem trimChars_eq_nil {cs : List Char} : trimChars cs = [] ↔ ∀ c ∈ cs, isBlank c = true := by
  rw [← List.dropWhile_eq_nil_iff, trimChars]
  constructor
  · intro none
    have all : ∀ c ∈ cs.dropWhile isBlank, isBlank c = true := List.rdropWhile_eq_nil_iff.mp none
    cases rest : cs.dropWhile isBlank with
    | nil => rfl
    | cons c others =>
      have start := List.head?_dropWhile_not isBlank cs
      simp only [rest, List.head?_cons] at start
      rw [all c (rest ▸ List.mem_cons_self)] at start
      contradiction
  · intro none
    rw [none]
    rfl

theorem trim_eq_empty {s : String} : trim s = "" ↔ ∀ c ∈ s.toList, isBlank c = true := by
  rw [← trimChars_eq_nil, ← String.toList_eq_nil_iff, trim, String.toList_ofList]

theorem trim_trim (s : String) : trim (trim s) = trim s := by
  rw [trim, trim, String.toList_ofList, trimChars_trimChars]

theorem takeWhile_of_cutFirst {mark : Char} {cs : List Char} :
    cs.takeWhile (· != mark) = ((cutFirst mark cs).map Prod.fst).getD cs := by
  unfold cutFirst
  split
  · rename_i none
    have whole := List.takeWhile_append_dropWhile (p := (· != mark)) (l := cs)
    rwa [none, List.append_nil] at whole
  · rfl

end Text

theorem name_ofInvocation (invocation : String) (passed : List Passed) :
    (Call.ofInvocation invocation passed).name =
      trim (String.ofList (invocation.toList.takeWhile (· != ':'))) := by
  rw [takeWhile_of_cutFirst, Call.ofInvocation]
  cases cut : cutFirst ':' invocation.toList with
  | none => rw [Option.map_none, Option.getD_none, String.ofList_toList]
  | some parts => simp only [Option.map_some, Option.getD_some, trim, String.toList_ofList]

theorem trim_name_ofInvocation (invocation : String) (passed : List Passed) :
    trim (Call.ofInvocation invocation passed).name =
      (Call.ofInvocation invocation passed).name := by
  rw [name_ofInvocation, trim_trim]

theorem colon_not_mem_name (invocation : String) (passed : List Passed) :
    ':' ∉ (Call.ofInvocation invocation passed).name.toList := by
  rw [name_ofInvocation, trim, String.toList_ofList, String.toList_ofList]
  intro member
  have before := (trimChars_sublist _).subset member
  have passes := List.mem_takeWhile_imp before
  simp at passes

end Wikitext
