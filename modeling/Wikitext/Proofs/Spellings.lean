import Wikitext.Builtin
import Wikitext.Proofs.Registrations
import Wikitext.Site.Standard

/-!
Words that ignore case, and the spellings of their names. Whether a name is found does not depend on
its case. Which handler it finds does, where several words have aliases that are the same but for
case: a name that is spelled like an alias stays with the last word spelled so, and a word that is
registered later takes over the other spellings only.
-/
namespace Wikitext
open Text

namespace Registration

def ignoresCase (kind : WordKind) (registration : Registration) : Bool :=
  (registration.wordOf? kind).all fun entry => !entry.caseSensitive

theorem folds_congr {kind : WordKind} {name other : String} (same : lower name = lower other) :
    folds kind name = folds kind other := by
  unfold folds
  rw [same]

theorem folds_of_spells {kind : WordKind} {name : String} {registration : Registration}
    (ignoring : registration.ignoresCase kind = true)
    (spelled : registration.spells kind name = true) : registration.folds kind name = true := by
  unfold ignoresCase at ignoring
  unfold spells at spelled
  unfold folds
  generalize registration.wordOf? kind = found at ignoring spelled
  cases found with
  | none => contradiction
  | some entry =>
    simp only [Option.any_some, List.any_eq_true, beq_iff_eq] at spelled
    obtain ⟨spelling, member, same⟩ := spelled
    rw [Option.all_some] at ignoring
    simp only [Option.any_some, ignoring, Bool.true_and, List.any_eq_true, beq_iff_eq]
    exact ⟨spelling, member, by rw [same]⟩

end Registration

open Registration

/-- A registration spells the name, and after the last one that does comes one of a word that
ignores case and has the name in another spelling. -/
def Outdated (kind : WordKind) (name : String) (history : List Registration) : Prop :=
  ∃ before last after, history = before ++ last :: after ∧ before.any (spells kind name) = true ∧
    last.folds kind name = true ∧
    ∀ registration ∈ last :: after, registration.spells kind name = false

section
variable {kind : WordKind} {name other : String} {history : List Registration}

theorem outdated_concat {last : Registration} :
    Outdated kind name (history ++ [last]) ↔ last.spells kind name = false ∧
      (Outdated kind name history ∨
        history.any (spells kind name) = true ∧ last.folds kind name = true) := by
  constructor
  · rintro ⟨before, middle, after, whole, spelled, folded, others⟩
    rcases List.eq_nil_or_concat after with none | ⟨rest, final, more⟩
    · rw [none] at whole
      obtain ⟨rfl, same⟩ := List.append_inj' whole rfl
      cases same
      exact ⟨others last List.mem_cons_self, .inr ⟨spelled, folded⟩⟩
    · rw [List.concat_eq_append] at more
      subst more
      rw [← List.cons_append, ← List.append_assoc] at whole
      obtain ⟨rfl, same⟩ := List.append_inj' whole rfl
      cases same
      refine ⟨others last (by simp), .inl ⟨before, middle, rest, rfl, spelled, folded, ?_⟩⟩
      intro registration member
      apply others
      rw [← List.cons_append]
      exact List.mem_append_left _ member
  · rintro ⟨unspelled, ⟨before, middle, after, rfl, spelled, folded, others⟩ | ⟨spelled, folded⟩⟩
    · refine ⟨before, middle, after ++ [last], by simp, spelled, folded, ?_⟩
      intro registration member
      rw [← List.cons_append] at member
      rcases List.mem_append.mp member with early | final
      · exact others registration early
      · rwa [List.mem_singleton.mp final]
    · refine ⟨history, last, [], rfl, spelled, folded, ?_⟩
      intro registration member
      rwa [List.mem_singleton.mp member]

theorem Outdated.any (outdated : Outdated kind name history) :
    history.any (spells kind name) = true := by
  obtain ⟨before, last, after, rfl, spelled, _⟩ := outdated
  rw [List.any_append, spelled, Bool.true_or]

theorem isSome_latest (test : Registration → Bool) (history : List Registration) :
    (latest test history).isSome = history.any test := by
  induction history using List.reverseRecOn with
  | nil => rfl
  | append_singleton history last ih =>
    rw [latest_concat, List.any_append, ← ih]
    by_cases passes : test last = true <;> simp [passes]

namespace Registry

/-- A word that ignores case takes over the names that it spells, and of the names that it only
folds to those that no word before it spells. -/
theorem find?_concat {last : Registration} (ignoring : last.ignoresCase kind = true) :
    ((ofHistory (history ++ [last])).table kind).find? name =
      if last.folds kind name && (last.spells kind name || !history.any (spells kind name)) then
        some last.handler
      else ((ofHistory history).table kind).find? name := by
  rw [find?_table_ofHistory, find?_table_ofHistory, latest_concat, latest_concat, ← isSome_latest]
  by_cases spelled : last.spells kind name = true
  · rw [if_pos spelled, folds_of_spells ignoring spelled, spelled]
    rfl
  · rw [if_neg spelled, Bool.eq_false_iff.mpr spelled, Bool.false_or]
    by_cases folded : last.folds kind name = true
    · rw [if_pos folded, folded, Bool.true_and]
      cases latest (spells kind name) history with
      | none => rfl
      | some handler => rfl
    · rw [if_neg folded, Bool.eq_false_iff.mpr folded, Bool.false_and]
      rfl

theorem find?_of_not_outdated
    (ignoring : ∀ registration ∈ history, registration.ignoresCase kind = true)
    (current : ¬Outdated kind name history) :
    ((ofHistory history).table kind).find? name = latest (folds kind name) history := by
  induction history using List.reverseRecOn with
  | nil =>
    rw [find?_table_ofHistory]
    rfl
  | append_singleton history last ih =>
    have earlier : ∀ registration ∈ history, registration.ignoresCase kind = true :=
      fun registration member => ignoring registration (List.mem_append_left _ member)
    have own : last.ignoresCase kind = true := ignoring last (by simp)
    rw [outdated_concat] at current
    rw [find?_concat own, latest_concat]
    by_cases folded : last.folds kind name = true
    · -- the last word spells the name, or no word before it does
      have taken : (last.spells kind name || !history.any (spells kind name)) = true := by
        cases spelled : last.spells kind name with
        | true => rfl
        | false =>
          cases known : history.any (spells kind name) with
          | true => exact absurd ⟨spelled, .inr ⟨known, folded⟩⟩ current
          | false => rfl
      rw [folded, taken]
      rfl
    · have unspelled : last.spells kind name = false :=
        Bool.eq_false_iff.mpr fun spelled => folded (folds_of_spells own spelled)
      rw [if_neg folded, Bool.eq_false_iff.mpr folded, Bool.false_and]
      exact ih earlier fun outdated => current ⟨unspelled, .inl outdated⟩

theorem find?_of_outdated (outdated : Outdated kind name history) :
    ((ofHistory history).table kind).find? name = latest (spells kind name) history := by
  have known : (latest (spells kind name) history).isSome = true := by
    rw [isSome_latest, outdated.any]
  obtain ⟨handler, found⟩ := Option.isSome_iff_exists.mp known
  rw [find?_table_ofHistory, found]
  rfl

theorem isSome_find? (ignoring : ∀ registration ∈ history, registration.ignoresCase kind = true) :
    (((ofHistory history).table kind).find? name).isSome = history.any (folds kind name) := by
  rw [find?_table_ofHistory, Option.orElse_eq_orElse, Option.orElse_eq_or, Option.isSome_or,
    isSome_latest, isSome_latest, Bool.or_eq_right_iff_imp]
  intro spelled
  obtain ⟨registration, member, found⟩ := List.any_eq_true.mp spelled
  exact List.any_eq_true.mpr ⟨registration, member, folds_of_spells (ignoring _ member) found⟩

end Registry

end

/-- Of words that ignore case, a name finds one in every case or in none, and the same one in two
cases that are not outdated; an outdated name finds the last word spelled like it. A word registered
later takes over every case of its aliases, except where another word is spelled so and it is not,
and changes no other name. -/
theorem find?_ignoringCase (history : List Registration) (kind : WordKind)
    (ignoring : ∀ registration ∈ history, registration.ignoresCase kind = true)
    (name other : String) (same : lower name = lower other) :
    let table := (Registry.ofHistory history).table kind
    (table.find? name).isSome = (table.find? other).isSome ∧
      (¬Outdated kind name history → ¬Outdated kind other history →
        table.find? name = table.find? other) ∧
      (Outdated kind name history → table.find? name = latest (spells kind name) history) ∧
      ∀ last : Registration, last.ignoresCase kind = true →
        ((Registry.ofHistory (history ++ [last])).table kind).find? name =
          if last.folds kind name && (last.spells kind name || !history.any (spells kind name)) then
            some last.handler
          else table.find? name := by
  intro table
  refine ⟨?found, ?current, Registry.find?_of_outdated, fun last => Registry.find?_concat⟩
  case found =>
    rw [Registry.isSome_find? ignoring, Registry.isSome_find? ignoring, folds_congr same]
  case current =>
    intro current otherCurrent
    rw [Registry.find?_of_not_outdated ignoring current,
      Registry.find?_of_not_outdated ignoring otherCurrent, folds_congr same]

def twoWords : Site :=
  { Site.standard with
    words := .ofList [("small", ⟨false, ["Foo"]⟩), ("large", ⟨false, ["FOO"]⟩)] }

def smallWord : Registration := .word twoWords .function "small" Builtin.ignore

def largeWord : Registration := .word twoWords .function "large" Builtin.pipe

theorem find?_lower_foo :
    (∀ registration ∈ [smallWord, largeWord], registration.ignoresCase .function = true) ∧
      lower "foo" = lower "FOO" ∧ ¬Outdated .function "foo" [smallWord, largeWord] ∧
      ¬Outdated .function "FOO" [smallWord, largeWord] ∧
      ((Registry.ofHistory [smallWord, largeWord]).table .function).find? "foo" =
        ((Registry.ofHistory [smallWord, largeWord]).table .function).find? "FOO" := by
  have ignoring : ∀ registration ∈ [smallWord, largeWord],
      registration.ignoresCase .function = true := by decide +kernel
  have same : lower "foo" = lower "FOO" := by decide +kernel
  have unspelled : [smallWord, largeWord].any (spells .function "foo") = false := by
    decide +kernel
  have spelled : largeWord.spells .function "FOO" = true := by decide +kernel
  have small : ¬Outdated .function "foo" [smallWord, largeWord] := by
    intro outdated
    rw [outdated.any] at unspelled
    contradiction
  have large : ¬Outdated .function "FOO" ([smallWord] ++ [largeWord]) := by
    rw [outdated_concat, spelled]
    simp
  obtain ⟨_, current, _⟩ := find?_ignoringCase _ .function ignoring "foo" "FOO" same
  exact ⟨ignoring, same, small, large, current small large⟩

/-- The second word has the first one's alias in another case, and the first one keeps it. -/
theorem find?_two_spellings :
    (∀ registration ∈ [smallWord, largeWord], registration.ignoresCase .function = true) ∧
      lower "Foo" = lower "FOO" ∧ largeWord.folds .function "Foo" = true ∧
      ((Registry.ofHistory [smallWord, largeWord]).table .function).find? "Foo" =
        some Builtin.ignore ∧
      ((Registry.ofHistory [smallWord, largeWord]).table .function).find? "FOO" =
        some Builtin.pipe ∧
      Builtin.ignore ≠ Builtin.pipe := by
  have tests : smallWord.spells .function "Foo" = true ∧ largeWord.spells .function "Foo" = false ∧
      largeWord.spells .function "FOO" = true := by decide +kernel
  obtain ⟨small, apart, large⟩ := tests
  refine ⟨by decide +kernel, by decide +kernel, by decide +kernel, ?_, ?_, ?_⟩
  · have own : latest (spells .function "Foo") [smallWord, largeWord] = some smallWord.handler := by
      simp [latest, small, apart]
    rw [Registry.find?_table_ofHistory, own]
    rfl
  · have own : latest (spells .function "FOO") [smallWord, largeWord] = some largeWord.handler :=
      (latest_concat _ [smallWord] largeWord).trans (if_pos large)
    rw [Registry.find?_table_ofHistory, own]
    rfl
  · intro same
    have answers := congrFun (congrFun same ⟨twoWords, none, none, fun _ _ => none⟩) Frame.root
    simp [Builtin.ignore, Builtin.pipe] at answers

end Wikitext
