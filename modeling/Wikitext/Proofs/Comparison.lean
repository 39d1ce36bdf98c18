import Wikitext.Comparison
import Wikitext.Proofs.Evaluation.Success

/-!
Comparison by keys. Content that can be flattened is equal exactly where its keys are, so equality
is an equivalence, and the form of markup, text or tree, makes no difference.
-/
namespace Wikitext
open Text Markup

theorem TextComparison.equals_iff (comparison : TextComparison) (first second : String) :
    comparison.equals first second = true ↔ comparison.fold first = comparison.fold second := by
  cases comparison with
  | ordinal => exact beq_iff_eq
  | ignoreCase => exact beq_iff_eq

namespace Comparer
variable {comparer : Comparer}

theorem key_eq_ok {content : Content} {text : String} (flat : comparer.flatten content = .ok text) :
    comparer.key content = .ok (comparer.comparison.fold text) := by
  rw [key, flat]
  rfl

theorem equals_eq_ok {first second : Content} {left right : String}
    (one : comparer.flatten first = .ok left) (other : comparer.flatten second = .ok right) :
    comparer.equals (some first) (some second) = .ok (comparer.comparison.equals left right) := by
  rw [equals, one, other]
  rfl

theorem equals_eq_error {first second : Content}
    (failed : (∃ error, comparer.flatten first = .error error) ∨
      ∃ error, comparer.flatten second = .error error) :
    ∃ error, comparer.equals (some first) (some second) = .error error := by
  rw [equals]
  cases one : comparer.flatten first with
  | error error => exact ⟨error, rfl⟩
  | ok left =>
    rcases failed with ⟨error, bad⟩ | ⟨error, bad⟩
    · rw [one] at bad
      cases bad
    · exact ⟨error, by rw [bad]; rfl⟩

theorem flattened_or_failed (first second : Content) :
    (∃ left right, comparer.flatten first = .ok left ∧ comparer.flatten second = .ok right) ∨
      (∃ error, comparer.flatten first = .error error) ∨
        ∃ error, comparer.flatten second = .error error := by
  cases one : comparer.flatten first with
  | error error => exact .inr (.inl ⟨error, rfl⟩)
  | ok left =>
    cases other : comparer.flatten second with
    | error error => exact .inr (.inr ⟨error, rfl⟩)
    | ok right => exact .inl ⟨left, right, rfl, rfl⟩

def Flattens (comparer : Comparer) (value : Option Content) : Prop :=
  ∀ content, value = some content → ∃ text, comparer.flatten content = .ok text

/-- What values are compared by: their keys, and for absent content none. -/
def mark (comparer : Comparer) : Option Content → Except EvaluationError (Option String)
  | none => .ok none
  | some content => (comparer.key content).map some

theorem mark_eq_ok {content : Content} {text : String}
    (flat : comparer.flatten content = .ok text) :
    comparer.mark (some content) = .ok (some (comparer.comparison.fold text)) := by
  rw [mark, key_eq_ok flat]
  rfl

theorem equals_iff_mark {first second : Option Content} (one : comparer.Flattens first)
    (other : comparer.Flattens second) :
    comparer.equals first second = .ok true ↔ comparer.mark first = comparer.mark second := by
  cases first with
  | none =>
    cases second with
    | none => exact ⟨fun _ => rfl, fun _ => rfl⟩
    | some content =>
      obtain ⟨text, flat⟩ := other content rfl
      rw [mark_eq_ok flat, mark, equals]
      simp
  | some content =>
    obtain ⟨text, flat⟩ := one content rfl
    cases second with
    | none =>
      rw [mark_eq_ok flat, mark, equals]
      simp
    | some another =>
      obtain ⟨more, even⟩ := other another rfl
      rw [equals_eq_ok flat even, mark_eq_ok flat, mark_eq_ok even]
      simp [comparer.comparison.equals_iff]

theorem equals_comm (first second : Option Content) :
    (comparer.equals first second).toOption = (comparer.equals second first).toOption := by
  cases first with
  | none => cases second <;> rfl
  | some content =>
    cases second with
    | none => rfl
    | some another =>
      rcases comparer.flattened_or_failed content another with ⟨left, right, one, other⟩ | failed
      · rw [equals_eq_ok one other, equals_eq_ok other one]
        have same : comparer.comparison.equals left right =
            comparer.comparison.equals right left := by
          rw [Bool.eq_iff_iff, TextComparison.equals_iff, TextComparison.equals_iff, eq_comm]
        rw [same]
      · obtain ⟨error, one⟩ := equals_eq_error failed
        obtain ⟨reason, other⟩ := equals_eq_error failed.symm
        rw [one, other]
        rfl

theorem flatten_parse (comparer : Comparer) (source : String) :
    comparer.flatten (.text source) =
      comparer.flatten (.nodes (parse comparer.context.site.tags source)) := by
  rw [flatten, flatten, evaluate, evaluate, Context.evaluateText_eq]

/-- Both orders of two values give the same answer or both fail. Content is equal exactly where its
keys are, unless a side cannot be flattened; what is absent equals only what is absent, whatever the
other side would come to. On all values that can be flattened this is an equivalence. -/
theorem equals_by_key (comparer : Comparer) :
    (∀ first second, (comparer.equals first second).toOption =
        (comparer.equals second first).toOption) ∧
      (∀ first second,
        ((∃ error, comparer.equals (some first) (some second) = .error error) ↔
          (∃ error, comparer.flatten first = .error error) ∨
            ∃ error, comparer.flatten second = .error error) ∧
        ∀ answer, comparer.equals (some first) (some second) = .ok answer →
          (answer = true ↔ comparer.key first = comparer.key second)) ∧
      comparer.equals none none = .ok true ∧
      (∀ content, comparer.equals none (some content) = .ok false ∧
        comparer.equals (some content) none = .ok false) ∧
      (Equivalence fun first second : {value // comparer.Flattens value} =>
        comparer.equals first.1 second.1 = .ok true) ∧
      ∀ source,
        comparer.flatten (.text source) =
            comparer.flatten (.nodes (parse comparer.context.site.tags source)) ∧
          comparer.key (.text source) =
            comparer.key (.nodes (parse comparer.context.site.tags source)) := by
  refine ⟨equals_comm, ?_, rfl, fun content => ⟨rfl, rfl⟩, ?_, ?_⟩
  · intro first second
    rcases comparer.flattened_or_failed first second with ⟨left, right, one, other⟩ | failed
    · rw [equals_eq_ok one other, one, other]
      refine ⟨by simp, ?_⟩
      intro answer same
      cases same
      rw [TextComparison.equals_iff, key_eq_ok one, key_eq_ok other]
      simp
    · refine ⟨⟨fun _ => failed, fun _ => equals_eq_error failed⟩, ?_⟩
      intro answer same
      obtain ⟨error, other⟩ := equals_eq_error failed
      rw [other] at same
      cases same
  · constructor
    · rintro ⟨value, flat⟩
      exact (equals_iff_mark flat flat).mpr rfl
    · rintro ⟨first, one⟩ ⟨second, other⟩ same
      exact (equals_iff_mark other one).mpr ((equals_iff_mark one other).mp same).symm
    · rintro ⟨first, one⟩ ⟨second, other⟩ ⟨third, last⟩ left right
      exact (equals_iff_mark one last).mpr
        (((equals_iff_mark one other).mp left).trans ((equals_iff_mark other last).mp right))
  · intro source
    have same := comparer.flatten_parse source
    exact ⟨same, by rw [key, key, same]⟩

end Comparer

end Wikitext
