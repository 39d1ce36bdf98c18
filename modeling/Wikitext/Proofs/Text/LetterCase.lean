import Wikitext.Text.Blank
import Wikitext.Text.Case

/-!
The case of single characters. The upper case of a character starts with a character that is its
own upper case, and it has no blank, underscore or colon in it unless the character is one. The
tables are checked range by range: what a range maps to lies in an interval of its own. No text is
lost in lower case.
-/
namespace Wikitext.Text

def separatorRanges : List (Nat × Nat) :=
  [(9, 13), (0x20, 0x20), (0x3A, 0x3A), (0x5F, 0x5F), (0x85, 0x85), (0xA0, 0xA0),
    (0x1680, 0x1680), (0x2000, 0x200A), (0x2028, 0x2029), (0x202F, 0x202F), (0x205F, 0x205F),
    (0x3000, 0x3000)]

def isSeparator (c : Char) : Bool := isBlank c || c == '_' || c == ':'

theorem isSeparator_eq (c : Char) : isSeparator c = inRanges separatorRanges c := by
  have code : ∀ mark : Char, (c == mark) = decide (c.toNat = mark.toNat) := by
    intro mark
    rw [Bool.eq_iff_iff, beq_iff_eq, decide_eq_true_iff]
    exact ⟨congrArg Char.toNat, fun same => Char.ext (UInt32.toNat_inj.mp same)⟩
  rw [Bool.eq_iff_iff]
  simp only [isSeparator, isBlank, inRanges, separatorRanges, code, List.any_cons, List.any_nil,
    Bool.or_eq_true, Bool.and_eq_true, beq_iff_eq, decide_eq_true_iff, Char.reduceToNat,
    Bool.false_eq_true, or_false]
  constructor
  · intro separator
    omega
  · intro listed
    omega

namespace CaseRange
variable (range : CaseRange)

def low : Nat := (range.first + range.shift).toNat

def high : Nat := (range.last + range.shift).toNat

def misses (first last : Nat) : Bool := Nat.blt range.high first || Nat.blt last range.low

/-- The range maps to no code that the other one covers: they are apart, or every code is of
another parity. -/
def avoids (other : CaseRange) : Bool :=
  range.misses other.first other.last ||
    other.stride == 2 && (range.stride == 2 || range.low == range.high) && Nat.blt 0 range.low &&
      (range.low + other.first) % 2 == 1

def escapes : List CaseRange → Bool
  | [] => true
  | other :: rest => Nat.blt range.high other.first || range.avoids other && escapes rest

def lacksExpansion : List (Nat × List Nat) → Bool
  | [] => true
  | entry :: rest => Nat.blt range.high entry.1 || Nat.blt entry.1 range.low &&
      lacksExpansion rest

/-- Every code that the range maps to is its own upper case and no separator. -/
def settles : Bool :=
  range.escapes upperRanges && range.lacksExpansion upperExpansions &&
    separatorRanges.all (fun separator => range.misses separator.1 separator.2) &&
    (Nat.blt range.high 0xD800 || Nat.blt 0xDFFF range.low && Nat.blt range.high 0x110000)

variable {range} {code : Nat}

theorem between (covered : range.covers code = true) :
    range.low ≤ (code + range.shift).toNat ∧ (code + range.shift).toNat ≤ range.high := by
  simp only [covers, Bool.and_eq_true, decide_eq_true_eq] at covered
  simp only [low, high]
  omega

theorem not_covers_of_avoids {other : CaseRange} (apart : range.avoids other = true)
    (covered : range.covers code = true) :
    other.covers (code + range.shift).toNat = false := by
  have placed := between covered
  simp only [covers, Bool.and_eq_true, decide_eq_true_eq, beq_iff_eq] at covered
  simp only [avoids, misses, Bool.or_eq_true, Nat.blt_eq, Bool.and_eq_true, beq_iff_eq] at apart
  rw [covers, Bool.eq_false_iff]
  intro inside
  simp only [Bool.and_eq_true, decide_eq_true_eq, beq_iff_eq] at inside
  rcases apart with apart | ⟨⟨⟨stride, own⟩, positive⟩, parity⟩
  · omega
  · rw [stride] at inside
    rcases own with own | own
    · rw [own] at covered
      simp only [low] at placed parity positive
      omega
    · omega

theorem rangeOf_eq_none {ranges : List CaseRange} (escaped : range.escapes ranges = true)
    (covered : range.covers code = true) :
    rangeOf (code + range.shift).toNat ranges = none := by
  have placed := between covered
  induction ranges with
  | nil => rfl
  | cons other rest ih =>
    simp only [escapes, Bool.or_eq_true, Bool.and_eq_true, Nat.blt_eq] at escaped
    rw [rangeOf]
    split
    · rfl
    · rcases escaped with below | ⟨apart, more⟩
      · omega
      · rw [not_covers_of_avoids apart covered]
        exact ih more

theorem expansionOf_eq_none {expansions : List (Nat × List Nat)}
    (lacking : range.lacksExpansion expansions = true) (covered : range.covers code = true) :
    expansionOf (code + range.shift).toNat expansions = none := by
  have placed := between covered
  induction expansions with
  | nil => rfl
  | cons entry rest ih =>
    simp only [lacksExpansion, Bool.or_eq_true, Bool.and_eq_true, Nat.blt_eq] at lacking
    rw [expansionOf]
    split
    · rfl
    · rcases lacking with below | ⟨above, more⟩
      · omega
      · rw [if_neg (by omega)]
        exact ih more

end CaseRange

theorem mem_of_rangeOf {code : Nat} {ranges : List CaseRange} {range : CaseRange}
    (found : rangeOf code ranges = some range) : range ∈ ranges ∧ range.covers code = true := by
  induction ranges with
  | nil => cases found
  | cons other rest ih =>
    rw [rangeOf] at found
    split at found
    · cases found
    · split at found
      · cases found
        exact ⟨List.mem_cons_self, by assumption⟩
      · obtain ⟨member, covered⟩ := ih found
        exact ⟨List.mem_cons_of_mem other member, covered⟩

theorem mem_of_expansionOf {code : Nat} {expansions : List (Nat × List Nat)} {codes : List Nat}
    (found : expansionOf code expansions = some codes) : (code, codes) ∈ expansions := by
  induction expansions with
  | nil => cases found
  | cons entry rest ih =>
    obtain ⟨other, others⟩ := entry
    rw [expansionOf] at found
    split at found
    · cases found
    · split at found
      · rename_i same
        cases found
        rw [same]
        exact List.mem_cons_self
      · exact List.mem_cons_of_mem _ (ih found)

def settlesExpansion : List Nat → Bool
  | [] => false
  | code :: rest =>
    upperChar (Char.ofNat code) == [Char.ofNat code] &&
      (code :: rest).all fun code => !inRanges separatorRanges (Char.ofNat code)

theorem upperRanges_settle : upperRanges.all CaseRange.settles = true := by decide +kernel

theorem upperExpansions_settle :
    (upperExpansions.all fun entry => settlesExpansion entry.2) = true := by decide +kernel

/-- A character is its own upper case, or its upper case has no separators and starts with a
character that is its own upper case. -/
theorem upperChar_cases (c : Char) :
    upperChar c = [c] ∨ ∃ first rest, upperChar c = first :: rest ∧ upperChar first = [first] ∧
      ∀ other ∈ first :: rest, isSeparator other = false := by
  cases expanded : expansionOf c.toNat upperExpansions with
  | some codes =>
    have settled := List.all_eq_true.mp upperExpansions_settle _ (mem_of_expansionOf expanded)
    have whole : upperChar c = codes.map Char.ofNat := by simp only [upperChar, mapCase, expanded]
    cases codes with
    | nil => cases settled
    | cons code rest =>
      simp only [settlesExpansion, Bool.and_eq_true, beq_iff_eq, List.all_eq_true] at settled
      refine .inr ⟨Char.ofNat code, rest.map Char.ofNat, whole, settled.1, ?_⟩
      intro other member
      rw [← List.map_cons] at member
      obtain ⟨inner, inside, rfl⟩ := List.mem_map.mp member
      have plain := settled.2 inner inside
      rw [isSeparator_eq]
      simpa using plain
  | none =>
    cases ranged : rangeOf c.toNat upperRanges with
    | none =>
      left
      simp only [upperChar, mapCase, expanded, ranged]
    | some range =>
      obtain ⟨member, covered⟩ := mem_of_rangeOf ranged
      have settled := List.all_eq_true.mp upperRanges_settle _ member
      simp only [CaseRange.settles, Bool.and_eq_true, Bool.or_eq_true, Nat.blt_eq,
        List.all_eq_true] at settled
      obtain ⟨⟨⟨escaped, lacking⟩, apart⟩, valid⟩ := settled
      have placed := CaseRange.between covered
      have whole : upperChar c = [Char.ofNat (c.toNat + range.shift).toNat] := by
        simp only [upperChar, mapCase, expanded, ranged]
      have scalar : (c.toNat + range.shift).toNat.isValidChar := by
        rw [Nat.isValidChar]
        omega
      have code : (Char.ofNat (c.toNat + range.shift).toNat).toNat =
          (c.toNat + range.shift).toNat := by
        rw [Char.ofNat, dif_pos scalar]
        rfl
      refine .inr ⟨_, [], whole, ?_, ?_⟩
      · simp only [upperChar, mapCase, code, CaseRange.expansionOf_eq_none lacking covered,
          CaseRange.rangeOf_eq_none escaped covered]
      · intro other member
        rw [List.mem_singleton.mp member, isSeparator_eq, inRanges, List.any_eq_false]
        intro separator listed inside
        have missed := apart separator listed
        simp only [CaseRange.misses, Bool.or_eq_true, Nat.blt_eq] at missed
        simp only [code, Bool.and_eq_true, decide_eq_true_eq] at inside
        omega

theorem upperChar_ne_nil (c : Char) : upperChar c ≠ [] := by
  rcases upperChar_cases c with same | ⟨first, rest, upper, _⟩
  · simp [same]
  · simp [upper]

theorem upperExpansions_end :
    (upperExpansions.all fun entry =>
      (entry.2.map Char.ofNat).getLast? != some (Char.ofNat entry.1)) = true := by
  decide +kernel

theorem upperChar_of_getLast? {c : Char} (last : (upperChar c).getLast? = some c) :
    upperChar c = [c] := by
  unfold upperChar mapCase at last ⊢
  split at last
  · rename_i codes expanded
    have apart := List.all_eq_true.mp upperExpansions_end _ (mem_of_expansionOf expanded)
    simp [last] at apart
  · simp only [List.getLast?_singleton, Option.some.injEq] at last
    simp only [last]
  · rfl

theorem lowerExpansions_some : (lowerExpansions.all fun entry => !entry.2.isEmpty) = true := by
  decide +kernel

theorem lowerChar_ne_nil (c : Char) : lowerChar c ≠ [] := by
  unfold lowerChar mapCase
  split
  · rename_i codes expanded
    have some := List.all_eq_true.mp lowerExpansions_some _ (mem_of_expansionOf expanded)
    simpa using some
  · simp
  · simp

theorem lower_eq_empty {s : String} (empty : lower s = "") : s = "" := by
  rw [lower] at empty
  have none : lowerAfter [] s.toList = [] := by
    simpa using congrArg String.toList empty
  cases whole : s.toList with
  | nil => exact String.toList_eq_nil_iff.mp whole
  | cons c cs =>
    rw [whole, lowerAfter] at none
    have front := (List.append_eq_nil_iff.mp none).1
    split at front
    · split at front <;> contradiction
    · exact absurd front (lowerChar_ne_nil c)

end Wikitext.Text
