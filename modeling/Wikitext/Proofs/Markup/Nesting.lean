import Mathlib.Logic.ExistsUnique
import Wikitext.Proofs.Markup.LinkPairing

/-!
Bracket words. A stack that takes every opening and gives it back at its closing reads the tokens
of a text to the end and is empty there, so each delimiter has one partner and no two pairs cross.
-/
namespace Wikitext.Markup

def shift (stack : List Bracket) : Token → Option (List Bracket)
  | .opens bracket => some (bracket :: stack)
  | .closes bracket =>
    match stack with
    | [] => none
    | top :: below => if top = bracket then some below else none
  | .leaf _ => some stack

def nest (stack : List Bracket) (word : List Token) : Option (List Bracket) :=
  word.foldlM shift stack

def WellNested (word : List Token) : Prop := nest [] word = some []

instance (word : List Token) : Decidable (WellNested word) :=
  inferInstanceAs (Decidable (nest [] word = some []))

/-- The opening at `i` and the closing at `j` stand around a well-nested word. -/
def Partners (word : List Token) (bracket : Bracket) (i j : Nat) : Prop :=
  ∃ before inner after, word = before ++ .opens bracket :: (inner ++ .closes bracket :: after) ∧
    before.length = i ∧ j = i + 1 + inner.length ∧ WellNested inner

theorem nest_cons (stack : List Bracket) (token : Token) (word : List Token) :
    nest stack (token :: word) = (shift stack token).bind fun next => nest next word := rfl

theorem nest_append (stack : List Bracket) (first second : List Token) :
    nest stack (first ++ second) = (nest stack first).bind fun next => nest next second := by
  unfold nest
  rw [List.foldlM_append]
  rfl

theorem shift_closes_eq_some {stack next : List Bracket} {bracket : Bracket}
    (step : shift stack (.closes bracket) = some next) : stack = bracket :: next := by
  cases stack with
  | nil => simp [shift] at step
  | cons top below =>
    simp only [shift] at step
    split at step
    · rename_i same
      rw [same, Option.some.inj step]
    · simp at step

theorem shift_below {stack next : List Bracket} {token : Token} (below : List Bracket)
    (step : shift stack token = some next) :
    shift (stack ++ below) token = some (next ++ below) := by
  cases token with
  | opens bracket =>
    rw [← Option.some.inj step]
    rfl
  | closes bracket =>
    rw [shift_closes_eq_some step]
    simp [shift]
  | leaf content =>
    rw [← Option.some.inj step]
    rfl

theorem nest_below {stack next : List Bracket} {word : List Token} (below : List Bracket)
    (read : nest stack word = some next) :
    nest (stack ++ below) word = some (next ++ below) := by
  induction word generalizing stack with
  | nil =>
    rw [← Option.some.inj read]
    rfl
  | cons token word ih =>
    rw [nest_cons] at read
    obtain ⟨middle, step, rest⟩ := Option.bind_eq_some_iff.mp read
    rw [nest_cons, shift_below below step]
    exact ih rest

theorem nest_wellNested {word : List Token} (nested : WellNested word) (stack : List Bracket) :
    nest stack word = some stack :=
  nest_below stack nested

theorem nest_group {inner : List Token} (nested : WellNested inner) (stack : List Bracket)
    (bracket : Bracket) (after : List Token) :
    nest stack (.opens bracket :: (inner ++ .closes bracket :: after)) = nest stack after := by
  have opened : nest (bracket :: stack) (inner ++ .closes bracket :: after) =
      nest (bracket :: stack) (.closes bracket :: after) := by
    rw [nest_append, nest_wellNested nested]
    rfl
  have closed : shift (bracket :: stack) (.closes bracket) = some stack := by simp [shift]
  calc
    nest stack (.opens bracket :: (inner ++ .closes bracket :: after))
      = nest (bracket :: stack) (.closes bracket :: after) := opened
    _ = nest stack after := by rw [nest_cons, closed]; rfl

theorem closing_found {bracket : Bracket} {stack : List Bracket} {word : List Token}
    (read : nest (bracket :: stack) word = some []) :
    ∃ inner after, word = inner ++ .closes bracket :: after ∧ WellNested inner ∧
      nest stack after = some [] := by
  induction size : word.length using Nat.strongRecOn generalizing word bracket stack with
  | ind size' ih =>
    cases word with
    | nil => simp [nest, pure] at read
    | cons token rest =>
      rw [nest_cons] at read
      have shorter : rest.length < size' := by
        rw [← size]
        exact Nat.lt_succ_self _
      cases token with
      | leaf content =>
        obtain ⟨inner, after, whole, nested, final⟩ := ih _ shorter read rfl
        exact ⟨.leaf content :: inner, after, by rw [whole]; rfl, nested, final⟩
      | closes other =>
        obtain ⟨next, step, final⟩ := Option.bind_eq_some_iff.mp read
        have tops := shift_closes_eq_some step
        rw [List.cons.injEq] at tops
        exact ⟨[], rest, by rw [tops.1]; rfl, rfl, by rw [tops.2]; exact final⟩
      | opens other =>
        -- first the partner of this opening, then what was asked for in the word after it
        obtain ⟨inside, behind, first, insideNested, middle⟩ := ih _ shorter read rfl
        have evenShorter : behind.length < size' := by
          have := congrArg List.length first
          simp only [List.length_append, List.length_cons] at this
          omega
        obtain ⟨inner, after, second, innerNested, final⟩ := ih _ evenShorter middle rfl
        refine ⟨.opens other :: (inside ++ .closes other :: inner), after, ?_, ?_, final⟩
        · rw [first, second]
          simp
        · unfold WellNested
          rw [nest_group insideNested]
          exact innerNested

theorem opening_found {bracket : Bracket} {stack : List Bracket} {word : List Token}
    (read : nest [] word = some (bracket :: stack)) :
    ∃ before inner, word = before ++ .opens bracket :: inner ∧ nest [] before = some stack ∧
      WellNested inner := by
  induction size : word.length using Nat.strongRecOn generalizing word bracket stack with
  | ind size' ih =>
    rcases List.eq_nil_or_concat word with rfl | ⟨front, token, rfl⟩
    · simp [nest, pure] at read
    · rw [List.concat_eq_append] at size read ⊢
      have shorter : front.length < size' := by
        rw [← size]
        simp
      rw [nest_append] at read
      obtain ⟨next, start, step⟩ := Option.bind_eq_some_iff.mp read
      have step : shift next token = some (bracket :: stack) := by
        simpa [nest] using step
      cases token with
      | leaf content =>
        obtain ⟨before, inner, whole, left, nested⟩ :=
          ih _ shorter (start.trans step) rfl
        refine ⟨before, inner ++ [.leaf content], by rw [whole]; simp, left, ?_⟩
        unfold WellNested
        rw [nest_append, nested]
        rfl
      | opens other =>
        have tops := Option.some.inj step
        rw [List.cons.injEq] at tops
        exact ⟨front, [], by rw [tops.1], by rw [start, tops.2], rfl⟩
      | closes other =>
        have tops := shift_closes_eq_some step
        rw [tops] at start
        obtain ⟨before, inside, first, middle, insideNested⟩ := ih _ shorter start rfl
        have evenShorter : before.length < size' := by
          have := congrArg List.length first
          simp only [List.length_append, List.length_cons] at this
          omega
        obtain ⟨earlier, inner, second, left, innerNested⟩ := ih _ evenShorter middle rfl
        refine ⟨earlier, inner ++ .opens other :: (inside ++ [.closes other]), ?_, left, ?_⟩
        · rw [first, second]
          simp
        · unfold WellNested
          rw [nest_append, innerNested]
          exact nest_group insideNested [] other []

theorem cuts_compared {before earlier first second : List Token} {token other : Token}
    (same : before ++ token :: first = earlier ++ other :: second) :
    before = earlier ∨
      (∃ more, earlier = before ++ token :: more ∧ first = more ++ other :: second) ∨
      ∃ more, before = earlier ++ other :: more ∧ second = more ++ token :: first := by
  rcases List.append_eq_append_iff.mp same with ⟨more, whole, rest⟩ | ⟨more, whole, rest⟩
  · cases more with
    | nil => exact .inl (by rw [whole, List.append_nil])
    | cons head more =>
      rw [List.cons_append, List.cons.injEq] at rest
      exact .inr (.inl ⟨more, by rw [whole, rest.1], rest.2⟩)
  · cases more with
    | nil => exact .inl (by rw [whole, List.append_nil])
    | cons head more =>
      rw [List.cons_append, List.cons.injEq] at rest
      exact .inr (.inr ⟨more, by rw [whole, rest.1], rest.2⟩)

/-- A closing after a well-nested word ends the word: no longer one starts the same text. -/
theorem wellNested_unique_before_closing {first second after behind : List Token}
    {bracket other : Bracket} (nested : WellNested first) (otherNested : WellNested second)
    (same : first ++ .closes bracket :: after = second ++ .closes other :: behind) :
    first = second := by
  have longer : ∀ {short long rest : List Token} {b : Bracket}, WellNested short →
      WellNested long → long ≠ short ++ .closes b :: rest := by
    intro short long rest b shortNested longNested whole
    unfold WellNested at longNested
    rw [whole, nest_append, shortNested] at longNested
    simp [nest_cons, shift] at longNested
  rcases cuts_compared same with equal | ⟨more, whole, _⟩ | ⟨more, whole, _⟩
  · exact equal
  · exact absurd whole (longer nested otherNested)
  · exact absurd whole (longer otherNested nested)

theorem wellNested_unique_after_opening {before earlier first second : List Token}
    {bracket other : Bracket} (nested : WellNested first) (otherNested : WellNested second)
    (same : before ++ .opens bracket :: first = earlier ++ .opens other :: second) :
    before = earlier := by
  have longer : ∀ {short long rest : List Token} {b : Bracket}, WellNested short →
      WellNested long → long ≠ rest ++ .opens b :: short := by
    intro short long rest b shortNested longNested whole
    unfold WellNested at longNested
    rw [whole, nest_append] at longNested
    obtain ⟨stack, _, final⟩ := Option.bind_eq_some_iff.mp longNested
    have read : nest (b :: stack) short = some [] := final
    rw [nest_wellNested shortNested] at read
    simp at read
  rcases cuts_compared same with equal | ⟨more, _, rest⟩ | ⟨more, _, rest⟩
  · exact equal
  · exact absurd rest (longer otherNested nested)
  · exact absurd rest (longer nested otherNested)

theorem splits_at {word : List Token} {token : Token} {i : Nat} (found : word[i]? = some token) :
    ∃ before after, word = before ++ token :: after ∧ before.length = i := by
  obtain ⟨bound, value⟩ := List.getElem?_eq_some_iff.mp found
  refine ⟨word.take i, word.drop (i + 1), ?_, ?_⟩
  · rw [← value, List.getElem_cons_drop, List.take_append_drop]
  · rw [List.length_take]
    omega

theorem existsUnique_closing {word : List Token} (nested : WellNested word) {bracket : Bracket}
    {i : Nat} (found : word[i]? = some (.opens bracket)) : ∃! j, Partners word bracket i j := by
  obtain ⟨before, rest, whole, size⟩ := splits_at found
  have read : nest [] word = some [] := nested
  rw [whole, nest_append] at read
  obtain ⟨stack, _, final⟩ := Option.bind_eq_some_iff.mp read
  have closes : nest (bracket :: stack) rest = some [] := final
  obtain ⟨inner, after, split, innerNested, _⟩ := closing_found closes
  refine ⟨i + 1 + inner.length, ⟨before, inner, after, ?_, size, rfl, innerNested⟩, ?_⟩
  · rw [whole, split]
  · rintro j ⟨earlier, other, behind, otherWhole, otherSize, place, otherNested⟩
    have same := whole.symm.trans otherWhole
    have tails := (List.append_inj same (size.trans otherSize.symm)).2
    rw [List.cons.injEq, split] at tails
    have inners := wellNested_unique_before_closing innerNested otherNested tails.2
    rw [place, inners]

theorem existsUnique_opening {word : List Token} (nested : WellNested word) {bracket : Bracket}
    {j : Nat} (found : word[j]? = some (.closes bracket)) : ∃! i, Partners word bracket i j := by
  obtain ⟨before, after, whole, size⟩ := splits_at found
  have read : nest [] word = some [] := nested
  rw [whole, nest_append] at read
  obtain ⟨stack, start, final⟩ := Option.bind_eq_some_iff.mp read
  rw [nest_cons] at final
  obtain ⟨next, step, _⟩ := Option.bind_eq_some_iff.mp final
  rw [shift_closes_eq_some step] at start
  obtain ⟨earlier, inner, split, _, innerNested⟩ := opening_found start
  refine ⟨earlier.length, ⟨earlier, inner, after, ?_, rfl, ?_, innerNested⟩, ?_⟩
  · rw [whole, split]
    simp
  · rw [← size, split]
    simp only [List.length_append, List.length_cons]
    omega
  · rintro i ⟨front, other, behind, otherWhole, otherSize, place, otherNested⟩
    have same : before ++ .closes bracket :: after =
        (front ++ .opens bracket :: other) ++ .closes bracket :: behind := by
      rw [← whole, otherWhole]
      simp
    have sizes : before.length = (front ++ Token.opens bracket :: other).length := by
      rw [size, place, ← otherSize]
      simp only [List.length_append, List.length_cons]
      omega
    have fronts := (List.append_inj same sizes).1
    rw [split] at fronts
    rw [← otherSize, wellNested_unique_after_opening innerNested otherNested fronts]

theorem partners_inside {word : List Token} {outer bracket : Bracket} {i j k l : Nat}
    (nested : WellNested word) (around : Partners word outer i j)
    (pair : Partners word bracket k l) (after : i < k) (before : k < j) : l < j := by
  obtain ⟨front, inner, back, whole, size, place, innerNested⟩ := around
  have starts : word[k]? = some (.opens bracket) := by
    obtain ⟨earlier, _, _, pairWhole, pairSize, _, _⟩ := pair
    rw [pairWhole, ← pairSize]
    simp
  have inside : inner[k - (i + 1)]? = some (.opens bracket) := by
    rw [whole, List.getElem?_append_right (by omega), size] at starts
    have offset : k - i = (k - (i + 1)) + 1 := by omega
    rw [offset, List.getElem?_cons_succ, List.getElem?_append_left (by omega)] at starts
    exact starts
  obtain ⟨m, ⟨earlier, within, later, innerWhole, innerSize, innerPlace, withinNested⟩, _⟩ :=
    existsUnique_closing innerNested inside
  have partner : Partners word bracket k (i + 1 + m) := by
    refine ⟨front ++ .opens outer :: earlier, within, later ++ .closes outer :: back, ?_, ?_, ?_,
      withinNested⟩
    · rw [whole, innerWhole]
      simp
    · simp only [List.length_append, List.length_cons]
      omega
    · omega
  have same := (existsUnique_closing nested starts).unique pair partner
  have bound := congrArg List.length innerWhole
  simp only [List.length_append, List.length_cons] at bound
  omega

mutual

theorem nest_tokens (stack : List Bracket) (piece : Nested Bracket Leaf) :
    nest stack piece.tokens = some stack := by
  cases piece with
  | leaf content => rfl
  | group bracket body =>
    rw [Nested.tokens, nest_group (nest_tokensOf [] body)]
    rfl

theorem nest_tokensOf (stack : List Bracket) (pieces : List (Nested Bracket Leaf)) :
    nest stack (tokensOf pieces) = some stack := by
  cases pieces with
  | nil => rfl
  | cons piece rest =>
    rw [tokensOf, nest_append, nest_tokens stack piece]
    exact nest_tokensOf stack rest

end

/-- The tokens of every text are a bracket word: a stack reads them to the end, and every
delimiter has exactly one partner of its kind. What starts inside a pair ends inside it, so that
no link crosses a template or an argument. -/
theorem lex_wellNested (tags : TagSet) (source : String) :
    let word := (lex tags source).map Prod.fst
    nest [] word = some [] ∧
      (∀ bracket i, word[i]? = some (.opens bracket) → ∃! j, Partners word bracket i j) ∧
      (∀ bracket j, word[j]? = some (.closes bracket) → ∃! i, Partners word bracket i j) ∧
      (∀ outer inner i j k l, Partners word outer i j → Partners word inner k l → i < k → k < j →
        l < j) := by
  intro word
  have nested : WellNested word := by
    unfold WellNested word
    rw [map_fst_lex]
    exact nest_tokensOf [] _
  refine ⟨nested, ?_, ?_, ?_⟩
  · intro bracket i found
    exact existsUnique_closing nested found
  · intro bracket j found
    exact existsUnique_opening nested found
  · intro outer inner i j k l around pair after before
    exact partners_inside nested around pair after before

end Wikitext.Markup
