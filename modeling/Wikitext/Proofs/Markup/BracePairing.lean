import Wikitext.Proofs.Markup.BraceScan
import Wikitext.Proofs.Markup.Outline

/-!
The scan that pairs braces gives the tokens of the outline. An opening run that waits has given the
delimiters in front of what follows it, and what stands before it belongs to the runs around it.
-/
namespace Wikitext.Markup

theorem wordsOf_append (first second : List (Nested Brace Atom)) :
    wordsOf (first ++ second) = wordsOf first ++ wordsOf second := by
  induction first with
  | nil => rfl
  | cons piece rest ih => rw [List.cons_append, wordsOf, wordsOf, ih, List.append_assoc]

theorem leftover_reverse (c : Char) (count : Nat) :
    (leftover c count).reverse = leftover c count := by
  unfold leftover
  split <;> rfl

theorem wordsOf_leftover (c : Char) (count : Nat) :
    wordsOf (leftover c count) = leftoverTokens c count := by
  unfold leftover leftoverTokens
  split <;> rfl

def slotWords (runs : Array OpenRun) (slots : List Slot) : List Token :=
  (slots.reverse.flatMap (BraceScan.slotTokens runs)).map Prod.fst

theorem slotWords_append (runs : Array OpenRun) (later earlier : List Slot) :
    slotWords runs (later ++ earlier) = slotWords runs earlier ++ slotWords runs later := by
  simp [slotWords]

theorem slotWords_openRun {runs : Array OpenRun} {index : Nat} {opened : OpenRun}
    (found : runs[index]? = some opened) : slotWords runs [.openRun index] =
      leftoverTokens '{' opened.remaining ++ opened.delimiters.map Brace.opens := by
  simp [slotWords, BraceScan.slotTokens, found, openRun_tokens_eq, map_fst_place]

def runPlaces (slots : List Slot) : List Nat :=
  slots.filterMap fun
    | .openRun index => some index
    | .token _ => none

theorem runPlaces_append (later earlier : List Slot) :
    runPlaces (later ++ earlier) = runPlaces later ++ runPlaces earlier :=
  List.filterMap_append

theorem slotWords_congr {runs changed : Array OpenRun} {slots : List Slot}
    (same : ∀ index ∈ runPlaces slots, changed[index]? = runs[index]?) :
    slotWords changed slots = slotWords runs slots := by
  have each : ∀ slot ∈ slots.reverse,
      BraceScan.slotTokens changed slot = BraceScan.slotTokens runs slot := by
    intro slot member
    cases slot with
    | token placed => rfl
    | openRun index =>
      have place : index ∈ runPlaces slots := by
        apply List.mem_filterMap.mpr
        exact ⟨.openRun index, List.mem_reverse.mp member, rfl⟩
      simp only [BraceScan.slotTokens, same index place]
  unfold slotWords
  rw [List.flatMap_def, List.flatMap_def, List.map_congr_left each]

/-- The slots of a scan against the pieces of the outline: for each waiting run, innermost first,
what it has given and what followed it are the pieces behind it. -/
inductive Mirrors (runs : Array OpenRun) :
    List Nat → List Slot → List WaitingRun → List (Nested Brace Atom) → Prop where
  | bottom {slots : List Slot} {inner : List (Nested Brace Atom)}
      (same : slotWords runs slots = wordsOf inner.reverse) : Mirrors runs [] slots [] inner
  | waiting {index : Nat} {opened : OpenRun} {stack : List Nat} {later earlier : List Slot}
      {outer : List WaitingRun} {before inner : List (Nested Brace Atom)}
      (found : runs[index]? = some opened)
      (same : opened.delimiters.map Brace.opens ++ slotWords runs later = wordsOf inner.reverse)
      (outside : Mirrors runs stack earlier outer before) :
      Mirrors runs (index :: stack) (later ++ .openRun index :: earlier)
        (⟨opened.remaining, before⟩ :: outer) inner

namespace Mirrors
variable {runs : Array OpenRun} {stack : List Nat} {slots : List Slot} {outer : List WaitingRun}
  {inner : List (Nested Brace Atom)}

theorem extend (mirrors : Mirrors runs stack slots outer inner) {more : List Slot}
    {pieces : List (Nested Brace Atom)} (same : slotWords runs more = wordsOf pieces.reverse) :
    Mirrors runs stack (more ++ slots) outer (pieces ++ inner) := by
  cases mirrors with
  | bottom all =>
    apply bottom
    rw [slotWords_append, all, same, List.reverse_append, wordsOf_append]
  | waiting found given outside =>
    rw [← List.append_assoc]
    refine waiting found ?_ outside
    rw [slotWords_append, ← List.append_assoc, given, same, List.reverse_append, wordsOf_append]

theorem release {index : Nat} {innermost : WaitingRun}
    (mirrors : Mirrors runs (index :: stack) slots (innermost :: outer) inner) :
    Mirrors runs stack slots outer
      (inner ++ leftover '{' innermost.braces ++ innermost.before) := by
  cases mirrors with
  | @waiting _ opened _ later earlier _ before _ found same outside =>
    have run : slotWords runs (later ++ [.openRun index]) =
        wordsOf (inner ++ leftover '{' opened.remaining).reverse := by
      rw [slotWords_append, slotWords_openRun found, List.append_assoc, same,
        List.reverse_append, wordsOf_append, leftover_reverse, wordsOf_leftover]
    have whole := outside.extend run
    rwa [List.append_assoc, List.singleton_append] at whole

theorem congr {changed : Array OpenRun} (mirrors : Mirrors runs stack slots outer inner)
    (same : ∀ index ∈ runPlaces slots, changed[index]? = runs[index]?) :
    Mirrors changed stack slots outer inner := by
  induction mirrors with
  | bottom all =>
    apply bottom
    rw [slotWords_congr same, all]
  | @waiting index opened stack later earlier outer before inner found given outside ih =>
    rw [runPlaces_append] at same
    refine waiting ?_ ?_ (ih ?_)
    · rw [same index (List.mem_append_right _ List.mem_cons_self), found]
    · have inside : ∀ other ∈ runPlaces later, changed[other]? = runs[other]? :=
        fun other member => same other (List.mem_append_left _ member)
      rw [slotWords_congr inside, given]
    · intro other member
      exact same other (List.mem_append_right _ (List.mem_cons_of_mem _ member))

theorem pair {index : Nat} {opened : OpenRun} {innermost : WaitingRun}
    (mirrors : Mirrors runs (index :: stack) slots (innermost :: outer) inner)
    (once : (runPlaces slots).Nodup) (found : runs[index]? = some opened) (brace : Brace)
    (span : Span) :
    Mirrors (runs.setIfInBounds index (opened.pair brace)) (index :: stack)
      (.token (brace.closes, span) :: slots)
      (⟨innermost.braces - brace.width, innermost.before⟩ :: outer)
      [.group brace inner.reverse] := by
  cases mirrors with
  | @waiting _ run _ later earlier _ before _ read same outside =>
    rw [found] at read
    cases read
    obtain ⟨bound, _⟩ := Array.getElem?_eq_some_iff.mp found
    -- the run has one slot only, so the change to it leaves all other slots as they are
    have apart : index ∉ runPlaces later ∧ index ∉ runPlaces earlier := by
      have split : runPlaces (later ++ .openRun index :: earlier) =
          runPlaces later ++ index :: runPlaces earlier := runPlaces_append _ _
      rw [split, List.nodup_append, List.nodup_cons] at once
      exact ⟨fun member => once.2.2 index member index List.mem_cons_self rfl, once.2.1.1⟩
    have kept : ∀ {others : List Slot}, index ∉ runPlaces others → ∀ other ∈ runPlaces others,
        (runs.setIfInBounds index (opened.pair brace))[other]? = runs[other]? := by
      intro others absent other member
      apply Array.getElem?_setIfInBounds_ne
      intro equal
      rw [equal] at absent
      exact absent member
    have front : ∀ runs, slotWords runs (.token (brace.closes, span) :: later) =
        slotWords runs later ++ [brace.closes] := fun runs => slotWords_append runs [.token _] later
    have given : (opened.pair brace).delimiters.map Brace.opens ++
        slotWords (runs.setIfInBounds index (opened.pair brace))
          (.token (brace.closes, span) :: later) =
        wordsOf [Nested.group brace inner.reverse].reverse := by
      rw [front, slotWords_congr (kept apart.1), ← List.append_assoc]
      change brace.opens :: (opened.delimiters.map Brace.opens ++ slotWords runs later) ++ _ = _
      rw [same]
      simp [wordsOf, Nested.words]
    exact waiting (Array.getElem?_setIfInBounds_self_of_lt bound) given
      (outside.congr (kept apart.2))

theorem finish (mirrors : Mirrors runs stack slots outer inner) :
    slotWords runs slots = wordsOf (BraceState.finish ⟨outer, inner⟩) := by
  induction outer generalizing stack inner with
  | nil =>
    cases mirrors with
    | bottom same => exact same
  | cons innermost outer ih =>
    cases stack with
    | nil => cases mirrors
    | cons index stack => exact ih mirrors.release

end Mirrors

theorem closing_stop {state : BraceState} {count : Nat} (stop : state.runs = [] ∨ count < 2) :
    state.closing count = ⟨state.runs, leftover '}' count ++ state.inner⟩ := by
  obtain ⟨runs, inner⟩ := state
  rw [BraceState.closing.eq_def]
  cases runs with
  | nil => rfl
  | cons innermost outer =>
    rcases stop with none | few
    · simp at none
    · simp [few]

theorem closing_pair (innermost : WaitingRun) (outer : List WaitingRun)
    (inner : List (Nested Brace Atom)) {count : Nat} (enough : ¬count < 2) :
    BraceState.closing ⟨innermost :: outer, inner⟩ count =
      (BraceState.pair innermost outer inner (widest count innermost.braces)).closing
        (count - (widest count innermost.braces).width) := by
  rw [BraceState.closing.eq_def]
  simp only [enough, ↓reduceIte]

structure Agrees (scan : BraceScan) (state : BraceState) : Prop where
  mirrors : Mirrors scan.runs scan.stack scan.slots state.runs state.inner
  once : (runPlaces scan.slots).Nodup
  known : ∀ index ∈ runPlaces scan.slots, index < scan.runs.size

namespace Agrees
variable {scan : BraceScan} {state : BraceState}

theorem add (agrees : Agrees scan state) {placed : List (Token × Span)}
    {pieces : List (Nested Brace Atom)} (same : placed.map Prod.fst = wordsOf pieces.reverse) :
    Agrees (scan.add placed) ⟨state.runs, pieces ++ state.inner⟩ := by
  have none : runPlaces (placed.reverse.map .token) = [] := by simp [runPlaces]
  have places : runPlaces (scan.add placed).slots = runPlaces scan.slots := by
    change runPlaces (placed.reverse.map .token ++ scan.slots) = _
    rw [runPlaces_append, none, List.nil_append]
  constructor
  · apply agrees.mirrors.extend
    rw [← same]
    simp [slotWords, List.flatMap_map, BraceScan.slotTokens]
  · rw [places]
    exact agrees.once
  · rw [places]
    exact agrees.known

theorem innermost?_eq_some (agrees : Agrees scan state) {index : Nat} {opened : OpenRun}
    (found : scan.innermost? = some (index, opened)) :
    ∃ innermost outer, state.runs = innermost :: outer ∧ innermost.braces = opened.remaining := by
  obtain ⟨read, stack, whole⟩ := BraceScan.innermost?_eq_some found
  have mirrors := agrees.mirrors
  rw [whole] at mirrors
  generalize state.runs = runs at mirrors
  generalize scan.slots = slots at mirrors
  cases mirrors with
  | waiting same _ _ =>
    rw [read] at same
    cases same
    exact ⟨_, _, rfl, rfl⟩

theorem innermost?_eq_none (agrees : Agrees scan state) (none : scan.innermost? = none) :
    state.runs = [] := by
  have mirrors := agrees.mirrors
  unfold BraceScan.innermost? at none
  generalize state.runs = runs at mirrors
  generalize scan.slots = slots at mirrors
  generalize scan.stack = stack at mirrors none
  cases mirrors with
  | bottom _ => rfl
  | waiting found _ _ => simp [found] at none

theorem pair (agrees : Agrees scan state) {index : Nat} {opened : OpenRun}
    (found : scan.innermost? = some (index, opened)) {innermost : WaitingRun}
    {outer : List WaitingRun} (whole : state.runs = innermost :: outer)
    (braces : innermost.braces = opened.remaining) (brace : Brace) (span : Span) :
    Agrees ((scan.pair index opened brace).add [(brace.closes, span)])
      (BraceState.pair innermost outer state.inner brace) := by
  obtain ⟨read, stack, stacked⟩ := BraceScan.innermost?_eq_some found
  have mirrors := agrees.mirrors
  rw [stacked, whole] at mirrors
  have paired := mirrors.pair agrees.once read brace span
  have left : (opened.pair brace).remaining = innermost.braces - brace.width := by
    rw [braces]
    rfl
  constructor
  · unfold BraceScan.pair BraceState.pair
    simp only [left, stacked]
    split
    · exact paired.release
    · exact paired
  · exact agrees.once
  · intro other member
    have bound := agrees.known other member
    rwa [← Array.size_setIfInBounds] at bound

theorem closing (agrees : Agrees scan state) (start count : Nat) :
    Agrees (scan.closing start count) (state.closing count) := by
  have rest : ∀ start count, (placeLeftover '}' start count).map Prod.fst =
      wordsOf (leftover '}' count).reverse := by
    intro start count
    rw [placeLeftover_eq rfl, map_fst_place, leftover_reverse, wordsOf_leftover]
  fun_induction BraceScan.closing scan start count generalizing state with
  | case1 scan start count none =>
    rw [closing_stop (.inl (agrees.innermost?_eq_none none))]
    exact agrees.add (rest start count)
  | case2 scan start count index opened found few =>
    rw [closing_stop (.inr few)]
    exact agrees.add (rest start count)
  | case3 =>
    rename_i scan start count index opened found enough brace after paired ih
    obtain ⟨innermost, outer, whole, braces⟩ := agrees.innermost?_eq_some found
    have next := ih (agrees.pair found whole braces brace _)
    obtain ⟨runs, inner⟩ := state
    cases whole
    rw [closing_pair innermost outer inner enough, braces]
    exact next

theorem opening (agrees : Agrees scan state) (start count : Nat) :
    Agrees (scan.opening start count) (state.opening count) := by
  have fresh : scan.runs.size ∉ runPlaces scan.slots := by
    intro member
    exact Nat.lt_irrefl _ (agrees.known _ member)
  have kept : ∀ index ∈ runPlaces scan.slots,
      (scan.runs.push ⟨start, count, []⟩)[index]? = scan.runs[index]? := by
    intro index member
    have bound := agrees.known index member
    rw [Array.getElem?_push_lt bound, Array.getElem?_eq_getElem bound]
  have here : (scan.runs.push ⟨start, count, []⟩)[scan.runs.size]? = some ⟨start, count, []⟩ :=
    Array.getElem?_push_size
  have before := agrees.mirrors.congr kept
  have places : runPlaces (scan.opening start count).slots =
      scan.runs.size :: runPlaces scan.slots := rfl
  constructor
  · unfold BraceState.opening
    by_cases few : count < 2
    · have stack : (scan.opening start count).stack = scan.stack :=
        if_neg (Nat.not_le.mpr few)
      have alone : slotWords (scan.runs.push ⟨start, count, []⟩) [.openRun scan.runs.size] =
          wordsOf (leftover '{' count).reverse := by
        rw [slotWords_openRun here, leftover_reverse, wordsOf_leftover, List.map_nil,
          List.append_nil]
      rw [stack, if_pos few]
      exact before.extend alone
    · have stack : (scan.opening start count).stack = scan.runs.size :: scan.stack :=
        if_pos (Nat.le_of_not_lt few)
      have none : [].map Brace.opens ++ slotWords (scan.runs.push ⟨start, count, []⟩) [] =
          wordsOf [].reverse := rfl
      rw [stack, if_neg few]
      exact .waiting here none before
  · rw [places, List.nodup_cons]
    exact ⟨fresh, agrees.once⟩
  · rw [places]
    intro index member
    have size : (scan.opening start count).runs.size = scan.runs.size + 1 := Array.size_push _
    rw [size]
    rcases List.mem_cons.mp member with same | old
    · omega
    · exact Nat.lt_succ_of_lt (agrees.known index old)

theorem step (agrees : Agrees scan state) (placed : Lexeme × Span) :
    Agrees (scan.step placed) (state.step placed.1) := by
  obtain ⟨lexeme, span⟩ := placed
  cases lexeme with
  | openBraces count => exact agrees.opening span.start count
  | closeBraces count => exact agrees.closing span.start count
  | atom content =>
    have same : [(content.token, span)].map Prod.fst = wordsOf [.leaf content].reverse := rfl
    exact agrees.add same

theorem steps (agrees : Agrees scan state) (placed : List (Lexeme × Span)) :
    Agrees (placed.foldl BraceScan.step scan)
      ((placed.map Prod.fst).foldl BraceState.step state) := by
  induction placed generalizing scan state with
  | nil => exact agrees
  | cons first rest ih => exact ih (agrees.step first)

end Agrees

theorem agrees_empty : Agrees .empty ⟨[], []⟩ :=
  ⟨.bottom rfl, List.nodup_nil, by simp [BraceScan.empty, runPlaces]⟩

/-- The tokens of the scan are those of the outline. -/
theorem map_fst_balanceBraces (placed : List (Lexeme × Span)) :
    (balanceBraces placed).map Prod.fst = wordsOf (pairBraces (placed.map Prod.fst)) :=
  (agrees_empty.steps placed).mirrors.finish

theorem map_fst_placeLexemes (start : Nat) (lexemes : List Lexeme) :
    (placeLexemes start lexemes).map Prod.fst = lexemes := by
  induction lexemes generalizing start with
  | nil => rfl
  | cons lexeme lexemes ih => rw [placeLexemes, List.map_cons, ih]

theorem balanceBraces_eq_place (lexemes : List Lexeme) :
    balanceBraces (placeLexemes 0 lexemes) = place 0 (wordsOf (pairBraces lexemes)) ∧
      Expansion Splits lexemes (wordsOf (pairBraces lexemes)) := by
  obtain ⟨word, whole, expansion⟩ := balanceBraces_splits lexemes
  have words := map_fst_balanceBraces (placeLexemes 0 lexemes)
  rw [whole, map_fst_place, map_fst_placeLexemes] at words
  rw [← words]
  exact ⟨whole, expansion⟩

theorem waiting_braces (lexemes : List Lexeme) :
    ∀ run ∈ (lexemes.foldl BraceState.step ⟨[], []⟩).runs, 2 ≤ run.braces := by
  have general : ∀ {runs : Array OpenRun} {stack : List Nat} {slots : List Slot}
      {outer : List WaitingRun} {inner : List (Nested Brace Atom)},
      Mirrors runs stack slots outer inner →
      (∀ index ∈ stack, ∃ opened, runs[index]? = some opened ∧ 2 ≤ opened.remaining) →
      ∀ run ∈ outer, 2 ≤ run.braces := by
    intro runs stack slots outer inner mirrors
    induction mirrors with
    | bottom same =>
      intro _ run member
      contradiction
    | waiting found same outside ih =>
      intro waiting run member
      rcases List.mem_cons.mp member with here | later
      · obtain ⟨opened, read, enough⟩ := waiting _ List.mem_cons_self
        rw [found] at read
        cases read
        rw [here]
        exact enough
      · exact ih (fun index inside => waiting index (List.mem_cons_of_mem _ inside)) run later
  have agrees := agrees_empty.steps (placeLexemes 0 lexemes)
  have ready := BraceScan.ready_empty.steps (placeLexemes 0 lexemes)
  rw [map_fst_placeLexemes] at agrees
  exact general agrees.mirrors ready.waiting

end Wikitext.Markup
