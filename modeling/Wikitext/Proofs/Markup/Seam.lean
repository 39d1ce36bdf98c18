import Wikitext.Proofs.Markup.Constructs
import Wikitext.Proofs.Markup.Nesting
import Wikitext.Proofs.Text.Cuts

/-!
Pages cut at a newline. Where the part before the newline has no angle bracket and leaves no brace
run and no link bracket open, the constructs of the page are those of its two parts.
-/
namespace Wikitext.Markup
open Text

/-- A lexeme that is not started by an angle bracket ends at a newline or an angle bracket at the
latest. -/
theorem next_stop (tags : TagSet) {c stop : Char} (noAngle : c ≠ '<')
    (stops : stop = '\n' ∨ stop = '<') (cs rest : List Char) :
    Lexeme.next tags c (cs ++ stop :: rest) =
      ((Lexeme.next tags c cs).1, (Lexeme.next tags c cs).2 ++ stop :: rest) := by
  have other : ∀ mark ∈ ['{', '}', '=', '[', ']'], stop ≠ mark := by
    rcases stops with rfl | rfl <;> simp
  have plain : isPlain stop = false := by
    rcases stops with rfl | rfl <;> rfl
  rw [Lexeme.next.eq_def, Lexeme.next.eq_def]
  simp only
  -- the stop is in no run and no plain text, and a single bracket does not pair with it
  by_cases opening : c = '{'
  · simp [opening, takeWhile_stop, dropWhile_stop, other]
  by_cases closing : c = '}'
  · simp [closing, takeWhile_stop, dropWhile_stop, other]
  by_cases equals : c = '='
  · simp [equals, takeWhile_stop, dropWhile_stop, other]
  by_cases pipe : c = '|'
  · simp [pipe]
  by_cases line : c = '\n'
  · simp [line]
  by_cases openLink : c = '['
  · cases cs with
    | nil => simp [openLink, other]
    | cons d cs =>
      by_cases double : d = '['
      · simp [openLink, double]
      · simp [openLink, double]
  by_cases closeLink : c = ']'
  · cases cs with
    | nil => simp [closeLink, other]
    | cons d cs =>
      by_cases double : d = ']'
      · simp [closeLink, double]
      · simp [closeLink, double]
  simp [opening, closing, equals, pipe, line, openLink, closeLink, noAngle, takeWhile_stop plain,
    dropWhile_stop plain]

theorem next_tags (tags other : TagSet) {c : Char} (noAngle : c ≠ '<') (cs : List Char) :
    Lexeme.next tags c cs = Lexeme.next other c cs := by
  rw [Lexeme.next.eq_def, Lexeme.next.eq_def]
  simp [noAngle]

theorem scan_stop (tags : TagSet) {stop : Char} (stops : stop = '\n' ∨ stop = '<')
    {cs : List Char} (noAngle : '<' ∉ cs) (rest : List Char) :
    scan tags (cs ++ stop :: rest) = scan tags cs ++ scan tags (stop :: rest) := by
  fun_induction scan tags cs with
  | case1 => rfl
  | case2 c cs ih =>
    rw [List.mem_cons, not_or] at noAngle
    have later : '<' ∉ (Lexeme.next tags c cs).2 :=
      fun member => noAngle.2 ((next_suffix tags c cs).subset member)
    rw [List.cons_append, scan, next_stop tags (Ne.symm noAngle.1) stops, ih later]
    rfl

theorem scan_newline (tags : TagSet) {cs : List Char} (noAngle : '<' ∉ cs) (rest : List Char) :
    scan tags (cs ++ '\n' :: rest) = scan tags cs ++ .leaf .newline :: scan tags rest := by
  have line : scan tags ('\n' :: rest) = .leaf .newline :: scan tags rest := by
    rw [scan]
    simp [Lexeme.next]
  rw [scan_stop tags (.inl rfl) noAngle, line]

theorem scan_tags (tags other : TagSet) {cs : List Char} (noAngle : '<' ∉ cs) :
    scan tags cs = scan other cs := by
  fun_induction scan tags cs with
  | case1 => rw [scan]
  | case2 c cs ih =>
    rw [List.mem_cons, not_or] at noAngle
    have later : '<' ∉ (Lexeme.next tags c cs).2 :=
      fun member => noAngle.2 ((next_suffix tags c cs).subset member)
    rw [ih later, scan, next_tags tags other (Ne.symm noAngle.1)]

def braceStateAfter (read : List (Nested Brace Atom)) :
    List WaitingRun → List (Nested Brace Atom) → BraceState
  | [], inner => ⟨[], inner ++ read⟩
  | innermost :: outer, inner =>
    let outside := braceStateAfter read outer innermost.before
    ⟨⟨innermost.braces, outside.inner⟩ :: outside.runs, inner⟩

theorem braceStateAfter_append (read : List (Nested Brace Atom)) (runs : List WaitingRun)
    (pieces inner : List (Nested Brace Atom)) :
    braceStateAfter read runs (pieces ++ inner) =
      ⟨(braceStateAfter read runs inner).runs,
        pieces ++ (braceStateAfter read runs inner).inner⟩ := by
  cases runs with
  | nil => simp [braceStateAfter]
  | cons innermost outer => rfl

theorem braceStateAfter_runs_eq_nil {read : List (Nested Brace Atom)} {runs : List WaitingRun}
    {inner : List (Nested Brace Atom)} :
    (braceStateAfter read runs inner).runs = [] ↔ runs = [] := by
  cases runs <;> simp [braceStateAfter]

theorem pair_after (read : List (Nested Brace Atom)) (innermost : WaitingRun)
    (outer : List WaitingRun) (inner : List (Nested Brace Atom)) (brace : Brace) :
    BraceState.pair ⟨innermost.braces, (braceStateAfter read outer innermost.before).inner⟩
        (braceStateAfter read outer innermost.before).runs inner brace =
      braceStateAfter read (BraceState.pair innermost outer inner brace).runs
        (BraceState.pair innermost outer inner brace).inner := by
  unfold BraceState.pair
  simp only
  split
  · rw [braceStateAfter_append]
  · rfl

theorem closing_after (read : List (Nested Brace Atom)) (state : BraceState) (count : Nat) :
    (braceStateAfter read state.runs state.inner).closing count =
      braceStateAfter read (state.closing count).runs (state.closing count).inner := by
  have stop : ∀ {state : BraceState} {count : Nat}, state.runs = [] ∨ count < 2 →
      (braceStateAfter read state.runs state.inner).closing count =
        braceStateAfter read state.runs (leftover '}' count ++ state.inner) := by
    intro state count last
    have none : (braceStateAfter read state.runs state.inner).runs = [] ↔ state.runs = [] :=
      braceStateAfter_runs_eq_nil
    rw [← none] at last
    rw [closing_stop last, braceStateAfter_append]
  fun_induction BraceState.closing state count with
  | case1 state count none => exact stop (.inl none)
  | case2 state count innermost outer _ few => exact stop (.inr few)
  | case3 state count innermost outer whole enough brace ih =>
    rw [← ih, ← pair_after, whole]
    exact closing_pair _ _ state.inner enough

theorem step_after (read : List (Nested Brace Atom)) (state : BraceState) (lexeme : Lexeme) :
    (braceStateAfter read state.runs state.inner).step lexeme =
      braceStateAfter read (state.step lexeme).runs (state.step lexeme).inner := by
  cases lexeme with
  | openBraces count =>
    change BraceState.opening _ count =
      braceStateAfter read (state.opening count).runs (state.opening count).inner
    unfold BraceState.opening
    split
    · rw [braceStateAfter_append]
    · rfl
  | closeBraces count => exact closing_after read state count
  | atom content => exact (braceStateAfter_append read state.runs [.leaf content] state.inner).symm

theorem steps_after (read : List (Nested Brace Atom)) (lexemes : List Lexeme) (state : BraceState) :
    lexemes.foldl BraceState.step (braceStateAfter read state.runs state.inner) =
      braceStateAfter read (lexemes.foldl BraceState.step state).runs
        (lexemes.foldl BraceState.step state).inner := by
  induction lexemes generalizing state with
  | nil => rfl
  | cons lexeme lexemes ih => rw [List.foldl_cons, List.foldl_cons, step_after, ih]

theorem finish_after (read : List (Nested Brace Atom)) (runs : List WaitingRun)
    (inner : List (Nested Brace Atom)) :
    (braceStateAfter read runs inner).finish =
      read.reverse ++ BraceState.finish ⟨runs, inner⟩ := by
  induction runs generalizing inner with
  | nil => simp [braceStateAfter, BraceState.finish]
  | cons innermost outer ih =>
    have whole := ih (inner ++ leftover '{' innermost.braces ++ innermost.before)
    rw [braceStateAfter_append] at whole
    exact whole

def BracesClosed (lexemes : List Lexeme) : Prop :=
  (lexemes.foldl BraceState.step ⟨[], []⟩).runs = []

theorem pairBraces_append {first : List Lexeme} (closed : BracesClosed first)
    (second : List Lexeme) :
    pairBraces (first ++ second) = pairBraces first ++ pairBraces second := by
  obtain ⟨inner, read⟩ : ∃ inner, first.foldl BraceState.step ⟨[], []⟩ = ⟨[], inner⟩ := by
    unfold BracesClosed at closed
    cases whole : first.foldl BraceState.step ⟨[], []⟩ with
    | mk runs inner =>
      rw [whole] at closed
      exact ⟨inner, congrArg (BraceState.mk · inner) closed⟩
  have start : (⟨[], inner⟩ : BraceState) = braceStateAfter inner [] [] := rfl
  have rest := steps_after inner second ⟨[], []⟩
  unfold pairBraces
  rw [List.foldl_append, read, start, rest, finish_after]
  rfl

def linkStateAfter (read : List (Nested Bracket Leaf)) :
    List (List (Nested Bracket Leaf)) → List (Nested Bracket Leaf) → LinkState
  | [], inner => ⟨[], inner ++ read⟩
  | before :: outer, inner =>
    let outside := linkStateAfter read outer before
    ⟨outside.inner :: outside.outer, inner⟩

theorem linkStateAfter_append (read : List (Nested Bracket Leaf))
    (outer : List (List (Nested Bracket Leaf))) (pieces inner : List (Nested Bracket Leaf)) :
    linkStateAfter read outer (pieces ++ inner) =
      ⟨(linkStateAfter read outer inner).outer,
        pieces ++ (linkStateAfter read outer inner).inner⟩ := by
  cases outer with
  | nil => simp [linkStateAfter]
  | cons before outer => rfl

theorem linkState_add_after (read : List (Nested Bracket Leaf)) (state : LinkState)
    (piece : Nested Bracket Leaf) :
    (linkStateAfter read state.outer state.inner).add piece =
      linkStateAfter read (state.add piece).outer (state.add piece).inner :=
  (linkStateAfter_append read state.outer [piece] state.inner).symm

theorem linkState_step_after (read : List (Nested Bracket Leaf)) (state : LinkState)
    (content : Atom) :
    (linkStateAfter read state.outer state.inner).step content =
      linkStateAfter read (state.step content).outer (state.step content).inner := by
  cases content with
  | openLink => rfl
  | leaf content => exact linkState_add_after read state (.leaf content)
  | closeLink =>
    obtain ⟨outer, inner⟩ := state
    cases outer with
    | nil => exact linkState_add_after read ⟨[], inner⟩ (.leaf (.text Bracket.link.closing))
    | cons before outer =>
      have joined := linkStateAfter_append read outer [.group .link inner.reverse] before
      exact joined.symm

theorem linkPieces_after (read : List (Nested Bracket Leaf)) (pieces : List (Nested Brace Atom))
    (state : LinkState) :
    linkPieces (linkStateAfter read state.outer state.inner) pieces =
      linkStateAfter read (linkPieces state pieces).outer (linkPieces state pieces).inner := by
  induction pieces generalizing state with
  | nil => rfl
  | cons piece rest ih =>
    have first : linkPiece (linkStateAfter read state.outer state.inner) piece =
        linkStateAfter read (linkPiece state piece).outer (linkPiece state piece).inner := by
      cases piece with
      | leaf content => exact linkState_step_after read state content
      | group bracket body => exact linkState_add_after read state _
    rw [linkPieces, linkPieces, first, ih]

theorem linkFinish_after (read : List (Nested Bracket Leaf))
    (outer : List (List (Nested Bracket Leaf))) (inner : List (Nested Bracket Leaf)) :
    (linkStateAfter read outer inner).finish = read.reverse ++ LinkState.finish ⟨outer, inner⟩ := by
  induction outer generalizing inner with
  | nil => simp [linkStateAfter, LinkState.finish]
  | cons before outer ih =>
    have whole := ih (inner ++ .leaf (.text Bracket.link.opening) :: before)
    have split : inner ++ .leaf (.text Bracket.link.opening) :: before =
        (inner ++ [.leaf (.text Bracket.link.opening)]) ++ before := by simp
    rw [split, linkStateAfter_append, ← split] at whole
    simpa [linkStateAfter, LinkState.finish] using whole

theorem linkPieces_append (state : LinkState) (first second : List (Nested Brace Atom)) :
    linkPieces state (first ++ second) = linkPieces (linkPieces state first) second := by
  induction first generalizing state with
  | nil => rfl
  | cons piece rest ih => rw [List.cons_append, linkPieces, linkPieces, ih]

def LinksClosed (pieces : List (Nested Brace Atom)) : Prop :=
  (linkPieces ⟨[], []⟩ pieces).outer = []

theorem pairLinks_append {first : List (Nested Brace Atom)} (closed : LinksClosed first)
    (second : List (Nested Brace Atom)) :
    pairLinks (first ++ second) = pairLinks first ++ pairLinks second := by
  obtain ⟨inner, read⟩ : ∃ inner, linkPieces ⟨[], []⟩ first = ⟨[], inner⟩ := by
    unfold LinksClosed at closed
    cases whole : linkPieces ⟨[], []⟩ first with
    | mk outer inner =>
      rw [whole] at closed
      exact ⟨inner, congrArg (LinkState.mk · inner) closed⟩
  have start : (⟨[], inner⟩ : LinkState) = linkStateAfter inner [] [] := rfl
  have rest := linkPieces_after inner second ⟨[], []⟩
  unfold pairLinks
  rw [linkPieces_append, read, start, rest, linkFinish_after]
  rfl

theorem mem_finish {piece : Nested Brace Atom} {runs : List WaitingRun}
    {inner : List (Nested Brace Atom)} (member : piece ∈ inner) :
    piece ∈ BraceState.finish ⟨runs, inner⟩ := by
  induction runs generalizing inner with
  | nil => simpa [BraceState.finish] using member
  | cons innermost outer ih =>
    exact ih (List.mem_append_left _ (List.mem_append_left _ member))

theorem mem_linkFinish {piece : Nested Bracket Leaf} {outer : List (List (Nested Bracket Leaf))}
    {inner : List (Nested Bracket Leaf)} (member : piece ∈ inner) :
    piece ∈ LinkState.finish ⟨outer, inner⟩ := by
  induction outer generalizing inner with
  | nil => simpa [LinkState.finish] using member
  | cons before outer ih => exact ih (List.mem_append_left _ member)

theorem mem_tokensOf {content : Leaf} {pieces : List (Nested Bracket Leaf)}
    (member : .leaf content ∈ pieces) : .leaf content ∈ tokensOf pieces := by
  induction pieces with
  | nil => simp at member
  | cons piece rest ih =>
    rw [tokensOf]
    rcases List.mem_cons.mp member with here | later
    · rw [← here]
      simp [Nested.tokens]
    · exact List.mem_append_right _ (ih later)

theorem mem_wordsOf {content : Atom} {pieces : List (Nested Brace Atom)}
    (member : .leaf content ∈ pieces) : content.token ∈ wordsOf pieces := by
  induction pieces with
  | nil => contradiction
  | cons piece rest ih =>
    rw [wordsOf]
    rcases List.mem_cons.mp member with here | later
    · rw [← here]
      exact List.mem_cons_self
    · exact List.mem_append_right _ (ih later)

theorem text_mem_settle {dead : List Nat} {start : Nat} {word : List Token} {written : String}
    (member : .leaf (.text written) ∈ word) : .leaf (.text written) ∈ settle dead start word := by
  induction word generalizing start with
  | nil => contradiction
  | cons token rest ih =>
    rw [settle]
    rcases List.mem_cons.mp member with here | later
    · rw [← here]
      split <;> exact List.mem_cons_self
    · exact List.mem_cons_of_mem _ (ih later)

theorem bracesClosed {tags : TagSet} {source : String}
    (none : ∀ count, 2 ≤ count → .leaf (.text (run '{' count)) ∉ tokens tags source) :
    BracesClosed (scan tags source.toList) := by
  have waiting := waiting_braces (scan tags source.toList)
  unfold BracesClosed
  cases whole : (scan tags source.toList).foldl BraceState.step ⟨[], []⟩ with
  | mk runs inner =>
    rw [whole] at waiting
    cases runs with
    | nil => rfl
    | cons innermost outer =>
      have enough : 2 ≤ innermost.braces := waiting innermost List.mem_cons_self
      have some : innermost.braces ≠ 0 := by omega
      -- the text of the innermost run is the last one that is put in front of what was read
      have member : .leaf (.leaf (.text (run '{' innermost.braces))) ∈
          pairBraces (scan tags source.toList) := by
        unfold pairBraces
        rw [whole]
        change _ ∈
          BraceState.finish ⟨outer, inner ++ leftover '{' innermost.braces ++ innermost.before⟩
        apply mem_finish
        simp [leftover, some]
      refine absurd ?_ (none innermost.braces enough)
      unfold tokens outline
      rw [← settle_unpairedLinks]
      exact text_mem_settle (mem_wordsOf member)

theorem linksClosed {tags : TagSet} {source : String}
    (none : .leaf (.text "[[") ∉ tokens tags source) :
    LinksClosed (pairBraces (scan tags source.toList)) := by
  unfold LinksClosed
  cases whole : linkPieces ⟨[], []⟩ (pairBraces (scan tags source.toList)) with
  | mk outer inner =>
    cases outer with
    | nil => rfl
    | cons before outer =>
      refine absurd ?_ none
      apply mem_tokensOf
      unfold outline pairLinks
      rw [whole]
      change _ ∈ LinkState.finish ⟨outer, inner ++ .leaf (.text Bracket.link.opening) :: before⟩
      apply mem_linkFinish
      exact List.mem_append_right _ List.mem_cons_self

/-- Nothing that starts in the text can end behind a newline after it. -/
structure ClosedAtEnd (source : String) : Prop where
  noAngle : '<' ∉ source.toList
  noBraces : ∀ placed ∈ lex .standard source, ∀ count, 2 ≤ count →
    placed.1 ≠ .leaf (.text (run '{' count))
  noLink : ∀ placed ∈ lex .standard source, placed.1 ≠ .leaf (.text "[[")

theorem closedAtEnd_heading : ClosedAtEnd ("==a==\n{{b|[[c]]}}" ++ run '}' 1) := by
  have tokens : (lex .standard ("==a==\n{{b|[[c]]}}" ++ run '}' 1)).map Prod.fst =
      [.leaf (.equals 2), .leaf (.text "a"), .leaf (.equals 2), .leaf .newline,
        .opens .template, .leaf (.text "b"), .leaf .pipe, .opens .link, .leaf (.text "c"),
        .closes .link, .closes .template, .leaf (.text (run '}' 1))] := by
    decide +kernel
  have short : ∀ placed ∈ lex .standard ("==a==\n{{b|[[c]]}}" ++ run '}' 1), ∀ written,
      placed.1 = .leaf (.text written) → written.length = 1 := by
    intro placed member written same
    have token : placed.1 ∈ _ := List.mem_map_of_mem member
    rw [tokens, same] at token
    have read : written = "a" ∨ written = "b" ∨ written = "c" ∨ written = run '}' 1 := by
      simpa using token
    rcases read with rfl | rfl | rfl | rfl <;> rfl
  constructor
  · decide
  · intro placed member count enough same
    have size := short placed member _ same
    rw [run, String.length_ofList, List.length_replicate] at size
    omega
  · intro placed member same
    have size := short placed member _ same
    contradiction

theorem ClosedAtEnd.braces {source : String} (closed : ClosedAtEnd source) (tags : TagSet) :
    BracesClosed (scan tags source.toList) := by
  rw [scan_tags tags .standard closed.noAngle]
  apply bracesClosed
  intro count enough member
  rw [← map_fst_lex] at member
  obtain ⟨placed, found, same⟩ := List.mem_map.mp member
  exact closed.noBraces placed found count enough same

theorem ClosedAtEnd.links {source : String} (closed : ClosedAtEnd source) (tags : TagSet) :
    LinksClosed (pairBraces (scan tags source.toList)) := by
  rw [scan_tags tags .standard closed.noAngle]
  apply linksClosed
  intro member
  rw [← map_fst_lex] at member
  obtain ⟨placed, found, same⟩ := List.mem_map.mp member
  exact closed.noLink placed found same

theorem outline_newline (tags : TagSet) {first : String} (closed : ClosedAtEnd first)
    (second : String) :
    outline tags (first ++ "\n" ++ second) =
      outline tags first ++ .leaf .newline :: outline tags second := by
  have cut : scan tags (first ++ "\n" ++ second).toList =
      scan tags first.toList ++ ([.leaf .newline] ++ scan tags second.toList) := by
    rw [String.toList_append, String.toList_append, List.append_assoc]
    exact scan_newline tags closed.noAngle second.toList
  have line : BracesClosed [.leaf .newline] := rfl
  have pieces : pairBraces [.leaf .newline] = [.leaf (.leaf .newline)] := rfl
  have lineLinks : LinksClosed [.leaf (.leaf .newline)] := rfl
  unfold outline
  rw [cut, pairBraces_append (closed.braces tags), pairBraces_append line, pieces,
    pairLinks_append (closed.links tags), pairLinks_append lineLinks]
  rfl

/-- The tree of the page reads as the tree of its first part, a newline and the tree of its second
part. -/
theorem Reading.nodes_parse_newline {M : Type} [Monoid M] (reading : Reading M) (tags : TagSet)
    {first : String} (closed : ClosedAtEnd first) (second : String) :
    reading.nodes (parse tags (first ++ "\n" ++ second)) =
      reading.nodes (parse tags first) *
        (reading.node newline * reading.nodes (parse tags second)) := by
  have each : ∀ source, reading.nodes (parse tags source) =
      reading.items (itemsOf (outline tags source)) := by
    intro source
    rw [parse_eq, nodes_withHeadings, nodes_nodesOf]
  rw [each, each, each, outline_newline tags closed, itemsOf_append, items_append, itemsOf,
    items_cons]
  rfl

end Wikitext.Markup
