import Wikitext.Proofs.Markup.BracePairing

/-!
The scan that pairs link brackets gives the tokens of the outline. Inside one construct an open
link waits between what stands before it and what follows it; where the construct ends, the links
that still wait are text.
-/
namespace Wikitext.Markup

def settle (dead : List Nat) : Nat → List Token → List Token
  | _, [] => []
  | index, token :: rest =>
    (if index ∈ dead then token.asText else token) :: settle dead (index + 1) rest

theorem settle_append (dead : List Nat) (start : Nat) (first second : List Token) :
    settle dead start (first ++ second) =
      settle dead start first ++ settle dead (start + first.length) second := by
  induction first generalizing start with
  | nil => rfl
  | cons token rest ih =>
    have place : start + 1 + rest.length = start + (rest.length + 1) := by omega
    rw [List.cons_append, settle, settle, ih, place]
    rfl

theorem settle_congr {dead other : List Nat} {start : Nat} {word : List Token}
    (same : ∀ index, start ≤ index → index < start + word.length →
      (index ∈ other ↔ index ∈ dead)) : settle other start word = settle dead start word := by
  induction word generalizing start with
  | nil => rfl
  | cons token rest ih =>
    have here := same start (Nat.le_refl _) (by simp)
    have later : settle other (start + 1) rest = settle dead (start + 1) rest := by
      apply ih
      intro index low high
      exact same index (by omega) (by rw [List.length_cons]; omega)
    rw [settle, settle, later]
    simp only [here]

theorem settle_alive {dead : List Nat} {index : Nat} (alive : index ∉ dead) (token : Token)
    (rest : List Token) :
    settle dead index (token :: rest) = token :: settle dead (index + 1) rest := by
  rw [settle, if_neg alive]

theorem settle_dead {dead : List Nat} {index : Nat} (lost : index ∈ dead) (token : Token)
    (rest : List Token) :
    settle dead index (token :: rest) = token.asText :: settle dead (index + 1) rest := by
  rw [settle, if_pos lost]

theorem tokensOf_append (first second : List (Nested Bracket Leaf)) :
    tokensOf (first ++ second) = tokensOf first ++ tokensOf second := by
  induction first with
  | nil => rfl
  | cons piece rest ih => rw [List.cons_append, tokensOf, tokensOf, ih, List.append_assoc]

/-- The tokens of one construct read so far against the pieces of the outline: each link that is
open in it stands between what came before it and what followed it. -/
inductive LinkLevel (dead : List Nat) (start : Nat) (base : List Scope) :
    List Token → List Scope → List (List (Nested Bracket Leaf)) → List (Nested Bracket Leaf) →
      Prop where
  | bottom {word : List Token} {inner : List (Nested Bracket Leaf)}
      (same : settle dead start word = tokensOf inner.reverse) :
      LinkLevel dead start base word base [] inner
  | opened {earlier later : List Token} {scopes : List Scope}
      {outer : List (List (Nested Bracket Leaf))} {before inner : List (Nested Bracket Leaf)}
      (alive : start + earlier.length ∉ dead)
      (same : settle dead (start + earlier.length + 1) later = tokensOf inner.reverse)
      (outside : LinkLevel dead start base earlier scopes outer before) :
      LinkLevel dead start base (earlier ++ .opens .link :: later)
        (.link (start + earlier.length) :: scopes) (before :: outer) inner

namespace LinkLevel
variable {dead : List Nat} {start : Nat} {base scopes : List Scope} {word : List Token}
  {outer : List (List (Nested Bracket Leaf))} {inner : List (Nested Bracket Leaf)}

theorem extend (level : LinkLevel dead start base word scopes outer inner) {more : List Token}
    {pieces : List (Nested Bracket Leaf)}
    (same : settle dead (start + word.length) more = tokensOf pieces.reverse) :
    LinkLevel dead start base (word ++ more) scopes outer (pieces ++ inner) := by
  cases level with
  | bottom all =>
    apply bottom
    rw [settle_append, all, same, List.reverse_append, tokensOf_append]
  | @opened earlier later _ _ _ _ alive given outside =>
    have place : start + (earlier ++ .opens .link :: later).length =
        start + earlier.length + 1 + later.length := by
      rw [List.length_append, List.length_cons]
      omega
    rw [place] at same
    rw [List.append_assoc, List.cons_append]
    refine opened alive ?_ outside
    rw [settle_append, given, same, List.reverse_append, tokensOf_append]

theorem congr {other : List Nat} (level : LinkLevel dead start base word scopes outer inner)
    (same : ∀ index, start ≤ index → index < start + word.length →
      (index ∈ other ↔ index ∈ dead)) :
    LinkLevel other start base word scopes outer inner := by
  induction level with
  | bottom all =>
    apply bottom
    rw [settle_congr same, all]
  | @opened earlier later scopes outer before inner alive given outside ih =>
    rw [List.length_append, List.length_cons] at same
    refine opened ?_ ?_ (ih ?_)
    · rw [same _ (by omega) (by omega)]
      exact alive
    · rw [settle_congr fun index low high => same index (by omega) (by omega), given]
    · intro index low high
      exact same index low (by omega)

theorem release {index : Nat} {before : List (Nested Bracket Leaf)}
    (level : LinkLevel dead start base word (.link index :: scopes) (before :: outer) inner) :
    start ≤ index ∧ index < start + word.length ∧
      LinkLevel (index :: dead) start base word scopes outer
        (inner ++ .leaf (.text Bracket.link.opening) :: before) := by
  cases level with
  | @opened earlier later _ _ _ _ alive same outside =>
    refine ⟨by omega, by rw [List.length_append, List.length_cons]; omega, ?_⟩
    have kept : ∀ index, index ≠ start + earlier.length →
        (index ∈ (start + earlier.length) :: dead ↔ index ∈ dead) := by
      intro index apart
      rw [List.mem_cons, or_iff_right apart]
    have around := outside.congr fun index _ high => kept index (by omega)
    have link : settle ((start + earlier.length) :: dead) (start + earlier.length)
        (.opens .link :: later) =
        tokensOf (inner ++ [Nested.leaf (Leaf.text Bracket.link.opening)]).reverse := by
      rw [settle_dead List.mem_cons_self, settle_congr fun index low _ => kept index (by omega),
        same, List.reverse_append, tokensOf_append]
      rfl
    have whole := around.extend link
    rwa [List.append_assoc, List.singleton_append] at whole

theorem pair {index : Nat} {before : List (Nested Bracket Leaf)}
    (level : LinkLevel dead start base word (.link index :: scopes) (before :: outer) inner)
    (alive : start + word.length ∉ dead) :
    LinkLevel dead start base (word ++ [.closes .link]) scopes outer
      (.group .link inner.reverse :: before) := by
  cases level with
  | @opened earlier later _ _ _ _ alone same outside =>
    have place : start + earlier.length + 1 + later.length =
        start + (earlier ++ .opens .link :: later).length := by
      rw [List.length_append, List.length_cons]
      omega
    have link : settle dead (start + earlier.length)
        (.opens .link :: (later ++ [.closes .link])) =
        tokensOf [Nested.group Bracket.link inner.reverse].reverse := by
      rw [settle_alive alone, settle_append, same, place, settle_alive alive]
      simp [settle, tokensOf, Nested.tokens]
    have joined := outside.extend link
    rw [List.append_assoc, List.cons_append]
    exact joined

theorem finish (level : LinkLevel dead start base word scopes outer inner) :
    ∃ lost : List Nat, scopes = lost.map .link ++ base ∧
      (∀ index ∈ lost, start ≤ index ∧ index < start + word.length) ∧
      settle (lost ++ dead) start word = tokensOf (LinkState.finish ⟨outer, inner⟩) := by
  induction outer generalizing dead scopes inner with
  | nil =>
    cases level with
    | bottom same => exact ⟨[], rfl, by simp, same⟩
  | cons before outer ih =>
    have top : ∃ index rest, scopes = .link index :: rest := by
      cases level
      exact ⟨_, _, rfl⟩
    obtain ⟨index, rest, rfl⟩ := top
    obtain ⟨low, high, released⟩ := level.release
    obtain ⟨lost, whole, bounds, same⟩ := ih released
    refine ⟨index :: lost, ?_, ?_, ?_⟩
    · rw [whole]
      rfl
    · intro other member
      rcases List.mem_cons.mp member with here | later
      · rw [here]
        exact ⟨low, high⟩
      · exact bounds other later
    · have order : ∀ other, start ≤ other → other < start + word.length →
          (other ∈ index :: lost ++ dead ↔ other ∈ lost ++ index :: dead) := by
        intro other _ _
        simp [or_left_comm]
      rw [settle_congr order, same]
      rfl

end LinkLevel

namespace LinkScan

def steps (scan : LinkScan) (start : Nat) (word : List Token) : LinkScan :=
  (word.zipIdx start).foldl step scan

theorem steps_append (scan : LinkScan) (start : Nat) (first second : List Token) :
    scan.steps start (first ++ second) =
      (scan.steps start first).steps (start + first.length) second := by
  unfold steps
  rw [List.zipIdx_append, List.foldl_append]

theorem steps_cons (scan : LinkScan) (start : Nat) (token : Token) (rest : List Token) :
    scan.steps start (token :: rest) = (scan.step (token, start)).steps (start + 1) rest := rfl

theorem leave_links (unpaired lost : List Nat) (base : List Scope) :
    leave unpaired (lost.map .link ++ .braces :: base) = ⟨base, lost.reverse ++ unpaired⟩ := by
  induction lost generalizing unpaired with
  | nil => rfl
  | cons index lost ih =>
    change leave (index :: unpaired) (lost.map .link ++ .braces :: base) = _
    rw [ih]
    simp

end LinkScan

structure LinkAgrees (start : Nat) (word : List Token) (first scan : LinkScan)
    (state : LinkState) : Prop where
  level : LinkLevel scan.unpaired start first.scopes word scan.scopes state.outer state.inner
  kept : ∀ index < start, index ∈ scan.unpaired ↔ index ∈ first.unpaired
  known : ∀ index ∈ scan.unpaired, index < start + word.length

def Outermost (scan : LinkScan) : Prop :=
  scan.scopes = [] ∨ ∃ outer, scan.scopes = .braces :: outer

namespace LinkAgrees
variable {start : Nat} {word : List Token} {first scan : LinkScan} {state : LinkState}

theorem alive (agrees : LinkAgrees start word first scan state) :
    start + word.length ∉ scan.unpaired := by
  intro member
  exact Nat.lt_irrefl _ (agrees.known _ member)

theorem known_concat (agrees : LinkAgrees start word first scan state) (token : Token) :
    ∀ index ∈ scan.unpaired, index < start + (word ++ [token]).length := by
  intro index member
  have bound := agrees.known index member
  rw [List.length_append]
  omega

theorem add (agrees : LinkAgrees start word first scan state) {token : Token}
    {pieces : List (Nested Bracket Leaf)} (same : [token] = tokensOf pieces.reverse) :
    LinkAgrees start (word ++ [token]) first scan ⟨state.outer, pieces ++ state.inner⟩ := by
  constructor
  · apply agrees.level.extend
    rw [settle_alive agrees.alive, ← same]
    rfl
  · exact agrees.kept
  · exact agrees.known_concat token

theorem openLink (agrees : LinkAgrees start word first scan state) :
    LinkAgrees start (word ++ [.opens .link]) first
      (scan.step (.opens .link, start + word.length)) (state.step .openLink) := by
  constructor
  · exact .opened agrees.alive rfl agrees.level
  · exact agrees.kept
  · exact agrees.known_concat _

theorem closeLink_stray {dead : List Nat} {inner : List (Nested Bracket Leaf)}
    (agrees : LinkAgrees start word first ⟨first.scopes, dead⟩ ⟨[], inner⟩) :
    LinkAgrees start (word ++ [.closes .link]) first
      ⟨first.scopes, (start + word.length) :: dead⟩
      ⟨[], .leaf (.text Bracket.link.closing) :: inner⟩ := by
  have others : ∀ index, index < start + word.length →
      (index ∈ (start + word.length) :: dead ↔ index ∈ dead) := by
    intro index less
    rw [List.mem_cons, or_iff_right (Nat.ne_of_lt less)]
  constructor
  · have around := agrees.level.congr fun index _ high => others index high
    have text : settle ((start + word.length) :: dead) (start + word.length) [.closes .link] =
        tokensOf [Nested.leaf (Leaf.text Bracket.link.closing)].reverse := by
      rw [settle_dead List.mem_cons_self]
      rfl
    exact around.extend text
  · intro index less
    rw [others index (by omega)]
    exact agrees.kept index less
  · intro index member
    rcases List.mem_cons.mp member with here | old
    · rw [here, List.length_append]
      exact Nat.lt_succ_self _
    · exact agrees.known_concat _ index old

theorem closeLink (agrees : LinkAgrees start word first scan state) (outermost : Outermost first) :
    LinkAgrees start (word ++ [.closes .link]) first
      (scan.step (.closes .link, start + word.length)) (state.step .closeLink) := by
  obtain ⟨scopes, dead⟩ := scan
  obtain ⟨outer, inner⟩ := state
  have level := agrees.level
  cases outer with
  | nil =>
    -- no link is open here, and the scope around is no link either, so nothing can pair
    have base : scopes = first.scopes := by
      cases level
      rfl
    have stray : LinkScan.step ⟨first.scopes, dead⟩ (.closes .link, start + word.length) =
        ⟨first.scopes, (start + word.length) :: dead⟩ := by
      unfold LinkScan.step
      rcases outermost with none | ⟨rest, braces⟩
      · rw [none]
      · rw [braces]
    subst base
    rw [stray]
    exact agrees.closeLink_stray
  | cons before outer =>
    have top : ∃ index rest, scopes = .link index :: rest := by
      cases level
      exact ⟨_, _, rfl⟩
    obtain ⟨index, rest, rfl⟩ := top
    exact ⟨level.pair agrees.alive, agrees.kept, agrees.known_concat _⟩

theorem leaf (agrees : LinkAgrees start word first scan state) (outermost : Outermost first)
    (content : Atom) :
    LinkAgrees start (word ++ [content.token]) first
      (scan.step (content.token, start + word.length)) (state.step content) := by
  cases content with
  | openLink => exact agrees.openLink
  | closeLink => exact agrees.closeLink outermost
  | leaf content =>
    have same : [Token.leaf content] = tokensOf [Nested.leaf content].reverse := rfl
    exact agrees.add same

theorem group (agrees : LinkAgrees start word first scan state) {body : List Token}
    {inside : LinkScan} {inner : LinkState}
    (read : LinkAgrees (start + word.length + 1) body ⟨.braces :: scan.scopes, scan.unpaired⟩
      inside inner) (brace : Brace) :
    LinkAgrees start (word ++ brace.opens :: (body ++ [brace.closes])) first
      (LinkScan.leave inside.unpaired inside.scopes)
      (state.add (.group brace.bracket inner.finish)) := by
  obtain ⟨lost, whole, bounds, same⟩ := read.level.finish
  -- the links that die with the construct are those opened in it, so nothing before it changes
  have left : LinkScan.leave inside.unpaired inside.scopes =
      ⟨scan.scopes, lost.reverse ++ inside.unpaired⟩ := by
    rw [whole]
    exact LinkScan.leave_links _ _ _
  have before : ∀ index, index < start + word.length + 1 →
      (index ∈ lost.reverse ++ inside.unpaired ↔ index ∈ scan.unpaired) := by
    intro index less
    have other : index ∉ lost := by
      intro member
      have low := (bounds index member).1
      omega
    rw [List.mem_append, List.mem_reverse, or_iff_right other]
    exact read.kept index less
  have after : ∀ index ∈ lost.reverse ++ inside.unpaired,
      index < start + word.length + 1 + body.length := by
    intro index member
    rcases List.mem_append.mp member with new | old
    · exact (bounds index (List.mem_reverse.mp new)).2
    · exact read.known index old
  have order : ∀ index, start + word.length + 1 ≤ index →
      index < start + word.length + 1 + body.length →
      (index ∈ lost.reverse ++ inside.unpaired ↔ index ∈ lost ++ inside.unpaired) := by
    intro index _ _
    rw [List.mem_append, List.mem_append, List.mem_reverse]
  have opening : start + word.length ∉ lost.reverse ++ inside.unpaired := by
    rw [before _ (Nat.lt_succ_self _)]
    exact agrees.alive
  have closing : start + word.length + 1 + body.length ∉ lost.reverse ++ inside.unpaired := by
    intro member
    exact Nat.lt_irrefl _ (after _ member)
  have construct : settle (lost.reverse ++ inside.unpaired) (start + word.length)
      (brace.opens :: (body ++ [brace.closes])) =
      tokensOf [Nested.group brace.bracket inner.finish].reverse := by
    rw [settle_alive opening, settle_append, settle_congr order, same, settle_alive closing]
    simp [settle, tokensOf, Nested.tokens, Brace.opens, Brace.closes]
  rw [left]
  constructor
  · have around := agrees.level.congr fun index _ high => before index (by omega)
    exact around.extend construct
  · intro index less
    rw [before index (by omega)]
    exact agrees.kept index less
  · intro index member
    have bound := after index member
    rw [List.length_append, List.length_cons, List.length_append]
    omega

end LinkAgrees

theorem step_opens (scan : LinkScan) (brace : Brace) (index : Nat) :
    scan.step (brace.opens, index) = ⟨.braces :: scan.scopes, scan.unpaired⟩ := by
  cases brace <;> rfl

theorem step_closes (scan : LinkScan) (brace : Brace) (index : Nat) :
    scan.step (brace.closes, index) = .leave scan.unpaired scan.scopes := by
  cases brace <;> rfl

theorem linkAgrees_start (start : Nat) (first : LinkScan)
    (known : ∀ index ∈ first.unpaired, index < start) :
    LinkAgrees start [] first first ⟨[], []⟩ :=
  ⟨.bottom rfl, fun _ _ => Iff.rfl, known⟩

mutual

theorem linkPiece_agrees {start : Nat} {word : List Token} {first scan : LinkScan}
    {state : LinkState} (agrees : LinkAgrees start word first scan state)
    (outermost : Outermost first) (piece : Nested Brace Atom) :
    LinkAgrees start (word ++ piece.words) first (scan.steps (start + word.length) piece.words)
      (linkPiece state piece) := by
  match piece with
  | .leaf content => exact agrees.leaf outermost content
  | .group brace body =>
    have known : ∀ index ∈ scan.unpaired, index < start + word.length + 1 := by
      intro index member
      exact Nat.lt_succ_of_lt (agrees.known index member)
    have inside := linkPieces_agrees
      (linkAgrees_start _ ⟨.braces :: scan.scopes, scan.unpaired⟩ known) (.inr ⟨_, rfl⟩) body
    have whole := agrees.group inside brace
    rw [Nested.words, LinkScan.steps_cons, LinkScan.steps_append, LinkScan.steps_cons, step_opens,
      step_closes]
    exact whole

theorem linkPieces_agrees {start : Nat} {word : List Token} {first scan : LinkScan}
    {state : LinkState} (agrees : LinkAgrees start word first scan state)
    (outermost : Outermost first) (pieces : List (Nested Brace Atom)) :
    LinkAgrees start (word ++ wordsOf pieces) first
      (scan.steps (start + word.length) (wordsOf pieces)) (linkPieces state pieces) := by
  match pieces with
  | [] =>
    rw [wordsOf, List.append_nil]
    exact agrees
  | piece :: rest =>
    have here := linkPiece_agrees agrees outermost piece
    have whole := linkPieces_agrees here outermost rest
    rw [List.append_assoc, List.length_append, ← Nat.add_assoc, ← LinkScan.steps_append] at whole
    exact whole

end

/-- The places that the scan finds dead are those where the outline has a text. -/
theorem settle_unpairedLinks (pieces : List (Nested Brace Atom)) :
    settle (unpairedLinks (wordsOf pieces)) 0 (wordsOf pieces) = tokensOf (pairLinks pieces) := by
  have start := linkAgrees_start 0 .empty (by simp [LinkScan.empty])
  have agrees : LinkAgrees 0 (wordsOf pieces) .empty (LinkScan.empty.steps 0 (wordsOf pieces))
      (linkPieces ⟨[], []⟩ pieces) := linkPieces_agrees start (.inl rfl) pieces
  obtain ⟨lost, whole, _, same⟩ := agrees.level.finish
  have links : (lost.map Scope.link).filterMap Scope.link? = lost := by
    have each : Scope.link? ∘ Scope.link = some := rfl
    rw [List.filterMap_map, each, List.filterMap_some]
  have dead : unpairedLinks (wordsOf pieces) =
      lost ++ (LinkScan.empty.steps 0 (wordsOf pieces)).unpaired := by
    have base : LinkScan.empty.scopes = [] := rfl
    rw [base, List.append_nil] at whole
    change (LinkScan.empty.steps 0 (wordsOf pieces)).scopes.filterMap Scope.link? ++ _ = _
    rw [whole, links]
    rfl
  rw [dead]
  exact same

def settleAt (dead : List Nat) (index : Nat) (placed : Token × Span) : Token × Span :=
  (if index ∈ dead then placed.1.asText else placed.1, placed.2)

theorem getElem?_keepAsText (dead : List Nat) (placed : List (Token × Span)) (index : Nat) :
    (dead.foldl keepAsText placed)[index]? = placed[index]?.map (settleAt dead index) := by
  induction dead generalizing placed with
  | nil =>
    have none : settleAt [] index = id := rfl
    rw [none, Option.map_id]
    rfl
  | cons lost dead ih =>
    rw [List.foldl_cons, ih, keepAsText, List.getElem?_modify]
    cases placed[index]? with
    | none => rfl
    | some found =>
      obtain ⟨token, span⟩ := found
      by_cases here : lost = index
      · subst here
        simp [settleAt, Token.asText, Token.source, Leaf.source]
      · simp [settleAt, here, Ne.symm here]

theorem getElem?_place_settle (dead : List Nat) (word : List Token) (start first index : Nat) :
    (place start (settle dead first word))[index]? =
      (place start word)[index]?.map (settleAt dead (first + index)) := by
  induction word generalizing start first index with
  | nil => rfl
  | cons token rest ih =>
    have size : (if first ∈ dead then token.asText else token).source = token.source := by
      split <;> rfl
    rw [settle, place, place, size]
    cases index with
    | zero => rfl
    | succ index =>
      rw [List.getElem?_cons_succ, List.getElem?_cons_succ, ih]
      have next : first + 1 + index = first + (index + 1) := by omega
      rw [next]

theorem pairLinkTokens_place (start : Nat) (word : List Token) :
    pairLinkTokens (place start word) = place start (settle (unpairedLinks word) 0 word) := by
  apply List.ext_getElem?
  intro index
  unfold pairLinkTokens
  rw [map_fst_place, getElem?_keepAsText, getElem?_place_settle, Nat.zero_add]

/-- The tokens of a text are those of its outline, one behind the other. -/
theorem lex_eq_place (tags : TagSet) (source : String) :
    lex tags source = place 0 (tokens tags source) := by
  unfold lex
  rw [(balanceBraces_eq_place _).1, pairLinkTokens_place, settle_unpairedLinks]
  rfl

theorem map_fst_lex (tags : TagSet) (source : String) :
    (lex tags source).map Prod.fst = tokens tags source := by
  rw [lex_eq_place, map_fst_place]

end Wikitext.Markup
