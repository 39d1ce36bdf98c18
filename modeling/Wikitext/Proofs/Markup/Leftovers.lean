import Wikitext.Proofs.Markup.Marks
import Wikitext.Proofs.Markup.Nesting
import Wikitext.Proofs.Markup.Watch

/-!
What pairing leaves as text. Braces and link brackets without a partner stay in the text, and among
them no opening stands before a closing that it could still pair with. While the scan goes on, what
stands behind an opening that waits has no such text in it, and no opening is text in front of all
that wait; the watcher reads the tokens that come of this to the end.
-/
namespace Wikitext.Markup

/-- Link brackets that are text, each in the template or argument that it stands in. -/
def linkRole : Token → Role
  | .opens .link | .closes .link => .plain
  | .opens _ => .enters
  | .closes _ => .leaves
  | .leaf content =>
    if content = .text Bracket.link.opening then .starts
    else if content = .text Bracket.link.closing then .stops
    else .plain

def linkRoles (pieces : List (Nested Bracket Leaf)) : List Role := (tokensOf pieces).map linkRole

theorem linkRoles_append (first second : List (Nested Bracket Leaf)) :
    linkRoles (first ++ second) = linkRoles first ++ linkRoles second := by
  rw [linkRoles, tokensOf_append, List.map_append]
  rfl

theorem linkRoles_single (piece : Nested Bracket Leaf) :
    linkRoles [piece] = piece.tokens.map linkRole := by
  rw [linkRoles, tokensOf, tokensOf, List.append_nil]

theorem linkRoles_group (bracket : Bracket) (body : List (Nested Bracket Leaf)) :
    linkRoles [.group bracket body] =
      linkRole (.opens bracket) :: (linkRoles body ++ [linkRole (.closes bracket)]) := by
  rw [linkRoles_single, Nested.tokens, List.map_cons, List.map_append]
  rfl

namespace LinkState

def Waits (state : LinkState) : Prop :=
  Markup.Waits (state.outer.map fun before => linkRoles before.reverse)
    (linkRoles state.inner.reverse)

variable {state : LinkState}

theorem Waits.add (waits : state.Waits) {piece : Nested Bracket Leaf}
    (quiet : Quiet (linkRoles [piece])) : (state.add piece).Waits := by
  unfold Waits LinkState.add
  simp only [List.reverse_cons, linkRoles_append]
  exact Markup.Waits.append waits quiet

theorem Waits.step (waits : state.Waits) {content : Atom}
    (plain : ∀ leaf, content = .leaf leaf → linkRole (.leaf leaf) = .plain) :
    (state.step content).Waits := by
  cases content with
  | openLink => exact ⟨quiet_nil, waits⟩
  | closeLink =>
    obtain ⟨outer, inner⟩ := state
    cases outer with
    | nil =>
      -- no link is open, so no start stands before this stop
      have startless : Startless (linkRoles inner.reverse) := waits
      have stops : Startless (linkRoles [.leaf (.text Bracket.link.closing)]) := startless_stops
      have both := startless.append stops
      rw [← linkRoles_append, ← List.reverse_cons] at both
      exact both
    | cons before outer =>
      have body : Quiet (linkRoles [.group .link inner.reverse]) := by
        rw [linkRoles_group]
        exact quiet_plain.append (waits.1.append quiet_plain)
      have outside : Waits ⟨outer, before⟩ := waits.2
      exact outside.add body
  | leaf content =>
    apply waits.add
    rw [linkRoles_single]
    simp only [Nested.tokens, List.map_cons, List.map_nil, plain content rfl]
    exact quiet_plain

theorem Waits.finish (waits : state.Waits) : Settled (linkRoles state.finish) := by
  have run : ∀ (outer : List (List (Nested Bracket Leaf))) (inner : List (Nested Bracket Leaf)),
      linkRoles (LinkState.finish ⟨outer, inner⟩) =
        (outer.map fun before => linkRoles before.reverse).foldl
          (fun behind before => before ++ .starts :: behind) (linkRoles inner.reverse) := by
    intro outer
    induction outer with
    | nil => exact fun inner => rfl
    | cons before outer ih =>
      intro inner
      have here : linkRoles (inner ++ .leaf (.text Bracket.link.opening) :: before).reverse =
          linkRoles before.reverse ++ .starts :: linkRoles inner.reverse := by
        rw [List.reverse_append, List.reverse_cons, List.append_assoc, linkRoles_append,
          linkRoles_append]
        rfl
      rw [List.map_cons, List.foldl_cons, ← here, ← ih]
      rfl
  rw [run]
  exact Markup.Waits.settled waits

end LinkState

mutual

theorem linkPiece_waits {state : LinkState} (waits : state.Waits) (piece : Nested Brace Atom)
    (plain : ∀ content, .leaf content ∈ piece.words → linkRole (.leaf content) = .plain) :
    (linkPiece state piece).Waits := by
  match piece with
  | .leaf content =>
    apply waits.step
    rintro leaf rfl
    exact plain leaf List.mem_cons_self
  | .group brace body =>
    have inside : LinkState.Waits ⟨[], []⟩ := quiet_nil.startless
    have whole := (linkPieces_waits inside body fun content member =>
      plain content (List.mem_cons_of_mem _ (List.mem_append_left _ member))).finish
    apply waits.add
    rw [linkRoles_group]
    cases brace <;> exact whole.scope

theorem linkPieces_waits {state : LinkState} (waits : state.Waits)
    (pieces : List (Nested Brace Atom))
    (plain : ∀ content, .leaf content ∈ wordsOf pieces → linkRole (.leaf content) = .plain) :
    (linkPieces state pieces).Waits := by
  match pieces with
  | [] => exact waits
  | piece :: rest =>
    have here := linkPiece_waits waits piece fun content member =>
      plain content (by rw [wordsOf]; exact List.mem_append_left _ member)
    exact linkPieces_waits here rest fun content member =>
      plain content (by rw [wordsOf]; exact List.mem_append_right _ member)

end

def isRun (c : Char) (written : String) : Bool :=
  2 ≤ written.toList.length && written.toList.all (· == c)

theorem isRun_iff {c : Char} {written : String} :
    isRun c written = true ↔ ∃ count, 2 ≤ count ∧ written = run c count := by
  unfold isRun
  rw [Bool.and_eq_true, decide_eq_true_iff, List.all_eq_true]
  constructor
  · rintro ⟨enough, same⟩
    refine ⟨written.toList.length, enough, String.ext ?_⟩
    rw [run_toList]
    exact List.eq_replicate_iff.mpr ⟨rfl, fun other member => eq_of_beq (same other member)⟩
  · rintro ⟨count, enough, rfl⟩
    rw [run_toList, List.length_replicate]
    exact ⟨enough, fun other member => beq_iff_eq.mpr (List.eq_of_mem_replicate member)⟩

/-- Braces that are text, two or more of them, wherever they stand. -/
def braceRole : Token → Role
  | .leaf (.text written) =>
    if isRun '{' written then .starts else if isRun '}' written then .stops else .plain
  | _ => .plain

def braceRoles (pieces : List (Nested Brace Atom)) : List Role := (wordsOf pieces).map braceRole

theorem braceRoles_append (first second : List (Nested Brace Atom)) :
    braceRoles (first ++ second) = braceRoles first ++ braceRoles second := by
  rw [braceRoles, wordsOf_append, List.map_append]
  rfl

theorem quiet_group (brace : Brace) {body : List (Nested Brace Atom)}
    (quiet : Quiet (braceRoles body)) : Quiet (braceRoles [.group brace body]) := by
  have roles : braceRoles [.group brace body] = [.plain] ++ (braceRoles body ++ [.plain]) := by
    rw [braceRoles, wordsOf, wordsOf, List.append_nil, Nested.words, List.map_cons, List.map_append]
    rfl
  rw [roles]
  exact quiet_plain.append (quiet.append quiet_plain)

theorem braceRoles_leftover (c : Char) {count : Nat} (some : count ≠ 0) :
    braceRoles (leftover c count) = [braceRole (.leaf (.text (run c count)))] := by
  rw [leftover, if_neg some]
  rfl

theorem braceRole_opening {count : Nat} (enough : 2 ≤ count) :
    braceRole (.leaf (.text (run '{' count))) = .starts := by
  rw [braceRole, if_pos (isRun_iff.mpr ⟨count, enough, rfl⟩)]

theorem braceRole_closing {count : Nat} (enough : 2 ≤ count) :
    braceRole (.leaf (.text (run '}' count))) = .stops := by
  have other : isRun '{' (run '}' count) = false := by
    rw [isRun, run_toList, Bool.and_eq_false_iff]
    refine .inr (List.all_eq_false.mpr ⟨'}', ?_, by decide⟩)
    exact List.mem_replicate.mpr ⟨by omega, rfl⟩
  rw [braceRole, other, if_neg Bool.false_ne_true, if_pos (isRun_iff.mpr ⟨count, enough, rfl⟩)]

theorem quiet_leftover (c : Char) {count : Nat} (few : count < 2) :
    Quiet (braceRoles (leftover c count)) := by
  by_cases none : count = 0
  · rw [none]
    exact quiet_nil
  · have short : ∀ d, isRun d (run c count) = false := by
      intro d
      rw [isRun, run_toList, List.length_replicate, decide_eq_false (by omega), Bool.false_and]
    rw [braceRoles_leftover c none, braceRole, short, short]
    exact quiet_plain

theorem startless_leftover (count : Nat) : Startless (braceRoles (leftover '}' count)) := by
  by_cases few : count < 2
  · exact (quiet_leftover _ few).startless
  · rw [braceRoles_leftover _ (by omega), braceRole_closing (by omega)]
    exact startless_stops

namespace BraceState

def Waits (state : BraceState) : Prop :=
  Markup.Waits (state.runs.map fun run => braceRoles run.before.reverse)
    (braceRoles state.inner.reverse)

variable {state : BraceState}

theorem Waits.opening (waits : state.Waits) (count : Nat) : (state.opening count).Waits := by
  unfold BraceState.opening
  split
  · rename_i few
    unfold Waits
    rw [List.reverse_append, leftover_reverse, braceRoles_append]
    exact Markup.Waits.append waits (quiet_leftover _ few)
  · exact ⟨quiet_nil, waits⟩

theorem Waits.pair {innermost : WaitingRun} {outer : List WaitingRun}
    {inner : List (Nested Brace Atom)} (waits : Waits ⟨innermost :: outer, inner⟩) (brace : Brace) :
    Waits (.pair innermost outer inner brace) := by
  have piece : Quiet (braceRoles [.group brace inner.reverse]) := quiet_group brace waits.1
  unfold BraceState.pair
  simp only
  split
  · rename_i few
    unfold Waits
    simp only [List.reverse_cons, List.reverse_append, leftover_reverse, braceRoles_append]
    exact Markup.Waits.append waits.2 ((quiet_leftover _ few).append piece)
  · exact ⟨piece, waits.2⟩

theorem Waits.closing (waits : state.Waits) (count : Nat) : (state.closing count).Waits := by
  induction count using Nat.strongRecOn generalizing state with
  | ind count ih =>
    obtain ⟨runs, inner⟩ := state
    cases runs with
    | nil =>
      rw [closing_stop (.inl rfl)]
      unfold Waits
      simp only [List.reverse_append, leftover_reverse, braceRoles_append]
      exact Startless.append waits (startless_leftover count)
    | cons innermost outer =>
      by_cases few : count < 2
      · rw [closing_stop (.inr few)]
        unfold Waits
        simp only [List.reverse_append, leftover_reverse, braceRoles_append]
        exact Markup.Waits.append waits (quiet_leftover _ few)
      · have width := two_le_width (widest count innermost.braces)
        rw [closing_pair innermost outer inner few]
        exact ih _ (by omega) (waits.pair _)

theorem Waits.step (waits : state.Waits) {lexeme : Lexeme}
    (plain : ∀ content, lexeme = .atom content → braceRole content.token = .plain) :
    (state.step lexeme).Waits := by
  cases lexeme with
  | openBraces count => exact waits.opening count
  | closeBraces count => exact waits.closing count
  | atom content =>
    have quiet : Quiet (braceRoles [.leaf content]) := by
      have role : braceRoles [.leaf content] = [braceRole content.token] := rfl
      rw [role, plain content rfl]
      exact quiet_plain
    unfold Waits BraceState.step BraceState.add
    simp only [List.reverse_cons, braceRoles_append]
    exact Markup.Waits.append waits quiet

theorem Waits.steps (waits : state.Waits) {lexemes : List Lexeme}
    (plain : ∀ content, .atom content ∈ lexemes → braceRole content.token = .plain) :
    (lexemes.foldl BraceState.step state).Waits := by
  induction lexemes generalizing state with
  | nil => exact waits
  | cons lexeme rest ih =>
    have here : (state.step lexeme).Waits := waits.step fun content same =>
      plain content (same ▸ List.mem_cons_self)
    exact ih here fun content member => plain content (List.mem_cons_of_mem lexeme member)

theorem Waits.finish (waits : state.Waits) (enough : ∀ run ∈ state.runs, 2 ≤ run.braces) :
    Settled (braceRoles state.finish) := by
  have run : ∀ (runs : List WaitingRun) (inner : List (Nested Brace Atom)),
      (∀ run ∈ runs, 2 ≤ run.braces) →
      braceRoles (BraceState.finish ⟨runs, inner⟩) =
        (runs.map fun run => braceRoles run.before.reverse).foldl
          (fun behind before => before ++ .starts :: behind) (braceRoles inner.reverse) := by
    intro runs
    induction runs with
    | nil => exact fun inner _ => rfl
    | cons innermost outer ih =>
      intro inner enough
      have two := enough innermost List.mem_cons_self
      have here : braceRoles
          (inner ++ leftover '{' innermost.braces ++ innermost.before).reverse =
          braceRoles innermost.before.reverse ++ .starts :: braceRoles inner.reverse := by
        rw [List.reverse_append, List.reverse_append, leftover_reverse, braceRoles_append,
          braceRoles_append, braceRoles_leftover _ (by omega), braceRole_opening two]
        rfl
      rw [List.map_cons, List.foldl_cons, ← here,
        ← ih _ fun run member => enough run (List.mem_cons_of_mem innermost member)]
      rfl
  rw [run state.runs state.inner enough]
  exact Markup.Waits.settled waits

end BraceState

theorem settled_pairBraces {lexemes : List Lexeme}
    (plain : ∀ content, .atom content ∈ lexemes → braceRole content.token = .plain) :
    Settled (braceRoles (pairBraces lexemes)) := by
  have start : BraceState.Waits ⟨[], []⟩ := quiet_nil.startless
  exact (start.steps plain).finish (waiting_braces lexemes)

theorem settled_pairLinks {pieces : List (Nested Brace Atom)}
    (plain : ∀ content, .leaf content ∈ wordsOf pieces → linkRole (.leaf content) = .plain) :
    Settled (linkRoles (pairLinks pieces)) := by
  have start : LinkState.Waits ⟨[], []⟩ := quiet_nil.startless
  exact (linkPieces_waits start pieces plain).finish

theorem next_ne_run {tags : TagSet} {c d : Char} {cs : List Char} {written : String} {count : Nat}
    (bracket : d ∈ ['{', '}', '[', ']']) (enough : 2 ≤ count)
    (text : (Lexeme.next tags c cs).1 = .leaf (.text written)) : written ≠ run d count := by
  rintro rfl
  obtain ⟨more, rfl⟩ := Nat.exists_eq_add_of_le' enough
  have whole := next_source tags c cs
  rw [text] at whole
  have front : c = d ∧ cs = d :: (List.replicate more d ++ (Lexeme.next tags c cs).2) := by
    have spelled : (run d (more + 2)).toList = d :: d :: List.replicate more d := by
      rw [run_toList]
      rfl
    change (run d (more + 2)).toList ++ _ = c :: cs at whole
    rw [spelled] at whole
    injection whole with first rest
    exact ⟨first.symm, rest.symm⟩
  obtain ⟨rfl, rest⟩ := front
  generalize (Lexeme.next tags c cs).2 = after at rest
  subst rest
  have brackets : c = '{' ∨ c = '}' ∨ c = '[' ∨ c = ']' := by simpa using bracket
  rcases brackets with rfl | rfl | rfl | rfl <;> cases text

theorem braceRole_of_mem {tags : TagSet} {cs : List Char} {content : Atom}
    (member : .atom content ∈ scan tags cs) : braceRole content.token = .plain := by
  obtain ⟨c, rest, next⟩ := mem_scan member
  match content with
  | .openLink | .closeLink => rfl
  | .leaf (.text written) =>
    have other : ∀ d ∈ ['{', '}'], isRun d written = false := by
      intro d brace
      rw [Bool.eq_false_iff]
      intro all
      obtain ⟨count, enough, same⟩ := isRun_iff.mp all
      exact next_ne_run (List.mem_append_left ['[', ']'] brace) enough next.symm same
    rw [Atom.token, braceRole, other '{' (by decide), other '}' (by decide)]
    rfl
  | .leaf .pipe | .leaf (.equals _) | .leaf .newline | .leaf (.comment _) | .leaf (.tag _)
  | .leaf (.marker _) => rfl

theorem linkRole_leaf {content : Leaf} (other : ∀ c ∈ ['[', ']'], content ≠ .text (run c 2)) :
    linkRole (.leaf content) = .plain := by
  have opening : content ≠ .text Bracket.link.opening := other '[' (by decide)
  have closing : content ≠ .text Bracket.link.closing := other ']' (by decide)
  rw [linkRole, if_neg opening, if_neg closing]

theorem linkRole_of_mem {tags : TagSet} {cs : List Char} {content : Leaf}
    (member : .leaf content ∈ wordsOf (pairBraces (scan tags cs))) :
    linkRole (.leaf content) = .plain := by
  obtain ⟨_, expansion⟩ := balanceBraces_eq_place (scan tags cs)
  obtain ⟨lexeme, found, part, splits, inside⟩ := expansion.exists_of_mem member
  apply linkRole_leaf
  intro d bracket same
  rcases mem_splits splits inside with
    ⟨c, count, brace, some, text⟩ | ⟨brace, delimiter⟩ | ⟨atom, rfl, token⟩
  · have runs : run c count = run d 2 := Leaf.text.inj ((Token.leaf.inj text).symm.trans same)
    have letters := congrArg String.toList runs
    rw [run_toList, run_toList, List.replicate_inj] at letters
    have letter : c = d := letters.2.resolve_left some
    rcases brace with rfl | rfl <;> subst letter <;> revert bracket <;> decide
  · rcases delimiter with opening | closing
    · cases opening
    · cases closing
  · obtain ⟨c, rest, next⟩ := mem_scan found
    cases atom with
    | leaf other =>
      cases token
      rw [same] at next
      exact next_ne_run (List.mem_append_right ['{', '}'] bracket) (Nat.le_refl 2) next.symm rfl
    | _ => cases token

theorem map_braceRole_settle {dead : List Nat} {start : Nat} {word : List Token}
    (links : ∀ token index, (token, index) ∈ word.zipIdx start → index ∈ dead → token.IsLink) :
    (settle dead start word).map braceRole = word.map braceRole := by
  induction word generalizing start with
  | nil => rfl
  | cons token rest ih =>
    have later : (settle dead (start + 1) rest).map braceRole = rest.map braceRole := by
      apply ih
      intro other index member
      exact links other index (by rw [List.zipIdx_cons]; exact List.mem_cons_of_mem _ member)
    rw [settle, List.map_cons, List.map_cons, later]
    split
    · rename_i lost
      rcases links token start (by rw [List.zipIdx_cons]; exact List.mem_cons_self) lost with
        rfl | rfl <;> rfl
    · rfl

theorem settled_braces (tags : TagSet) (source : String) :
    Settled ((tokens tags source).map braceRole) := by
  rw [tokens_eq_settle, map_braceRole_settle]
  · exact settled_pairBraces fun content member => braceRole_of_mem member
  · exact fun token index placed lost => isLink_of_placed placed lost

theorem settled_links (tags : TagSet) (source : String) :
    Settled ((tokens tags source).map linkRole) :=
  settled_pairLinks fun _ member => linkRole_of_mem member

theorem splits_at_both {word : List Token} {first second : Token} {i j : Nat} (order : i < j)
    (one : word[i]? = some first) (other : word[j]? = some second) :
    ∃ before after,
      word = before ++ first :: ((word.drop (i + 1)).take (j - (i + 1)) ++ second :: after) := by
  obtain ⟨before, behind, whole, size⟩ := splits_at one
  have rest : word.drop (i + 1) = behind := by
    rw [whole, ← size, ← List.drop_drop, List.drop_left]
    rfl
  have later : behind[j - (i + 1)]? = some second := by
    rw [← rest, List.getElem?_drop, ← other]
    congr 1
    omega
  obtain ⟨between, after, split, length⟩ := splits_at later
  refine ⟨before, after, ?_⟩
  rw [rest, ← length, split, List.take_left, ← split]
  exact whole

theorem Settled.not_whole {word : List Token} {role : Token → Role} {first second : Token}
    {i j : Nat} (settled : Settled (word.map role)) (order : i < j) (one : word[i]? = some first)
    (other : word[j]? = some second) (starts : role first = .starts)
    (stops : role second = .stops) :
    ¬Whole (((word.drop (i + 1)).take (j - (i + 1))).map role) := by
  obtain ⟨before, after, whole⟩ := splits_at_both order one other
  obtain ⟨final, read⟩ := settled []
  rw [whole, List.map_append, List.map_cons, List.map_append, List.map_cons, starts, stops] at read
  exact not_whole_between read

/-- Braces are paired without regard to scopes. -/
theorem whole_braceRole (word : List Token) : Whole (word.map braceRole) := by
  induction word with
  | nil => rfl
  | cons token rest ih =>
    have flat : deepen 0 (braceRole token) = some 0 := by
      unfold braceRole
      split
      · split
        · rfl
        · split <;> rfl
      · rfl
    rw [Whole, List.map_cons, List.foldlM_cons, flat]
    exact ih

def KeepsScope (between : List Token) : Prop := Whole (between.map linkRole)

/-- Pairing leaves nothing that could still be paired. No text of two or more opening braces stands
before a text of two or more closing ones, and no opening link bracket that is text stands before a
closing one that is text in the same template or argument. -/
theorem lex_leaves_no_pair (tags : TagSet) (source : String) :
    let word := (lex tags source).map Prod.fst
    (∀ i j m n : Nat, i < j → 2 ≤ m → 2 ≤ n → word[i]? = some (.leaf (.text (run '{' m))) →
      word[j]? ≠ some (.leaf (.text (run '}' n)))) ∧
    (∀ i j : Nat, i < j → word[i]? = some (.leaf (.text "[[")) →
      word[j]? = some (.leaf (.text "]]")) →
      ¬KeepsScope ((word.drop (i + 1)).take (j - (i + 1)))) := by
  intro word
  have same : word = tokens tags source := map_fst_lex tags source
  rw [same]
  constructor
  · intro i j m n order opening closing one other
    exact (settled_braces tags source).not_whole order one other (braceRole_opening opening)
      (braceRole_closing closing) (whole_braceRole _)
  · intro i j order one other
    exact (settled_links tags source).not_whole order one other rfl rfl

-- the brackets stand in different templates, so both stay
example : tokens .standard "{{[[}}]]" =
    [.opens .template, .leaf (.text "[["), .closes .template, .leaf (.text "]]")] := by
  decide +kernel

end Wikitext.Markup
