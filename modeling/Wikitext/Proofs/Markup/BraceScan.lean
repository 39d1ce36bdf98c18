import Wikitext.Proofs.Markup.Splitting

/-!
The scan that pairs braces. No opening run ever gives more braces than it has, so each lexeme
fills its own place in the text, whatever is paired behind it.
-/
namespace Wikitext.Markup
namespace BraceScan

/-- Every run on the stack has two braces left, and is there once. -/
structure Ready (scan : BraceScan) : Prop where
  waiting : ∀ index ∈ scan.stack,
    ∃ opened, scan.runs[index]? = some opened ∧ 2 ≤ opened.remaining
  once : scan.stack.Nodup

theorem innermost?_eq_some {scan : BraceScan} {index : Nat} {opened : OpenRun}
    (found : scan.innermost? = some (index, opened)) :
    scan.runs[index]? = some opened ∧ ∃ outer, scan.stack = index :: outer := by
  unfold innermost? at found
  cases whole : scan.stack with
  | nil =>
    rw [whole] at found
    contradiction
  | cons top outer =>
    rw [whole] at found
    obtain ⟨run, read, same⟩ := Option.map_eq_some_iff.mp found
    cases same
    exact ⟨read, outer, rfl⟩

theorem Ready.two_le {scan : BraceScan} (ready : scan.Ready) {index : Nat} {opened : OpenRun}
    (found : scan.innermost? = some (index, opened)) : 2 ≤ opened.remaining := by
  obtain ⟨read, outer, whole⟩ := innermost?_eq_some found
  obtain ⟨other, same, enough⟩ := ready.waiting index (by rw [whole]; exact List.mem_cons_self)
  rw [read] at same
  cases same
  exact enough

theorem Ready.add {scan : BraceScan} (ready : scan.Ready) (placed : List (Token × Span)) :
    (scan.add placed).Ready := ⟨ready.waiting, ready.once⟩

theorem Ready.opening {scan : BraceScan} (ready : scan.Ready) (start count : Nat) :
    (scan.opening start count).Ready := by
  have old : ∀ index ∈ scan.stack,
      ∃ opened, (scan.runs.push ⟨start, count, []⟩)[index]? = some opened ∧
        2 ≤ opened.remaining := by
    intro index member
    obtain ⟨opened, read, enough⟩ := ready.waiting index member
    obtain ⟨bound, _⟩ := Array.getElem?_eq_some_iff.mp read
    refine ⟨opened, ?_, enough⟩
    rw [Array.getElem?_push_lt bound, ← Array.getElem?_eq_getElem bound, read]
  by_cases enough : 2 ≤ count
  · have stack : (scan.opening start count).stack = scan.runs.size :: scan.stack := if_pos enough
    constructor
    · intro index member
      rw [stack] at member
      rcases List.mem_cons.mp member with same | inside
      · refine ⟨⟨start, count, []⟩, ?_, enough⟩
        rw [same]
        exact Array.getElem?_push_size
      · exact old index inside
    · rw [stack, List.nodup_cons]
      refine ⟨?_, ready.once⟩
      intro member
      obtain ⟨opened, read, _⟩ := ready.waiting _ member
      simp at read
  · have stack : (scan.opening start count).stack = scan.stack := if_neg enough
    constructor
    · intro index member
      rw [stack] at member
      exact old index member
    · rw [stack]
      exact ready.once

theorem Ready.pair {scan : BraceScan} (ready : scan.Ready) {index : Nat} {opened : OpenRun}
    (found : scan.innermost? = some (index, opened)) (brace : Brace) :
    (scan.pair index opened brace).Ready := by
  obtain ⟨read, outer, whole⟩ := innermost?_eq_some found
  obtain ⟨bound, _⟩ := Array.getElem?_eq_some_iff.mp read
  have once := ready.once
  rw [whole, List.nodup_cons] at once
  have others : ∀ other ∈ outer,
      ∃ run, (scan.runs.setIfInBounds index (opened.pair brace))[other]? = some run ∧
        2 ≤ run.remaining := by
    intro other member
    have apart : index ≠ other := fun same => once.1 (same ▸ member)
    rw [Array.getElem?_setIfInBounds_ne apart]
    exact ready.waiting other (by rw [whole]; exact List.mem_cons_of_mem _ member)
  by_cases few : (opened.pair brace).remaining < 2
  · have stack : (scan.pair index opened brace).stack = outer := by
      unfold BraceScan.pair
      rw [if_pos few, whole, List.tail_cons]
    constructor
    · rw [stack]
      exact others
    · rw [stack]
      exact once.2
  · have stack : (scan.pair index opened brace).stack = index :: outer := by
      unfold BraceScan.pair
      rw [if_neg few, whole]
    constructor
    · rw [stack]
      intro other member
      rcases List.mem_cons.mp member with same | inside
      · refine ⟨opened.pair brace, ?_, Nat.le_of_not_lt few⟩
        rw [same]
        exact Array.getElem?_setIfInBounds_self_of_lt bound
      · exact others other inside
    · rw [stack, List.nodup_cons]
      exact once

theorem Ready.closing {scan : BraceScan} (ready : scan.Ready) (start count : Nat) :
    (scan.closing start count).Ready := by
  fun_induction BraceScan.closing scan start count with
  | case1 => exact ready.add _
  | case2 => exact ready.add _
  | case3 scan start count index opened found _ brace stop paired ih =>
    exact ih ((ready.pair found brace).add _)

theorem Ready.step {scan : BraceScan} (ready : scan.Ready) (placed : Lexeme × Span) :
    (scan.step placed).Ready := by
  obtain ⟨lexeme, span⟩ := placed
  cases lexeme with
  | openBraces count => exact ready.opening span.start count
  | closeBraces count => exact ready.closing span.start count
  | atom content => exact ready.add _

theorem Ready.steps {scan : BraceScan} (ready : scan.Ready) (placed : List (Lexeme × Span)) :
    (placed.foldl BraceScan.step scan).Ready := by
  induction placed generalizing scan with
  | nil => exact ready
  | cons first rest ih => exact ih (ready.step first)

theorem ready_empty : empty.Ready := ⟨by simp [empty], List.nodup_nil⟩

theorem width_widest_le {closing opening : Nat} (enough : 2 ≤ closing) (waiting : 2 ≤ opening) :
    (widest closing opening).width ≤ closing ∧ (widest closing opening).width ≤ opening := by
  unfold widest
  split
  · rename_i three
    exact three
  · exact ⟨enough, waiting⟩

end BraceScan

/-- The slots that a lexeme fills. The braces of an opening run are those it has left and those
it has given. -/
inductive Fills (runs : Array OpenRun) : Lexeme × Span → List Slot → Prop where
  | opening {index : Nat} {opened : OpenRun} (found : runs[index]? = some opened) (stop : Nat) :
      Fills runs (.openBraces (opened.remaining + widths opened.delimiters), ⟨opened.start, stop⟩)
        [.openRun index]
  | closing (closed : List Brace) (rest : Nat) (span : Span) :
      Fills runs (.closeBraces (widths closed + rest), span)
        ((place span.start (closed.map Brace.closes ++ leftoverTokens '}' rest)).map .token)
  | atom (content : Atom) (span : Span) :
      Fills runs (.atom content, span) [.token (content.token, span)]

theorem Fills.push {runs : Array OpenRun} {placed : Lexeme × Span} {part : List Slot}
    (fills : Fills runs placed part) (opened : OpenRun) : Fills (runs.push opened) placed part := by
  cases fills with
  | opening found stop =>
    obtain ⟨bound, _⟩ := Array.getElem?_eq_some_iff.mp found
    refine .opening ?_ stop
    rw [Array.getElem?_push_lt bound, ← Array.getElem?_eq_getElem bound, found]
  | closing closed rest span => exact .closing closed rest span
  | atom content span => exact .atom content span

theorem Fills.pair {runs : Array OpenRun} {placed : Lexeme × Span} {part : List Slot}
    (fills : Fills runs placed part) {index : Nat} {opened : OpenRun}
    (read : runs[index]? = some opened) {brace : Brace} (enough : brace.width ≤ opened.remaining) :
    Fills (runs.setIfInBounds index (opened.pair brace)) placed part := by
  cases fills with
  | closing closed rest span => exact .closing closed rest span
  | atom content span => exact .atom content span
  | @opening other run found stop =>
    by_cases same : index = other
    · subst same
      rw [read] at found
      cases found
      obtain ⟨bound, _⟩ := Array.getElem?_eq_some_iff.mp read
      have total : opened.remaining + widths opened.delimiters =
          (opened.pair brace).remaining + widths (opened.pair brace).delimiters := by
        change _ = opened.remaining - brace.width + (brace.width + widths opened.delimiters)
        omega
      rw [total]
      exact .opening (Array.getElem?_setIfInBounds_self_of_lt bound) stop
    · refine .opening ?_ stop
      rw [Array.getElem?_setIfInBounds_ne same, found]

theorem add_slots (scan : BraceScan) (placed : List (Token × Span)) :
    (scan.add placed).slots.reverse = scan.slots.reverse ++ placed.map .token := by
  simp [BraceScan.add]

theorem place_closes (start : Nat) (brace : Brace) :
    place start [brace.closes] = [(brace.closes, ⟨start, start + brace.width⟩)] := by
  cases brace <;> rfl

/-- The closing run has closed some constructs so far, and what is left of it is the rest of its
lexeme. -/
theorem closing_fills {scan : BraceScan} {start : Nat} (count : Nat) (ready : scan.Ready)
    {placed : List (Lexeme × Span)} {earlier : List Slot} (closed : List Brace) (span : Span)
    (filled : Expansion (Fills scan.runs) placed earlier)
    (slots : scan.slots.reverse =
      earlier ++ (place span.start (closed.map Brace.closes)).map .token)
    (offset : start = span.start + widths closed) :
    Expansion (Fills (scan.closing start count).runs)
      (placed ++ [(.closeBraces (widths closed + count), span)])
      (scan.closing start count).slots.reverse := by
  have size : ∀ closed, bytes (closed.map Brace.closes) = widths closed :=
    bytes_delimiters rfl closes_toList
  have stop : ∀ {scan : BraceScan} {start count : Nat} {closed : List Brace},
      Expansion (Fills scan.runs) placed earlier →
      scan.slots.reverse = earlier ++ (place span.start (closed.map Brace.closes)).map .token →
      start = span.start + widths closed →
      Expansion (Fills scan.runs) (placed ++ [(.closeBraces (widths closed + count), span)])
        (scan.add (placeLeftover '}' start count)).slots.reverse := by
    intro scan start count closed filled slots offset
    have last := filled.append (.single (.closing closed count span))
    rwa [place_append, size, List.map_append, ← placeLeftover_eq rfl, ← offset,
      ← List.append_assoc, ← slots, ← add_slots] at last
  -- each partner moves two or three braces from the rest of the run to what it has closed, and as
  -- many in the opening run, so the sizes of both lexemes stay
  fun_induction BraceScan.closing scan start count generalizing closed with
  | case1 => exact stop filled slots offset
  | case2 => exact stop filled slots offset
  | case3 scan start count index opened found few brace after paired ih =>
    have enough : brace.width ≤ count ∧ brace.width ≤ opened.remaining :=
      BraceScan.width_widest_le (Nat.le_of_not_lt few) (ready.two_le found)
    have read := (BraceScan.innermost?_eq_some found).1
    have next := ih ((ready.pair found brace).add _) (closed ++ [brace])
      (filled.imp fun _ _ fills => fills.pair read enough.2) ?_ ?_
    · have total : widths (closed ++ [brace]) + (count - brace.width) = widths closed + count := by
        rw [widths_concat]
        omega
      rwa [total] at next
    · have same : (scan.pair index opened brace).slots = scan.slots := rfl
      have last : place start ([brace].map Brace.closes) = [(brace.closes, ⟨start, after⟩)] :=
        place_closes start brace
      rw [add_slots, same, slots, List.map_append, place_append, size, ← offset, last,
        List.map_append, List.append_assoc]
    · rw [widths_concat, ← Nat.add_assoc, ← offset]

theorem step_fills {scan : BraceScan} (ready : scan.Ready) {read : List (Lexeme × Span)}
    (filled : Expansion (Fills scan.runs) read scan.slots.reverse) (placed : Lexeme × Span) :
    Expansion (Fills (scan.step placed).runs) (read ++ [placed])
      (scan.step placed).slots.reverse := by
  obtain ⟨lexeme, span⟩ := placed
  cases lexeme with
  | openBraces count =>
    have old := filled.imp fun _ _ fills => fills.push ⟨span.start, count, []⟩
    have here : (scan.runs.push ⟨span.start, count, []⟩)[scan.runs.size]? =
        some ⟨span.start, count, []⟩ := Array.getElem?_push_size
    have last := old.append (.single (.opening here span.stop))
    have slots : (scan.opening span.start count).slots.reverse =
        scan.slots.reverse ++ [.openRun scan.runs.size] := List.reverse_cons
    rwa [← slots] at last
  | closeBraces count =>
    have last := closing_fills count ready [] span filled (by simp [place]) rfl
    rwa [widths, List.foldr_nil, Nat.zero_add] at last
  | atom content =>
    have last := filled.append (.single (.atom content span))
    have slots : (scan.add [(content.token, span)]).slots.reverse =
        scan.slots.reverse ++ [.token (content.token, span)] := add_slots scan _
    rwa [← slots] at last

theorem steps_fill {scan : BraceScan} (ready : scan.Ready) {read : List (Lexeme × Span)}
    (filled : Expansion (Fills scan.runs) read scan.slots.reverse)
    (placed : List (Lexeme × Span)) :
    Expansion (Fills (placed.foldl BraceScan.step scan).runs) (read ++ placed)
      (placed.foldl BraceScan.step scan).slots.reverse := by
  induction placed generalizing scan read with
  | nil =>
    rw [List.append_nil]
    exact filled
  | cons first rest ih =>
    have whole := ih (ready.step first) (step_fills ready filled first)
    rwa [List.append_assoc] at whole

theorem fills_tokens {runs : Array OpenRun} {lexeme : Lexeme} {start : Nat} {part : List Slot}
    (fills : Fills runs (lexeme, ⟨start, start + lexeme.source.utf8ByteSize⟩) part) :
    ∃ word, part.flatMap (BraceScan.slotTokens runs) = place start word ∧ Splits lexeme word := by
  generalize stops : start + lexeme.source.utf8ByteSize = stop at fills
  cases fills with
  | @opening index opened found =>
    refine ⟨_, ?_, .opening opened.remaining opened.delimiters⟩
    simp [BraceScan.slotTokens, found, openRun_tokens_eq]
  | closing closed rest =>
    refine ⟨_, ?_, .closing closed rest⟩
    rw [List.flatMap_map]
    exact List.flatMap_singleton' _
  | atom content =>
    refine ⟨_, ?_, .atom content⟩
    rw [← stops, place, place, atom_token_source]
    rfl

theorem slots_tokens {runs : Array OpenRun} {start : Nat} {lexemes : List Lexeme}
    {slots : List Slot} (filled : Expansion (Fills runs) (placeLexemes start lexemes) slots) :
    ∃ word, slots.flatMap (BraceScan.slotTokens runs) = place start word ∧
      Expansion Splits lexemes word := by
  induction lexemes generalizing start slots with
  | nil =>
    cases filled
    exact ⟨[], rfl, .nil⟩
  | cons lexeme lexemes ih =>
    cases filled with
    | cons first rest =>
      obtain ⟨front, placed, splits⟩ := fills_tokens first
      obtain ⟨back, others, expansion⟩ := ih rest
      refine ⟨front ++ back, ?_, .cons splits expansion⟩
      rw [List.flatMap_append, placed, others, place_append, bytes_splits splits]

theorem balanceBraces_splits (lexemes : List Lexeme) :
    ∃ word, balanceBraces (placeLexemes 0 lexemes) = place 0 word ∧
      Expansion Splits lexemes word :=
  slots_tokens (steps_fill BraceScan.ready_empty .nil (placeLexemes 0 lexemes))

end Wikitext.Markup
