import Wikitext.Proofs.Markup.Reading

/-!
Headings lose nothing. The marks that a heading takes from both ends of its line are there and do
not overlap, so that marks, title, marks and filler are read as the line is.
-/
namespace Wikitext.Markup
open Text

theorem replicate_prefix_iff (level : Nat) (cs : List Char) :
    List.replicate level '=' <+: cs ↔ level ≤ (cs.takeWhile isMark).length := by
  induction cs generalizing level with
  | nil => simp
  | cons c cs ih =>
    cases level with
    | zero => simp
    | succ level =>
      rw [List.replicate_succ, List.cons_prefix_cons, ih, List.takeWhile_cons]
      by_cases mark : c = '='
      · simp [isMark, mark]
      · simp [isMark, mark, Ne.symm mark]

theorem replicate_suffix_iff (level : Nat) (cs : List Char) :
    List.replicate level '=' <:+ cs ↔ level ≤ (takeEndWhile isMark cs).length := by
  rw [← List.reverse_prefix, List.reverse_replicate, replicate_prefix_iff, takeEndWhile,
    List.length_reverse]

theorem marks_apart {cs : List Char} (other : (cs.takeWhile isMark).length ≠ cs.length) :
    (cs.takeWhile isMark).length + (takeEndWhile isMark cs).length ≤ cs.length := by
  have whole : cs.takeWhile isMark ++ cs.dropWhile isMark = cs := List.takeWhile_append_dropWhile
  have sizes := congrArg List.length whole
  rw [List.length_append] at sizes
  cases found : cs.dropWhile isMark with
  | nil =>
    rw [found, List.length_nil] at sizes
    exact absurd sizes other
  | cons c rest =>
    have stop : isMark c = false := by
      have := List.head?_dropWhile_not isMark cs
      simpa [found] using this
    have turned : cs.reverse = rest.reverse ++ c :: (cs.takeWhile isMark).reverse := by
      conv_lhs => rw [← whole, found]
      simp
    have short : (takeEndWhile isMark cs).length ≤ rest.length := by
      rw [takeEndWhile, List.length_reverse, turned, List.takeWhile_append]
      split
      · simp [stop]
      · have front : rest.reverse.takeWhile isMark <+: rest.reverse := List.takeWhile_prefix isMark
        have size := front.length_le
        rwa [List.length_reverse] at size
    rw [found, List.length_cons] at sizes
    omega

theorem headingLevel_le (first last : String) (alone : Bool) :
    headingLevel first last alone ≤ marksBefore first ∧
      headingLevel first last alone ≤ marksAfter last := by
  unfold headingLevel
  simp only
  split <;> omega

theorem headingLevel_alone (only : String) :
    2 * headingLevel only only true ≤ only.toList.length := by
  unfold headingLevel
  simp only [Bool.true_and, beq_iff_eq]
  split
  · omega
  · rename_i other
    have apart := marks_apart other
    have same : marksBefore only + marksAfter only ≤ only.toList.length := apart
    omega

theorem headingOf_eq_some {line : List Node} {heading : Heading}
    (found : headingOf line = some heading) :
    ∃ body first last, body = (peel line.reverse []).1.reverse ∧
      body.head? = some (.text first) ∧ body.getLast? = some (.text last) ∧
      heading.level = headingLevel first last (body.length == 1) ∧ heading.level ≠ 0 ∧
      heading.title = mergeText (dropFront heading.level (dropBack heading.level body)) ∧
      heading.trailing = (peel line.reverse []).2 := by
  unfold headingOf at found
  split at found
  · split at found
    · simp at found
    · simp only at found
      split at found
      · rename_i first last starts ends
        split at found
        · simp at found
        · rename_i some
          rw [← Option.some.inj found]
          exact ⟨_, first, last, rfl, starts, ends, rfl, some, rfl, rfl⟩
      · simp at found
  · simp at found

theorem dropBack_concat (count : Nat) (front : List Node) (last : String) :
    dropBack count (front ++ [.text last]) =
      front ++ [.text (String.ofList (last.toList.take (last.toList.length - count)))] := by
  simp [dropBack]

theorem le_marksBefore_iff {level : Nat} {written : String} :
    level ≤ marksBefore written ↔ ∃ after, written = run '=' level ++ after := by
  rw [marksBefore, ← replicate_prefix_iff]
  constructor
  · rintro ⟨rest, whole⟩
    refine ⟨String.ofList rest, String.ext ?_⟩
    rw [String.toList_append, run, String.toList_ofList, String.toList_ofList, whole]
  · rintro ⟨after, rfl⟩
    rw [String.toList_append, run, String.toList_ofList]
    exact List.prefix_append _ _

theorem le_marksAfter_iff {level : Nat} {written : String} :
    level ≤ marksAfter written ↔ ∃ before, written = before ++ run '=' level := by
  rw [marksAfter, ← replicate_suffix_iff]
  constructor
  · rintro ⟨front, whole⟩
    refine ⟨String.ofList front, String.ext ?_⟩
    rw [String.toList_append, run, String.toList_ofList, String.toList_ofList, whole]
  · rintro ⟨before, rfl⟩
    rw [String.toList_append, run, String.toList_ofList]
    exact List.suffix_append _ _

/-- The marks are taken from the two ends of one text, or from the first and the last of several
nodes; what is left is the title. -/
inductive Cut (marks : String) : List Node → List Node → Prop
  | one (middle : String) : Cut marks [.text (marks ++ middle ++ marks)] (mergeText [.text middle])
  | several (after before : String) (between : List Node) :
    Cut marks (.text (marks ++ after) :: (between ++ [.text (before ++ marks)]))
      (mergeText (.text after :: (between ++ [.text before])))

theorem dropFront_marks (level : Nat) (after : String) (rest : List Node) :
    dropFront level (.text (run '=' level ++ after) :: rest) = .text after :: rest := by
  rw [dropFront, String.toList_append, run, String.toList_ofList,
    List.drop_left' List.length_replicate, String.ofList_toList]

theorem dropBack_marks (level : Nat) (front : List Node) (before : String) :
    dropBack level (front ++ [.text (before ++ run '=' level)]) = front ++ [.text before] := by
  rw [dropBack_concat, String.toList_append, run, String.toList_ofList, List.length_append,
    List.length_replicate, Nat.add_sub_cancel, List.take_left' rfl, String.ofList_toList]

theorem exists_between_marks {only : String} {level : Nat} (before : level ≤ marksBefore only)
    (behind : level ≤ marksAfter only) (room : 2 * level ≤ only.toList.length) :
    ∃ middle, only = run '=' level ++ middle ++ run '=' level := by
  obtain ⟨front, whole⟩ := le_marksAfter_iff.mp behind
  have size : only.toList.length = front.toList.length + level := by
    rw [whole, String.toList_append, run, List.length_append, String.toList_ofList,
      List.length_replicate]
  have starts : level ≤ marksBefore front := by
    rw [marksBefore, ← replicate_prefix_iff] at before ⊢
    rw [whole, String.toList_append] at before
    exact List.prefix_of_prefix_length_le before (List.prefix_append _ _)
      (by rw [List.length_replicate]; omega)
  obtain ⟨middle, same⟩ := le_marksBefore_iff.mp starts
  exact ⟨middle, by rw [whole, ← same]⟩

theorem cut_of_ends {body : List Node} {first last : String} {level : Nat}
    (starts : body.head? = some (.text first)) (ends : body.getLast? = some (.text last))
    (enough : level ≤ headingLevel first last (body.length == 1)) :
    Cut (run '=' level) body (mergeText (dropFront level (dropBack level body))) := by
  obtain ⟨before, behind⟩ := headingLevel_le first last (body.length == 1)
  obtain ⟨front, rfl⟩ := List.getLast?_eq_some_iff.mp ends
  cases front with
  | nil =>
    have same : last = first := by simpa using starts
    subst same
    have room := headingLevel_alone last
    obtain ⟨middle, whole⟩ := exists_between_marks (enough.trans before) (enough.trans behind)
      (by
        have : level ≤ headingLevel last last true := enough
        omega)
    rw [whole, dropBack_marks, List.nil_append, List.nil_append, dropFront_marks]
    exact .one middle
  | cons node between =>
    have same : node = .text first := by simpa using starts
    subst same
    obtain ⟨after, rfl⟩ := le_marksBefore_iff.mp (enough.trans before)
    obtain ⟨front, rfl⟩ := le_marksAfter_iff.mp (enough.trans behind)
    rw [dropBack_marks, List.cons_append, List.cons_append, dropFront_marks]
    exact .several after front between

namespace Reading
variable {M : Type} [Monoid M] (reading : Reading M)

theorem nodes_cut {marks : String} {body title : List Node} (cut : Cut marks body title) :
    reading.node (.text marks) * reading.nodes title * reading.node (.text marks) =
      reading.nodes body := by
  cases cut with
  | one middle =>
    rw [nodes_mergeText, nodes_single, nodes_single, text_append, text_append]
  | several after before between =>
    rw [nodes_mergeText, nodes_cons, nodes_cons, nodes_append, nodes_append, nodes_single,
      nodes_single, text_append, text_append]
    simp only [mul_assoc]

theorem nodes_headingOf {line : List Node} {heading : Heading}
    (found : headingOf line = some heading) :
    reading.node heading.node = reading.nodes line := by
  obtain ⟨body, first, last, peeled, starts, ends, level, _, title, trailing⟩ :=
    headingOf_eq_some found
  have cut := cut_of_ends starts ends (Nat.le_of_eq level)
  rw [← title] at cut
  have whole := reading.nodes_peel line.reverse []
  rw [← peeled, List.reverse_reverse, nodes_nil, mul_one, ← trailing] at whole
  calc
    reading.node heading.node
      = reading.node (.text (run '=' heading.level)) * reading.nodes heading.title *
          reading.node (.text (run '=' heading.level)) * reading.nodes heading.trailing := by
        rw [Heading.node, header]
        rfl
    _ = reading.nodes body * reading.nodes heading.trailing := by rw [nodes_cut reading cut]
    _ = reading.nodes line := whole

theorem nodes_lineNodes (line : List Node) :
    reading.nodes (lineNodes line) = reading.nodes line := by
  unfold lineNodes
  split
  · rename_i heading found
    rw [nodes_single, nodes_headingOf reading found]
  · rfl

theorem nodes_withHeadings (list : List Node) :
    reading.nodes (withHeadings list) = reading.nodes list := by
  have each : ∀ line, reading.nodes (lineNodes (mergeText line)) = reading.nodes line := by
    intro line
    rw [nodes_lineNodes, nodes_mergeText]
  unfold withHeadings
  rw [nodes_mergeText]
  calc
    reading.lines ((linesOf list).map fun line => lineNodes (mergeText line))
      = reading.lines (linesOf list) := lines_map reading _ each _
    _ = reading.nodes list := lines_linesOf reading list

end Reading

end Wikitext.Markup
