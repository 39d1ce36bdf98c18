import Mathlib.Data.List.DropRight
import Wikitext.Proofs.Markup.Merging
import Wikitext.Proofs.Markup.RoundTrip

/-!
The lines that are headings. Written letter by letter, a line ends in a longest stretch of comments,
spaces and tabs; what stands in front of that stretch decides whether the line is a heading, and of
which level, and the marks are cut from its two ends.
-/
namespace Wikitext.Markup
open Text

def Node.letters : Node → List Node
  | .text written => written.toList.map fun c => .text (String.ofList [c])
  | node => [node]

def letters (nodes : List Node) : List Node := nodes.flatMap Node.letters

def Node.fills : Node → Bool
  | .comment _ => true
  | .text written => written.toList.all fun c => c = ' ' || c = '\t'
  | _ => false

/-- The longest end of a line that is made of comments, spaces and tabs. -/
def fillerOf (line : List Node) : List Node := mergeText ((letters line).rtakeWhile Node.fills)

def bodyOf (line : List Node) : List Node := mergeText ((letters line).rdropWhile Node.fills)

theorem letters_append (first second : List Node) :
    letters (first ++ second) = letters first ++ letters second := List.flatMap_append

theorem letters_cons (node : Node) (rest : List Node) :
    letters (node :: rest) = node.letters ++ letters rest := List.flatMap_cons

theorem letters_concat (front : List Node) (node : Node) :
    letters (front ++ [node]) = letters front ++ node.letters := by
  rw [letters_append, letters_cons]
  exact congrArg (letters front ++ ·) (List.append_nil _)

theorem letters_cut (test : Char → Bool) (written : String) :
    (Node.text (String.ofList (dropEndWhile test written.toList))).letters ++
        (Node.text (String.ofList (takeEndWhile test written.toList))).letters =
      (Node.text written).letters := by
  simp only [Node.letters, String.toList_ofList, ← List.map_append,
    dropEndWhile_append_takeEndWhile]

theorem foldr_joinText_letters (cs : List Char) (rest : List Node) :
    (cs.map fun c => Node.text (String.ofList [c])).foldr joinText rest =
      joinText (.text (String.ofList cs)) rest := by
  induction cs with
  | nil => exact (joinText_empty rest).symm
  | cons c cs ih =>
    rw [List.map_cons, List.foldr_cons, ih, joinText_joinText, ← String.ofList_append,
      List.singleton_append]

/-- Cutting texts into letters makes no difference to a list whose texts are joined again. -/
theorem mergeText_letters (nodes : List Node) : mergeText (letters nodes) = mergeText nodes := by
  induction nodes with
  | nil => rfl
  | cons node rest ih =>
    have cut : mergeText (letters (node :: rest)) =
        (Node.letters node).foldr joinText (mergeText (letters rest)) := List.foldr_append
    rw [cut, ih]
    cases node with
    | text written =>
      rw [Node.letters, foldr_joinText_letters, String.ofList_toList]
      rfl
    | _ => rfl

theorem rdropWhile_append {α : Type} {test : α → Bool} {front back : List α}
    (all : ∀ element ∈ back, test element = true)
    (stop : ∀ last ∈ front.getLast?, test last = false) :
    (front ++ back).rdropWhile test = front ∧ (front ++ back).rtakeWhile test = back := by
  have passes : ∀ element ∈ back.reverse, test element = true := fun element member =>
    all element (List.mem_reverse.mp member)
  have dropped : front.reverse.dropWhile test = front.reverse := by
    cases turned : front.reverse with
    | nil => rfl
    | cons last rest =>
      refine List.dropWhile_cons_of_neg ?_
      rw [stop last (by rw [List.getLast?_eq_head?_reverse, turned]; rfl)]
      exact Bool.false_ne_true
  have split : (front ++ back).rdropWhile test = front := by
    rw [List.rdropWhile, List.reverse_append, List.dropWhile_append_of_pos passes, dropped,
      List.reverse_reverse]
  have whole : (front ++ back).rdropWhile test ++ (front ++ back).rtakeWhile test = front ++ back :=
    List.rdropWhile_append_rtakeWhile
  rw [split] at whole
  exact ⟨split, List.append_cancel_left whole⟩

section
variable {line : List Node} (trailing : List Node)

theorem letters_peel :
    letters (peel line trailing).1.reverse ++ letters (peel line trailing).2 =
      letters line.reverse ++ letters trailing := by
  fun_induction peel line trailing with
  | case1 body rest trailing ih =>
    rw [ih, List.reverse_cons, letters_concat, letters_cons, List.append_assoc]
  | case2 written rest trailing kept none ih =>
    rw [ih, List.reverse_cons, letters_concat, letters_cons, List.append_assoc]
  | case3 => rfl
  | case4 written rest trailing kept moved _ _ =>
    rw [List.reverse_cons, List.reverse_cons, letters_concat, letters_concat, letters_cons,
      ← letters_cut isFiller written]
    simp only [List.append_assoc]
    rfl
  | case5 => rfl

theorem fills_of_isFiller {node : Node} (filler : node.IsFiller) :
    ∀ letter ∈ node.letters, letter.fills = true := by
  intro letter member
  rcases filler with ⟨body, rfl⟩ | ⟨written, rfl, blank⟩
  · rw [List.mem_singleton.mp member]
    rfl
  · obtain ⟨c, found, rfl⟩ := List.mem_map.mp member
    simpa [Node.fills] using blank c found

theorem merged_peel (merged : Merged line) : Merged (peel line trailing).1 := by
  fun_induction peel line trailing with
  | case1 body rest trailing ih => exact ih (merged.suffix (List.suffix_cons _ _))
  | case2 written rest trailing kept none ih => exact ih (merged.suffix (List.suffix_cons _ _))
  | case3 => exact merged
  | case4 written rest trailing kept moved some _ =>
    refine merged_cons ?_ ?_ (merged.suffix (List.suffix_cons _ _))
    · intro empty
      exact some (String.ofList_eq_empty_iff.mp (Node.text.inj empty))
    · intro next first both
      exact (List.isChain_cons.mp merged.apart).1 next first ⟨rfl, both.2⟩
  | case5 => exact merged

theorem getLast_dropEndWhile {test : Char → Bool} {cs : List Char} {last : Char}
    (found : (dropEndWhile test cs).getLast? = some last) : test last = false := by
  have := List.head?_dropWhile_not test cs.reverse
  rw [dropEndWhile, List.getLast?_reverse] at found
  simpa [found] using this

theorem letters_last {front : List Node} {written : String}
    (stop : ∀ last ∈ written.toList.getLast?, isFiller last = false) (some : written ≠ "") :
    ∀ last ∈ (letters (front ++ [.text written])).getLast?, last.fills = false := by
  intro letter member
  have ends : ∃ last, written.toList.getLast? = Option.some last := by
    cases found : written.toList.getLast? with
    | none => exact absurd (String.toList_eq_nil_iff.mp (List.getLast?_eq_none_iff.mp found)) some
    | some last => exact ⟨last, rfl⟩
  obtain ⟨last, found⟩ := ends
  rw [letters_concat, Node.letters, List.getLast?_append, List.getLast?_map, found] at member
  rw [← Option.some.inj member]
  have no := stop last found
  simpa [Node.fills, isFiller] using no

theorem peel_stops :
    ∀ last ∈ (letters (peel line trailing).1.reverse).getLast?, last.fills = false := by
  fun_induction peel line trailing with
  | case1 body rest trailing ih => exact ih
  | case2 written rest trailing kept none ih => exact ih
  | case3 written rest trailing kept moved some none =>
    have whole : dropEndWhile isFiller written.toList = written.toList := by
      conv_rhs => rw [← dropEndWhile_append_takeEndWhile isFiller written.toList]
      exact (List.append_nil _).symm.trans (congrArg (kept ++ ·) none.symm)
    rw [List.reverse_cons]
    refine letters_last ?_ ?_
    · rw [← whole]
      exact fun last found => getLast_dropEndWhile found
    · intro empty
      exact some (whole.trans (String.toList_eq_nil_iff.mpr empty))
  | case4 written rest trailing kept moved some _ =>
    rw [List.reverse_cons]
    refine letters_last ?_ fun empty => some (String.ofList_eq_empty_iff.mp empty)
    rw [String.toList_ofList]
    exact fun last found => getLast_dropEndWhile found
  | case5 line trailing noComment noText =>
    intro last member
    cases line with
    | nil => contradiction
    | cons node rest =>
      have whole : node.letters = [node] :=
        Node.letters.eq_2 node fun written same => noText written rest (same ▸ rfl)
      rw [List.reverse_cons, letters_concat, whole, List.getLast?_concat] at member
      rw [← Option.some.inj member]
      exact Node.fills.eq_3 node (fun body same => noComment body rest (same ▸ rfl))
        fun written same => noText written rest (same ▸ rfl)

end

/-- What stands in front of the filler, and the filler itself, are what is left and what is moved
when filler is moved from the end of a line. -/
theorem peel_eq {line : List Node} (merged : Merged line) :
    (peel line.reverse []).1.reverse = bodyOf line ∧ (peel line.reverse []).2 = fillerOf line := by
  have turned : Merged (line.reverse.reverse ++ []) := by
    rwa [List.reverse_reverse, List.append_nil]
  obtain ⟨still, filler⟩ := peel_trailing turned fun _ member => absurd member List.not_mem_nil
  have whole : letters (peel line.reverse []).1.reverse ++ letters (peel line.reverse []).2 =
      letters line := by
    rw [letters_peel, List.reverse_reverse]
    exact List.append_nil _
  have fills : ∀ letter ∈ letters (peel line.reverse []).2, letter.fills = true := by
    intro letter member
    obtain ⟨node, moved, inside⟩ := List.mem_flatMap.mp member
    exact fills_of_isFiller (filler node moved) letter inside
  obtain ⟨front, back⟩ := rdropWhile_append fills (peel_stops [])
  constructor
  · rw [bodyOf, ← whole, front, mergeText_letters,
      mergeText_of_merged (merged_peel [] merged.reverse).reverse]
  · rw [fillerOf, ← whole, back, mergeText_letters, mergeText_of_merged still]

theorem marksBefore_dropEndWhile (written : String) :
    marksBefore (String.ofList (dropEndWhile isFiller written.toList)) = marksBefore written := by
  have none : (takeEndWhile isFiller written.toList).takeWhile isMark = [] := by
    cases found : takeEndWhile isFiller written.toList with
    | nil => rfl
    | cons c rest =>
      apply List.takeWhile_cons_of_neg
      rcases filler_takeEndWhile (found ▸ List.mem_cons_self) with rfl | rfl <;> decide
  unfold marksBefore
  conv_rhs => rw [← dropEndWhile_append_takeEndWhile isFiller written.toList, List.takeWhile_append]
  rw [String.toList_ofList, none, List.append_nil]
  split
  · rename_i all
    exact all
  · rfl

theorem peel_first {line : List Node} {opening : String} (trailing : List Node)
    (first : line.getLast? = some (.text opening)) (marked : marksBefore opening ≠ 0) :
    ∃ kept, (peel line trailing).1.getLast? = some (.text kept) ∧
      marksBefore kept = marksBefore opening := by
  have behind : ∀ {node : Node} {rest : List Node}, node ≠ .text opening →
      (node :: rest).getLast? = some (.text opening) → rest.getLast? = some (.text opening) := by
    intro node rest other ends
    cases rest with
    | nil => exact absurd (Option.some.inj ends) other
    | cons next tail => exact ends
  fun_induction peel line trailing with
  | case1 body rest trailing ih => exact ih (behind (by simp) first)
  | case2 written rest trailing kept none ih =>
    refine ih (behind ?_ first)
    intro same
    have unmarked : marksBefore (String.ofList kept) = 0 := by
      rw [none]
      rfl
    rw [← Node.text.inj same, ← marksBefore_dropEndWhile] at marked
    exact marked unmarked
  | case3 => exact ⟨opening, first, rfl⟩
  | case4 written rest trailing kept moved _ _ =>
    cases rest with
    | nil =>
      have same : written = opening := Node.text.inj (Option.some.inj first)
      refine ⟨String.ofList kept, rfl, ?_⟩
      rw [← same]
      exact marksBefore_dropEndWhile written
    | cons next tail => exact ⟨opening, first, rfl⟩
  | case5 => exact ⟨opening, first, rfl⟩

theorem bodyOf_starts {line : List Node} {opening : String} (merged : Merged line)
    (first : line.head? = some (.text opening)) (marked : marksBefore opening ≠ 0) :
    ∃ start, (bodyOf line).head? = some (.text start) ∧
      marksBefore start = marksBefore opening := by
  have ends : line.reverse.getLast? = some (.text opening) := List.getLast?_reverse.trans first
  obtain ⟨start, found, same⟩ := peel_first [] ends marked
  rw [List.getLast?_eq_head?_reverse, (peel_eq merged).1] at found
  exact ⟨start, found, same⟩

@[simp] theorem marksBefore_run (count : Nat) : marksBefore (run '=' count) = count := by
  simp [marksBefore, run, isMark]

@[simp] theorem marksAfter_run (count : Nat) : marksAfter (run '=' count) = count := by
  simp [marksAfter, takeEndWhile, run, isMark]

theorem marksBefore_eq_length {written : String} :
    marksBefore written = written.toList.length ↔ ∃ count, written = run '=' count := by
  constructor
  · intro all
    obtain ⟨after, whole⟩ := le_marksBefore_iff.mp (Nat.le_of_eq all.symm)
    have size := congrArg (fun text => text.toList.length) whole
    simp only [String.toList_append, run, String.toList_ofList, List.length_append,
      List.length_replicate] at size
    have none : after = "" := String.toList_eq_nil_iff.mp (List.eq_nil_of_length_eq_zero (by omega))
    exact ⟨_, whole.trans (by rw [none, String.append_empty])⟩
  · rintro ⟨count, rfl⟩
    rw [marksBefore_run, run, String.toList_ofList, List.length_replicate]

theorem headingLevel_run (count : Nat) :
    headingLevel (run '=' count) (run '=' count) true = min ((count - 1) / 2) 6 := by
  have size : (run '=' count).toList.length = count := by simp [run]
  simp only [headingLevel, marksBefore_run, marksAfter_run, size, Bool.true_and,
    beq_self_eq_true, if_true]
  omega

theorem headingLevel_other {body : List Node} {first : String} (last : String)
    (starts : body.head? = some (.text first)) (other : ∀ count, body ≠ [.text (run '=' count)]) :
    headingLevel first last (body.length == 1) =
      min (min (marksBefore first) (marksAfter last)) 6 := by
  have few : (body.length == 1 && marksBefore first == first.toList.length) = false := by
    rw [Bool.and_eq_false_imp]
    intro alone
    rw [beq_eq_false_iff_ne]
    intro all
    obtain ⟨count, same⟩ := marksBefore_eq_length.mp all
    obtain ⟨only, single⟩ := List.length_eq_one_iff.mp (eq_of_beq alone)
    rw [single] at starts
    cases starts
    exact other count (by rw [single, same])
  simp only [headingLevel, few, Bool.false_eq_true, if_false]
  exact Nat.min_comm _ _

/-- A line that starts with a mark and ends with one before its filler, and is more than one or two
marks. -/
structure Marked (line : List Node) : Prop where
  opens : ∃ opening rest, line = .text ("=" ++ opening) :: rest
  closes : ∃ front closing, bodyOf line = front ++ [.text (closing ++ "=")]
  moreThanOne : bodyOf line ≠ [.text "="]
  moreThanTwo : bodyOf line ≠ [.text "=="]

structure Heading.TakenFrom (heading : Heading) (line : List Node) : Prop where
  onlyMarks : ∀ count, bodyOf line = [.text (run '=' count)] →
    heading.level = min ((count - 1) / 2) 6
  level : (∀ count, bodyOf line ≠ [.text (run '=' count)]) →
    ∃ opening first last, line.head? = some (.text opening) ∧
      (bodyOf line).head? = some (.text first) ∧ (bodyOf line).getLast? = some (.text last) ∧
      marksBefore opening = marksBefore first ∧
      heading.level = min (min (marksBefore first) (marksAfter last)) 6
  title : Cut (run '=' heading.level) (bodyOf line) heading.title
  trailing : heading.trailing = fillerOf line
  source : run '=' heading.level ++ sourceOf heading.title ++ run '=' heading.level ++
    sourceOf heading.trailing = sourceOf line

theorem headingOf_opens {line : List Node} {heading : Heading}
    (found : headingOf line = some heading) :
    ∃ opening, line.head? = some (.text opening) ∧ marksBefore opening ≠ 0 := by
  unfold headingOf at found
  split at found
  · rename_i opening first
    split at found
    · contradiction
    · rename_i marked
      exact ⟨opening, first, marked⟩
  · contradiction

theorem headingLevel_run_ne_zero (count : Nat) :
    headingLevel (run '=' count) (run '=' count) true ≠ 0 ↔
      count ≠ 0 ∧ run '=' count ≠ "=" ∧ run '=' count ≠ "==" := by
  have one : run '=' count = "=" ↔ count = 1 :=
    ⟨fun same => (marksBefore_run count).symm.trans (congrArg marksBefore same),
      fun same => same ▸ rfl⟩
  have two : run '=' count = "==" ↔ count = 2 :=
    ⟨fun same => (marksBefore_run count).symm.trans (congrArg marksBefore same),
      fun same => same ▸ rfl⟩
  rw [headingLevel_run, ne_eq, ne_eq, ne_eq, one, ne_eq, two]
  omega

/-- The level of a line between its first and last text is none exactly if one of them is not
marked, or if the line is one or two marks. -/
theorem headingLevel_ne_zero {body : List Node} {first last : String}
    (starts : body.head? = some (.text first)) (ends : body.getLast? = some (.text last)) :
    headingLevel first last (body.length == 1) ≠ 0 ↔
      marksBefore first ≠ 0 ∧ marksAfter last ≠ 0 ∧ body ≠ [.text "="] ∧ body ≠ [.text "=="] := by
  by_cases marks : ∃ count, body = [.text (run '=' count)]
  · obtain ⟨count, rfl⟩ := marks
    cases starts
    cases ends
    have level := headingLevel_run_ne_zero count
    simpa using level
  · have other : ∀ count, body ≠ [.text (run '=' count)] := fun count same => marks ⟨count, same⟩
    have one : body ≠ [.text "="] := other 1
    have two : body ≠ [.text "=="] := other 2
    rw [headingLevel_other last starts other]
    constructor
    · intro some
      exact ⟨by omega, by omega, one, two⟩
    · rintro ⟨before, behind, _, _⟩
      omega

theorem isSome_headingOf {line : List Node} (merged : Merged line) :
    (headingOf line).isSome ↔ Marked line := by
  obtain ⟨whole, filler⟩ := peel_eq merged
  constructor
  · intro isSome
    obtain ⟨heading, found⟩ := Option.isSome_iff_exists.mp isSome
    obtain ⟨body, first, last, peeled, starts, ends, level, some, _⟩ := headingOf_eq_some found
    rw [level] at some
    obtain ⟨_, behind, one, two⟩ := (headingLevel_ne_zero starts ends).mp some
    rw [whole] at peeled
    subst peeled
    obtain ⟨opening, here, before⟩ := headingOf_opens found
    obtain ⟨rest, split⟩ := List.head?_eq_some_iff.mp here
    obtain ⟨after, opens⟩ := le_marksBefore_iff.mp (Nat.one_le_iff_ne_zero.mpr before)
    obtain ⟨front, apart⟩ := List.getLast?_eq_some_iff.mp ends
    obtain ⟨closing, closes⟩ := le_marksAfter_iff.mp (Nat.one_le_iff_ne_zero.mpr behind)
    exact ⟨⟨after, rest, split.trans (by rw [opens]; rfl)⟩,
      ⟨front, closing, apart.trans (by rw [closes]; rfl)⟩, one, two⟩
  · rintro ⟨⟨opening, rest, split⟩, ⟨front, closing, apart⟩, one, two⟩
    have here : line.head? = some (.text ("=" ++ opening)) := by rw [split]; rfl
    have before : 1 ≤ marksBefore ("=" ++ opening) := le_marksBefore_iff.mpr ⟨opening, rfl⟩
    have behind : 1 ≤ marksAfter (closing ++ "=") := le_marksAfter_iff.mpr ⟨closing, rfl⟩
    have ends : (bodyOf line).getLast? = some (.text (closing ++ "=")) := by
      rw [apart, List.getLast?_concat]
    obtain ⟨first, starts, same⟩ := bodyOf_starts merged here (by omega)
    have level := (headingLevel_ne_zero starts ends).mpr ⟨by omega, by omega, one, two⟩
    simp only [headingOf, here, Nat.one_le_iff_ne_zero.mp before, whole, starts, ends, level,
      if_false]
    rfl

theorem headingOf_takenFrom {line : List Node} {heading : Heading} (merged : Merged line)
    (found : headingOf line = some heading) : heading.TakenFrom line := by
  obtain ⟨body, first, last, peeled, starts, ends, level, _, title, trailing⟩ :=
    headingOf_eq_some found
  obtain ⟨whole, filler⟩ := peel_eq merged
  rw [whole] at peeled
  subst peeled
  constructor
  case onlyMarks =>
    intro count only
    rw [only] at starts ends level
    cases starts
    cases ends
    rw [level]
    exact headingLevel_run count
  case level =>
    intro other
    obtain ⟨opening, here, marked⟩ := headingOf_opens found
    obtain ⟨start, still, marks⟩ := bodyOf_starts merged here marked
    rw [starts] at still
    cases still
    exact ⟨opening, first, last, here, starts, ends, marks.symm,
      level.trans (headingLevel_other last starts other)⟩
  case title =>
    rw [title]
    exact cut_of_ends starts ends (Nat.le_of_eq level)
  case trailing => exact trailing.trans filler
  case source =>
    have read := sourceReading.nodes_headingOf found
    rw [sourceReading.nodes_eq] at read
    have same : heading.node.source = sourceOf line := written_injective read
    rwa [Heading.node, Node.source] at same

/-- A line whose texts are joined is a heading exactly if it is marked; then the heading is taken
from its two ends. Any other line stays as it is. -/
theorem headingOf_exact {line : List Node} (merged : Merged line) :
    ((headingOf line).isSome ↔ Marked line) ∧
      (∀ heading, headingOf line = some heading →
        lineNodes line = [heading.node] ∧ heading.TakenFrom line) ∧
      (headingOf line = none → lineNodes line = line) := by
  refine ⟨isSome_headingOf merged, ?_, ?_⟩
  · intro heading found
    exact ⟨by rw [lineNodes, found], headingOf_takenFrom merged found⟩
  · intro none
    rw [lineNodes, none]

theorem headingOf_exact_uneven :
    Marked [.text "===a", .comment ⟨"b", false⟩, .text "c== \t"] ∧
      ∃ heading, headingOf [.text "===a", .comment ⟨"b", false⟩, .text "c== \t"] = some heading ∧
        heading.level = 2 ∧ heading.title = [.text "=a", .comment ⟨"b", false⟩, .text "c"] ∧
        heading.TakenFrom [.text "===a", .comment ⟨"b", false⟩, .text "c== \t"] := by
  have merged : Merged [.text "===a", .comment ⟨"b", false⟩, .text "c== \t"] :=
    merged_mergeText [.text "===a", .comment ⟨"b", false⟩, .text "c== \t"]
  obtain ⟨known, taken, _⟩ := headingOf_exact merged
  have found : headingOf [.text "===a", .comment ⟨"b", false⟩, .text "c== \t"] =
      some ⟨2, [.text "=a", .comment ⟨"b", false⟩, .text "c"], [.text " \t"]⟩ := rfl
  exact ⟨known.mp (by rw [found]; rfl), _, found, rfl, rfl, (taken _ found).2⟩

example : headingOf [.text "===="] = some ⟨1, [.text "=="], []⟩ := rfl

end Wikitext.Markup
