import Mathlib.Algebra.BigOperators.Group.List.Basic
import Wikitext.Markup.Heading
import Wikitext.Proofs.Text.Cuts

/-!
Readings of nodes. A reading gives every node an element of a monoid, a text the product of what
its parts give, and a heading what its marks, title and filler give one after the other. For such
a reading it makes no difference where texts are cut and which lines are made into headings.
-/
namespace Wikitext.Markup
open Text

def newline : Node := .text "\n"

structure Reading (M : Type) [Monoid M] where
  node : Node → M
  text_empty : node (.text "") = 1
  text_append : ∀ first second,
    node (.text (first ++ second)) = node (.text first) * node (.text second)
  header : ∀ level title trailing, node (.header level title trailing) =
    node (.text (run '=' level)) * (title.map node).prod * node (.text (run '=' level)) *
      (trailing.map node).prod

namespace Reading
variable {M : Type} [Monoid M] (reading : Reading M)

def nodes (list : List Node) : M := (list.map reading.node).prod

def chars (cs : List Char) : M := reading.node (.text (String.ofList cs))

theorem nodes_nil : reading.nodes [] = 1 := rfl

theorem nodes_cons (node : Node) (rest : List Node) :
    reading.nodes (node :: rest) = reading.node node * reading.nodes rest := by
  simp [nodes]

theorem nodes_append (first second : List Node) :
    reading.nodes (first ++ second) = reading.nodes first * reading.nodes second := by
  simp [nodes]

theorem nodes_single (node : Node) : reading.nodes [node] = reading.node node := by
  simp [nodes]

theorem chars_append (first second : List Char) :
    reading.chars (first ++ second) = reading.chars first * reading.chars second := by
  unfold chars
  rw [String.ofList_append, reading.text_append]

theorem node_text (written : String) :
    reading.node (.text written) = reading.chars written.toList := by
  unfold chars
  rw [String.ofList_toList]

theorem nodes_joinText (node : Node) (rest : List Node) :
    reading.nodes (joinText node rest) = reading.node node * reading.nodes rest := by
  unfold joinText
  split
  · rw [nodes_cons, nodes_cons, text_append, mul_assoc]
  · split
    · rename_i empty
      rw [empty, text_empty, one_mul]
    · exact nodes_cons reading _ _
  · exact nodes_cons reading _ _

theorem nodes_mergeText (list : List Node) :
    reading.nodes (mergeText list) = reading.nodes list := by
  induction list with
  | nil => rfl
  | cons node rest ih =>
    change reading.nodes (joinText node (mergeText rest)) = _
    rw [nodes_joinText, ih, nodes_cons]

def lines (list : List (List Node)) : M := reading.nodes ([newline].intercalate list)

theorem lines_single (line : List Node) : reading.lines [line] = reading.nodes line := by
  unfold lines
  rw [List.intercalate_singleton]

theorem lines_cons (line : List Node) {rest : List (List Node)} (more : rest ≠ []) :
    reading.lines (line :: rest) =
      reading.nodes line * (reading.node newline * reading.lines rest) := by
  unfold lines
  rw [List.intercalate_cons_of_ne_nil more, nodes_append, nodes_append, nodes_single, mul_assoc]

theorem lines_grow (node : Node) (line : List Node) (rest : List (List Node)) :
    reading.lines ((node :: line) :: rest) = reading.node node * reading.lines (line :: rest) := by
  by_cases none : rest = []
  · rw [none, lines_single, lines_single, nodes_cons]
  · rw [lines_cons reading _ none, lines_cons reading _ none, nodes_cons, mul_assoc]

theorem lines_map (change : List Node → List Node)
    (same : ∀ line, reading.nodes (change line) = reading.nodes line)
    (list : List (List Node)) : reading.lines (list.map change) = reading.lines list := by
  induction list with
  | nil => rfl
  | cons line rest ih =>
    by_cases none : rest = []
    · rw [none, List.map_cons, List.map_nil, lines_single, lines_single, same]
    · rw [List.map_cons, lines_cons reading _ (by simpa using none), lines_cons reading _ none,
        same, ih]

theorem lines_spread {cut : List (List Char)} (some : cut ≠ []) {rest : List (List Node)}
    (more : rest ≠ []) : reading.lines (spread cut rest) =
      reading.chars (['\n'].intercalate cut) * reading.lines rest := by
  induction cut with
  | nil => exact absurd rfl some
  | cons piece cut ih =>
    by_cases last : cut = []
    · obtain ⟨line, others, rfl⟩ := List.exists_cons_of_ne_nil more
      rw [last, spread, lines_grow, List.intercalate_singleton]
      rfl
    · have apart : spread (piece :: cut) rest =
          [.text (String.ofList piece)] :: spread cut rest := by
        obtain ⟨next, others, rfl⟩ := List.exists_cons_of_ne_nil last
        rfl
      have notEmpty : spread cut rest ≠ [] := by
        obtain ⟨next, others, rfl⟩ := List.exists_cons_of_ne_nil last
        cases others <;> cases rest <;> simp [spread]
      have front : reading.nodes [.text (String.ofList piece)] = reading.chars piece :=
        nodes_single reading _
      have between : reading.node newline = reading.chars ['\n'] := rfl
      rw [apart, lines_cons reading _ notEmpty, ih last, front, between,
        List.intercalate_cons_of_ne_nil last, chars_append, chars_append]
      simp only [mul_assoc]

theorem linesOf_ne_nil (list : List Node) : linesOf list ≠ [] := by
  fun_induction linesOf list with
  | case1 => simp
  | case2 written rest ih =>
    obtain ⟨line, others, whole⟩ := List.exists_cons_of_ne_nil ih
    obtain ⟨piece, more, cut⟩ :=
      List.exists_cons_of_ne_nil (pieces_ne_nil (· == '\n') written.toList)
    rw [whole, cut]
    cases more <;> simp [spread]
  | case3 => simp
  | case4 => simp

theorem lines_linesOf (list : List Node) :
    reading.lines (linesOf list) = reading.nodes list := by
  fun_induction linesOf list with
  | case1 => rfl
  | case2 written rest ih =>
    have cut := pieces_ne_nil (· == '\n') written.toList
    rw [lines_spread reading cut (linesOf_ne_nil rest), intercalate_pieces, ih, nodes_cons,
      node_text]
  | case3 node rest _ none => exact absurd none (linesOf_ne_nil rest)
  | case4 node rest _ line lines whole ih => rw [lines_grow, ← whole, ih, nodes_cons]

theorem nodes_peel (line trailing : List Node) :
    reading.nodes (peel line trailing).1.reverse * reading.nodes (peel line trailing).2 =
      reading.nodes line.reverse * reading.nodes trailing := by
  fun_induction peel line trailing with
  | case1 body rest trailing ih =>
    rw [ih, List.reverse_cons, nodes_append, nodes_single, nodes_cons, mul_assoc]
  | case2 written rest trailing kept none ih =>
    rw [ih, List.reverse_cons, nodes_append, nodes_single, nodes_cons, mul_assoc]
  | case3 => rfl
  | case4 written rest trailing kept filler some more =>
    have whole : reading.chars kept * reading.chars filler = reading.node (.text written) := by
      rw [← chars_append, dropEndWhile_append_takeEndWhile, node_text]
    rw [List.reverse_cons, nodes_append, nodes_single, nodes_cons, List.reverse_cons, nodes_append,
      nodes_single, ← whole]
    simp only [mul_assoc]
    rfl
  | case5 => rfl

end Reading

end Wikitext.Markup
