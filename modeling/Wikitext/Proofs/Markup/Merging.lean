import Mathlib.Data.List.Chain
import Wikitext.Proofs.Markup.Headings

/-!
Lists of nodes whose texts are joined. Merging leaves no empty text and no two texts side by side,
and neither it nor the cutting of lines and headings makes a construct or a character that was not
there.
-/
namespace Wikitext.Markup
open Text

namespace Node

def isText : Node → Bool
  | .text _ => true
  | _ => false

def isHeader : Node → Bool
  | .header _ _ _ => true
  | _ => false

def Drawn (constructs : Node → Prop) (letters : Char → Prop) : Node → Prop
  | .text written => ∀ c ∈ written.toList, letters c
  | node => constructs node

def IsFiller (node : Node) : Prop :=
  (∃ body, node = .comment body) ∨
    ∃ written, node = .text written ∧ ∀ c ∈ written.toList, c = ' ' ∨ c = '\t'

/-- A newline parts a header from what stands before it and from what follows it. -/
structure Parted (first second : Node) : Prop where
  before : second.isHeader = true → ∃ written, first = .text (written ++ "\n")
  behind : first.isHeader = true → ∃ written, second = .text ("\n" ++ written)

end Node

/-- No text is empty, and no two touch. -/
structure Merged (nodes : List Node) : Prop where
  some : .text "" ∉ nodes
  apart : nodes.IsChain fun first second => ¬(first.isText = true ∧ second.isText = true)

theorem merged_nil : Merged [] := ⟨List.not_mem_nil, .nil⟩

theorem merged_cons {node : Node} {rest : List Node} (some : node ≠ .text "")
    (apart : ∀ next ∈ rest.head?, ¬(node.isText = true ∧ next.isText = true))
    (merged : Merged rest) : Merged (node :: rest) where
  some := by
    intro member
    rcases List.mem_cons.mp member with here | later
    · exact some here.symm
    · exact merged.some later
  apart := merged.apart.cons apart

theorem joinText_cases (node : Node) (rest : List Node) :
    (∃ written next tail, node = .text written ∧ rest = .text next :: tail ∧
      joinText node rest = .text (written ++ next) :: tail) ∨
    (node = .text "" ∧ joinText node rest = rest) ∨
    node ≠ .text "" ∧ (∀ next ∈ rest.head?, ¬(node.isText = true ∧ next.isText = true)) ∧
      joinText node rest = node :: rest := by
  unfold joinText
  split
  · rename_i written next tail
    exact .inl ⟨written, next, tail, rfl, rfl, rfl⟩
  · rename_i written alone
    split
    · rename_i empty
      exact .inr (.inl ⟨empty ▸ rfl, rfl⟩)
    · rename_i some
      refine .inr (.inr ⟨fun same => some (Node.text.inj same), ?_, rfl⟩)
      intro next first both
      obtain ⟨tail, whole⟩ := List.head?_eq_some_iff.mp first
      cases next with
      | text other => exact alone other tail whole
      | _ => cases both.2
  · rename_i other _
    refine .inr (.inr ⟨other "", ?_, rfl⟩)
    intro next _ both
    cases node with
    | text written => exact other written rfl
    | _ => cases both.1

theorem merged_joinText (node : Node) {rest : List Node} (merged : Merged rest) :
    Merged (joinText node rest) := by
  rcases joinText_cases node rest with
    ⟨written, next, tail, rfl, rfl, joined⟩ | ⟨_, joined⟩ | ⟨some, apart, joined⟩
  · have others : Merged tail :=
      ⟨fun inside => merged.some (List.mem_cons_of_mem _ inside), merged.apart.tail⟩
    rw [joined]
    refine merged_cons ?_ ?_ others
    · intro empty
      have both := String.append_eq_empty_iff.mp (Node.text.inj empty)
      exact merged.some (both.2 ▸ List.mem_cons_self)
    · intro other first both
      exact (List.isChain_cons.mp merged.apart).1 other first ⟨rfl, both.2⟩
  · rwa [joined]
  · rw [joined]
    exact merged_cons some apart merged

theorem merged_mergeText (nodes : List Node) : Merged (mergeText nodes) := by
  induction nodes with
  | nil => exact merged_nil
  | cons node rest ih => exact merged_joinText node ih

theorem joinText_joinText (first second : String) (rest : List Node) :
    joinText (.text first) (joinText (.text second) rest) =
      joinText (.text (first ++ second)) rest := by
  rcases joinText_cases (.text second) rest with
    ⟨written, next, tail, same, rfl, joined⟩ | ⟨empty, joined⟩ | ⟨some, apart, joined⟩
  · cases same
    rw [joined]
    simp only [joinText, String.append_assoc]
  · cases empty
    rw [joined, String.append_empty]
  · have full : first ++ second ≠ "" := by
      intro empty
      exact some (by rw [(String.append_eq_empty_iff.mp empty).2])
    rw [joined]
    cases rest with
    | nil => simp only [joinText, full, if_false]
    | cons next tail =>
      cases next with
      | text written => exact absurd ⟨rfl, rfl⟩ (apart _ rfl)
      | _ => simp only [joinText, full, if_false]

section
variable {constructs : Node → Prop} {letters : Char → Prop}

theorem Node.Drawn.imp {node : Node} {others : Node → Prop} {more : Char → Prop}
    (drawn : node.Drawn constructs letters) (kinds : constructs node → others node)
    (weaken : ∀ c, letters c → more c) : node.Drawn others more := by
  cases node with
  | text written => exact fun c member => weaken c (drawn c member)
  | _ => exact kinds drawn

theorem Node.drawn_of_all {node : Node} (own : constructs node) (all : ∀ c, letters c) :
    node.Drawn constructs letters := by
  cases node with
  | text written => exact fun c _ => all c
  | _ => exact own

theorem drawn_joinText {node : Node} {rest : List Node} (here : node.Drawn constructs letters)
    (later : ∀ other ∈ rest, other.Drawn constructs letters) :
    ∀ other ∈ joinText node rest, other.Drawn constructs letters := by
  intro other member
  rcases joinText_cases node rest with
    ⟨written, next, tail, rfl, rfl, joined⟩ | ⟨_, joined⟩ | ⟨_, _, joined⟩
  · rw [joined] at member
    rcases List.mem_cons.mp member with rfl | inside
    · intro c found
      rw [String.toList_append] at found
      rcases List.mem_append.mp found with front | behind
      · exact here c front
      · exact later (.text next) List.mem_cons_self c behind
    · exact later other (List.mem_cons_of_mem _ inside)
  · rw [joined] at member
    exact later other member
  · rw [joined] at member
    rcases List.mem_cons.mp member with rfl | inside
    · exact here
    · exact later other inside

theorem drawn_mergeText {nodes : List Node} (drawn : ∀ node ∈ nodes, node.Drawn constructs letters) :
    ∀ node ∈ mergeText nodes, node.Drawn constructs letters := by
  induction nodes with
  | nil => exact drawn
  | cons node rest ih =>
    exact drawn_joinText (drawn node List.mem_cons_self)
      (ih fun other inside => drawn other (List.mem_cons_of_mem node inside))

theorem drawn_dropFront {nodes : List Node} (drawn : ∀ node ∈ nodes, node.Drawn constructs letters)
    (count : Nat) : ∀ node ∈ dropFront count nodes, node.Drawn constructs letters := by
  unfold dropFront
  split
  · rename_i written rest
    intro node member
    rcases List.mem_cons.mp member with rfl | later
    · intro c found
      rw [String.toList_ofList] at found
      exact drawn (.text written) List.mem_cons_self c (List.mem_of_mem_drop found)
    · exact drawn node (List.mem_cons_of_mem _ later)
  · exact drawn

theorem drawn_dropBack {nodes : List Node} (drawn : ∀ node ∈ nodes, node.Drawn constructs letters)
    (count : Nat) : ∀ node ∈ dropBack count nodes, node.Drawn constructs letters := by
  have turned : ∀ node ∈ nodes.reverse, node.Drawn constructs letters := by
    intro node member
    exact drawn node (List.mem_reverse.mp member)
  unfold dropBack
  split
  · rename_i written rest whole
    rw [whole] at turned
    intro node member
    rcases List.mem_cons.mp (List.mem_reverse.mp member) with rfl | later
    · intro c found
      rw [String.toList_ofList] at found
      exact turned (.text written) List.mem_cons_self c (List.mem_of_mem_take found)
    · exact turned node (List.mem_cons_of_mem _ later)
  · exact drawn

theorem drawn_spread {cut : List (List Char)} {lines : List (List Node)}
    (pieces : ∀ piece ∈ cut, ∀ c ∈ piece, letters c)
    (drawn : ∀ line ∈ lines, ∀ node ∈ line, node.Drawn constructs letters) :
    ∀ line ∈ spread cut lines, ∀ node ∈ line, node.Drawn constructs letters := by
  have single : ∀ piece ∈ cut, (Node.text (String.ofList piece)).Drawn constructs letters := by
    intro piece member c found
    rw [String.toList_ofList] at found
    exact pieces piece member c found
  fun_induction spread cut lines with
  | case1 lines => exact drawn
  | case2 piece =>
    intro line member node inside
    cases List.mem_singleton.mp member
    cases List.mem_singleton.mp inside
    exact single piece List.mem_cons_self
  | case3 piece first lines =>
    intro line member node inside
    rcases List.mem_cons.mp member with rfl | later
    · rcases List.mem_cons.mp inside with rfl | behind
      · exact single piece List.mem_cons_self
      · exact drawn first List.mem_cons_self node behind
    · exact drawn line (List.mem_cons_of_mem first later) node inside
  | case4 piece rest lines _ _ ih =>
    intro line member node inside
    rcases List.mem_cons.mp member with rfl | later
    · cases List.mem_singleton.mp inside
      exact single piece List.mem_cons_self
    · exact ih (fun other found => pieces other (List.mem_cons_of_mem piece found)) drawn
        (fun other found => single other (List.mem_cons_of_mem piece found)) line later node inside

theorem drawn_linesOf {nodes : List Node} (drawn : ∀ node ∈ nodes, node.Drawn constructs letters) :
    ∀ line ∈ linesOf nodes, ∀ node ∈ line,
      node.Drawn constructs fun c => letters c ∧ c ≠ '\n' := by
  fun_induction linesOf nodes with
  | case1 =>
    intro line member node inside
    cases List.mem_singleton.mp member
    contradiction
  | case2 written rest ih =>
    refine drawn_spread ?_ (ih fun node member => drawn node (List.mem_cons_of_mem _ member))
    intro piece member c found
    obtain ⟨inside, other⟩ := mem_pieces member c found
    exact ⟨drawn (.text written) List.mem_cons_self c inside, by simpa using other⟩
  | case3 node rest _ none => exact absurd none (Reading.linesOf_ne_nil rest)
  | case4 first rest notText line lines whole ih =>
    have later := ih fun node member => drawn node (List.mem_cons_of_mem _ member)
    have here : first.Drawn constructs fun c => letters c ∧ c ≠ '\n' := by
      have own := drawn first List.mem_cons_self
      cases first with
      | text written => exact absurd rfl (notText written)
      | _ => exact own
    rw [whole] at later
    intro other member node inside
    rcases List.mem_cons.mp member with rfl | behind
    · rcases List.mem_cons.mp inside with rfl | deeper
      · exact here
      · exact later line List.mem_cons_self node deeper
    · exact later other (List.mem_cons_of_mem line behind) node inside

theorem drawn_peel {line : List Node} (drawn : ∀ node ∈ line, node.Drawn constructs letters)
    (trailing : List Node) :
    ∀ node ∈ (peel line trailing).1, node.Drawn constructs letters := by
  fun_induction peel line trailing with
  | case1 body rest trailing ih =>
    exact ih fun node member => drawn node (List.mem_cons_of_mem _ member)
  | case2 written rest trailing kept none ih =>
    exact ih fun node member => drawn node (List.mem_cons_of_mem _ member)
  | case3 => exact drawn
  | case4 written rest trailing kept filler some more =>
    intro node member
    rcases List.mem_cons.mp member with rfl | later
    · intro c found
      rw [String.toList_ofList] at found
      apply drawn (.text written) List.mem_cons_self c
      rw [← dropEndWhile_append_takeEndWhile isFiller written.toList]
      exact List.mem_append_left _ found
    · exact drawn node (List.mem_cons_of_mem _ later)
  | case5 => exact drawn

end

theorem Merged.suffix {nodes rest : List Node} (merged : Merged nodes) (tail : rest <:+ nodes) :
    Merged rest :=
  ⟨fun member => merged.some (tail.subset member), merged.apart.suffix tail⟩

theorem Merged.reverse {nodes : List Node} (merged : Merged nodes) : Merged nodes.reverse where
  some := fun member => merged.some (List.mem_reverse.mp member)
  apart := List.isChain_reverse.mpr (merged.apart.imp fun _ _ apart both => apart both.symm)

theorem mergeText_of_merged {nodes : List Node} (merged : Merged nodes) :
    mergeText nodes = nodes := by
  induction nodes with
  | nil => rfl
  | cons node rest ih =>
    have later : mergeText (node :: rest) = joinText node (mergeText rest) := rfl
    rw [later, ih (merged.suffix (List.suffix_cons node rest))]
    rcases joinText_cases node rest with
      ⟨written, next, tail, rfl, rfl, _⟩ | ⟨empty, _⟩ | ⟨_, _, joined⟩
    · exact absurd ⟨rfl, rfl⟩ ((List.isChain_cons.mp merged.apart).1 _ rfl)
    · exact absurd (empty ▸ List.mem_cons_self) merged.some
    · exact joined

def nonTexts (nodes : List Node) : List Node := nodes.filter fun node => !node.isText

theorem nonTexts_joinText (node : Node) (rest : List Node) :
    nonTexts (joinText node rest) = nonTexts (node :: rest) := by
  rcases joinText_cases node rest with
    ⟨written, next, tail, rfl, rfl, joined⟩ | ⟨rfl, joined⟩ | ⟨_, _, joined⟩
  · rw [joined]
    rfl
  · rw [joined]
    rfl
  · rw [joined]

theorem nonTexts_mergeText (nodes : List Node) : nonTexts (mergeText nodes) = nonTexts nodes := by
  induction nodes with
  | nil => rfl
  | cons node rest ih =>
    calc nonTexts (joinText node (mergeText rest))
        = nonTexts (node :: mergeText rest) := nonTexts_joinText node (mergeText rest)
      _ = nonTexts (node :: rest) := by
        simp only [nonTexts, List.filter_cons] at ih ⊢
        rw [ih]

theorem filler_takeEndWhile {cs : List Char} {c : Char} (member : c ∈ takeEndWhile isFiller cs) :
    c = ' ' ∨ c = '\t' := by
  have passes := List.mem_takeWhile_imp (List.mem_reverse.mp member)
  simpa [isFiller] using passes

theorem peel_trailing {line trailing : List Node} (merged : Merged (line.reverse ++ trailing))
    (filler : ∀ node ∈ trailing, node.IsFiller) :
    Merged (peel line trailing).2 ∧ ∀ node ∈ (peel line trailing).2, node.IsFiller := by
  fun_induction peel line trailing with
  | case1 body rest trailing ih =>
    apply ih
    · simpa using merged
    · intro node member
      rcases List.mem_cons.mp member with rfl | later
      · exact .inl ⟨body, rfl⟩
      · exact filler node later
  | case2 written rest trailing kept none ih =>
    apply ih
    · simpa using merged
    · intro node member
      rcases List.mem_cons.mp member with rfl | later
      · refine .inr ⟨written, rfl, ?_⟩
        intro c found
        have empty : dropEndWhile isFiller written.toList = [] := none
        rw [← dropEndWhile_append_takeEndWhile isFiller written.toList, empty] at found
        exact filler_takeEndWhile found
      · exact filler node later
  | case3 => exact ⟨merged.suffix (List.suffix_append _ _), filler⟩
  | case4 written rest trailing kept moved _ some =>
    rw [List.reverse_cons, List.append_assoc] at merged
    have behind : Merged (.text written :: trailing) := merged.suffix (List.suffix_append _ _)
    constructor
    · refine merged_cons ?_ ?_ (behind.suffix (List.suffix_cons _ _))
      · intro empty
        exact some (String.ofList_eq_empty_iff.mp (Node.text.inj empty))
      · intro next first both
        exact (List.isChain_cons.mp behind.apart).1 next first ⟨rfl, both.2⟩
    · intro node member
      rcases List.mem_cons.mp member with rfl | later
      · refine .inr ⟨_, rfl, ?_⟩
        intro c found
        rw [String.toList_ofList] at found
        exact filler_takeEndWhile found
      · exact filler node later
  | case5 => exact ⟨merged.suffix (List.suffix_append _ _), filler⟩

namespace Node

theorem parted_newline_left (node : Node) : Parted newline node :=
  ⟨fun _ => ⟨"", rfl⟩, fun header => absurd header Bool.false_ne_true⟩

theorem parted_newline_right (node : Node) : Parted node newline :=
  ⟨fun header => absurd header Bool.false_ne_true, fun _ => ⟨"", rfl⟩⟩

end Node

theorem parted_joinText {front node : Node} {rest : List Node}
    (chain : (front :: node :: rest).IsChain Node.Parted) :
    (front :: joinText node rest).IsChain Node.Parted := by
  obtain ⟨near, behind⟩ := List.isChain_cons_cons.mp chain
  rcases joinText_cases node rest with
    ⟨written, next, tail, rfl, rfl, joined⟩ | ⟨rfl, joined⟩ | ⟨_, _, joined⟩
  · rw [joined, List.isChain_cons_cons]
    obtain ⟨_, others⟩ := List.isChain_cons_cons.mp behind
    constructor
    · refine ⟨fun header => absurd header Bool.false_ne_true, fun header => ?_⟩
      obtain ⟨more, same⟩ := near.behind header
      refine ⟨more ++ next, ?_⟩
      rw [Node.text.inj same, String.append_assoc]
    · apply others.imp_head
      intro other parted
      refine ⟨fun header => ?_, fun header => absurd header Bool.false_ne_true⟩
      obtain ⟨more, same⟩ := parted.before header
      refine ⟨written ++ more, ?_⟩
      rw [Node.text.inj same, String.append_assoc]
  · rw [joined]
    apply behind.imp_head
    intro other parted
    constructor
    · intro header
      obtain ⟨more, same⟩ := parted.before header
      have both := String.append_eq_empty_iff.mp (Node.text.inj same).symm
      exact absurd both.2 (by decide)
    · intro header
      obtain ⟨more, same⟩ := near.behind header
      have both := String.append_eq_empty_iff.mp (Node.text.inj same).symm
      exact absurd both.1 (by decide)
  · rw [joined]
    exact chain

theorem parted_mergeText {nodes : List Node} (chain : nodes.IsChain Node.Parted) :
    (mergeText nodes).IsChain Node.Parted := by
  -- a node in front keeps the induction going, for the first text may vanish
  have behind : ∀ front : Node, (front :: nodes).IsChain Node.Parted →
      (front :: mergeText nodes).IsChain Node.Parted := by
    clear chain
    induction nodes with
    | nil =>
      intro front chain
      exact chain
    | cons node rest ih =>
      intro front chain
      obtain ⟨near, later⟩ := List.isChain_cons_cons.mp chain
      exact parted_joinText (List.isChain_cons_cons.mpr ⟨near, ih node later⟩)
  have started := chain.cons fun node _ => Node.parted_newline_left node
  exact (behind newline started).tail

theorem parted_of_no_header {nodes : List Node} (none : ∀ node ∈ nodes, node.isHeader = false) :
    nodes.IsChain Node.Parted := by
  induction nodes with
  | nil => exact .nil
  | cons node rest ih =>
    refine (ih fun other member => none other (List.mem_cons_of_mem node member)).cons ?_
    intro next first
    have plain := none next (List.mem_cons_of_mem node (List.mem_of_mem_head? first))
    have own := none node List.mem_cons_self
    exact ⟨fun header => absurd (plain.symm.trans header) (by decide),
      fun header => absurd (own.symm.trans header) (by decide)⟩

theorem parted_intercalate {blocks : List (List Node)}
    (each : ∀ block ∈ blocks, block.IsChain Node.Parted) :
    ([newline].intercalate blocks).IsChain Node.Parted := by
  induction blocks with
  | nil => exact .nil
  | cons block rest ih =>
    have here := each block List.mem_cons_self
    have later := ih fun other member => each other (List.mem_cons_of_mem block member)
    by_cases last : rest = []
    · rwa [last, List.intercalate_singleton]
    · rw [List.intercalate_cons_of_ne_nil last, List.append_assoc]
      refine here.append (later.cons fun node _ => Node.parted_newline_left node) ?_
      intro node _ next first
      cases first
      exact Node.parted_newline_right node

end Wikitext.Markup
