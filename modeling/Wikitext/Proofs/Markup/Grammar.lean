import Mathlib.Data.List.TakeWhile
import Wikitext.Markup.Parse
import Wikitext.Proofs.Markup.Items
import Wikitext.Proofs.Markup.LinkPairing

/-!
What the grammar makes of the tokens of an outline. Every construct in it is read as the node that
it is, so no delimiter is ever kept as text.
-/
namespace Wikitext.Markup

def Parsed.Is {α : Type} {bound : Nat} (parsed : Parsed α bound) (value : α)
    (rest : List Token) : Prop :=
  ∃ shorter, parsed = ⟨value, rest, shorter⟩

theorem itemsOf_eq_map (pieces : List (Nested Bracket Leaf)) :
    itemsOf pieces = pieces.map itemOf := by
  induction pieces with
  | nil => rfl
  | cons piece rest ih => rw [itemsOf, ih, List.map_cons]

theorem itemsOf_append (first second : List (Nested Bracket Leaf)) :
    itemsOf (first ++ second) = itemsOf first ++ itemsOf second := by
  rw [itemsOf_eq_map, itemsOf_eq_map, itemsOf_eq_map, List.map_append]

theorem element_closes (bracket : Bracket) (rest : List Token) :
    element (.closes bracket :: rest) = none := by
  rw [element.eq_def]

def Leaf.node? : Leaf → Option Node
  | .comment body => some (.comment body)
  | .tag element => some (.tag element)
  | .marker written => some (.ignored written)
  | _ => none

theorem element_leaf_some {content : Leaf} {node : Node} (whole : content.node? = some node)
    (rest : List Token) :
    ∃ shorter, element (.leaf content :: rest) = some ⟨node, rest, shorter⟩ := by
  refine ⟨Nat.lt_succ_self _, ?_⟩
  rw [element.eq_def]
  cases content <;> cases whole <;> rfl

theorem element_leaf_none {content : Leaf} (whole : content.node? = none) (rest : List Token) :
    element (.leaf content :: rest) = none := by
  rw [element.eq_def]
  cases content <;> first | rfl | contradiction

theorem close_read (bracket : Bracket) (node : Node) {bound : Nat} {rest : List Token}
    (shorter : (Token.closes bracket :: rest).length < bound) :
    ∃ less, close bracket node (.closes bracket :: rest) shorter = some ⟨node, rest, less⟩ := by
  exact ⟨Nat.lt_of_succ_lt shorter, if_pos rfl⟩

theorem nodesUntil_element {stop : Token → Bool} {tokens rest after : List Token} {first : Node}
    {others : List Node} (found : ∃ shorter, element tokens = some ⟨first, rest, shorter⟩)
    (read : (nodesUntil stop rest).Is others after) :
    (nodesUntil stop tokens).Is (first :: others) after := by
  obtain ⟨shorter, found⟩ := found
  obtain ⟨less, read⟩ := read
  refine ⟨Nat.lt_succ_of_lt (Nat.lt_of_lt_of_le less shorter), ?_⟩
  rw [nodesUntil.eq_def, found]
  simp only [read]

theorem nodesUntil_text {stop : Token → Bool} {token : Token} {rest after : List Token}
    {others : List Node} (none : element (token :: rest) = none) (passes : stop token = false)
    (read : (nodesUntil stop rest).Is others after) :
    (nodesUntil stop (token :: rest)).Is (.text token.source :: others) after := by
  obtain ⟨less, read⟩ := read
  refine ⟨Nat.lt_succ_of_lt less, ?_⟩
  rw [nodesUntil.eq_def, none]
  simp only [passes, read, Bool.false_eq_true, ↓reduceIte]

def Stops (stop : Token → Bool) (tokens : List Token) : Prop :=
  (nodesUntil stop tokens).Is [] tokens

theorem stops_nil (stop : Token → Bool) : Stops stop [] := by
  refine ⟨Nat.lt_succ_self _, ?_⟩
  rw [nodesUntil.eq_def, element.eq_def]

theorem stops_cons {stop : Token → Bool} {token : Token} {rest : List Token}
    (none : element (token :: rest) = none) (ends : stop token = true) :
    Stops stop (token :: rest) := by
  refine ⟨Nat.lt_succ_self _, ?_⟩
  rw [nodesUntil.eq_def, none]
  simp only [ends, ↓reduceIte]

/-- Wherever the piece stands, the grammar reads it as the node it is. -/
def Readable (piece : Nested Bracket Leaf) : Prop :=
  ∀ bracket body, piece = .group bracket body → ∀ rest,
    ∃ shorter, element (piece.tokens ++ rest) =
      some ⟨construct bracket (itemsOf body), rest, shorter⟩

theorem asNode_ofLeaf_some {content : Leaf} {node : Node} (whole : content.node? = some node) :
    (Item.ofLeaf content).asNode = node := by
  cases content <;> cases whole <;> rfl

theorem asNode_ofLeaf_none {content : Leaf} (whole : content.node? = none) :
    (Item.ofLeaf content).asNode = .text (Token.leaf content).source := by
  cases content <;> first | rfl | contradiction

theorem nodesUntil_tokensOf {stop : Token → Bool} {pieces : List (Nested Bracket Leaf)}
    (readable : ∀ piece ∈ pieces, Readable piece)
    (passes : ∀ content, .leaf content ∈ pieces → stop (.leaf content) = false)
    {rest : List Token} (stops : Stops stop rest) :
    (nodesUntil stop (tokensOf pieces ++ rest)).Is ((itemsOf pieces).map Item.asNode) rest := by
  induction pieces with
  | nil => exact stops
  | cons piece more ih =>
    have others := ih (fun other member => readable other (List.mem_cons_of_mem _ member))
      fun content member => passes content (List.mem_cons_of_mem _ member)
    rw [tokensOf, itemsOf, List.map_cons, List.append_assoc]
    cases piece with
    | group bracket body =>
      exact nodesUntil_element (readable _ List.mem_cons_self bracket body rfl _) others
    | leaf content =>
      change (nodesUntil stop (.leaf content :: (tokensOf more ++ rest))).Is
        ((Item.ofLeaf content).asNode :: _) _
      cases whole : content.node? with
      | some node =>
        rw [asNode_ofLeaf_some whole]
        exact nodesUntil_element (element_leaf_some whole _) others
      | none =>
        rw [asNode_ofLeaf_none whole]
        exact nodesUntil_text (element_leaf_none whole _) (passes content List.mem_cons_self) others

theorem inline_is {stop : Token → Bool} {tokens rest : List Token} {nodes : List Node}
    (read : (nodesUntil stop tokens).Is nodes rest) :
    (inline stop tokens).Is (mergeText nodes) rest := by
  obtain ⟨shorter, read⟩ := read
  refine ⟨shorter, ?_⟩
  rw [inline, read]

def goesOn (stop : Token → Bool) : Nested Bracket Leaf → Bool
  | .leaf content => !stop (.leaf content)
  | .group _ _ => true

theorem inline_body {stop : Token → Bool} {bracket : Bracket} {body : List (Nested Bracket Leaf)}
    (readable : ∀ piece ∈ body, Readable piece) (ends : stop (.closes bracket) = true)
    (plain : ∀ content, stop (.leaf content) = true → content.node? = none) (rest : List Token) :
    (inline stop (tokensOf body ++ .closes bracket :: rest)).Is
      (nodesOf (itemsOf (body.takeWhile (goesOn stop))))
      (tokensOf (body.dropWhile (goesOn stop)) ++ .closes bracket :: rest) := by
  have whole : body.takeWhile (goesOn stop) ++ body.dropWhile (goesOn stop) = body :=
    List.takeWhile_append_dropWhile
  have stops : Stops stop (tokensOf (body.dropWhile (goesOn stop)) ++ .closes bracket :: rest) := by
    cases left : body.dropWhile (goesOn stop) with
    | nil => exact stops_cons (element_closes bracket rest) ends
    | cons piece more =>
      have last : goesOn stop piece = false := by
        have first := List.head?_dropWhile_not (goesOn stop) body
        simpa [left] using first
      cases piece with
      | group bracket inner => contradiction
      | leaf content =>
        have mark : stop (.leaf content) = true := by simpa [goesOn] using last
        exact stops_cons (element_leaf_none (plain content mark) _) mark
  have passes : ∀ content, .leaf content ∈ body.takeWhile (goesOn stop) →
      stop (.leaf content) = false := by
    intro content member
    have inside := List.all_eq_true.mp (List.all_takeWhile (p := goesOn stop) (l := body)) _ member
    simpa [goesOn] using inside
  have front := nodesUntil_tokensOf
    (fun piece member => readable piece ((List.takeWhile_prefix _).subset member)) passes stops
  rw [← List.append_assoc, ← tokensOf_append, whole] at front
  exact inline_is front

def Item.separates (item : Item) : Bool := item.isPipe || item.isEquals

theorem itemsOf_takeWhile {stop : Token → Bool} {mark : Item → Bool}
    (same : ∀ piece, goesOn stop piece = !mark (itemOf piece)) (body : List (Nested Bracket Leaf)) :
    itemsOf (body.takeWhile (goesOn stop)) = (itemsOf body).takeWhile (fun item => !mark item) := by
  have each : goesOn stop = (fun item => !mark item) ∘ itemOf := funext same
  rw [itemsOf_eq_map, itemsOf_eq_map, List.takeWhile_map, each]

theorem itemsOf_dropWhile {stop : Token → Bool} {mark : Item → Bool}
    (same : ∀ piece, goesOn stop piece = !mark (itemOf piece)) (body : List (Nested Bracket Leaf)) :
    itemsOf (body.dropWhile (goesOn stop)) = (itemsOf body).dropWhile (fun item => !mark item) := by
  have each : goesOn stop = (fun item => !mark item) ∘ itemOf := funext same
  rw [itemsOf_eq_map, itemsOf_eq_map, List.dropWhile_map, each]

theorem goesOn_endsName (bracket : Bracket) (piece : Nested Bracket Leaf) :
    goesOn (endsName bracket) piece = !(itemOf piece).isPipe := by
  cases piece with
  | group => rfl
  | leaf content => cases content <;> rfl

theorem goesOn_endsParameterName (piece : Nested Bracket Leaf) :
    goesOn endsParameterName piece = !(itemOf piece).separates := by
  cases piece with
  | group => rfl
  | leaf content => cases content <;> rfl

theorem goesOn_endsPart (bracket : Bracket) (piece : Nested Bracket Leaf) :
    goesOn (endsPart bracket) piece = true := by
  cases piece <;> rfl

theorem endsName_closes (bracket : Bracket) : endsName bracket (.closes bracket) = true := by
  simp [endsName, endsPart]

theorem node?_of_endsName {bracket : Bracket} (content : Leaf)
    (mark : endsName bracket (.leaf content) = true) : content.node? = none := by
  cases content <;> first | rfl | contradiction

theorem eq_pipe_of_dropWhile {bracket : Bracket} {body tail : List (Nested Bracket Leaf)}
    {piece : Nested Bracket Leaf}
    (left : body.dropWhile (goesOn (endsName bracket)) = piece :: tail) :
    piece = .leaf .pipe := by
  have stop := List.head?_dropWhile_not (goesOn (endsName bracket)) body
  rw [left] at stop
  cases piece with
  | group => contradiction
  | leaf content => cases content <;> first | rfl | contradiction

theorem behindPipe_closes (stop : Token → Bool) (bracket : Bracket) (rest : List Token) :
    (behindPipe stop (.closes bracket :: rest)).Is none (.closes bracket :: rest) := by
  refine ⟨Nat.lt_succ_self _, ?_⟩
  rw [behindPipe.eq_def]

theorem behindPipe_pipe {stop : Token → Bool} {tokens rest : List Token} {part : List Node}
    (read : (inline stop tokens).Is part rest) :
    (behindPipe stop (.leaf .pipe :: tokens)).Is (some part) rest := by
  obtain ⟨shorter, read⟩ := read
  refine ⟨Nat.lt_succ_of_lt shorter, ?_⟩
  rw [behindPipe.eq_def]
  simp only [read]

/-- The two parts of an argument or a link are what stands before and behind its first pipe. -/
theorem parts_read {bracket : Bracket} {body : List (Nested Bracket Leaf)}
    (readable : ∀ piece ∈ body, Readable piece) (rest : List Token) :
    ∃ between, (inline (endsName bracket) (tokensOf body ++ .closes bracket :: rest)).Is
        (cutPipe (itemsOf body)).1 between ∧
      (behindPipe (endsPart bracket) between).Is (cutPipe (itemsOf body)).2
        (.closes bracket :: rest) := by
  have first := inline_body readable (endsName_closes bracket) node?_of_endsName rest
  rw [itemsOf_takeWhile (goesOn_endsName bracket)] at first
  refine ⟨_, first, ?_⟩
  have items := itemsOf_dropWhile (goesOn_endsName bracket) body
  cases left : body.dropWhile (goesOn (endsName bracket)) with
  | nil =>
    rw [left] at items
    unfold cutPipe
    rw [← items]
    exact behindPipe_closes _ bracket rest
  | cons piece tail =>
    have pipe := eq_pipe_of_dropWhile left
    have inside : ∀ other ∈ tail, other ∈ body := by
      intro other member
      apply (List.dropWhile_suffix (goesOn (endsName bracket))).subset
      rw [left]
      exact List.mem_cons_of_mem _ member
    have last : endsPart bracket (.closes bracket) = true := by simp [endsPart]
    have never : ∀ content, endsPart bracket (.leaf content) = true → content.node? = none := by
      intro content mark
      contradiction
    -- nothing in the body stops the last part, not even a pipe
    have none : tail.dropWhile (goesOn (endsPart bracket)) = [] := by
      apply List.dropWhile_eq_nil_iff.mpr
      intro other _
      exact goesOn_endsPart bracket other
    have all : tail.takeWhile (goesOn (endsPart bracket)) = tail := by
      apply List.takeWhile_eq_self_iff.mpr
      intro other _
      exact goesOn_endsPart bracket other
    have second := inline_body (fun other member => readable other (inside other member)) last never
      rest
    rw [all, none] at second
    rw [left, pipe] at items
    unfold cutPipe
    rw [← items, pipe]
    exact behindPipe_pipe second

theorem joinText_empty (nodes : List Node) : joinText (.text "") nodes = nodes := by
  cases nodes with
  | nil => rfl
  | cons node rest => cases node <;> simp [joinText]

theorem withSurplusEquals_eq (count : Nat) (items : List Item) :
    withSurplusEquals count (nodesOf items) =
      mergeText (.text (run '=' (count - 1)) :: nodesOf items) := by
  unfold withSurplusEquals
  split
  · rfl
  · rename_i few
    have none : run '=' (count - 1) = "" := by
      have zero : count - 1 = 0 := by omega
      rw [zero]
      rfl
    rw [none]
    exact (joinText_empty _).symm

theorem parameter_named {tokens between rest : List Token} {name value : List Node} {count : Nat}
    (front : (inline endsParameterName tokens).Is name (.leaf (.equals count) :: between))
    (back : (inline (endsName .template) between).Is value rest) :
    (parameter tokens).Is (.named name (withSurplusEquals count value)) rest := by
  obtain ⟨shorter, front⟩ := front
  obtain ⟨less, back⟩ := back
  have read : parameterValue (.leaf (.equals count) :: between) =
      some (count, ⟨value, rest, less⟩) := by
    rw [parameterValue.eq_def]
    simp only [back]
  refine ⟨Nat.lt_trans less shorter, ?_⟩
  rw [parameter, front]
  simp only [read]

theorem parameter_positional {tokens between : List Token} {name : List Node}
    (front : (inline endsParameterName tokens).Is name between)
    (none : parameterValue between = none) :
    (parameter tokens).Is (.positional name) between := by
  obtain ⟨shorter, front⟩ := front
  refine ⟨shorter, ?_⟩
  rw [parameter, front]
  simp only [none]

theorem parameterOf_positional {items : List Item}
    (unmarked : ∀ item ∈ items, item.isEquals = false) :
    parameterOf items = .positional (nodesOf items) := by
  have none : items.dropWhile (fun item => !item.isEquals) = [] := by
    apply List.dropWhile_eq_nil_iff.mpr
    intro item member
    simp [unmarked item member]
  unfold parameterOf
  rw [none]

theorem parameterOf_named {items : List Item} (unmarked : ∀ item ∈ items, item.isEquals = false)
    (count : Nat) (value : List Item) :
    parameterOf (items ++ .equals count :: value) =
      .named (nodesOf items) (mergeText (.text (run '=' (count - 1)) :: nodesOf value)) := by
  have passes : ∀ item ∈ items, (!item.isEquals) = true := by
    intro item member
    simp [unmarked item member]
  unfold parameterOf
  rw [List.dropWhile_append_of_pos passes, List.takeWhile_append_of_pos passes]
  simp [Item.isEquals]

theorem parameter_cut {tokens : List Token} {name left : List (Nested Bracket Leaf)}
    {rest : List Token} (front : (inline endsParameterName tokens).Is (nodesOf (itemsOf name))
      (tokensOf left ++ .closes .template :: rest))
    (unmarked : ∀ item ∈ itemsOf name, item.isEquals = false)
    (stop : ∀ piece, left.head? = some piece → goesOn endsParameterName piece = false)
    (readable : ∀ piece ∈ left, Readable piece) :
    (parameter tokens).Is
      (parameterOf (itemsOf name ++ (itemsOf left).takeWhile fun item => !item.isPipe))
      (tokensOf (left.dropWhile (goesOn (endsName .template))) ++ .closes .template :: rest) := by
  cases left with
  | nil =>
    have ended : parameterValue (.closes .template :: rest) = none := by rw [parameterValue.eq_def]
    have alone : itemsOf name ++ [] = itemsOf name := List.append_nil _
    change (parameter tokens).Is (parameterOf (itemsOf name ++ [])) (.closes .template :: rest)
    rw [alone, parameterOf_positional unmarked]
    exact parameter_positional front ended
  | cons piece tail =>
    have last := stop piece rfl
    cases piece with
    | group => contradiction
    | leaf content =>
      cases content with
      | pipe =>
        have ended : parameterValue (tokensOf (.leaf .pipe :: tail) ++ .closes .template :: rest) =
            none := by
          change parameterValue (.leaf .pipe :: _) = none
          rw [parameterValue.eq_def]
        have alone : itemsOf name ++ [] = itemsOf name := List.append_nil _
        change (parameter tokens).Is (parameterOf (itemsOf name ++ []))
          (tokensOf (.leaf .pipe :: tail) ++ .closes .template :: rest)
        rw [alone, parameterOf_positional unmarked]
        exact parameter_positional front ended
      | equals count =>
        have inside : ∀ other ∈ tail, Readable other :=
          fun other member => readable other (List.mem_cons_of_mem _ member)
        have back := inline_body inside (endsName_closes .template) node?_of_endsName rest
        rw [itemsOf_takeWhile (goesOn_endsName .template)] at back
        have read := parameter_named front back
        rw [withSurplusEquals_eq, ← parameterOf_named unmarked] at read
        exact read
      | newline => contradiction
      | comment => contradiction
      | tag => contradiction
      | marker => contradiction
      | text => contradiction

theorem parameter_read {body : List (Nested Bracket Leaf)}
    (readable : ∀ piece ∈ body, Readable piece) (rest : List Token) :
    (parameter (tokensOf body ++ .closes .template :: rest)).Is
      (parameterOf ((itemsOf body).takeWhile fun item => !item.isPipe))
      (tokensOf (body.dropWhile (goesOn (endsName .template))) ++ .closes .template :: rest) := by
  have ends : endsParameterName (.closes .template) = true := by decide
  have plain : ∀ content, endsParameterName (.leaf content) = true → content.node? = none := by
    intro content mark
    cases content <;> first | rfl | contradiction
  have front := inline_body readable ends plain rest
  have stop : ∀ piece, (body.dropWhile (goesOn endsParameterName)).head? = some piece →
      goesOn endsParameterName piece = false := by
    intro piece found
    have last := List.head?_dropWhile_not (goesOn endsParameterName) body
    rw [found] at last
    simpa using last
  have inside : ∀ piece ∈ body.dropWhile (goesOn endsParameterName), Readable piece :=
    fun piece member => readable piece ((List.dropWhile_suffix _).subset member)
  have unmarked : ∀ piece ∈ body.takeWhile (goesOn endsParameterName),
      (itemOf piece).isPipe = false ∧ (itemOf piece).isEquals = false := by
    intro piece member
    have goes := List.mem_takeWhile_imp member
    rw [goesOn_endsParameterName, Item.separates] at goes
    simpa using goes
  have items : ∀ item ∈ itemsOf (body.takeWhile (goesOn endsParameterName)),
      item.isPipe = false ∧ item.isEquals = false := by
    intro item member
    rw [itemsOf_eq_map] at member
    obtain ⟨piece, found, same⟩ := List.mem_map.mp member
    rw [← same]
    exact unmarked piece found
  -- the name has no pipe in it, so up to the first pipe comes the name and what follows it
  have read := parameter_cut front (fun item member => (items item member).2) stop inside
  have whole : body.takeWhile (goesOn endsParameterName) ++
      body.dropWhile (goesOn endsParameterName) = body := List.takeWhile_append_dropWhile
  rw [← List.takeWhile_append_of_pos (fun item member => by simp [(items item member).1]),
    ← itemsOf_append, whole, ← List.dropWhile_append_of_pos (fun piece member => by
      rw [goesOn_endsName, (unmarked piece member).1]; rfl), whole] at read
  exact read

theorem segments_eq (items : List Item) :
    segments items = (items.takeWhile (fun item => !item.isPipe),
      (segments (items.dropWhile fun item => !item.isPipe)).2) := by
  induction items with
  | nil => rfl
  | cons item rest ih =>
    rw [segments]
    split
    · rename_i pipe
      simp [pipe, segments]
    · rename_i other
      rw [ih]
      simp [other]

theorem segments_fst (items : List Item) :
    (segments items).1 = items.takeWhile fun item => !item.isPipe := by
  rw [segments_eq]

theorem parameters_pipe {tokens between rest : List Token} {first : Parameter}
    {others : List Parameter} (front : (parameter tokens).Is first between)
    (back : (parameters between).Is others rest) :
    (parameters (.leaf .pipe :: tokens)).Is (first :: others) rest := by
  obtain ⟨shorter, front⟩ := front
  obtain ⟨less, back⟩ := back
  refine ⟨Nat.lt_succ_of_lt (Nat.lt_of_lt_of_le less shorter), ?_⟩
  rw [parameters, front]
  simp only [back]

theorem parameters_closes (bracket : Bracket) (rest : List Token) :
    (parameters (.closes bracket :: rest)).Is [] (.closes bracket :: rest) := by
  refine ⟨Nat.lt_succ_self _, ?_⟩
  rw [parameters.eq_def]

theorem parameters_read {body : List (Nested Bracket Leaf)}
    (readable : ∀ piece ∈ body, Readable piece) (rest : List Token) :
    (parameters (tokensOf (body.dropWhile (goesOn (endsName .template))) ++
      .closes .template :: rest)).Is ((segments (itemsOf body)).2.map parameterOf)
        (.closes .template :: rest) := by
  have items := itemsOf_dropWhile (goesOn_endsName .template) body
  rw [segments_eq, ← items]
  cases left : body.dropWhile (goesOn (endsName .template)) with
  | nil => exact parameters_closes .template rest
  | cons piece tail =>
    have pipe := eq_pipe_of_dropWhile left
    have suffix : piece :: tail <:+ body := left ▸ List.dropWhile_suffix _
    have inside : ∀ other ∈ tail, Readable other :=
      fun other member => readable other (suffix.subset (List.mem_cons_of_mem _ member))
    have shorter : tail.length < body.length := suffix.length_le
    have front := parameter_read inside rest
    have back := parameters_read inside rest
    have whole := parameters_pipe front back
    rw [pipe]
    change (parameters (.leaf .pipe :: (tokensOf tail ++ .closes .template :: rest))).Is
      (parameterOf (segments (itemsOf tail)).1 :: (segments (itemsOf tail)).2.map parameterOf) _
    rw [segments_fst]
    exact whole
termination_by body.length

theorem element_template {tokens between rest : List Token} {name : List Node}
    {passed : List Parameter} (front : (inline (endsName .template) tokens).Is name between)
    (back : (parameters between).Is passed (.closes .template :: rest)) :
    ∃ shorter, element (.opens .template :: tokens) =
      some ⟨.template name passed, rest, shorter⟩ := by
  obtain ⟨shorter, front⟩ := front
  obtain ⟨less, back⟩ := back
  rw [element, front]
  simp only [back]
  exact close_read _ _ _

theorem element_argument {tokens between rest : List Token} {name : List Node}
    {fallback : Option (List Node)} (front : (inline (endsName .argument) tokens).Is name between)
    (back : (behindPipe (endsPart .argument) between).Is fallback (.closes .argument :: rest)) :
    ∃ shorter, element (.opens .argument :: tokens) =
      some ⟨.argument name fallback, rest, shorter⟩ := by
  obtain ⟨shorter, front⟩ := front
  obtain ⟨less, back⟩ := back
  rw [element, front]
  simp only [back]
  exact close_read _ _ _

theorem element_link {tokens between rest : List Token} {target : List Node}
    {caption : Option (List Node)} (front : (inline (endsName .link) tokens).Is target between)
    (back : (behindPipe (endsPart .link) between).Is caption (.closes .link :: rest)) :
    ∃ shorter, element (.opens .link :: tokens) =
      some ⟨.link target caption, rest, shorter⟩ := by
  obtain ⟨shorter, front⟩ := front
  obtain ⟨less, back⟩ := back
  rw [element, front]
  simp only [back]
  exact close_read _ _ _

/-- A construct whose inner constructs are read is read itself. -/
theorem element_group {body : List (Nested Bracket Leaf)}
    (readable : ∀ piece ∈ body, Readable piece) (bracket : Bracket) (rest : List Token) :
    ∃ shorter, element (.opens bracket :: (tokensOf body ++ .closes bracket :: rest)) =
      some ⟨construct bracket (itemsOf body), rest, shorter⟩ := by
  cases bracket with
  | template =>
    have name := inline_body readable (endsName_closes .template) node?_of_endsName rest
    have passed := parameters_read readable rest
    rw [itemsOf_takeWhile (goesOn_endsName .template)] at name
    rw [← segments_fst] at name
    exact element_template name passed
  | argument =>
    obtain ⟨between, name, fallback⟩ := parts_read readable rest
    exact element_argument name fallback
  | link =>
    obtain ⟨between, target, caption⟩ := parts_read readable rest
    exact element_link target caption

mutual

theorem readable_piece (piece : Nested Bracket Leaf) : Readable piece := by
  match piece with
  | .leaf content =>
    intro bracket body same
    contradiction
  | .group bracket body =>
    intro other inner same rest
    cases same
    have inside := readable_pieces body
    rw [Nested.tokens, List.cons_append, List.append_assoc]
    exact element_group inside bracket rest

theorem readable_pieces (pieces : List (Nested Bracket Leaf)) :
    ∀ piece ∈ pieces, Readable piece := by
  match pieces with
  | [] =>
    intro piece member
    contradiction
  | first :: rest =>
    intro piece member
    rcases List.mem_cons.mp member with here | later
    · rw [here]
      exact readable_piece first
    · exact readable_pieces rest piece later

end

theorem document_tokensOf (pieces : List (Nested Bracket Leaf)) :
    document (tokensOf pieces) = some (withHeadings (nodesOf (itemsOf pieces))) := by
  have read := inline_is (nodesUntil_tokensOf (readable_pieces pieces) (fun _ _ => rfl)
    (stops_nil fun _ => false))
  rw [List.append_nil] at read
  obtain ⟨shorter, whole⟩ := read
  unfold document
  rw [whole]
  rfl

theorem readPage_eq (tags : TagSet) (source : String) :
    readPage tags source = some (withHeadings (nodesOf (itemsOf (outline tags source)))) := by
  unfold readPage
  rw [map_fst_lex]
  exact document_tokensOf _

/-- The tree of a page is the one of its outline. -/
theorem parse_eq (tags : TagSet) (source : String) :
    parse tags source = withHeadings (nodesOf (itemsOf (outline tags source))) := by
  unfold parse
  exact Option.get_of_eq_some _ (readPage_eq tags source)

theorem parse_empty (tags : TagSet) : parse tags "" = [] := by
  have nothing : scan tags "".toList = [] := by
    rw [String.toList_empty, scan]
  rw [parse_eq, outline, nothing]
  rfl

end Wikitext.Markup
