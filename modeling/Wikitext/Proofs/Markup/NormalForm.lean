import Wikitext.Proofs.Markup.Marks
import Wikitext.Proofs.Markup.Merging
import Wikitext.Proofs.Markup.Walk

/-!
The normal form of a page. In every list of its tree the texts are joined, headers stand on lines of
their own and nowhere but in the page itself, and a list that ends at a mark has no such mark in its
own texts.
-/
namespace Wikitext.Markup
open Text

/-- What a list of nodes is to the node that it belongs to. -/
inductive Place where
  | page
  | title
  | trailing
  | target
  | caption
  | templateName
  | argumentName
  | fallback
  | parameterName
  | positionalValue
  | namedValue
deriving DecidableEq

/-- The characters that are in no text directly in the place. -/
def Place.barred : Place → List Char
  | .page | .caption | .fallback => []
  | .title | .trailing => ['\n']
  | .target | .templateName | .argumentName | .namedValue => ['|']
  | .parameterName | .positionalValue => ['|', '=']

def Parameter.lists : Parameter → List (Place × List Node)
  | .positional value => [(.positionalValue, value)]
  | .named name value => [(.parameterName, name), (.namedValue, value)]

def Node.lists : Node → List (Place × List Node)
  | .header _ title trailing => [(.title, title), (.trailing, trailing)]
  | .link target caption => (.target, target) :: caption.toList.map (Prod.mk .caption)
  | .template name parameters => (.templateName, name) :: parameters.flatMap Parameter.lists
  | .argument name fallback => (.argumentName, name) :: fallback.toList.map (Prod.mk .fallback)
  | .parameter content => content.lists
  | .text _ => []
  | .comment _ => []
  | .ignored _ => []
  | .tag _ => []

/-- The normal form of a list in a place. -/
structure Normal (place : Place) (nodes : List Node) : Prop where
  merged : Merged nodes
  headers : ∀ level title trailing, .header level title trailing ∈ nodes →
    place = .page ∧ 1 ≤ level ∧ level ≤ 6
  parted : nodes.IsChain Node.Parted
  texts : ∀ written, .text written ∈ nodes → ∀ c ∈ place.barred, c ∉ written.toList
  filler : place = .trailing → ∀ node ∈ nodes, node.IsFiller

theorem Parameter.walk_eq_lists (parameter : Parameter) :
    parameter.walk = parameter.lists.flatMap fun part => Markup.walk part.2 := by
  cases parameter with
  | positional value => simp [Parameter.walk, lists]
  | named name value => simp [Parameter.walk, lists]

theorem Node.walk_eq_lists (node : Node) :
    node.walk = node :: node.lists.flatMap fun part => Markup.walk part.2 := by
  cases node with
  | link target caption => cases caption <;> simp [Node.walk, lists]
  | argument name fallback => cases fallback <;> simp [Node.walk, lists]
  | template name parameters =>
    simp [Node.walk, lists, walkParameters_eq_flatMap, List.flatMap_assoc,
      ← Parameter.walk_eq_lists]
  | parameter content => simp [Node.walk, lists, Parameter.walk_eq_lists]
  | _ => simp [Node.walk, lists]

def Node.Tidy (node : Node) : Prop :=
  ∀ inner ∈ node.walk, ∀ part ∈ inner.lists, Normal part.1 part.2

def NormalBelow (place : Place) (nodes : List Node) : Prop :=
  Normal place nodes ∧ ∀ node ∈ nodes, node.Tidy

theorem Node.tidy_of_lists {node : Node}
    (parts : ∀ part ∈ node.lists, NormalBelow part.1 part.2) : node.Tidy := by
  intro inner member
  rw [walk_eq_lists] at member
  rcases List.mem_cons.mp member with rfl | later
  · intro part found
    exact (parts part found).1
  · obtain ⟨part, found, inside⟩ := List.mem_flatMap.mp later
    rw [walk_eq_flatMap] at inside
    obtain ⟨other, listed, deeper⟩ := List.mem_flatMap.mp inside
    exact (parts part found).2 other listed inner deeper

structure Node.Inline (node : Node) : Prop where
  tidy : node.Tidy
  plain : node.isHeader = false

theorem Node.tidy_of_leaf {node : Node} (leaf : node.lists = []) : node.Tidy := by
  apply tidy_of_lists
  rw [leaf]
  intro part found
  contradiction

theorem Node.Drawn.inline {node : Node} {letters : Char → Prop}
    (drawn : node.Drawn Node.Inline letters) : node.Inline := by
  cases node with
  | text written => exact ⟨tidy_of_leaf rfl, rfl⟩
  | _ => exact drawn

theorem normalBelow_of_inline {place : Place} {nodes : List Node} (merged : Merged nodes)
    (inline : ∀ node ∈ nodes, node.Inline)
    (texts : ∀ written, .text written ∈ nodes → ∀ c ∈ place.barred, c ∉ written.toList)
    (filler : place = .trailing → ∀ node ∈ nodes, node.IsFiller) : NormalBelow place nodes := by
  refine ⟨⟨merged, ?_, parted_of_no_header fun node member => (inline node member).plain, texts,
    filler⟩, fun node member => (inline node member).tidy⟩
  intro level title trailing member
  exact absurd (inline _ member).plain.symm Bool.false_ne_true

theorem normalBelow_mergeText {place : Place} {nodes : List Node} {letters : Char → Prop}
    (drawn : ∀ node ∈ nodes, node.Drawn Node.Inline letters)
    (avoids : ∀ c ∈ place.barred, ¬letters c) (other : place ≠ .trailing) :
    NormalBelow place (mergeText nodes) := by
  have all := drawn_mergeText drawn
  apply normalBelow_of_inline (merged_mergeText nodes) fun node member => (all node member).inline
  · intro written member c bar found
    exact avoids c bar (all _ member c found)
  · intro same
    exact absurd same other

theorem normalBelow_trailing {nodes : List Node} (merged : Merged nodes)
    (filler : ∀ node ∈ nodes, node.IsFiller) : NormalBelow .trailing nodes := by
  apply normalBelow_of_inline merged
  · intro node member
    rcases filler node member with ⟨comment, rfl⟩ | ⟨written, rfl, _⟩
    · exact ⟨Node.tidy_of_leaf rfl, rfl⟩
    · exact ⟨Node.tidy_of_leaf rfl, rfl⟩
  · intro written member c bar inside
    rw [List.mem_singleton.mp bar] at inside
    rcases filler _ member with ⟨comment, same⟩ | ⟨other, same, blank⟩
    · cases same
    · cases same
      exact absurd (blank _ inside) (by decide)
  · intro _
    exact filler

namespace Item

def Sound : Item → Prop
  | .pipe => True
  | .equals _ => True
  | .node content => content.Drawn Node.Inline fun c => c ≠ '|' ∧ c ≠ '='

theorem Sound.drawn {item : Item} (sound : item.Sound) {letters : Char → Prop}
    (others : ∀ c, c ≠ '|' ∧ c ≠ '=' → letters c) (pipe : item.isPipe = true → letters '|')
    (equals : item.isEquals = true → letters '=') : item.asNode.Drawn Node.Inline letters := by
  cases item with
  | pipe =>
    intro c member
    rw [List.mem_singleton.mp member]
    exact pipe rfl
  | equals count =>
    intro c member
    rw [run_toList] at member
    rw [List.eq_of_mem_replicate member]
    exact equals rfl
  | node content =>
    cases content with
    | text written =>
      intro c member
      exact others c (sound c member)
    | _ => exact sound

end Item

variable {items : List Item}

theorem drawn_items {letters : Char → Prop} (sound : ∀ item ∈ items, item.Sound)
    (others : ∀ c, c ≠ '|' ∧ c ≠ '=' → letters c)
    (pipes : ∀ item ∈ items, item.isPipe = true → letters '|')
    (equals : ∀ item ∈ items, item.isEquals = true → letters '=') :
    ∀ node ∈ items.map Item.asNode, node.Drawn Node.Inline letters := by
  intro node member
  obtain ⟨item, found, rfl⟩ := List.mem_map.mp member
  exact (sound item found).drawn others (pipes item found) (equals item found)

theorem normalBelow_nodesOf {place : Place} (marks : place.barred ⊆ ['|', '='])
    (sound : ∀ item ∈ items, item.Sound)
    (pipes : '|' ∈ place.barred → ∀ item ∈ items, item.isPipe = false)
    (equals : '=' ∈ place.barred → ∀ item ∈ items, item.isEquals = false) :
    NormalBelow place (nodesOf items) := by
  have drawn : ∀ node ∈ items.map Item.asNode, node.Drawn Node.Inline fun c => c ∉ place.barred := by
    apply drawn_items sound
    · intro c other bar
      rcases List.mem_pair.mp (marks bar) with rfl | rfl
      · exact other.1 rfl
      · exact other.2 rfl
    · intro item found pipe bar
      exact absurd ((pipes bar item found).symm.trans pipe) Bool.false_ne_true
    · intro item found mark bar
      exact absurd ((equals bar item found).symm.trans mark) Bool.false_ne_true
  apply normalBelow_mergeText drawn fun c bar free => free bar
  rintro rfl
  exact absurd (marks List.mem_cons_self) (by decide)

theorem not_of_mem_takeWhile {test : Item → Bool} {item : Item}
    (member : item ∈ items.takeWhile fun item => !test item) : test item = false := by
  have passes := List.mem_takeWhile_imp member
  simpa using passes

theorem mem_of_dropWhile {test : Item → Bool} {first item : Item} {rest : List Item}
    (found : items.dropWhile test = first :: rest) (member : item ∈ rest) : item ∈ items := by
  apply (List.dropWhile_suffix test).subset
  rw [found]
  exact List.mem_cons_of_mem first member

theorem not_equals_of_uncut
    (uncut : ∀ count rest, items.dropWhile (fun item => !item.isEquals) ≠ .equals count :: rest) :
    ∀ item ∈ items, item.isEquals = false := by
  have all : items.dropWhile (fun item => !item.isEquals) = [] := by
    have stop := List.head?_dropWhile_not (fun item : Item => !item.isEquals) items
    cases found : items.dropWhile (fun item => !item.isEquals) with
    | nil => rfl
    | cons first rest =>
      rw [found] at stop
      cases first with
      | equals count => exact absurd found (uncut count rest)
      | pipe => cases stop
      | node content => cases stop
  intro item member
  have passes := List.dropWhile_eq_nil_iff.mp all item member
  simpa using passes

theorem drawn_value {rest : List Item} (sound : ∀ item ∈ rest, item.Sound)
    (pipes : ∀ item ∈ rest, item.isPipe = false) (surplus : Nat) :
    ∀ node ∈ Node.text (run '=' surplus) :: nodesOf rest,
      node.Drawn Node.Inline fun c => c ≠ '|' := by
  intro node member
  rcases List.mem_cons.mp member with rfl | later
  · intro c inside
    rw [run_toList] at inside
    rw [List.eq_of_mem_replicate inside]
    decide
  · apply drawn_mergeText _ node later
    apply drawn_items sound
    · intro c other
      exact other.1
    · intro item found pipe
      exact absurd ((pipes item found).symm.trans pipe) Bool.false_ne_true
    · intro _ _ _
      decide

theorem normalBelow_parameterOf (sound : ∀ item ∈ items, item.Sound)
    (pipes : ∀ item ∈ items, item.isPipe = false) :
    ∀ part ∈ (parameterOf items).lists, NormalBelow part.1 part.2 := by
  unfold parameterOf
  split
  · rename_i count rest found
    have name : NormalBelow .parameterName
        (nodesOf (items.takeWhile fun item => !item.isEquals)) := by
      apply normalBelow_nodesOf (by decide)
      · intro item inside
        exact sound item (List.takeWhile_subset _ inside)
      · intro _ item inside
        exact pipes item (List.takeWhile_subset _ inside)
      · intro _ item inside
        exact not_of_mem_takeWhile inside
    have value : NormalBelow .namedValue
        (mergeText (.text (run '=' (count - 1)) :: nodesOf rest)) := by
      have drawn := drawn_value (fun item member => sound item (mem_of_dropWhile found member))
        (fun item member => pipes item (mem_of_dropWhile found member)) (count - 1)
      apply normalBelow_mergeText drawn
      · intro c bar other
        exact other (List.mem_singleton.mp bar)
      · decide
    intro part member
    rcases List.mem_pair.mp member with rfl | rfl
    · exact name
    · exact value
  · rename_i uncut
    have value : NormalBelow .positionalValue (nodesOf items) :=
      normalBelow_nodesOf (by decide) sound (fun _ => pipes) fun _ => not_equals_of_uncut uncut
    intro part member
    cases List.mem_singleton.mp member
    exact value

theorem mem_segments_not_pipe {item : Item} :
    item ∈ (segments items).1 ∨ (∃ part ∈ (segments items).2, item ∈ part) →
      item.isPipe = false := by
  induction items with
  | nil => simp [segments]
  | cons first rest ih =>
    rw [segments]
    split
    · rintro (inside | ⟨part, found, inside⟩)
      · contradiction
      · rcases List.mem_cons.mp found with same | later
        · exact ih (.inl (same ▸ inside))
        · exact ih (.inr ⟨part, later, inside⟩)
    · rename_i plain
      rintro (inside | ⟨part, found, inside⟩)
      · rcases List.mem_cons.mp inside with same | later
        · rw [same]
          simpa using plain
        · exact ih (.inl later)
      · exact ih (.inr ⟨part, found, inside⟩)

theorem normalBelow_cutPipe (front behind : Place) (sound : ∀ item ∈ items, item.Sound)
    (pipe : front.barred = ['|']) (free : behind.barred = []) :
    ∀ part ∈ (front, (cutPipe items).1) :: (cutPipe items).2.toList.map (Prod.mk behind),
      NormalBelow part.1 part.2 := by
  intro part member
  rcases List.mem_cons.mp member with rfl | later
  · apply normalBelow_nodesOf
    · rw [pipe]
      decide
    · intro item inside
      exact sound item (List.takeWhile_subset _ inside)
    · intro _ item inside
      exact not_of_mem_takeWhile inside
    · intro bar
      rw [pipe] at bar
      exact absurd bar (by decide)
  · obtain ⟨list, found, rfl⟩ := List.mem_map.mp later
    unfold cutPipe at found
    simp only at found
    split at found
    · contradiction
    · rename_i first rest whole
      cases List.mem_singleton.mp found
      apply normalBelow_nodesOf
      · rw [free]
        exact List.nil_subset _
      · intro item inside
        exact sound item (mem_of_dropWhile whole inside)
      · intro bar
        rw [free] at bar
        contradiction
      · intro bar
        rw [free] at bar
        contradiction

theorem inline_construct (bracket : Bracket) (sound : ∀ item ∈ items, item.Sound) :
    (construct bracket items).Inline := by
  cases bracket with
  | template =>
    refine ⟨Node.tidy_of_lists ?_, rfl⟩
    have name : NormalBelow .templateName (nodesOf (segments items).1) := by
      apply normalBelow_nodesOf (by decide)
      · intro item inside
        exact sound item (Reading.mem_segments (.inl inside))
      · intro _ item inside
        exact mem_segments_not_pipe (.inl inside)
      · intro bar
        exact absurd bar (by decide)
    intro part member
    rcases List.mem_cons.mp member with rfl | later
    · exact name
    · obtain ⟨parameter, passed, inside⟩ := List.mem_flatMap.mp later
      obtain ⟨segment, found, rfl⟩ := List.mem_map.mp passed
      apply normalBelow_parameterOf _ _ part inside
      · intro item held
        exact sound item (Reading.mem_segments (.inr ⟨segment, found, held⟩))
      · intro item held
        exact mem_segments_not_pipe (.inr ⟨segment, found, held⟩)
  | argument =>
    exact ⟨Node.tidy_of_lists (normalBelow_cutPipe .argumentName .fallback sound rfl rfl), rfl⟩
  | link => exact ⟨Node.tidy_of_lists (normalBelow_cutPipe .target .caption sound rfl rfl), rfl⟩

theorem sound_ofLeaf {content : Leaf}
    (plain : ∀ written, content = .text written → Unmarked written.toList) :
    (Item.ofLeaf content).Sound := by
  cases content with
  | pipe => trivial
  | equals count => trivial
  | newline =>
    intro c member
    rw [List.mem_singleton.mp member]
    decide
  | text written => exact plain written rfl
  | comment body => exact ⟨Node.tidy_of_leaf rfl, rfl⟩
  | tag element => exact ⟨Node.tidy_of_leaf rfl, rfl⟩
  | marker written => exact ⟨Node.tidy_of_leaf rfl, rfl⟩

mutual

theorem sound_itemOf (piece : Nested Bracket Leaf)
    (plain : ∀ written, .leaf (.text written) ∈ piece.tokens → Unmarked written.toList) :
    (itemOf piece).Sound := by
  cases piece with
  | leaf content =>
    rw [itemOf]
    apply sound_ofLeaf
    rintro written rfl
    apply plain
    simp [Nested.tokens]
  | group bracket body =>
    rw [itemOf]
    have inner := sound_itemsOf body fun written member =>
      plain written (by simp [Nested.tokens, member])
    cases bracket with
    | template => exact inline_construct .template inner
    | argument => exact inline_construct .argument inner
    | link => exact inline_construct .link inner

theorem sound_itemsOf (pieces : List (Nested Bracket Leaf))
    (plain : ∀ written, .leaf (.text written) ∈ tokensOf pieces → Unmarked written.toList) :
    ∀ item ∈ itemsOf pieces, item.Sound := by
  cases pieces with
  | nil => simp [itemsOf]
  | cons piece rest =>
    have here := sound_itemOf piece fun written member =>
      plain written (by rw [tokensOf]; exact List.mem_append_left _ member)
    have later := sound_itemsOf rest fun written member =>
      plain written (by rw [tokensOf]; exact List.mem_append_right _ member)
    intro item member
    rw [itemsOf] at member
    rcases List.mem_cons.mp member with rfl | inside
    · exact here
    · exact later item inside

end

theorem tidy_heading {line : List Node} {heading : Heading} (merged : Merged line)
    (drawn : ∀ node ∈ line, node.Drawn Node.Inline fun c => c ≠ '\n')
    (found : headingOf line = some heading) :
    1 ≤ heading.level ∧ heading.level ≤ 6 ∧ heading.node.Tidy := by
  obtain ⟨body, first, last, peeled, _, _, level, some, title, trailing⟩ :=
    headingOf_eq_some found
  have low : 1 ≤ heading.level := by omega
  have high : heading.level ≤ 6 := by
    rw [level]
    unfold headingLevel
    simp only
    omega
  refine ⟨low, high, Node.tidy_of_lists ?_⟩
  have titleNormal : NormalBelow .title heading.title := by
    rw [title]
    have bodyDrawn : ∀ node ∈ body, node.Drawn Node.Inline fun c => c ≠ '\n' := by
      intro node member
      rw [peeled, List.mem_reverse] at member
      apply drawn_peel _ [] node member
      intro other inside
      exact drawn other (List.mem_reverse.mp inside)
    apply normalBelow_mergeText (drawn_dropFront (drawn_dropBack bodyDrawn _) _)
    · intro c bar other
      exact other (List.mem_singleton.mp bar)
    · decide
  have trailingNormal : NormalBelow .trailing heading.trailing := by
    have whole : Merged (line.reverse.reverse ++ []) := by
      rwa [List.reverse_reverse, List.append_nil]
    obtain ⟨still, filler⟩ := peel_trailing whole fun _ member => absurd member List.not_mem_nil
    rw [trailing]
    exact normalBelow_trailing still filler
  intro part member
  rcases List.mem_pair.mp member with rfl | rfl
  · exact titleNormal
  · exact trailingNormal

structure Node.Listed (node : Node) : Prop where
  tidy : node.Tidy
  level : ∀ level title trailing, node = .header level title trailing → 1 ≤ level ∧ level ≤ 6

theorem Node.Inline.listed {node : Node} (inline : node.Inline) : node.Listed where
  tidy := inline.tidy
  level := by
    rintro level title trailing rfl
    exact absurd inline.plain.symm Bool.false_ne_true

theorem Node.Drawn.listed {node : Node} {letters : Char → Prop}
    (drawn : node.Drawn Node.Listed letters) : node.Listed := by
  cases node with
  | text written => exact (⟨tidy_of_leaf rfl, rfl⟩ : Node.Inline (.text written)).listed
  | _ => exact drawn

theorem lineNodes_listed {line : List Node} (merged : Merged line)
    (drawn : ∀ node ∈ line, node.Drawn Node.Inline fun c => c ≠ '\n') :
    (lineNodes line).IsChain Node.Parted ∧ ∀ node ∈ lineNodes line, node.Listed := by
  unfold lineNodes
  split
  · rename_i heading found
    obtain ⟨low, high, tidy⟩ := tidy_heading merged drawn found
    refine ⟨.singleton _, ?_⟩
    intro node member
    rw [List.mem_singleton.mp member]
    refine ⟨tidy, ?_⟩
    intro level title trailing same
    cases same
    exact ⟨low, high⟩
  · refine ⟨parted_of_no_header fun node member => (drawn node member).inline.plain, ?_⟩
    intro node member
    exact (drawn node member).inline.listed

theorem normalBelow_withHeadings {nodes : List Node} (inline : ∀ node ∈ nodes, node.Inline) :
    NormalBelow .page (withHeadings nodes) := by
  have drawn : ∀ node ∈ nodes, node.Drawn Node.Inline fun _ => True := fun node member =>
    Node.drawn_of_all (inline node member) fun _ => trivial
  have blocks : ∀ block ∈ (linesOf nodes).map fun line => lineNodes (mergeText line),
      block.IsChain Node.Parted ∧ ∀ node ∈ block, node.Listed := by
    intro block member
    obtain ⟨line, found, rfl⟩ := List.mem_map.mp member
    apply lineNodes_listed (merged_mergeText line)
    apply drawn_mergeText
    intro node inside
    exact (drawn_linesOf drawn line found node inside).imp id fun _ both => both.2
  have listed : ∀ node ∈ withHeadings nodes, node.Drawn Node.Listed fun _ => True := by
    apply drawn_mergeText
    intro node member
    rcases mem_intercalate member with rfl | ⟨block, found, inside⟩
    · exact fun _ _ => trivial
    · exact Node.drawn_of_all ((blocks block found).2 node inside) fun _ => trivial
  refine ⟨⟨merged_mergeText _, ?headers, ?parted, ?texts, ?filler⟩, ?below⟩
  case headers =>
    intro level title trailing member
    exact ⟨rfl, (listed _ member).listed.level level title trailing rfl⟩
  case parted =>
    exact parted_mergeText (parted_intercalate fun block found => (blocks block found).1)
  case texts =>
    intro written _ c bar
    contradiction
  case filler =>
    intro same
    cases same
  case below =>
    intro node member
    exact (listed node member).listed.tidy

/-- The page is in normal form, and so is every list in it, at every depth. -/
theorem normal_parse (tags : TagSet) (source : String) :
    Normal .page (parse tags source) ∧
      ∀ node ∈ walk (parse tags source), ∀ part ∈ node.lists, Normal part.1 part.2 := by
  have sound : ∀ item ∈ itemsOf (outline tags source), item.Sound :=
    sound_itemsOf _ fun written member => unmarked_of_mem_tokens member
  have drawn : ∀ node ∈ nodesOf (itemsOf (outline tags source)),
      node.Drawn Node.Inline fun _ => True :=
    drawn_mergeText
      (drawn_items sound (fun _ _ => trivial) (fun _ _ _ => trivial) fun _ _ _ => trivial)
  obtain ⟨page, below⟩ := normalBelow_withHeadings fun node member => (drawn node member).inline
  rw [parse_eq]
  refine ⟨page, ?_⟩
  intro node member
  rw [walk_eq_flatMap] at member
  obtain ⟨outer, found, inside⟩ := List.mem_flatMap.mp member
  exact below outer found node inside

theorem normal_parse_parameterName :
    ∃ node ∈ walk (parse .standard "==a==\n{{b|c=[[d]]=}}"), ∃ part ∈ node.lists,
      part.1 = .parameterName ∧ Normal part.1 part.2 := by
  have found : ((walk (parse .standard "==a==\n{{b|c=[[d]]=}}")).any fun node =>
      node.lists.any fun part => part.1 == .parameterName) = true := by
    rw [parse_eq]
    decide +kernel
  obtain ⟨node, member, inside⟩ := List.any_eq_true.mp found
  obtain ⟨part, listed, place⟩ := List.any_eq_true.mp inside
  exact ⟨node, member, part, listed, eq_of_beq place, (normal_parse _ _).2 node member part listed⟩

end Wikitext.Markup
