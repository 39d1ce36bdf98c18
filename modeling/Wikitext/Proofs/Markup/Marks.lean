import Mathlib.Data.List.TakeWhile
import Wikitext.Proofs.Markup.Tokens

/-!
The marks that separate the parts of a construct. A pipe or an equals sign is a token of its own
wherever it may separate parts, so no text among the tokens of a page has one: neither what a tag
leaves that is none, nor braces and brackets without a partner.
-/
namespace Wikitext.Markup

/-- A link bracket, the only token that may stay without a partner. -/
def Token.IsLink (token : Token) : Prop := token = .opens .link ∨ token = .closes .link

theorem leave_finish {unpaired : List Nat} {scopes : List Scope} {index : Nat}
    (member : index ∈ (LinkScan.leave unpaired scopes).finish) :
    index ∈ scopes.filterMap Scope.link? ∨ index ∈ unpaired := by
  fun_induction LinkScan.leave unpaired scopes with
  | case1 unpaired => exact .inr (by simpa [LinkScan.finish] using member)
  | case2 unpaired outer => exact List.mem_append.mp member
  | case3 unpaired link outer ih =>
    rcases ih member with inside | other
    · exact .inl (List.mem_cons_of_mem link inside)
    · rcases List.mem_cons.mp other with same | before
      · exact .inl (same ▸ List.mem_cons_self)
      · exact .inr before

theorem step_finish {scan : LinkScan} {indexed : Token × Nat} {index : Nat}
    (member : index ∈ (scan.step indexed).finish) :
    index ∈ scan.finish ∨ indexed.1.IsLink ∧ index = indexed.2 := by
  unfold LinkScan.step at member
  split at member
  · rename_i link
    rcases List.mem_cons.mp member with here | before
    · exact .inr ⟨.inl link, here⟩
    · exact .inl before
  · exact .inl member
  · rename_i link
    split at member
    · rename_i place outer scopes
      refine .inl ?_
      rw [LinkScan.finish, scopes]
      exact List.mem_cons_of_mem place member
    · rcases List.mem_append.mp member with waiting | lost
      · exact .inl (List.mem_append_left _ waiting)
      · rcases List.mem_cons.mp lost with here | before
        · exact .inr ⟨.inr link, here⟩
        · exact .inl (List.mem_append_right _ before)
  · exact .inl (List.mem_append.mpr (leave_finish member))
  · exact .inl member

theorem isLink_of_unpaired {word : List Token} {index : Nat} (member : index ∈ unpairedLinks word) :
    ∃ token, (token, index) ∈ word.zipIdx ∧ token.IsLink := by
  have run : ∀ (indexed : List (Token × Nat)) (scan : LinkScan),
      index ∈ (indexed.foldl LinkScan.step scan).finish →
        index ∈ scan.finish ∨ ∃ token, (token, index) ∈ indexed ∧ token.IsLink := by
    intro indexed
    induction indexed with
    | nil =>
      intro scan inside
      exact .inl inside
    | cons first rest ih =>
      intro scan inside
      rcases ih (scan.step first) inside with before | ⟨token, later, link⟩
      · rcases step_finish before with earlier | ⟨link, same⟩
        · exact .inl earlier
        · exact .inr ⟨first.1, same ▸ List.mem_cons_self, link⟩
      · exact .inr ⟨token, List.mem_cons_of_mem first later, link⟩
  rcases run word.zipIdx .empty member with before | found
  · simp [LinkScan.empty, LinkScan.finish] at before
  · exact found

theorem isLink_of_placed {word : List Token} {token : Token} {index : Nat}
    (placed : (token, index) ∈ word.zipIdx) (lost : index ∈ unpairedLinks word) : token.IsLink := by
  obtain ⟨other, there, link⟩ := isLink_of_unpaired lost
  have first := List.mem_zipIdx_iff_getElem?.mp placed
  have second := List.mem_zipIdx_iff_getElem?.mp there
  have alike : other = token := Option.some.inj (second.symm.trans first)
  exact alike ▸ link

theorem text_of_settle {dead : List Nat} {start : Nat} {word : List Token} {written : String}
    (member : .leaf (.text written) ∈ settle dead start word) :
    .leaf (.text written) ∈ word ∨
      ∃ token index, (token, index) ∈ word.zipIdx start ∧ index ∈ dead ∧
        written = token.source := by
  induction word generalizing start with
  | nil => contradiction
  | cons token rest ih =>
    rw [settle] at member
    rw [List.zipIdx_cons]
    rcases List.mem_cons.mp member with here | later
    · split at here
      · rename_i lost
        have same : written = token.source := by
          cases here
          rfl
        exact .inr ⟨token, start, List.mem_cons_self, lost, same⟩
      · exact .inl (here ▸ List.mem_cons_self)
    · rcases ih later with before | ⟨other, index, placed, lost, same⟩
      · exact .inl (List.mem_cons_of_mem token before)
      · exact .inr ⟨other, index, List.mem_cons_of_mem _ placed, lost, same⟩

def Unmarked (cs : List Char) : Prop := ∀ c ∈ cs, c ≠ '|' ∧ c ≠ '='

theorem unmarked_cons {c : Char} {cs : List Char} (here : c ≠ '|' ∧ c ≠ '=') (rest : Unmarked cs) :
    Unmarked (c :: cs) := by
  intro other member
  rcases List.mem_cons.mp member with rfl | later
  · exact here
  · exact rest other later

theorem unmarked_run {c : Char} (count : Nat) (plain : c ≠ '|' ∧ c ≠ '=') :
    Unmarked (run c count).toList := by
  intro other member
  rw [run_toList] at member
  rw [List.eq_of_mem_replicate member]
  exact plain

theorem unmarked_takeWhile {test : Char → Bool} (pipe : test '|' = false)
    (equals : test '=' = false) (cs : List Char) : Unmarked (cs.takeWhile test) := by
  intro c member
  have passes := List.mem_takeWhile_imp member
  constructor
  · rintro rfl
    exact absurd (pipe.symm.trans passes) (by decide)
  · rintro rfl
    exact absurd (equals.symm.trans passes) (by decide)

theorem unmarked_cutHead {cs rest : List Char} {head : TagHead}
    (cut : cutHead cs = some (head, rest)) : Unmarked head.chars := by
  have name : ∀ name : List Char, Unmarked (name.takeWhile Char.isAlphanum) :=
    unmarked_takeWhile (by decide) (by decide)
  rw [cutHead.eq_def] at cut
  split at cut
  · contradiction
  · split at cut
    · split at cut
      · contradiction
      · split at cut
        · cases cut
          exact unmarked_cons (by decide) (unmarked_cons (by decide) (name _))
        · contradiction
    · split at cut
      · cases cut
        exact unmarked_cons (by decide) (name _)
      · contradiction

theorem unmarked_readTag {tags : TagSet} {head : TagHead} {rest : List Char} {written : String}
    (plain : Unmarked head.chars) (text : (readTag tags head rest).1 = .text written) :
    Unmarked written.toList := by
  have front : Leaf.text (String.ofList head.chars) = .text written → Unmarked written.toList := by
    intro same
    rw [← Leaf.text.inj same, String.toList_ofList]
    exact plain
  unfold readTag at text
  simp only at text
  split at text
  · exact front text
  · split at text
    · contradiction
    · split at text
      · exact front text
      · split at text
        · contradiction
        · split at text
          · exact front text
          · contradiction

theorem unmarked_readAngle {tags : TagSet} {cs : List Char} {written : String}
    (text : (readAngle tags cs).1 = .text written) : Unmarked written.toList := by
  rw [readAngle.eq_def] at text
  split at text
  · rw [readComment] at text
    split at text <;> contradiction
  · split at text
    · rename_i cut
      exact unmarked_readTag (unmarked_cutHead cut) text
    · cases text
      exact unmarked_cons (by decide) (by simp [Unmarked])

theorem unmarked_next {tags : TagSet} {c : Char} {cs : List Char} {written : String}
    (text : (Lexeme.next tags c cs).1 = .leaf (.text written)) : Unmarked written.toList := by
  have inner : ∀ {content : Leaf}, Lexeme.leaf content = .leaf (.text written) →
      content = .text written := by
    intro content same
    cases same
    rfl
  have single : ∀ d : Char, d ≠ '|' ∧ d ≠ '=' → Lexeme.text [d] = .leaf (.text written) →
      Unmarked written.toList := by
    intro d plain same
    rw [← Leaf.text.inj (inner same), String.toList_ofList]
    exact unmarked_cons plain (by simp [Unmarked])
  rw [Lexeme.next.eq_def] at text
  simp only at text
  split at text
  · cases text
  split at text
  · cases text
  split at text
  · cases text
  rename_i equals
  split at text
  · cases text
  rename_i pipe
  split at text
  · cases text
  split at text
  · split at text
    · cases text
    · exact single _ (by decide) text
  split at text
  · split at text
    · cases text
    · exact single _ (by decide) text
  split at text
  · exact unmarked_readAngle (inner text)
  · rw [← Leaf.text.inj (inner text), String.toList_ofList]
    exact unmarked_cons ⟨pipe, equals⟩ (unmarked_takeWhile (by decide) (by decide) cs)

theorem unmarked_of_splits {lexeme : Lexeme} {part : List Token} {written : String}
    (splits : Splits lexeme part) (member : .leaf (.text written) ∈ part) :
    lexeme = .leaf (.text written) ∨ Unmarked written.toList := by
  rcases mem_splits splits member with
    ⟨c, count, brace, _, text⟩ | ⟨brace, delimiter⟩ | ⟨content, rfl, same⟩
  · cases text
    refine .inr (unmarked_run count ?_)
    rcases brace with rfl | rfl <;> decide
  · rcases delimiter with opening | closing
    · cases opening
    · cases closing
  · cases content with
    | openLink => cases same
    | closeLink => cases same
    | leaf other =>
      cases same
      exact .inl rfl

theorem unmarked_of_isLink {token : Token} (link : token.IsLink) :
    Unmarked token.source.toList := by
  intro c member
  rcases link with rfl | rfl
  · have same : c = '[' := by simpa [Token.source, Bracket.opening] using member
    rw [same]
    decide
  · have same : c = ']' := by simpa [Token.source, Bracket.closing] using member
    rw [same]
    decide

/-- A mark stands in a text only where it is one of a tag, a comment or a marker, none of which is
a text. -/
theorem unmarked_of_mem_tokens {tags : TagSet} {source written : String}
    (member : .leaf (.text written) ∈ tokens tags source) : Unmarked written.toList := by
  obtain ⟨word, whole, expansion⟩ := tokens_settle tags source
  rw [whole] at member
  rcases text_of_settle member with kept | ⟨token, index, placed, lost, same⟩
  · obtain ⟨lexeme, found, part, splits, inside⟩ := expansion.exists_of_mem kept
    rcases unmarked_of_splits splits inside with same | plain
    · obtain ⟨c, rest, next⟩ := mem_scan found
      exact unmarked_next (next.symm.trans same)
    · exact plain
  · rw [same]
    exact unmarked_of_isLink (isLink_of_placed placed lost)

end Wikitext.Markup
