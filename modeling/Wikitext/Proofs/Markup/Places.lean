import Wikitext.Proofs.Markup.Tiling

/-!
Leaves in their places. A leaf that is not a text stands among the tokens of a page where it stands
among the lexemes, with the same text in front of it and behind it, and its span starts where the
text in front of it ends.
-/
namespace Wikitext.Markup

def textOfLexemes (lexemes : List Lexeme) : List Char :=
  lexemes.flatMap fun lexeme => lexeme.source.toList

structure Keeps (lexeme : Lexeme) (part : List Token) : Prop where
  text : textOf part = lexeme.source.toList
  leaf : ∀ content, (∀ written, content ≠ .text written) →
    .leaf content ∈ part ∨ lexeme = .leaf content → part = [.leaf content] ∧ lexeme = .leaf content

theorem keeps_of_splits {dead : List Nat} {start : Nat} {lexeme : Lexeme} {part : List Token}
    (links : OnLinks dead start part) (splits : Splits lexeme part) :
    Keeps lexeme (settle dead start part) where
  text := by rw [textOf_settle, textOf_splits splits]
  leaf := by
    intro content notText found
    have same : lexeme = .leaf content := by
      rcases found with member | same
      · exact leaf_of_splits splits (leaf_of_settle member notText) notText
      · exact same
    subst same
    cases splits with
    | atom other =>
      refine ⟨settle_of_no_link links ?_, rfl⟩
      simp [Atom.token, Token.IsLink]

theorem tokens_keep (tags : TagSet) (source : String) :
    Expansion Keeps (scan tags source.toList) (tokens tags source) := by
  obtain ⟨word, whole, expansion⟩ := tokens_settle tags source
  rw [whole]
  exact expansion_settle (fun _ _ _ here splits => keeps_of_splits here splits)
    (onLinks_unpaired word) expansion

theorem textOf_keeps {lexemes : List Lexeme} {word : List Token}
    (expansion : Expansion Keeps lexemes word) : textOf word = textOfLexemes lexemes :=
  expansion.flatMap_eq fun _ _ keeps => keeps.text

section
variable {tags : TagSet} {source : String} {content : Leaf}
  (notText : ∀ written, content ≠ .text written)
include notText

theorem exists_tokens_around {before after : List Lexeme}
    (scanned : scan tags source.toList = before ++ .leaf content :: after) :
    ∃ first last, tokens tags source = first ++ .leaf content :: last ∧
      textOf first = textOfLexemes before ∧ textOf last = textOfLexemes after := by
  have expansion := tokens_keep tags source
  rw [scanned] at expansion
  obtain ⟨first, second, whole, left, right⟩ := expansion.exists_of_append
  cases right with
  | @cons _ part _ last keeps rest =>
    obtain ⟨rfl, -⟩ := keeps.leaf content notText (.inr rfl)
    exact ⟨first, last, whole, textOf_keeps left, textOf_keeps rest⟩

theorem exists_lexemes_around {first last : List Token}
    (whole : tokens tags source = first ++ .leaf content :: last) :
    ∃ before after, scan tags source.toList = before ++ .leaf content :: after ∧
      textOf first = textOfLexemes before ∧ textOf last = textOfLexemes after := by
  have expansion := tokens_keep tags source
  rw [whole] at expansion
  obtain ⟨before, lexeme, after, start, front, back, rest, scanned, keeps, left, right, rfl, rfl⟩ :=
    expansion.exists_around
  obtain ⟨alone, rfl⟩ := keeps.leaf content notText (.inl (by simp))
  cases front with
  | cons token front => simp at alone
  | nil =>
    obtain ⟨-, rfl⟩ := List.cons.inj alone
    exact ⟨before, after, scanned, by rw [List.append_nil, textOf_keeps left], textOf_keeps right⟩

end

theorem bytes_append (first second : List Token) :
    bytes (first ++ second) = bytes first + bytes second := by
  unfold bytes
  rw [textOf_append, String.ofList_append, String.utf8ByteSize_append]

theorem mem_place {start : Nat} {word : List Token} {placed : Token × Span}
    (member : placed ∈ place start word) :
    start ≤ placed.2.start ∧ placed.2.stop ≤ start + bytes word := by
  induction word generalizing start with
  | nil => contradiction
  | cons token rest ih =>
    rw [place] at member
    rw [bytes_cons]
    rcases List.mem_cons.mp member with rfl | later
    · simp only
      omega
    · have bounds := ih later
      omega

theorem place_eq_append {start : Nat} {word : List Token} {first last : List (Token × Span)}
    {token : Token} {span : Span} (whole : place start word = first ++ (token, span) :: last) :
    word = first.map Prod.fst ++ token :: last.map Prod.fst ∧
      span.stop = start + bytes (first.map Prod.fst) + token.source.utf8ByteSize := by
  induction first generalizing start word with
  | nil =>
    cases word with
    | nil => cases whole
    | cons other rest =>
      obtain ⟨here, later⟩ := List.cons.inj whole
      cases here
      rw [← later, List.map_nil, map_fst_place]
      simp [bytes, textOf]
  | cons placed first ih =>
    cases word with
    | nil => cases whole
    | cons other rest =>
      obtain ⟨here, later⟩ := List.cons.inj whole
      obtain ⟨same, place⟩ := ih later
      subst here
      refine ⟨by rw [same]; rfl, ?_⟩
      rw [place, List.map_cons, bytes_cons]
      simp only
      omega

end Wikitext.Markup
