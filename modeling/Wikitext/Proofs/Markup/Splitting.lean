import Wikitext.Markup.Braces
import Wikitext.Proofs.Expansion

/-!
What becomes of each lexeme when braces are paired. A run is split into delimiters and braces left
over, all else stays as it is, and the tokens stand one behind the other from the start of the
text to its end.
-/
namespace Wikitext.Markup

def widths (delimiters : List Brace) : Nat :=
  delimiters.foldr (fun brace total => brace.width + total) 0

theorem widths_cons (brace : Brace) (delimiters : List Brace) :
    widths (brace :: delimiters) = brace.width + widths delimiters := rfl

theorem widths_concat (delimiters : List Brace) (brace : Brace) :
    widths (delimiters ++ [brace]) = widths delimiters + brace.width := by
  induction delimiters with
  | nil => simp [widths]
  | cons first rest ih =>
    rw [List.cons_append, widths_cons, widths_cons, ih]
    omega

def leftoverTokens (c : Char) (count : Nat) : List Token :=
  if count = 0 then [] else [.leaf (.text (run c count))]

/-- The braces left over stand in front of the delimiters of an opening run and behind those of a
closing run. -/
inductive Splits : Lexeme → List Token → Prop where
  | opening (rest : Nat) (opened : List Brace) :
      Splits (.openBraces (rest + widths opened))
        (leftoverTokens '{' rest ++ opened.map Brace.opens)
  | closing (closed : List Brace) (rest : Nat) :
      Splits (.closeBraces (widths closed + rest))
        (closed.map Brace.closes ++ leftoverTokens '}' rest)
  | atom (content : Atom) : Splits (.atom content) [content.token]

theorem mem_splits {lexeme : Lexeme} {part : List Token} {token : Token}
    (splits : Splits lexeme part) (member : token ∈ part) :
    (∃ c count, (c = '{' ∨ c = '}') ∧ count ≠ 0 ∧ token = .leaf (.text (run c count))) ∨
      (∃ brace : Brace, token = brace.opens ∨ token = brace.closes) ∨
      ∃ content, lexeme = .atom content ∧ token = content.token := by
  have leftover : ∀ c count, token ∈ leftoverTokens c count →
      count ≠ 0 ∧ token = .leaf (.text (run c count)) := by
    intro c count inside
    unfold leftoverTokens at inside
    split at inside
    · contradiction
    · rename_i positive
      exact ⟨positive, List.mem_singleton.mp inside⟩
  cases splits with
  | opening rest opened =>
    rcases List.mem_append.mp member with front | later
    · exact .inl ⟨_, rest, .inl rfl, leftover _ rest front⟩
    · obtain ⟨brace, _, same⟩ := List.mem_map.mp later
      exact .inr (.inl ⟨brace, .inl same.symm⟩)
  | closing closed rest =>
    rcases List.mem_append.mp member with front | later
    · obtain ⟨brace, _, same⟩ := List.mem_map.mp front
      exact .inr (.inl ⟨brace, .inr same.symm⟩)
    · exact .inl ⟨_, rest, .inr rfl, leftover _ rest later⟩
  | atom content => exact .inr (.inr ⟨content, rfl, List.mem_singleton.mp member⟩)

def textOf (word : List Token) : List Char := word.flatMap fun token => token.source.toList

theorem textOf_append (first second : List Token) :
    textOf (first ++ second) = textOf first ++ textOf second := List.flatMap_append

theorem run_toList (c : Char) (count : Nat) : (run c count).toList = List.replicate count c := by
  simp [run]

theorem run_succ (c : Char) (count : Nat) : run c (count + 1) = run c 1 ++ run c count := by
  apply String.ext
  simp [run_toList, List.replicate_succ]

theorem textOf_leftover (c : Char) (count : Nat) :
    textOf (leftoverTokens c count) = List.replicate count c := by
  unfold leftoverTokens
  split
  · rename_i none
    rw [none]
    rfl
  · simp [textOf, Token.source, Leaf.source, run_toList]

theorem textOf_delimiters {token : Brace → Token} {c : Char}
    (written : ∀ brace, (token brace).source.toList = List.replicate brace.width c)
    (delimiters : List Brace) :
    textOf (delimiters.map token) = List.replicate (widths delimiters) c := by
  induction delimiters with
  | nil => rfl
  | cons brace delimiters ih =>
    unfold textOf at ih ⊢
    rw [List.map_cons, List.flatMap_cons, written, ih, widths_cons,
      List.replicate_append_replicate]

theorem opens_toList (brace : Brace) :
    brace.opens.source.toList = List.replicate brace.width '{' := by
  cases brace <;> rfl

theorem closes_toList (brace : Brace) :
    brace.closes.source.toList = List.replicate brace.width '}' := by
  cases brace <;> rfl

theorem atom_token_source (content : Atom) : content.token.source = content.source := by
  cases content <;> rfl

theorem textOf_splits {lexeme : Lexeme} {part : List Token} (splits : Splits lexeme part) :
    textOf part = lexeme.source.toList := by
  cases splits with
  | opening rest opened =>
    rw [textOf_append, textOf_leftover, textOf_delimiters opens_toList]
    simp [Lexeme.source, run_toList]
  | closing closed rest =>
    rw [textOf_append, textOf_leftover, textOf_delimiters closes_toList]
    simp [Lexeme.source, run_toList]
  | atom content =>
    unfold textOf
    rw [List.flatMap_singleton, atom_token_source]
    rfl

def bytes (word : List Token) : Nat := (String.ofList (textOf word)).utf8ByteSize

theorem bytes_cons (token : Token) (rest : List Token) :
    bytes (token :: rest) = token.source.utf8ByteSize + bytes rest := by
  have whole : textOf (token :: rest) = token.source.toList ++ textOf rest := List.flatMap_cons
  unfold bytes
  rw [whole, String.ofList_append, String.utf8ByteSize_append, String.ofList_toList]

theorem bytes_splits {lexeme : Lexeme} {part : List Token} (splits : Splits lexeme part) :
    bytes part = lexeme.source.utf8ByteSize := by
  unfold bytes
  rw [textOf_splits splits, String.ofList_toList]

theorem place_append (start : Nat) (first second : List Token) :
    place start (first ++ second) = place start first ++ place (start + bytes first) second := by
  induction first generalizing start with
  | nil => rfl
  | cons token rest ih => rw [List.cons_append, place, place, ih, bytes_cons, Nat.add_assoc]; rfl

theorem map_fst_place (start : Nat) (word : List Token) :
    (place start word).map Prod.fst = word := by
  induction word generalizing start with
  | nil => rfl
  | cons token word ih =>
    rw [place, List.map_cons, ih]

theorem bytes_replicate {c : Char} (ascii : c.utf8Size = 1) (count : Nat) :
    (String.ofList (List.replicate count c)).utf8ByteSize = count := by
  induction count with
  | zero => rfl
  | succ count ih =>
    have whole : List.replicate (count + 1) c = List.replicate count c ++ [c] :=
      List.replicate_succ'
    have one : (String.ofList [c]).utf8ByteSize = c.utf8Size := String.utf8ByteSize_singleton
    rw [whole, String.ofList_append, String.utf8ByteSize_append, ih, one, ascii]

theorem bytes_delimiters {token : Brace → Token} {c : Char} (ascii : c.utf8Size = 1)
    (written : ∀ brace, (token brace).source.toList = List.replicate brace.width c)
    (delimiters : List Brace) : bytes (delimiters.map token) = widths delimiters := by
  unfold bytes
  rw [textOf_delimiters written, bytes_replicate ascii]

theorem placeLeftover_eq {c : Char} (ascii : c.utf8Size = 1) (start count : Nat) :
    placeLeftover c start count = place start (leftoverTokens c count) := by
  unfold placeLeftover leftoverTokens
  split
  · rfl
  · have size : (run c count).utf8ByteSize = count := bytes_replicate ascii count
    simp [place, Token.source, Leaf.source, size]

theorem placeOpenings_eq (start : Nat) (delimiters : List Brace) :
    placeOpenings start delimiters = place start (delimiters.map Brace.opens) := by
  induction delimiters generalizing start with
  | nil => rfl
  | cons brace rest ih =>
    have size : brace.opens.source.utf8ByteSize = brace.width := by cases brace <;> rfl
    rw [placeOpenings, List.map_cons, place, size, ih]

theorem openRun_tokens_eq (opened : OpenRun) :
    opened.tokens = place opened.start
      (leftoverTokens '{' opened.remaining ++ opened.delimiters.map Brace.opens) := by
  have size : bytes (leftoverTokens '{' opened.remaining) = opened.remaining := by
    unfold bytes
    rw [textOf_leftover, bytes_replicate rfl]
  rw [place_append, size, ← placeOpenings_eq, ← placeLeftover_eq rfl]
  rfl

end Wikitext.Markup
