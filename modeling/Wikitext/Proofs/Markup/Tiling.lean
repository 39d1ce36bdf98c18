import Wikitext.Proofs.Markup.Marks

/-!
Where the tokens of a text stand. They follow each other without a gap from its start to its end,
each on the stretch of the text that it renders to. A run of braces keeps those that find no
partner at its outer end: in front of what it opens, behind what it closes.
-/
namespace Wikitext.Markup

/-- Tokens on stretches of a text, none of them empty, from one of its positions to its end. A
position is a place between characters, so no stretch ends inside of one. -/
inductive Tiling (source : String) : source.Pos → List (Token × Span) → Prop where
  | nil : Tiling source source.endPos []
  | cons {start stop : source.Pos} {token : Token} {rest : List (Token × Span)}
      (longer : start < stop) (slice : source.extract start stop = token.source)
      (tail : Tiling source stop rest) :
      Tiling source start ((token, ⟨start.offset.byteIdx, stop.offset.byteIdx⟩) :: rest)

theorem extract_of_splits {source before middle after : String} {start stop : source.Pos}
    (front : start.Splits before (middle ++ after)) (back : stop.Splits (before ++ middle) after) :
    source.extract start stop = middle := by
  obtain ⟨order, slice⟩ := String.copy_slice_eq_iff_splits.mpr ⟨before, after, front, back⟩
  rw [String.extract_eq_copy_slice start stop order, slice]

theorem tiling_place {source before : String} {word : List Token} {start : source.Pos}
    (written : start.Splits before (String.ofList (textOf word)))
    (some : ∀ token ∈ word, token.source ≠ "") :
    Tiling source start (place before.utf8ByteSize word) := by
  induction word generalizing before start with
  | nil =>
    have last : start = source.endPos := written.eq_endPos_iff.mpr rfl
    rw [last]
    exact .nil
  | cons token rest ih =>
    have parts : String.ofList (textOf (token :: rest)) =
        token.source ++ String.ofList (textOf rest) := by
      simp [textOf, String.ofList_append]
    rw [parts] at written
    have whole : source = before ++ token.source ++ String.ofList (textOf rest) := by
      rw [String.append_assoc]
      exact written.eq_append
    have behind := String.Pos.splits_ofEqAppend whole
    generalize String.Pos.ofEqAppend whole = stop at behind
    have longer : start < stop :=
      (written.lt_iff_exists_eq_append behind).mpr
        ⟨token.source, some token List.mem_cons_self, rfl, rfl⟩
    have tail : Tiling source stop (place (before ++ token.source).utf8ByteSize rest) :=
      ih behind fun other later => some other (List.mem_cons_of_mem token later)
    have first : start.offset.byteIdx = before.utf8ByteSize := by
      rw [written.offset_eq_rawEndPos, String.byteIdx_rawEndPos]
    have next : stop.offset.byteIdx = before.utf8ByteSize + token.source.utf8ByteSize := by
      rw [behind.offset_eq_rawEndPos, String.byteIdx_rawEndPos, String.utf8ByteSize_append]
    have tiling := Tiling.cons longer (extract_of_splits written behind) tail
    rwa [first, next, String.utf8ByteSize_append] at tiling

theorem lexeme_source_ne {tags : TagSet} {cs : List Char} {lexeme : Lexeme}
    (member : lexeme ∈ scan tags cs) : lexeme.source ≠ "" := by
  obtain ⟨c, rest, rfl⟩ := mem_scan member
  intro empty
  have whole := next_source tags c rest
  have shorter := (next_suffix tags c rest).length_le
  rw [empty, String.toList_empty, List.nil_append] at whole
  rw [whole, List.length_cons] at shorter
  omega

theorem source_ne_of_splits {lexeme : Lexeme} {part : List Token} {token : Token}
    (splits : Splits lexeme part) (some : lexeme.source ≠ "") (member : token ∈ part) :
    token.source ≠ "" := by
  rcases mem_splits splits member with
    ⟨c, count, _, positive, rfl⟩ | ⟨brace, rfl | rfl⟩ | ⟨content, rfl, rfl⟩
  · simpa [Token.source, Leaf.source, run] using positive
  · cases brace <;> decide
  · cases brace <;> decide
  · rw [atom_token_source]
    exact some

theorem exists_of_mem_settle {dead : List Nat} {start : Nat} {word : List Token} {token : Token}
    (member : token ∈ settle dead start word) : ∃ other ∈ word, token.source = other.source := by
  induction word generalizing start with
  | nil => contradiction
  | cons first rest ih =>
    rw [settle] at member
    rcases List.mem_cons.mp member with here | later
    · refine ⟨first, List.mem_cons_self, ?_⟩
      rw [here]
      split <;> rfl
    · obtain ⟨other, found, same⟩ := ih later
      exact ⟨other, List.mem_cons_of_mem first found, same⟩

theorem source_ne_of_mem_tokens {tags : TagSet} {source : String} {token : Token}
    (member : token ∈ tokens tags source) : token.source ≠ "" := by
  obtain ⟨word, whole, expansion⟩ := tokens_settle tags source
  rw [whole] at member
  obtain ⟨other, found, same⟩ := exists_of_mem_settle member
  obtain ⟨lexeme, scanned, part, splits, inside⟩ := expansion.exists_of_mem found
  rw [same]
  exact source_ne_of_splits splits (lexeme_source_ne scanned) inside

/-- What a lexeme is among the tokens. Braces left over stand in front of the delimiters of an
opening run and behind those of a closing run; any other lexeme is one token, which may have become
a text. -/
inductive Becomes : Lexeme → List Token → Prop where
  | opening (rest : Nat) (opened : List Brace) :
      Becomes (.openBraces (rest + widths opened))
        (leftoverTokens '{' rest ++ opened.map Brace.opens)
  | closing (closed : List Brace) (rest : Nat) :
      Becomes (.closeBraces (widths closed + rest))
        (closed.map Brace.closes ++ leftoverTokens '}' rest)
  | atom {content : Atom} {token : Token}
      (kept : token = content.token ∨ token = content.token.asText) :
      Becomes (.atom content) [token]

def OnLinks (dead : List Nat) (start : Nat) (word : List Token) : Prop :=
  ∀ token index, (token, index) ∈ word.zipIdx start → index ∈ dead → token.IsLink

theorem onLinks_append {dead : List Nat} {start : Nat} {first second : List Token}
    (links : OnLinks dead start (first ++ second)) :
    OnLinks dead start first ∧ OnLinks dead (start + first.length) second := by
  unfold OnLinks at links
  rw [List.zipIdx_append] at links
  constructor
  · intro token index member
    exact links token index (List.mem_append_left _ member)
  · intro token index member
    exact links token index (List.mem_append_right _ member)

theorem onLinks_unpaired (word : List Token) : OnLinks (unpairedLinks word) 0 word := by
  intro token index member lost
  obtain ⟨other, found, link⟩ := isLink_of_unpaired lost
  have here := (List.mem_zipIdx member).2.2
  have there := (List.mem_zipIdx found).2.2
  rw [here, ← there]
  exact link

theorem settle_of_no_link {dead : List Nat} {start : Nat} {word : List Token}
    (links : OnLinks dead start word) (none : ∀ token ∈ word, ¬token.IsLink) :
    settle dead start word = word := by
  induction word generalizing start with
  | nil => rfl
  | cons token rest ih =>
    have alive : start ∉ dead := by
      intro lost
      exact none token List.mem_cons_self (links token start (by simp) lost)
    have parts : OnLinks dead start ([token] ++ rest) := links
    have later : OnLinks dead (start + 1) rest := (onLinks_append parts).2
    rw [settle_alive alive, ih later]
    intro other member
    exact none other (List.mem_cons_of_mem token member)

theorem not_isLink_of_splits {lexeme : Lexeme} {part : List Token} (splits : Splits lexeme part)
    (braces : ∀ content, lexeme ≠ .atom content) : ∀ token ∈ part, ¬token.IsLink := by
  intro token member
  rcases mem_splits splits member with
    ⟨c, count, _, _, rfl⟩ | ⟨brace, rfl | rfl⟩ | ⟨content, atom, _⟩
  · simp [Token.IsLink]
  · cases brace <;> simp [Token.IsLink, Brace.opens, Brace.bracket]
  · cases brace <;> simp [Token.IsLink, Brace.closes, Brace.bracket]
  · exact absurd atom (braces content)

theorem becomes_of_splits {dead : List Nat} {start : Nat} {lexeme : Lexeme} {part : List Token}
    (links : OnLinks dead start part) (splits : Splits lexeme part) :
    Becomes lexeme (settle dead start part) := by
  cases splits with
  | opening rest opened =>
    rw [settle_of_no_link links (not_isLink_of_splits (.opening rest opened) (by simp))]
    exact .opening rest opened
  | closing closed rest =>
    rw [settle_of_no_link links (not_isLink_of_splits (.closing closed rest) (by simp))]
    exact .closing closed rest
  | atom content =>
    by_cases lost : start ∈ dead
    · rw [settle_dead lost]
      exact .atom (.inr rfl)
    · rw [settle_alive lost]
      exact .atom (.inl rfl)

theorem expansion_settle {gives : Lexeme → List Token → Prop} {dead : List Nat}
    (each : ∀ start lexeme part, OnLinks dead start part → Splits lexeme part →
      gives lexeme (settle dead start part))
    {start : Nat} {lexemes : List Lexeme} {word : List Token} (links : OnLinks dead start word)
    (expansion : Expansion Splits lexemes word) :
    Expansion gives lexemes (settle dead start word) := by
  induction expansion generalizing start with
  | nil => exact .nil
  | cons first rest ih =>
    obtain ⟨here, later⟩ := onLinks_append links
    rw [settle_append]
    exact .cons (each _ _ _ here first) (ih later)

theorem becomes_settle {dead : List Nat} {start : Nat} {lexemes : List Lexeme} {word : List Token}
    (links : OnLinks dead start word) (expansion : Expansion Splits lexemes word) :
    Expansion Becomes lexemes (settle dead start word) :=
  expansion_settle (fun _ _ _ here splits => becomes_of_splits here splits) links expansion

/-- The tokens of a text tile it from its start to its end: the spans are not empty, the first
starts where the text does, each at the end of the one before it, the last ends with the text, and
each token renders to what the text has there. Every lexeme of the text is a stretch of them. -/
theorem lex_tiling (tags : TagSet) (source : String) :
    Tiling source source.startPos (lex tags source) ∧
      Expansion Becomes (scan tags source.toList) ((lex tags source).map Prod.fst) := by
  constructor
  · have written : source.startPos.Splits "" (String.ofList (textOf (tokens tags source))) := by
      rw [textOf_tokens, String.ofList_toList]
      exact source.splits_startPos
    rw [lex_eq_place]
    exact tiling_place written fun token member => source_ne_of_mem_tokens member
  · obtain ⟨word, whole, expansion⟩ := tokens_settle tags source
    rw [map_fst_lex, whole]
    exact becomes_settle (onLinks_unpaired word) expansion

-- a letter of two bytes, then a brace that is left over in front of a template
example : (lex .standard ("ä" ++ run '{' 1 ++ "{{b}}")).map Prod.snd =
    [⟨0, 2⟩, ⟨2, 3⟩, ⟨3, 5⟩, ⟨5, 6⟩, ⟨6, 8⟩] := by decide +kernel

end Wikitext.Markup
