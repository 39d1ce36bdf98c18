import Wikitext.Proofs.Markup.LinkPairing

/-!
What the tokens of a text are. Written one after the other they are the text, and every leaf that
is not a text is a lexeme of its own.
-/
namespace Wikitext.Markup

theorem scan_text (tags : TagSet) (cs : List Char) :
    (scan tags cs).flatMap (fun lexeme => lexeme.source.toList) = cs := by
  fun_induction scan tags cs with
  | case1 => rfl
  | case2 c cs ih => rw [List.flatMap_cons, ih, next_source]

theorem textOf_settle (dead : List Nat) (start : Nat) (word : List Token) :
    textOf (settle dead start word) = textOf word := by
  induction word generalizing start with
  | nil => rfl
  | cons token rest ih =>
    have here : (if start ∈ dead then token.asText else token).source = token.source := by
      split <;> rfl
    unfold textOf at ih ⊢
    rw [settle, List.flatMap_cons, List.flatMap_cons, ih, here]

theorem tokens_eq_settle (tags : TagSet) (source : String) :
    tokens tags source =
      settle (unpairedLinks (wordsOf (pairBraces (scan tags source.toList)))) 0
        (wordsOf (pairBraces (scan tags source.toList))) :=
  (settle_unpairedLinks _).symm

theorem tokens_settle (tags : TagSet) (source : String) :
    ∃ word, tokens tags source = settle (unpairedLinks word) 0 word ∧
      Expansion Splits (scan tags source.toList) word :=
  ⟨_, tokens_eq_settle tags source, (balanceBraces_eq_place _).2⟩

theorem textOf_tokens (tags : TagSet) (source : String) :
    textOf (tokens tags source) = source.toList := by
  obtain ⟨word, whole, expansion⟩ := tokens_settle tags source
  have same : textOf word = (scan tags source.toList).flatMap fun lexeme => lexeme.source.toList :=
    expansion.flatMap_eq fun _ _ => textOf_splits
  rw [whole, textOf_settle, same, scan_text]

theorem mem_scan {tags : TagSet} {cs : List Char} {lexeme : Lexeme}
    (member : lexeme ∈ scan tags cs) : ∃ c rest, lexeme = (Lexeme.next tags c rest).1 := by
  fun_induction scan tags cs with
  | case1 => simp at member
  | case2 c cs ih =>
    rcases List.mem_cons.mp member with here | later
    · exact ⟨c, cs, here⟩
    · exact ih later

theorem leaf_of_settle {dead : List Nat} {start : Nat} {word : List Token} {content : Leaf}
    (member : .leaf content ∈ settle dead start word)
    (notText : ∀ written, content ≠ .text written) : .leaf content ∈ word := by
  induction word generalizing start with
  | nil => contradiction
  | cons token rest ih =>
    rw [settle] at member
    rcases List.mem_cons.mp member with here | later
    · split at here
      · exact absurd (Token.leaf.inj here) (notText _)
      · rw [here]
        exact List.mem_cons_self
    · exact List.mem_cons_of_mem _ (ih later)

theorem leaf_of_splits {lexeme : Lexeme} {part : List Token} {content : Leaf}
    (splits : Splits lexeme part) (member : .leaf content ∈ part)
    (notText : ∀ written, content ≠ .text written) : lexeme = .leaf content := by
  rcases mem_splits splits member with
    ⟨c, count, _, _, text⟩ | ⟨brace, delimiter⟩ | ⟨other, rfl, same⟩
  · exact absurd (Token.leaf.inj text) (notText _)
  · rcases delimiter with opening | closing
    · cases opening
    · cases closing
  · cases other with
    | openLink => cases same
    | closeLink => cases same
    | leaf other =>
      cases same
      rfl

theorem leaf_mem_scan {tags : TagSet} {source : String} {content : Leaf}
    (member : .leaf content ∈ tokens tags source) (notText : ∀ written, content ≠ .text written) :
    .leaf content ∈ scan tags source.toList := by
  obtain ⟨word, whole, expansion⟩ := tokens_settle tags source
  rw [whole] at member
  obtain ⟨lexeme, found, part, splits, inside⟩ :=
    expansion.exists_of_mem (leaf_of_settle member notText)
  rwa [leaf_of_splits splits inside notText] at found

theorem readAngle_ne_equals (tags : TagSet) (cs : List Char) (count : Nat) :
    (readAngle tags cs).1 ≠ .equals count := by
  rw [readAngle.eq_def]
  split
  · unfold readComment
    split <;> simp
  · split
    · unfold readTag
      repeat' split
      all_goals simp
    · simp

theorem equals_counted {tags : TagSet} {source : String} {count : Nat}
    (member : .leaf (.equals count) ∈ tokens tags source) : 0 < count := by
  obtain ⟨c, rest, whole⟩ := mem_scan (leaf_mem_scan member (by simp))
  rw [Lexeme.next.eq_def] at whole
  simp only at whole
  split at whole
  · simp [Lexeme.leaf] at whole
  split at whole
  · simp [Lexeme.leaf] at whole
  split at whole
  · simp only [Lexeme.leaf, Lexeme.atom.injEq, Atom.leaf.injEq, Leaf.equals.injEq] at whole
    omega
  split at whole
  · simp [Lexeme.leaf] at whole
  split at whole
  · simp [Lexeme.leaf] at whole
  split at whole
  · split at whole <;> simp [Lexeme.text, Lexeme.leaf] at whole
  split at whole
  · split at whole <;> simp [Lexeme.text, Lexeme.leaf] at whole
  split at whole
  · simp only [Lexeme.leaf, Lexeme.atom.injEq, Atom.leaf.injEq] at whole
    exact absurd whole.symm (readAngle_ne_equals tags rest count)
  · simp [Lexeme.text, Lexeme.leaf] at whole

end Wikitext.Markup
