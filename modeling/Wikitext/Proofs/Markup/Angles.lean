import Wikitext.Proofs.Markup.Places
import Wikitext.Proofs.Markup.Tags

/-!
What a page keeps between angle brackets. A comment ends at the first mark that can end it, or with
the page; a tag is one of the set, whole with what it encloses; a marker is a tag of its own. The
name that counts is the letters and digits behind the bracket, which need not be the whole name.
-/
namespace Wikitext.Markup
open Text

theorem cutComment_eq_none {cs : List Char} : cutComment cs = none ↔ ¬commentEnd <:+: cs := by
  fun_induction cutComment cs with
  | case1 => simp [commentEnd]
  | case2 after =>
    refine iff_of_false (by simp) (not_not_intro ?_)
    exact List.IsPrefix.isInfix ⟨after, rfl⟩
  | case3 c cs other ih =>
    have apart : ¬commentEnd <+: c :: cs := by
      rintro ⟨after, whole⟩
      obtain ⟨rfl, rfl⟩ := List.cons.inj whole
      exact other after rfl rfl
    rw [Option.map_eq_none_iff, ih, List.infix_cons_iff, not_or]
    exact (and_iff_right apart).symm

theorem cutComment_first {cs content after : List Char}
    (cut : cutComment cs = some (content, after)) : ¬commentEnd <:+: content := by
  fun_induction cutComment cs generalizing content with
  | case1 => cases cut
  | case2 =>
    cases cut
    simp [commentEnd]
  | case3 c cs other ih =>
    obtain ⟨⟨inner, tail⟩, found, same⟩ := Option.map_eq_some_iff.mp cut
    cases same
    have whole := cutComment_eq found
    rw [List.infix_cons_iff, not_or]
    refine ⟨?_, ih found⟩
    rintro ⟨more, start⟩
    obtain ⟨rfl, rfl⟩ := List.cons.inj start
    exact other _ rfl whole

theorem readComment_delimited (tags : TagSet) (cs : List Char) :
    (readComment cs).1.Delimited tags := by
  unfold readComment
  split
  · rename_i cut
    change ¬commentEnd <:+: (String.ofList _).toList
    rw [String.toList_ofList]
    exact cutComment_first cut
  · rename_i none
    change ¬commentEnd <:+: (String.ofList cs).toList
    rw [String.toList_ofList]
    exact cutComment_eq_none.mp none

theorem readAngle_delimited (tags : TagSet) (cs : List Char) :
    (readAngle tags cs).1.Delimited tags := by
  rw [readAngle.eq_def]
  split
  · exact readComment_delimited tags _
  · split
    · rename_i cut
      obtain ⟨named, apart⟩ := cutHead_named cut
      exact readTag_delimited named apart
    · trivial

theorem readTag_ne_comment (tags : TagSet) (head : TagHead) (rest : List Char) (body : Comment) :
    (readTag tags head rest).1 ≠ .comment body := by
  unfold readTag
  repeat' split
  all_goals simp

theorem readAngle_unclosed {tags : TagSet} {cs : List Char} {content : String}
    (read : (readAngle tags cs).1 = .comment ⟨content, false⟩) : (readAngle tags cs).2 = [] := by
  rw [readAngle.eq_def] at read ⊢
  split at read
  · unfold readComment at read ⊢
    split at read
    · cases read
    · rfl
  · split at read
    · exact absurd read (readTag_ne_comment _ _ _ _)
    · cases read

def Leaf.isAngled : Leaf → Bool
  | .comment _ => true
  | .tag _ => true
  | .marker _ => true
  | _ => false

theorem next_angled {tags : TagSet} {c : Char} {cs : List Char} {content : Leaf}
    (angled : content.isAngled = true) (whole : (Lexeme.next tags c cs).1 = .leaf content) :
    readAngle tags cs = (content, (Lexeme.next tags c cs).2) := by
  rw [Lexeme.next.eq_def] at whole ⊢
  simp only at whole ⊢
  split at whole
  · cases whole
  split at whole
  · cases whole
  split at whole
  · cases whole
    cases angled
  split at whole
  · cases whole
    cases angled
  split at whole
  · cases whole
    cases angled
  split at whole
  · split at whole
    · cases whole
    · cases whole
      cases angled
  split at whole
  · split at whole
    · cases whole
    · cases whole
      cases angled
  split at whole
  · rename_i angle
    cases whole
    simp [angle]
  · cases whole
    cases angled

theorem delimited_of_mem_scan {tags : TagSet} {cs : List Char} {content : Leaf}
    (member : .leaf content ∈ scan tags cs) : content.Delimited tags := by
  by_cases angled : content.isAngled = true
  · obtain ⟨c, rest, whole⟩ := mem_scan member
    have delimited := readAngle_delimited tags rest
    rwa [next_angled angled whole.symm] at delimited
  · cases content with
    | comment body => exact absurd rfl angled
    | tag element => exact absurd rfl angled
    | marker written => exact absurd rfl angled
    | _ => trivial

theorem delimited_of_mem_lex {tags : TagSet} {source : String} {content : Leaf} {span : Span}
    (member : (.leaf content, span) ∈ lex tags source) : content.Delimited tags := by
  by_cases text : ∃ written, content = .text written
  · obtain ⟨written, rfl⟩ := text
    trivial
  · have token : .leaf content ∈ tokens tags source := by
      rw [← map_fst_lex]
      exact List.mem_map_of_mem member
    exact delimited_of_mem_scan (leaf_mem_scan token fun written same => text ⟨written, same⟩)

theorem scan_unclosed {tags : TagSet} {cs : List Char} {before after : List Lexeme}
    {content : String}
    (scanned : scan tags cs = before ++ .leaf (.comment ⟨content, false⟩) :: after) :
    after = [] := by
  fun_induction scan tags cs generalizing before with
  | case1 => simp at scanned
  | case2 c cs ih =>
    cases before with
    | nil =>
      obtain ⟨here, later⟩ := List.cons.inj scanned
      have read := next_angled rfl here
      have last : (readAngle tags cs).2 = [] := readAngle_unclosed (by rw [read])
      rw [read] at last
      rw [← later, last, scan]
    | cons lexeme before => exact ih (List.cons.inj scanned).2

theorem tokens_unclosed {tags : TagSet} {source content : String} {first last : List Token}
    (word : tokens tags source = first ++ .leaf (.comment ⟨content, false⟩) :: last) :
    last = [] := by
  obtain ⟨before, after, scanned, _, behind⟩ := exists_lexemes_around (by simp) word
  rw [scan_unclosed scanned] at behind
  cases last with
  | nil => rfl
  | cons token rest =>
    have member : token ∈ tokens tags source := by
      rw [word]
      simp
    rw [textOf, List.flatMap_cons] at behind
    have empty := (List.append_eq_nil_iff.mp behind).1
    exact absurd (String.toList_eq_nil_iff.mp empty) (source_ne_of_mem_tokens member)

/-- Comments, tags and markers are whole where they stand: a comment has no end inside, and one that
is not closed is the last token and ends with the page; a tag is of the set and ends in a slash, or
at the first closing tag of its name; a marker is one tag. -/
theorem lex_delimited (tags : TagSet) (source : String) :
    (∀ content span, (.leaf content, span) ∈ lex tags source → content.Delimited tags) ∧
      ∀ content span first last,
        lex tags source = first ++ (.leaf (.comment ⟨content, false⟩), span) :: last →
          last = [] ∧ span.stop = source.utf8ByteSize := by
  refine ⟨fun content span member => delimited_of_mem_lex member, ?_⟩
  intro content span first last whole
  rw [lex_eq_place] at whole
  obtain ⟨word, stop⟩ := place_eq_append whole
  have none := tokens_unclosed word
  have size : bytes (tokens tags source) = source.utf8ByteSize := by
    rw [bytes, textOf_tokens, String.ofList_toList]
  refine ⟨List.map_eq_nil_iff.mp none, ?_⟩
  rw [stop, ← size, word, none, bytes_append, bytes_cons]
  simp [bytes, textOf]

def endsTagName (c : Char) : Bool := isBlank c || c == '/' || c == '>'

theorem endsTagName_of_isAlphanum {c : Char} (letter : c.isAlphanum = true) :
    endsTagName c = false := by
  have code : (65 ≤ c.toNat ∧ c.toNat ≤ 90 ∨ 97 ≤ c.toNat ∧ c.toNat ≤ 122) ∨
      48 ≤ c.toNat ∧ c.toNat ≤ 57 := by
    simpa [Char.isAlphanum, Char.isAlpha, Char.isUpper, Char.isLower, Char.isDigit,
      UInt32.le_iff_toNat_le] using letter
  have blank : isBlank c = false := by
    simp only [isBlank, Bool.or_eq_false_iff, Bool.and_eq_false_iff, decide_eq_false_iff_not,
      beq_eq_false_iff_ne]
    omega
  have slash : c ≠ '/' := by
    rintro rfl
    contradiction
  have bracket : c ≠ '>' := by
    rintro rfl
    contradiction
  simp [endsTagName, blank, slash, bracket]

/-- The name that a tag is written with: all that stands between its front and the first blank,
slash or end. -/
def nameWritten (markup : String) : String :=
  let body := match markup.toList with
    | '<' :: '/' :: cs => cs
    | '<' :: cs => cs
    | cs => cs
  String.ofList (body.takeWhile fun c => !endsTagName c)

namespace WrittenTag

def NameEnds (tag : WrittenTag) : Prop := ∀ c ∈ tag.attributes.head?, endsTagName c = true

def nameRest (tag : WrittenTag) : List Char := tag.attributes.takeWhile fun c => !endsTagName c

theorem nameRest_eq_nil {tag : WrittenTag} : tag.nameRest = [] ↔ tag.NameEnds := by
  unfold nameRest NameEnds
  cases tag.attributes with
  | nil => simp
  | cons c cs => simp

theorem nameWritten_source (tag : WrittenTag) :
    nameWritten tag.source = String.ofList (tag.name ++ tag.nameRest) := by
  have inside : ∀ c ∈ tag.name, (!endsTagName c) = true := by
    intro c member
    rw [endsTagName_of_isAlphanum (tag.named.letters c member)]
    rfl
  have rest : (tag.attributes ++ ['>']).takeWhile (fun c => !endsTagName c) = tag.nameRest :=
    takeWhile_stop rfl tag.attributes []
  have whole : (tag.name ++ tag.attributes ++ ['>']).takeWhile (fun c => !endsTagName c) =
      tag.name ++ tag.nameRest := by
    rw [List.append_assoc, List.takeWhile_append_of_pos inside, rest]
  obtain ⟨letter, more, name, alpha⟩ := tag.named.exists_cons
  have other : letter ≠ '/' := by
    rintro rfl
    cases alpha
  unfold nameWritten source
  rw [String.toList_ofList, ← whole]
  cases closes : tag.closing with
  | true => simp [TagHead.chars, closes]
  | false => simp [TagHead.chars, closes, name, other]

theorem toList_lowerName (tag : WrittenTag) :
    tag.lowerName.toList = tag.name.map Char.toLower := by
  rw [TagHead.lowerName, lowerAscii, String.toList_ofList, String.toList_ofList]

theorem nameWritten_eq_lowerName {tag : WrittenTag} :
    lowerAscii (nameWritten tag.source) = tag.lowerName ↔ tag.NameEnds := by
  rw [← nameRest_eq_nil, nameWritten_source]
  constructor
  · intro same
    have sizes := congrArg (fun s => s.toList.length) same
    simpa [TagHead.lowerName, lowerAscii] using sizes
  · intro none
    rw [none, List.append_nil]
    rfl

end WrittenTag

theorem transclusionMarkers_apart : ∀ name ∈ transclusionMarkers, ∀ other ∈ transclusionMarkers,
    name.toList <+: other.toList → name = other := by
  decide

theorem WrittenTag.nameWritten_marker {tag : WrittenTag}
    (marks : tag.lowerName ∈ transclusionMarkers) :
    lowerAscii (nameWritten tag.source) ∈ transclusionMarkers ↔ tag.NameEnds := by
  rw [← nameWritten_eq_lowerName]
  constructor
  · intro other
    refine (transclusionMarkers_apart _ marks _ other ?_).symm
    rw [nameWritten_source, toList_lowerName, lowerAscii, String.toList_ofList,
      String.toList_ofList, List.map_append]
    exact List.prefix_append _ _
  · intro same
    rwa [same]

/-- The name that a tag token has is of the set, and that of a marker is a marker, but it is the one
that the letters and digits behind the bracket give. The name that is written there, up to the
first blank, slash or end of the tag, is the same exactly if nothing else stands between. -/
theorem lex_tag_names (tags : TagSet) (source : String) :
    (∀ element span, (.leaf (.tag element), span) ∈ lex tags source →
      ∃ tag : WrittenTag, tag.Starts tags ∧ element.opening = tag.source ∧
        element.name = tag.lowerName ∧
        (lowerAscii (nameWritten element.opening) = element.name ∧
          tags.contains (nameWritten element.opening) = true ↔ tag.NameEnds)) ∧
    ∀ written span, (.leaf (.marker written), span) ∈ lex tags source →
      ∃ tag : WrittenTag, written = tag.source ∧ tag.lowerName ∈ transclusionMarkers ∧
        (lowerAscii (nameWritten written) ∈ transclusionMarkers ↔ tag.NameEnds) := by
  have start : ∀ tag : WrittenTag, tag.Starts tags →
      (lowerAscii (nameWritten tag.source) = tag.lowerName ∧
        tags.contains (nameWritten tag.source) = true ↔ tag.NameEnds) := by
    intro tag starts
    rw [← WrittenTag.nameWritten_eq_lowerName, and_iff_left_iff_imp]
    intro same
    rw [← tags.contains_lowerAscii, same]
    exact (tags.contains_lowerAscii _).trans starts.known
  constructor
  · intro element span member
    cases delimited_of_mem_lex member with
    | slashed tag starts slashed => exact ⟨tag, starts, rfl, rfl, start tag starts⟩
    | element element =>
      exact ⟨element.start, element.starts, rfl, rfl, start element.start element.starts⟩
  · intro written span member
    obtain ⟨tag, marks, rfl⟩ := delimited_of_mem_lex member
    exact ⟨tag, rfl, marks, WrittenTag.nameWritten_marker marks⟩

/-- A name that goes on with a hyphen is not one of the set, and yet its tag is read as an element,
or as a marker. -/
theorem lex_tag_names_hyphen :
    let source := "<ref-x>[[a|b]]</ref><noinclude-x>c"
    (∃ element span, (.leaf (.tag element), span) ∈ lex .standard source ∧
      lowerAscii (nameWritten element.opening) ≠ element.name ∧
        TagSet.standard.contains (nameWritten element.opening) = false) ∧
    ∃ written span, (.leaf (.marker written), span) ∈ lex .standard source ∧
      lowerAscii (nameWritten written) ∉ transclusionMarkers := by
  intro source
  have read : lex .standard source =
      [(.leaf (.tag ⟨"ref", "<ref-x>", some "[[a|b]]", "</ref>"⟩), ⟨0, 20⟩),
        (.leaf (.marker "<noinclude-x>"), ⟨20, 33⟩), (.leaf (.text "c"), ⟨33, 34⟩)] := by
    decide +kernel
  constructor
  · refine ⟨⟨"ref", "<ref-x>", some "[[a|b]]", "</ref>"⟩, ⟨0, 20⟩, ?_, by decide +kernel⟩
    rw [read]
    exact List.mem_cons_self
  · refine ⟨"<noinclude-x>", ⟨20, 33⟩, ?_, by decide +kernel⟩
    rw [read]
    exact List.mem_cons_of_mem _ List.mem_cons_self

end Wikitext.Markup
