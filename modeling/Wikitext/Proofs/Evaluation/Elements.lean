import Wikitext.Proofs.Evaluation.Success
import Wikitext.Proofs.Markup.Places
import Wikitext.Proofs.Markup.Seam
import Wikitext.Proofs.Markup.Tags

/-!
Elements in a page. Where no angle bracket stands in front of it, an element is one token whatever
it encloses and whatever follows; as a page of its own it evaluates to the text that it encloses.
-/
namespace Wikitext
open Text Markup Evaluating

namespace Markup

theorem readAngle_of_cutHead {tags : TagSet} {cs rest : List Char} {head : TagHead}
    (cut : cutHead cs = some (head, rest)) : readAngle tags cs = readTag tags head rest := by
  rw [readAngle.eq_def]
  split
  · simp [cutHead] at cut
  · rw [cut]

namespace Element
variable {tags : TagSet}

theorem toList_source (element : Element tags) (after : List Char) :
    element.source.toList ++ after = element.start.chars ++
      (element.start.attributes ++ '>' :: (element.inner ++ (element.ending ++ after))) := by
  simp [source, WrittenTag.source]

theorem exists_cons_source (element : Element tags) (after : List Char) :
    ∃ cs, element.source.toList ++ after = '<' :: cs :=
  ⟨_, by rw [toList_source]; rfl⟩

theorem scan_append (element : Element tags) (after : List Char) :
    scan tags (element.source.toList ++ after) = .leaf (.tag element.tag) :: scan tags after := by
  have apart : ∀ c ∈ (element.start.attributes ++
      '>' :: (element.inner ++ (element.ending ++ after))).head?, c.isAlphanum = false := by
    intro c found
    cases attributes : element.start.attributes with
    | nil =>
      rw [attributes] at found
      cases found
      rfl
    | cons d ds =>
      rw [attributes] at found
      exact element.start.apart c (by rw [attributes]; exact found)
  obtain ⟨cs, front⟩ := element.exists_cons_source after
  have cut := cutHead_of_named element.start.named apart
    (front.symm.trans (element.toList_source after))
  have read := (readAngle_of_cutHead cut).trans (readTag_element element after)
  rw [front, scan]
  simp [Lexeme.next, read]

theorem scan_around (element : Element tags) {before : String} (plain : '<' ∉ before.toList)
    (after : String) :
    scan tags (before ++ element.source ++ after).toList =
      scan tags before.toList ++ .leaf (.tag element.tag) :: scan tags after.toList := by
  obtain ⟨cs, front⟩ := element.exists_cons_source after.toList
  rw [String.toList_append, String.toList_append, List.append_assoc, ← element.scan_append, front,
    scan_stop tags (.inr rfl) plain]

theorem parse_source (element : Element tags) : parse tags element.source = [.tag element.tag] := by
  have scanned : scan tags element.source.toList = [.leaf (.tag element.tag)] := by
    have whole := element.scan_append []
    rwa [List.append_nil, scan] at whole
  rw [parse_eq, outline, scanned]
  rfl

end Element

end Markup

/-- An element is one token where it stands, and nothing in front of it or behind it is a part of
that token. It evaluates to what it encloses, as it is written. -/
theorem lex_element {tags : TagSet} (element : Element tags) {before : String}
    (plain : '<' ∉ before.toList) (after : String) :
    (∃ first last, lex tags (before ++ element.source ++ after) =
        first ++ (.leaf (.tag element.tag),
          ⟨before.utf8ByteSize, (before ++ element.source).utf8ByteSize⟩) :: last ∧
      (∀ placed ∈ first, placed.2.stop ≤ before.utf8ByteSize) ∧
      ∀ placed ∈ last, (before ++ element.source).utf8ByteSize ≤ placed.2.start) ∧
    ∀ context : Context, context.site.tags = tags →
      context.evaluateText element.source = .ok ⟨String.ofList element.inner, ∅⟩ := by
  constructor
  · obtain ⟨first, last, whole, front, _⟩ :=
      exists_tokens_around (by simp) (element.scan_around plain after)
    have size : bytes first = before.utf8ByteSize := by
      rw [bytes, front, textOfLexemes, scan_text, String.ofList_toList]
    have stop : before.utf8ByteSize + element.source.utf8ByteSize =
        (before ++ element.source).utf8ByteSize := (String.utf8ByteSize_append).symm
    refine ⟨place 0 first, place (before ++ element.source).utf8ByteSize last, ?_, ?_, ?_⟩
    · rw [lex_eq_place, whole, place_append, Nat.zero_add, size, ← stop]
      rfl
    · intro placed member
      rw [← size, ← Nat.zero_add (bytes first)]
      exact (mem_place member).2
    · intro placed member
      exact (mem_place member).1
  · rintro context rfl
    rw [Context.evaluateText_eq, Context.evaluate, element.parse_source, evaluateNodes_single,
      evaluateNode]
    rfl

/-- A tag in mixed case with a slash in its attributes, around constructs, a comment that is not
closed and closing tags of longer and shorter names. -/
def nowiki : Element .standard where
  start :=
    { closing := false
      name := "NoWiki".toList
      attributes := " a=/ b".toList
      named := ⟨rfl, List.all_eq_true.mp (by decide +kernel)⟩
      apart := by simp
      line := by simp [OnOneLine] }
  inner := "[[c|".toList ++ ['{', '{'] ++ "d</nowikis></nowik></nowiki e><ref><!--</nowiki".toList
  ending := "</NOWIKI \t>".toList
  starts := ⟨rfl, by decide +kernel, by decide +kernel⟩
  encloses := by
    unfold WrittenTag.Slashed
    decide +kernel
  ends := ⟨"NOWIKI".toList, " \t".toList, rfl, by decide +kernel, by simp [isBlank]⟩
  first := cutClosing_eq_none.mp (by decide +kernel)

theorem lex_element_nowiki :
    let before := run '{' 2 ++ "ä|["
    let behind := "</nowiki>" ++ run '}' 2
    '<' ∉ before.toList ∧
      (∃ first last, lex .standard (before ++ nowiki.source ++ behind) =
          first ++ (.leaf (.tag nowiki.tag),
            ⟨before.utf8ByteSize, (before ++ nowiki.source).utf8ByteSize⟩) :: last ∧
        (∀ placed ∈ first, placed.2.stop ≤ before.utf8ByteSize) ∧
        ∀ placed ∈ last, (before ++ nowiki.source).utf8ByteSize ≤ placed.2.start) ∧
      ∀ context : Context, context.site.tags = .standard →
        context.evaluateText nowiki.source = .ok ⟨String.ofList nowiki.inner, ∅⟩ := by
  intro before behind
  have plain : '<' ∉ before.toList := by decide
  exact ⟨plain, lex_element nowiki plain behind⟩

end Wikitext
