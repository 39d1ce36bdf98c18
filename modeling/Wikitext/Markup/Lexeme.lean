import Wikitext.Markup.Token
import Wikitext.Text.Blank
import Wikitext.Text.Case

/-!
The pieces that markup falls into before anything is paired: runs of braces, link brackets and
leaves. `next_source` says that a step loses nothing, and it makes the scan of a whole text end.
-/
namespace Wikitext.Markup
open Wikitext.Text

/-- The names of the elements whose content is kept as it is written, in lower case. -/
structure TagSet where
  names : List String

def TagSet.ofNames (names : List String) : TagSet := ⟨names.map lowerAscii⟩

def TagSet.contains (tags : TagSet) (name : String) : Bool :=
  tags.names.contains (lowerAscii name)

def TagSet.standard : TagSet := .ofNames
  ["categorytree", "charinsert", "chem", "code", "gallery", "graph", "hiero", "imagemap",
    "indicator", "inputbox", "mapframe", "maplink", "math", "nowiki", "poem", "pre", "ref",
    "references", "score", "section", "source", "syntaxhighlight", "templatedata",
    "templatestyles", "timeline"]

def transclusionMarkers : List String := ["includeonly", "noinclude", "onlyinclude"]

/-- A leaf, or a link bracket that may find its partner or not. -/
inductive Atom where
  | openLink
  | closeLink
  | leaf (content : Leaf)
deriving DecidableEq

def Atom.source : Atom → String
  | .openLink => "[["
  | .closeLink => "]]"
  | .leaf content => content.source

inductive Lexeme where
  | openBraces (count : Nat)
  | closeBraces (count : Nat)
  | atom (content : Atom)
deriving DecidableEq

def Lexeme.source : Lexeme → String
  | .openBraces count => run '{' count
  | .closeBraces count => run '}' count
  | .atom content => content.source

def Lexeme.leaf (content : Leaf) : Lexeme := .atom (.leaf content)

def Lexeme.text (cs : List Char) : Lexeme := .leaf (.text (String.ofList cs))

def isPlain (c : Char) : Bool :=
  !(c == '{' || c == '}' || c == '[' || c == ']' || c == '|' || c == '=' || c == '<' ||
    c == '\n')

def cutComment : List Char → Option (List Char × List Char)
  | [] => none
  | '-' :: '-' :: '>' :: after => some ([], after)
  | c :: cs => (cutComment cs).map fun cut => (c :: cut.1, cut.2)

def readComment (cs : List Char) : Leaf × List Char :=
  match cutComment cs with
  | some (content, after) => (.comment ⟨String.ofList content, true⟩, after)
  | none => (.comment ⟨String.ofList cs, false⟩, [])

structure TagHead where
  closing : Bool
  name : List Char

def TagHead.chars (head : TagHead) : List Char :=
  '<' :: ((if head.closing then ['/'] else []) ++ head.name)

def TagHead.lowerName (head : TagHead) : String := lowerAscii (String.ofList head.name)

def cutHead (cs : List Char) : Option (TagHead × List Char) :=
  match cs with
  | [] => none
  | c :: rest =>
    if c = '/' then
      match rest with
      | [] => none
      | d :: _ =>
        if d.isAlpha then
          some (⟨true, rest.takeWhile Char.isAlphanum⟩, rest.dropWhile Char.isAlphanum)
        else none
    else if c.isAlpha then
      some (⟨false, cs.takeWhile Char.isAlphanum⟩, cs.dropWhile Char.isAlphanum)
    else none

def cutAttributes (cs : List Char) : Option (List Char × List Char) :=
  (cutFirst '>' cs).filter fun cut => !(cut.1.contains '<' || cut.1.contains '\n')

def closingAt (name : List Char) (cs : List Char) : Option (List Char × List Char) :=
  match cs with
  | '<' :: '/' :: rest =>
    let written := rest.take name.length
    let tail := rest.drop name.length
    if written.map Char.toLower = name then
      match tail.dropWhile isBlank with
      | '>' :: after => some ('<' :: '/' :: (written ++ tail.takeWhile isBlank ++ ['>']), after)
      | _ => none
    else none
  | _ => none

def cutClosing (name : List Char) : List Char → Option (List Char × List Char × List Char)
  | [] => none
  | c :: cs =>
    match closingAt name (c :: cs) with
    | some (tag, after) => some ([], tag, after)
    | none => (cutClosing name cs).map fun cut => (c :: cut.1, cut.2)

/--
The leaf a tag's front starts: an element of the set, a transclusion marker, or else the front
alone as text. An element needs its closing tag unless its attributes end in a slash.
-/
def readTag (tags : TagSet) (head : TagHead) (rest : List Char) : Leaf × List Char :=
  let plain := (Leaf.text (String.ofList head.chars), rest)
  match cutAttributes rest with
  | none => plain
  | some (attributes, after) =>
    let opening := String.ofList (head.chars ++ attributes ++ ['>'])
    if transclusionMarkers.contains head.lowerName then (.marker opening, after)
    else if head.closing || !tags.contains head.lowerName then plain
    else if (dropEndWhile isBlank attributes).getLast? = some '/' then
      (.tag ⟨head.lowerName, opening, none, ""⟩, after)
    else
      match cutClosing head.lowerName.toList after with
      | none => plain
      | some (inner, closing, after) =>
        (.tag ⟨head.lowerName, opening, some (String.ofList inner), String.ofList closing⟩, after)

def readAngle (tags : TagSet) (cs : List Char) : Leaf × List Char :=
  match cs with
  | '!' :: '-' :: '-' :: body => readComment body
  | _ =>
    match cutHead cs with
    | some (head, rest) => readTag tags head rest
    | none => (.text "<", cs)

def Lexeme.next (tags : TagSet) (c : Char) (cs : List Char) : Lexeme × List Char :=
  let count := (cs.takeWhile (· == c)).length + 1
  let after := cs.dropWhile (· == c)
  if c = '{' then (.openBraces count, after)
  else if c = '}' then (.closeBraces count, after)
  else if c = '=' then (.leaf (.equals count), after)
  else if c = '|' then (.leaf .pipe, cs)
  else if c = '\n' then (.leaf .newline, cs)
  else if c = '[' then
    match cs with
    | '[' :: rest => (.atom .openLink, rest)
    | _ => (.text ['['], cs)
  else if c = ']' then
    match cs with
    | ']' :: rest => (.atom .closeLink, rest)
    | _ => (.text [']'], cs)
  else if c = '<' then
    let read := readAngle tags cs
    (.leaf read.1, read.2)
  else (.text (c :: cs.takeWhile isPlain), cs.dropWhile isPlain)

theorem cutComment_eq {cs content after : List Char}
    (cut : cutComment cs = some (content, after)) :
    cs = content ++ '-' :: '-' :: '>' :: after := by
  fun_induction cutComment cs generalizing content with
  | case1 => simp at cut
  | case2 => simp_all
  | case3 c cs _ ih =>
    obtain ⟨⟨inner, tail⟩, found, same⟩ := Option.map_eq_some_iff.mp cut
    simp only [Prod.mk.injEq] at same
    have whole : cutComment cs = some (inner, after) := by rw [found, same.2]
    rw [ih whole, ← same.1]
    simp

theorem readComment_source (cs : List Char) :
    (readComment cs).1.source.toList ++ (readComment cs).2 = "<!--".toList ++ cs := by
  rw [readComment]
  split
  · rename_i content after found
    simp [Leaf.source, Comment.source, cutComment_eq found]
  · simp [Leaf.source, Comment.source]

theorem cutHead_source {cs rest : List Char} {head : TagHead}
    (cut : cutHead cs = some (head, rest)) : head.chars ++ rest = '<' :: cs := by
  rw [cutHead.eq_def] at cut
  split at cut
  · simp at cut
  · split at cut
    · split at cut
      · simp at cut
      · split at cut
        · simp only [Option.some.injEq, Prod.mk.injEq] at cut
          simp_all [← cut.1, ← cut.2, TagHead.chars]
        · simp at cut
    · split at cut
      · simp only [Option.some.injEq, Prod.mk.injEq] at cut
        simp [← cut.1, ← cut.2, TagHead.chars]
      · simp at cut

theorem cutAttributes_eq {cs attributes after : List Char}
    (cut : cutAttributes cs = some (attributes, after)) : cs = attributes ++ '>' :: after :=
  cutFirst_eq (Option.filter_eq_some_iff.mp cut).1

theorem closingAt_eq {name cs tag after : List Char}
    (cut : closingAt name cs = some (tag, after)) : cs = tag ++ after := by
  rw [closingAt.eq_def] at cut
  split at cut
  · rename_i rest
    simp only at cut
    split at cut
    · split at cut
      · rename_i found
        simp only [Option.some.injEq, Prod.mk.injEq] at cut
        rw [← cut.1, ← cut.2]
        simp [← found, List.takeWhile_append_dropWhile]
      · simp at cut
    · simp at cut
  · simp at cut

theorem cutClosing_eq {name cs inner closing after : List Char}
    (cut : cutClosing name cs = some (inner, closing, after)) :
    cs = inner ++ closing ++ after := by
  induction cs generalizing inner with
  | nil => simp [cutClosing] at cut
  | cons c cs ih =>
    rw [cutClosing] at cut
    split at cut
    · rename_i found
      simp only [Option.some.injEq, Prod.mk.injEq] at cut
      rw [closingAt_eq found, ← cut.1, ← cut.2.1, ← cut.2.2]
      simp
    · obtain ⟨⟨rest, tail⟩, found, same⟩ := Option.map_eq_some_iff.mp cut
      simp only [Prod.mk.injEq] at same
      have whole : cutClosing name cs = some (rest, closing, after) := by rw [found, same.2]
      rw [ih whole, ← same.1]
      simp

theorem readTag_source (tags : TagSet) (head : TagHead) (rest : List Char) :
    (readTag tags head rest).1.source.toList ++ (readTag tags head rest).2 =
      head.chars ++ rest := by
  rw [readTag]
  split
  · simp [Leaf.source]
  · rename_i attributes after found
    have whole := cutAttributes_eq found
    split
    · simp [Leaf.source, whole]
    · split
      · simp [Leaf.source]
      · split
        · simp [Leaf.source, Tag.source, Tag.innerText, whole]
        · split
          · simp [Leaf.source]
          · rename_i closed
            simp [Leaf.source, Tag.source, Tag.innerText, whole, cutClosing_eq closed]

theorem readAngle_source (tags : TagSet) (cs : List Char) :
    (readAngle tags cs).1.source.toList ++ (readAngle tags cs).2 = '<' :: cs := by
  rw [readAngle.eq_def]
  split
  · exact readComment_source _
  · split
    · rename_i found
      rw [readTag_source, cutHead_source found]
    · simp [Leaf.source]

theorem run_append (c : Char) (cs : List Char) :
    (run c ((cs.takeWhile (· == c)).length + 1)).toList ++ cs.dropWhile (· == c) = c :: cs := by
  have same : List.replicate (cs.takeWhile (· == c)).length c = cs.takeWhile (· == c) := by
    symm
    rw [List.eq_replicate_iff]
    refine ⟨rfl, fun x member => ?_⟩
    have := List.all_takeWhile (p := (· == c)) (l := cs)
    simpa using List.all_eq_true.mp this x member
  simp [run, List.replicate_succ, same, List.takeWhile_append_dropWhile]

theorem next_source (tags : TagSet) (c : Char) (cs : List Char) :
    (Lexeme.next tags c cs).1.source.toList ++ (Lexeme.next tags c cs).2 = c :: cs := by
  rw [Lexeme.next.eq_def]
  simp only
  split
  · subst c; exact run_append '{' cs
  split
  · subst c; exact run_append '}' cs
  split
  · subst c; exact run_append '=' cs
  split
  · subst c; simp [Lexeme.leaf, Lexeme.source, Atom.source, Leaf.source]
  split
  · subst c; simp [Lexeme.leaf, Lexeme.source, Atom.source, Leaf.source]
  split
  · subst c; split <;> simp [Lexeme.text, Lexeme.leaf, Lexeme.source, Atom.source, Leaf.source]
  split
  · subst c; split <;> simp [Lexeme.text, Lexeme.leaf, Lexeme.source, Atom.source, Leaf.source]
  split
  · subst c; exact readAngle_source tags cs
  · simp [Lexeme.text, Lexeme.leaf, Lexeme.source, Atom.source, Leaf.source,
      List.takeWhile_append_dropWhile]

theorem cutHead_suffix {cs rest : List Char} {head : TagHead}
    (cut : cutHead cs = some (head, rest)) : rest <:+ cs := by
  rw [cutHead.eq_def] at cut
  split at cut
  · simp at cut
  · split at cut
    · split at cut
      · simp at cut
      · split at cut
        · simp only [Option.some.injEq, Prod.mk.injEq] at cut
          rw [← cut.2]
          exact (List.dropWhile_suffix _).trans (List.suffix_cons _ _)
        · simp at cut
    · split at cut
      · simp only [Option.some.injEq, Prod.mk.injEq] at cut
        rw [← cut.2]
        exact List.dropWhile_suffix _
      · simp at cut

theorem readTag_suffix (tags : TagSet) (head : TagHead) (rest : List Char) :
    (readTag tags head rest).2 <:+ rest := by
  rw [readTag]
  split
  · exact List.suffix_rfl
  · rename_i attributes after found
    have shorter : after <:+ rest := by
      rw [cutAttributes_eq found]
      exact (List.suffix_cons _ _).trans (List.suffix_append _ _)
    split
    · exact shorter
    split
    · exact List.suffix_rfl
    split
    · exact shorter
    split
    · exact List.suffix_rfl
    · rename_i closed
      refine List.IsSuffix.trans ?_ shorter
      rw [cutClosing_eq closed]
      exact List.suffix_append _ _

theorem readAngle_suffix (tags : TagSet) (cs : List Char) : (readAngle tags cs).2 <:+ cs := by
  rw [readAngle.eq_def]
  split
  · rename_i body
    rw [readComment]
    split
    · rename_i content after found
      rw [cutComment_eq found]
      exact ⟨'!' :: '-' :: '-' :: (content ++ ['-', '-', '>']), by simp⟩
    · exact List.nil_suffix
  · split
    · rename_i found
      exact (readTag_suffix _ _ _).trans (cutHead_suffix found)
    · exact List.suffix_rfl

theorem next_suffix (tags : TagSet) (c : Char) (cs : List Char) :
    (Lexeme.next tags c cs).2 <:+ cs := by
  rw [Lexeme.next.eq_def]
  simp only
  split
  · exact List.dropWhile_suffix _
  split
  · exact List.dropWhile_suffix _
  split
  · exact List.dropWhile_suffix _
  split
  · exact List.suffix_rfl
  split
  · exact List.suffix_rfl
  split
  · split
    · exact List.suffix_cons _ _
    · exact List.suffix_rfl
  split
  · split
    · exact List.suffix_cons _ _
    · exact List.suffix_rfl
  split
  · exact readAngle_suffix tags cs
  · exact List.dropWhile_suffix _

def scan (tags : TagSet) : List Char → List Lexeme
  | [] => []
  | c :: cs =>
    (Lexeme.next tags c cs).1 :: scan tags (Lexeme.next tags c cs).2
termination_by cs => cs.length
decreasing_by exact Nat.lt_succ_of_le (next_suffix tags c cs).length_le

end Wikitext.Markup
